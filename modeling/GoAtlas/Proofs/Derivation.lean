/-
  GoAtlas.Proofs.Derivation — what gives a folder its module path.

  Import comments and manifests declare module paths, each at its own place (`Source`), and the places have
  an order: the folder's own sources by name, those one directory down by directory and name, then the
  manifests. A directory that cannot be listed shows no sources, and a source is looked up under the name
  that its listing shows, so only one whose name is a text can be a place. What is found is the path of the
  first place that declares one, whatever stands at the places before it.
  - `Declares` / `IsFirst`: which place declares which path, and that none before it declares any.
  - `ownComment?_eq_some` / `belowComment?_eq_some`: a search through a listing ends at the least name that
    declares a path, and passes over those that declare nothing.
  - `modulePath_iff`: so the search through all places finds the path of the first one.
  - `Mute` / `declares_removeAll`: taking away files that declare nothing changes no declaration.
  - `modulePath_first`: hence the module path is the first declared one, and stays so without such files.
  - `modulePath_straySource`: a folder's only source declares a path and its name is no text.
-/
import GoAtlas.Proofs.Failures
import GoAtlas.Proofs.Versions

namespace GoAtlas

open GoAtlas.Module

namespace Module

/-! ## Places that declare a module path -/

/-- The tools that had manifests before there were module files. -/
inductive OldTool where
  | godep
  | govendor
  deriving DecidableEq

/-- Where the manifest of a tool lies in a folder. -/
def OldTool.manifest : OldTool → Segments
  | .godep => ["Godeps", "Godeps.json"]
  | .govendor => ["vendor", "vendor.json"]

/-- The names of the field that gives the path. -/
def OldTool.fields : OldTool → List String
  | .godep => ["ImportPath", "importPath"]
  | .govendor => ["rootPath", "RootPath"]

/-- A record with one field, known by these names, that has this text: among the members of an object one
    bears such a name, or an array holds nothing else. -/
inductive States (names : List String) : Json → String → Prop
  | member {before after : List (String × Json)} {name path : String} : name ∈ names →
      (∀ m ∈ before ++ after, m.1 ∉ names) → States names (.obj (before ++ (name, .str path) :: after)) path
  | item {path : String} : States names (.arr [.str path]) path

/-- A manifest with these contents gives a path. A malformed one gives none, and an empty path is none. -/
def OldTool.Gives (tool : OldTool) (b : Text.Bytes) (path : String) : Prop :=
  path ≠ "" ∧ ∃ j, Json.ofBytes? b = some j ∧ States tool.fields j path

theorem str?_eq_some {j : Json} {s : String} : j.str? = some s ↔ j = .str s := by
  cases j <;> simp [Json.str?]

/-- The members that bear a name are one, of this value. -/
theorem named_eq_singleton {names : List String} {members : List (String × Json)} {j : Json} :
    Json.named names members = [j] ↔ ∃ before name after, members = before ++ (name, j) :: after ∧ name ∈ names ∧
      ∀ m ∈ before ++ after, m.1 ∉ names := by
  rw [Json.named, List.map_eq_singleton_iff]
  constructor
  · intro h
    obtain ⟨m, hfilter, rfl⟩ := h
    obtain ⟨before, after, rfl, hbefore, hm, hafter⟩ := List.filter_eq_cons_iff.mp hfilter
    refine ⟨before, m.1, after, rfl, List.contains_iff_mem.mp hm, fun x hx hin => ?_⟩
    rcases List.mem_append.mp hx with hx | hx
    · exact hbefore x hx (List.contains_iff_mem.mpr hin)
    · exact List.filter_eq_nil_iff.mp hafter x hx (List.contains_iff_mem.mpr hin)
  · intro h
    obtain ⟨before, name, after, rfl, hin, hothers⟩ := h
    refine ⟨(name, j), List.filter_eq_cons_iff.mpr ⟨before, after, rfl, fun x hx hc => ?_,
      List.contains_iff_mem.mpr hin, List.filter_eq_nil_iff.mpr fun x hx hc => ?_⟩, rfl⟩
    · exact hothers x (List.mem_append_left _ hx) (List.contains_iff_mem.mp hc)
    · exact hothers x (List.mem_append_right _ hx) (List.contains_iff_mem.mp hc)

/-- A field that is not left out is read as what the record states. -/
theorem manifestField?_eq_some {names : List String} {j : Json} {path : String} (hpath : path ≠ "") :
    manifestField? names j = some path ↔ States names j path := by
  constructor
  · intro h
    unfold manifestField? at h
    cases j with
    | null | bool | int | decimal | str => cases h
    | obj members =>
      simp only [Json.record?, List.mapM_cons, List.mapM_nil, Json.slotOf] at h
      split at h
      · exact absurd (Option.some.inj h).symm hpath
      · rename_i v hv
        have hstr : v = .str path := str?_eq_some.mp (by simpa [Json.Slot.defaulted] using h)
        obtain ⟨before, name, after, rfl, hin, hothers⟩ := named_eq_singleton.mp (hstr ▸ hv)
        exact .member hin hothers
      · cases h
    | arr items =>
      rcases items with _ | ⟨v, _ | ⟨_, _⟩⟩
      · exact absurd (Option.some.inj h).symm hpath
      · have hstr : v = .str path :=
          str?_eq_some.mp (by simpa [Json.record?, Json.slotsOf, Json.Slot.defaulted] using h)
        rw [hstr]
        exact .item
      · simp [Json.record?, Json.slotsOf] at h
  · intro h
    cases h with
    | @member before after name _ hin hothers =>
      have hone : Json.named names (before ++ (name, .str path) :: after) = [.str path] :=
        named_eq_singleton.mpr ⟨_, _, _, rfl, hin, hothers⟩
      simp [manifestField?, Json.record?, Json.slotOf, hone, Json.Slot.defaulted, Json.str?]
    | item => rfl

theorem OldTool.gives_iff {tool : OldTool} {b : Text.Bytes} {path : String} :
    tool.Gives b path ↔ path ≠ "" ∧ (Json.ofBytes? b).bind (manifestField? tool.fields) = some path := by
  rw [OldTool.Gives, and_congr_right_iff]
  intro hpath
  simp only [Option.bind_eq_some_iff, manifestField?_eq_some hpath]

theorem OldTool.Gives.unique {tool : OldTool} {b : Text.Bytes} {p q : String} (hp : tool.Gives b p)
    (hq : tool.Gives b q) : p = q :=
  Option.some.inj ((OldTool.gives_iff.mp hp).2.symm.trans (OldTool.gives_iff.mp hq).2)

/-- A place that can declare the module path of a folder. -/
inductive Source where
  | own (file : String)
  | below (dir file : String)
  | manifest (tool : OldTool)
  deriving DecidableEq

def Source.rank : Source → Nat
  | .own _ => 0
  | .below _ _ => 1
  | .manifest .godep => 2
  | .manifest .govendor => 3

/-- The order of the places; those of one kind are ordered by their names. -/
def Source.Before : Source → Source → Prop
  | .own m, .own n => m < n
  | .below d m, .below e n => d < e ∨ d = e ∧ m < n
  | s, s' => s.rank < s'.rank

theorem Source.own_before_manifest (file : String) (tool : OldTool) : (own file).Before (.manifest tool) := by
  cases tool <;> simp [Before, rank]

theorem Source.below_before_manifest (dir file : String) (tool : OldTool) :
    (below dir file).Before (.manifest tool) := by
  cases tool <;> simp [Before, rank]

theorem Source.Before.asymm {s s' : Source} (h : s.Before s') : ¬s'.Before s := by
  cases s <;> cases s' <;> simp only [Before] at h ⊢
  case own.own => exact String.lt_asymm h
  case below.below d m e n =>
    intro hback
    rcases hback with h' | ⟨rfl, h'⟩
    · rcases h with h | ⟨rfl, _⟩
      · exact String.lt_asymm h h'
      · exact String.lt_irrefl _ h'
    · rcases h with h | ⟨_, h⟩
      · exact String.lt_irrefl _ h
      · exact String.lt_asymm h h'
  all_goals exact Nat.lt_asymm h

end Module

namespace Tree

variable {t t' : Tree}

/-- The directory is there and can be listed. -/
def Listable (t : Tree) (dir : Segments) : Prop := dir ∈ t.dirs ∧ dir ∉ t.unreadable

/-- A source of a directory that can be listed has an import comment with this path. Its name is a text. -/
def Comments (t : Tree) (dir : Segments) (file path : String) : Prop :=
  t.Listable dir ∧ ".go".toList <:+ file.toList ∧
    ∃ b, t.contents? (dir ++ [Octets.ofText file]) = some b ∧ importComment? (Text.lossy b) = some path

theorem mem_listed {dir : Path} {e : Entry} :
    e ∈ t.listed dir ↔ t.Listable dir.segments ∧ e ∈ t.entries dir.segments := by
  unfold listed Listable
  cases h : t.list dir with
  | error f =>
    simp only [List.not_mem_nil, false_iff, not_and]
    intro hd
    rw [list_eq_ok.mpr ⟨hd.2, hd.1, rfl⟩] at h
    cases h
  | ok es =>
    obtain ⟨hu, hd, rfl⟩ := list_eq_ok.mp h
    simp [hu, hd]

/-- Reading a file gives its contents. -/
theorem read_eq (t : Tree) (p : Path) : FileSystem.read t p =
    (t.contents? p.segments).elim (.error (.fileNotFound p)) Except.ok := by
  change t.read p = _
  rw [read, file?, contents?]
  cases t.files.lookup p.segments <;> rfl

theorem listed_pairwise (t : Tree) (dir : Path) : (t.listed dir).Pairwise fun a b => a.name ≤ b.name := by
  rcases t.listed_cases dir with h | ⟨_, h⟩
  · rw [h]
    exact .nil
  · rw [h]
    exact sortEntries_pairwise _

end Tree

namespace Module

variable {t t' : Tree} {folder dir : Path} {path : String}

/-- The place declares the path for the folder. -/
inductive Declares (t : Tree) (folder : Segments) : Source → String → Prop
  | own {file path : String} : t.Comments folder file path → Declares t folder (.own file) path
  | below {dir file path : String} : t.Listable folder → Path.isName (Octets.ofText dir) = true →
      t.Comments (folder ++ [Octets.ofText dir]) file path → Declares t folder (.below dir file) (parentImportPath path)
  | manifest {tool : OldTool} {b : Text.Bytes} {path : String} : t.contents? (folder ++ tool.manifest) = some b →
      tool.Gives b path → Declares t folder (.manifest tool) path

/-- The place declares the path, and all others that declare one come after it. -/
structure IsFirst (t : Tree) (folder : Segments) (src : Source) (path : String) : Prop where
  declares : Declares t folder src path
  least : ∀ src' path', Declares t folder src' path' → src' = src ∨ src.Before src'

theorem comments_unique {d : Segments} {file p q : String} (hp : t.Comments d file p) (hq : t.Comments d file q) :
    p = q := by
  obtain ⟨_, _, b, hb, hp⟩ := hp
  obtain ⟨_, _, c, hc, hq⟩ := hq
  cases hb.symm.trans hc
  exact Option.some.inj (hp.symm.trans hq)

/-- A place declares one path at most. -/
theorem Declares.unique {d : Segments} {src : Source} {p q : String} (hp : Declares t d src p)
    (hq : Declares t d src q) : p = q := by
  cases hp with
  | own hp =>
    cases hq with
    | own hq => exact comments_unique hp hq
  | below _ _ hp =>
    cases hq with
    | below _ _ hq => rw [comments_unique hp hq]
  | manifest hb hp =>
    cases hq with
    | manifest hc hq =>
      cases hb.symm.trans hc
      exact hp.unique hq

theorem IsFirst.unique {d : Segments} {src src' : Source} {p q : String} (hp : IsFirst t d src p)
    (hq : IsFirst t d src' q) : p = q := by
  have hsame : src' = src := by
    rcases hp.least src' q hq.declares with h | h
    · exact h
    · rcases hq.least src p hp.declares with h' | h'
      · exact h'.symm
      · exact absurd h' h.asymm
  rw [hsame] at hq
  exact hp.declares.unique hq.declares

/-! ## Searching a listing -/

/-- A search through a listing ends at the least name that gives something. -/
theorem findSome?_listed {β : Type} {p : Entry → Bool} (g : String → Option β) {b : β}
    (h : ((t.listed dir).filter p).findSome? (fun e => g e.name) = some b) :
    ∃ e ∈ (t.listed dir).filter p, g e.name = some b ∧
      ∀ c ∈ (t.listed dir).filter p, ∀ d, g c.name = some d → e.name ≤ c.name := by
  obtain ⟨front, e, rest, hl, he, hfront⟩ := List.findSome?_eq_some_iff.mp h
  have hsorted := (t.listed_pairwise dir).filter p
  rw [hl] at hsorted ⊢
  refine ⟨e, by simp, he, fun c hc d hd => ?_⟩
  rcases List.mem_append.mp hc with hc | hc
  · -- what stands before the find gives nothing
    rw [hfront c hc] at hd
    cases hd
  · rcases List.mem_cons.mp hc with rfl | hc
    · exact String.le_refl _
    · exact (List.pairwise_cons.mp (List.pairwise_append.mp hsorted).2.1).1 c hc

theorem isGoFile_iff {e : Entry} : isGoFile e = true ↔ e.isFile = true ∧ ".go".toList <:+ e.name.toList := by
  rw [isGoFile, Bool.and_eq_true, and_congr_right_iff]
  intro _
  constructor
  · intro h
    by_contra hno
    rw [Text.before?_eq_none hno] at h
    cases h
  · intro h
    obtain ⟨front, h⟩ := h
    rw [← h, Text.before?_append]
    rfl

theorem isName_of_go {name : String} (h : ".go".toList <:+ name.toList) : Path.isName (Octets.ofText name) = true := by
  have hlen := h.length_le
  have hne : ∀ s : String, s.toList.length < 3 → Octets.ofText name ≠ Octets.ofText s := by
    rintro s hs e
    rw [Octets.ofText_inj.mp e] at hlen
    exact absurd hlen (Nat.not_le.mpr hs)
  simp only [Path.isName, Bool.and_eq_true, bne_iff_ne, ne_eq]
  exact ⟨⟨hne "/" (by decide), hne "." (by decide)⟩, hne ".." (by decide)⟩

theorem fileComment?_eq_some (ht : t.Closed) {e : Entry} (he : e ∈ t.listed dir) :
    fileComment? t (dir.join e.name) = some path ↔ ∃ b, t.contents? (dir.segments ++ [Octets.ofText e.name]) = some b ∧
      importComment? (Text.lossy b) = some path := by
  rw [fileComment?, Tree.read_eq, dir.segments_join_step (ht.isStep_entry he)]
  cases t.contents? (dir.segments ++ [Octets.ofText e.name]) <;> simp

/-- A source has a comment exactly if the search through its directory can end at it. A file is looked up under the
    text that it is shown as, so what is found is always a source whose name is this text. -/
theorem comments_iff (ht : t.Closed) {file : String} : t.Comments dir.segments file path ↔
    ∃ e ∈ (t.listed dir).filter isGoFile, e.name = file ∧ fileComment? t (dir.join e.name) = some path := by
  constructor
  · intro h
    obtain ⟨hdir, hgo, hb⟩ := h
    have hsome : (t.contents? (dir.segments ++ [Octets.ofText file])).isSome = true := by
      obtain ⟨b, hb, _⟩ := hb
      rw [hb]
      rfl
    have he : (⟨file, false, true⟩ : Entry) ∈ t.listed dir :=
      Tree.mem_listed.mpr ⟨hdir, Tree.mem_entries.mpr
        ⟨_, isName_of_go hgo, Or.inr ⟨by rw [Octets.shown_ofText], hsome⟩⟩⟩
    exact ⟨_, List.mem_filter.mpr ⟨he, isGoFile_iff.mpr ⟨rfl, hgo⟩⟩, rfl, (fileComment?_eq_some ht he).mpr hb⟩
  · intro h
    obtain ⟨e, he, rfl, hc⟩ := h
    obtain ⟨he, hgo⟩ := List.mem_filter.mp he
    exact ⟨(Tree.mem_listed.mp he).1, (isGoFile_iff.mp hgo).2, (fileComment?_eq_some ht he).mp hc⟩

theorem ownComment?_eq_some (ht : t.Closed) (h : ownComment? t dir (t.listed dir) = some path) :
    ∃ file, t.Comments dir.segments file path ∧ ∀ m q, t.Comments dir.segments m q → file ≤ m := by
  obtain ⟨e, he, hpath, hleast⟩ := findSome?_listed (fun name => fileComment? t (dir.join name)) h
  refine ⟨e.name, (comments_iff ht).mpr ⟨e, he, rfl, hpath⟩, fun m q hm => ?_⟩
  obtain ⟨c, hc, rfl, hq⟩ := (comments_iff ht).mp hm
  exact hleast c hc q hq

theorem ownComment?_eq_none (ht : t.Closed) : ownComment? t dir (t.listed dir) = none ↔
    ∀ file path, ¬t.Comments dir.segments file path := by
  rw [ownComment?, List.findSome?_eq_none_iff]
  constructor
  · intro h file path hc
    obtain ⟨e, he, rfl, hpath⟩ := (comments_iff ht).mp hc
    rw [h e he] at hpath
    cases hpath
  · intro h e he
    cases hpath : fileComment? t (dir.join e.name) with
    | none => rfl
    | some path => exact absurd ((comments_iff ht).mpr ⟨e, he, rfl, hpath⟩) (h e.name path)

/-- The first comment in the directories that the listing of the folder shows. -/
def belowComment? (t : Tree) (folder : Path) : Option String :=
  ((t.listed folder).filter (·.isDir)).findSome? fun e =>
    ownComment? t (folder.join e.name) (t.listed (folder.join e.name))

theorem mem_listed_isDir (ht : t.Closed) {e : Entry} (h : e ∈ (t.listed folder).filter (·.isDir)) :
    t.Listable folder.segments ∧ Path.isName (Octets.ofText e.name) = true ∧
      (folder.join e.name).segments = folder.segments ++ [Octets.ofText e.name] := by
  have he := (List.mem_filter.mp h).1
  have hmem := Tree.mem_listed.mp he
  obtain ⟨n, hname, hn⟩ := Tree.mem_entries.mp hmem.2
  have heq : e.name = n.shown := by rcases hn with ⟨rfl, -⟩ | ⟨rfl, -⟩ <;> rfl
  exact ⟨hmem.1, by rw [heq, Path.isName_shown, hname], folder.segments_join_step (ht.isStep_entry he)⟩

theorem exists_entry_below {d file : String} (hf : t.Listable folder.segments)
    (hd : Path.isName (Octets.ofText d) = true) (hc : t.Comments (folder.segments ++ [Octets.ofText d]) file path) :
    ∃ e ∈ (t.listed folder).filter (·.isDir), e.name = d :=
  ⟨⟨d, true, false⟩, List.mem_filter.mpr
    ⟨Tree.mem_listed.mpr ⟨hf, Tree.mem_entries.mpr
      ⟨_, hd, Or.inl ⟨by rw [Octets.shown_ofText], hc.1.1⟩⟩⟩, rfl⟩, rfl⟩

theorem belowComment?_eq_some (ht : t.Closed) (h : belowComment? t folder = some path) :
    ∃ d file, Declares t folder.segments (.below d file) (parentImportPath path) ∧
      ∀ d' m q, Declares t folder.segments (.below d' m) q → d < d' ∨ d = d' ∧ file ≤ m := by
  obtain ⟨e, he, hpath, hleast⟩ :=
    findSome?_listed (fun name => ownComment? t (folder.join name) (t.listed (folder.join name))) h
  obtain ⟨hf, hname, hseg⟩ := mem_listed_isDir ht he
  obtain ⟨file, hfile, hfirst⟩ := ownComment?_eq_some ht hpath
  rw [hseg] at hfile hfirst
  refine ⟨e.name, file, .below hf hname hfile, fun d' m q hq => ?_⟩
  cases hq with
  | below _ hd' hm =>
    by_cases hd : e.name = d'
    · rw [← hd] at hm
      exact Or.inr ⟨hd, hfirst m _ hm⟩
    · -- the search does not pass over a directory whose sources declare a path
      obtain ⟨c, hc, rfl⟩ := exists_entry_below hf hd' hm
      rw [← (mem_listed_isDir ht hc).2.2] at hm
      cases hown : ownComment? t (folder.join c.name) (t.listed (folder.join c.name)) with
      | none => exact absurd hm ((ownComment?_eq_none ht).mp hown m _)
      | some q => exact Or.inl (Std.lt_of_le_of_ne (hleast c hc q hown) hd)

theorem belowComment?_eq_none (ht : t.Closed) (h : belowComment? t folder = none) (d file path : String) :
    ¬Declares t folder.segments (.below d file) path := by
  intro hd
  cases hd with
  | below hf hd hc =>
    obtain ⟨e, he, rfl⟩ := exists_entry_below hf hd hc
    rw [← (mem_listed_isDir ht he).2.2] at hc
    exact (ownComment?_eq_none ht).mp (List.findSome?_eq_none_iff.mp h e he) file _ hc

/-! ## Searching all places -/

theorem manifestPath?_eq_some (tool : OldTool) :
    manifestPath? t (folder.descend tool.manifest) tool.fields = some path ↔
      Declares t folder.segments (.manifest tool) path := by
  have hsegments : (folder.descend tool.manifest).segments = folder.segments ++ tool.manifest :=
    Path.segments_descend (by cases tool <;> decide) folder
  have hread : manifestPath? t (folder.descend tool.manifest) tool.fields = some path ↔
      ∃ b, t.contents? (folder.segments ++ tool.manifest) = some b ∧ tool.Gives b path := by
    rw [manifestPath?, Tree.read_eq, hsegments]
    cases t.contents? (folder.segments ++ tool.manifest) with
    | none => simp
    | some b =>
      simp only [Option.elim_some, Option.some.injEq, exists_eq_left', OldTool.gives_iff]
      cases (Json.ofBytes? b).bind (manifestField? tool.fields) with
      | none => simp
      | some q => by_cases hq : q = "" <;> grind
  rw [hread]
  constructor
  · intro h
    obtain ⟨b, hb, hpath⟩ := h
    exact .manifest hb hpath
  · intro h
    cases h with
    | manifest hb hpath => exact ⟨_, hb, hpath⟩

theorem godepsPath?_eq_some :
    godepsPath? t folder = some path ↔ Declares t folder.segments (.manifest .godep) path :=
  manifestPath?_eq_some .godep

theorem vendorPath?_eq_some :
    vendorPath? t folder = some path ↔ Declares t folder.segments (.manifest .govendor) path :=
  manifestPath?_eq_some .govendor

/-- The places in the order in which they are searched. -/
theorem modulePath_eq_getD (t : Tree) (folder : Path) : (modulePath folder t).1 =
    ((ownComment? t folder (t.listed folder)).or (((belowComment? t folder).map parentImportPath).or
      ((godepsPath? t folder).or (vendorPath? t folder)))).getD (checkoutPath folder.shown) := by
  have h := congrArg Prod.fst (modulePath_eq folder (⟨t, ⟨[], []⟩⟩ : Workbench Tree))
  rw [modulePath_reads (Workbench.reads _), declaredPath?_eq] at h
  simp only [ownComment?_reads (Workbench.reads _), godepsPath?, vendorPath?, manifestPath?_reads (Workbench.reads _),
    List.findSome?_map] at h
  exact h

theorem isFirst_own {d : Segments} {file : String} (h : t.Comments d file path)
    (hleast : ∀ m q, t.Comments d m q → file ≤ m) : IsFirst t d (.own file) path := by
  refine ⟨.own h, fun src' path' h' => ?_⟩
  cases h' with
  | @own m _ h' =>
    rcases eq_or_ne file m with rfl | hne
    · exact Or.inl rfl
    · exact Or.inr (Std.lt_of_le_of_ne (hleast m _ h') hne)
  | below => exact Or.inr Nat.zero_lt_one
  | manifest => exact Or.inr (Source.own_before_manifest file _)

theorem isFirst_below {d : Segments} {dir file : String} (hown : ∀ m q, ¬t.Comments d m q)
    (h : Declares t d (.below dir file) path)
    (hleast : ∀ dir' m q, Declares t d (.below dir' m) q → dir < dir' ∨ dir = dir' ∧ file ≤ m) :
    IsFirst t d (.below dir file) path := by
  refine ⟨h, fun src' path' h' => ?_⟩
  cases src' with
  | own m =>
    cases h' with
    | own h' => exact absurd h' (hown m _)
  | below dir' m =>
    rcases hleast dir' m path' h' with hlt | ⟨rfl, hle⟩
    · exact Or.inr (Or.inl hlt)
    · rcases eq_or_ne file m with rfl | hne
      · exact Or.inl rfl
      · exact Or.inr (Or.inr ⟨rfl, Std.lt_of_le_of_ne hle hne⟩)
  | manifest tool => exact Or.inr (Source.below_before_manifest dir file tool)

/-- Where no comment declares a path, only manifests do. -/
theorem Declares.eq_manifest {d : Segments} {src : Source} (h : Declares t d src path)
    (hown : ∀ m q, ¬t.Comments d m q) (hbelow : ∀ dir m q, ¬Declares t d (.below dir m) q) :
    ∃ tool, src = .manifest tool := by
  cases src with
  | own m =>
    cases h with
    | own h => exact absurd h (hown m path)
  | below dir m => exact absurd h (hbelow dir m path)
  | manifest tool => exact ⟨tool, rfl⟩

theorem isFirst_manifest (hown : ∀ m q, ¬t.Comments folder.segments m q)
    (hbelow : ∀ dir m q, ¬Declares t folder.segments (.below dir m) q)
    (h : (godepsPath? t folder).or (vendorPath? t folder) = some path) :
    ∃ tool, IsFirst t folder.segments (.manifest tool) path := by
  rcases Option.or_eq_some_iff.mp h with h | ⟨hno, h⟩
  · refine ⟨.godep, godepsPath?_eq_some.mp h, fun src' path' h' => ?_⟩
    obtain ⟨tool, rfl⟩ := h'.eq_manifest hown hbelow
    cases tool with
    | godep => exact Or.inl rfl
    | govendor => exact Or.inr (Nat.lt_succ_self 2)
  · refine ⟨.govendor, vendorPath?_eq_some.mp h, fun src' path' h' => ?_⟩
    obtain ⟨tool, rfl⟩ := h'.eq_manifest hown hbelow
    cases tool with
    | godep =>
      rw [godepsPath?_eq_some.mpr h'] at hno
      cases hno
    | govendor => exact Or.inl rfl

theorem not_declares_manifest (h : (godepsPath? t folder).or (vendorPath? t folder) = none) (tool : OldTool)
    (path : String) : ¬Declares t folder.segments (.manifest tool) path := by
  intro hd
  obtain ⟨hgodeps, hvendor⟩ := Option.or_eq_none_iff.mp h
  cases tool with
  | godep =>
    rw [godepsPath?_eq_some.mpr hd] at hgodeps
    cases hgodeps
  | govendor =>
    rw [vendorPath?_eq_some.mpr hd] at hvendor
    cases hvendor

/-- The search ends at the first place that declares a path. -/
theorem modulePath_cases (ht : t.Closed) (folder : Path) :
    (∃ src, IsFirst t folder.segments src (modulePath folder t).1) ∨
      (∀ src path, ¬Declares t folder.segments src path) ∧ (modulePath folder t).1 = checkoutPath folder.shown := by
  rw [modulePath_eq_getD]
  cases hown : ownComment? t folder (t.listed folder) with
  | some path =>
    obtain ⟨file, hfile, hleast⟩ := ownComment?_eq_some ht hown
    exact Or.inl ⟨.own file, isFirst_own hfile hleast⟩
  | none =>
    have hnoOwn := (ownComment?_eq_none ht).mp hown
    cases hbelow : belowComment? t folder with
    | some path =>
      obtain ⟨d, file, hfile, hleast⟩ := belowComment?_eq_some ht hbelow
      exact Or.inl ⟨.below d file, isFirst_below hnoOwn hfile hleast⟩
    | none =>
      have hnoBelow := belowComment?_eq_none ht hbelow
      cases hmanifest : (godepsPath? t folder).or (vendorPath? t folder) with
      | some path =>
        obtain ⟨tool, hfirst⟩ := isFirst_manifest hnoOwn hnoBelow hmanifest
        exact Or.inl ⟨.manifest tool, hfirst⟩
      | none =>
        refine Or.inr ⟨fun src path h => ?_, rfl⟩
        obtain ⟨tool, rfl⟩ := h.eq_manifest hnoOwn hnoBelow
        exact not_declares_manifest hmanifest tool path h

/-- The module path is the one that the first place declares, or else that of the checkout. -/
theorem modulePath_iff (ht : t.Closed) (folder : Path) (name : String) : (modulePath folder t).1 = name ↔
    (∃ src, IsFirst t folder.segments src name) ∨
      (∀ src path, ¬Declares t folder.segments src path) ∧ name = checkoutPath folder.shown := by
  have hcases := modulePath_cases ht folder
  constructor
  · rintro rfl
    exact hcases
  · intro h
    rcases hcases with ⟨src, hfirst⟩ | ⟨hnone, hpath⟩
    · rcases h with ⟨src', hfirst'⟩ | ⟨hnone, _⟩
      · exact hfirst.unique hfirst'
      · exact absurd hfirst.declares (hnone _ _)
    · rcases h with ⟨src', hfirst'⟩ | ⟨_, rfl⟩
      · exact absurd hfirst'.declares (hnone _ _)
      · exact hpath

/-! ## Files that declare nothing -/

/-- A source with no import comment that can be read, or a manifest that is malformed or gives no path. -/
inductive Mute : Segments → Text.Bytes → Prop
  | source {dir : Segments} {file : Octets} {b : Text.Bytes} : Octets.ofText ".go" <:+ file →
      importComment? (Text.lossy b) = none → Mute (dir ++ [file]) b
  | manifest {folder : Segments} {tool : OldTool} {b : Text.Bytes} : (∀ path, ¬tool.Gives b path) →
      Mute (folder ++ tool.manifest) b

/-- The manifests differ in their names, and none is named like a source. -/
theorem OldTool.getLast?_manifest (tool : OldTool) (d : Segments) : ∃ name : Octets,
    (d ++ tool.manifest).getLast? = some name ∧ ¬Octets.ofText ".go" <:+ name ∧
      ∀ tool' : OldTool, ∀ d', (d' ++ tool'.manifest).getLast? = some name → tool' = tool := by
  cases tool with
  | godep =>
    refine ⟨"Godeps.json", by simp [manifest], by decide, fun tool' d' h => ?_⟩
    cases tool' with
    | godep => rfl
    | govendor =>
      have hname : Octets.ofText "vendor.json" = Octets.ofText "Godeps.json" := by simpa [manifest] using h
      exact absurd hname (by decide)
  | govendor =>
    refine ⟨"vendor.json", by simp [manifest], by decide, fun tool' d' h => ?_⟩
    cases tool' with
    | godep =>
      have hname : Octets.ofText "Godeps.json" = Octets.ofText "vendor.json" := by simpa [manifest] using h
      exact absurd hname (by decide)
    | govendor => rfl

theorem Mute.importComment?_eq_none {dir : Segments} {file : Octets} {b : Text.Bytes} (h : Mute (dir ++ [file]) b)
    (hgo : Octets.ofText ".go" <:+ file) : importComment? (Text.lossy b) = none := by
  generalize hq : dir ++ [file] = q at h
  cases h with
  | source _ hnone => exact hnone
  | @manifest folder tool _ _ =>
    obtain ⟨name, hlast, hno, _⟩ := tool.getLast?_manifest folder
    rw [← hq, List.getLast?_concat] at hlast
    exact absurd (Option.some.inj hlast ▸ hgo) hno

theorem Mute.not_gives {folder : Segments} {tool : OldTool} {b : Text.Bytes} (h : Mute (folder ++ tool.manifest) b) :
    ∀ path, ¬tool.Gives b path := by
  obtain ⟨name, hlast, hno, hsame⟩ := tool.getLast?_manifest folder
  generalize hq : folder ++ tool.manifest = q at h hlast
  cases h with
  | source hgo _ =>
    rw [List.getLast?_concat] at hlast
    exact absurd (Option.some.inj hlast ▸ hgo) hno
  | @manifest folder' tool' _ hnone =>
    rw [← hsame tool' folder' hlast]
    exact hnone

/-- Declarations stay while the directories and the files that are not mute stay. -/
theorem Declares.of_contents {d : Segments} {src : Source} (h : Declares t d src path) (hdirs : t'.dirs = t.dirs)
    (hlocked : t'.unreadable = t.unreadable)
    (hkept : ∀ q b, t.contents? q = some b → ¬Mute q b → t'.contents? q = some b) : Declares t' d src path := by
  have hlistable : ∀ {d}, t.Listable d → t'.Listable d := by
    intro d h
    rwa [Tree.Listable, hdirs, hlocked]
  have hcomments : ∀ {d file p}, t.Comments d file p → t'.Comments d file p := by
    intro d file p hc
    obtain ⟨hd, hgo, b, hb, hp⟩ := hc
    refine ⟨hlistable hd, hgo, b, hkept _ _ hb fun hmute => ?_, hp⟩
    rw [hmute.importComment?_eq_none (Octets.suffix_ofText hgo)] at hp
    cases hp
  cases h with
  | own h => exact .own (hcomments h)
  | below hd hname h => exact .below (hlistable hd) hname (hcomments h)
  | manifest hb hp => exact .manifest (hkept _ _ hb fun hmute => hmute.not_gives _ hp) hp

theorem declares_remove {p : Path} (hp : ∀ b, t.contents? p.segments = some b → Mute p.segments b) {d : Segments}
    {src : Source} : Declares (FileSystem.remove p t).2 d src path ↔ Declares t d src path := by
  have hcontents := t.contents?_remove p
  constructor
  · intro h
    refine h.of_contents (t.remove_dirs p).symm (t.remove_unreadable p).symm fun q b hb _ => ?_
    rw [hcontents] at hb
    split at hb
    · cases hb
    · exact hb
  · intro h
    refine h.of_contents (t.remove_dirs p) (t.remove_unreadable p) fun q b hb hmute => ?_
    rw [hcontents, if_neg]
    · exact hb
    · rintro rfl
      exact hmute (hp b hb)

/-- The tree after the files were removed one after the other; those that are not there are passed over. -/
def removeAll (gone : List Path) (t : Tree) : Tree := gone.foldl (fun t p => (FileSystem.remove p t).2) t

theorem declares_removeAll {gone : List Path}
    (h : ∀ p ∈ gone, ∀ b, t.contents? p.segments = some b → Mute p.segments b) {d : Segments} {src : Source} :
    Declares (removeAll gone t) d src path ↔ Declares t d src path := by
  induction gone generalizing t with
  | nil => exact Iff.rfl
  | cons p gone ih =>
    refine (ih fun q hq b hb => ?_).trans (declares_remove (h p (List.mem_cons_self ..)))
    rw [t.contents?_remove] at hb
    split at hb
    · cases hb
    · exact h q (List.mem_cons_of_mem _ hq) b hb

theorem built_removeAll (ht : t.Built) (gone : List Path) : (removeAll gone t).Built := by
  induction gone generalizing t with
  | nil => exact ht
  | cons p gone ih =>
    refine ih (t := (FileSystem.remove p t).2) ?_
    change ((t.change (t.remove p)).2).Built
    cases hr : t.remove p with
    | error e => exact ht
    | ok t' => exact ht.remove hr

/-- The module path of a folder is declared by the first place that declares any, and it is read off the
    checkout if there is none. The sources among these places, and the directories that hold them, are those whose
    names are texts. Files that declare nothing can be taken away from anywhere in the tree, whatever their names. -/
theorem modulePath_first (ht : t.Built) (folder : Path) :
    (∀ name, (modulePath folder t).1 = name ↔
      (∃ src, IsFirst t folder.segments src name) ∨
        (∀ src path, ¬Declares t folder.segments src path) ∧ name = checkoutPath folder.shown) ∧
    ∀ gone : List Path, (∀ p ∈ gone, ∀ b, t.contents? p.segments = some b → Mute p.segments b) →
      (modulePath folder (removeAll gone t)).1 = (modulePath folder t).1 := by
  refine ⟨modulePath_iff ht.closed folder, fun gone hgone => ?_⟩
  have hsame : ∀ src path, Declares (removeAll gone t) folder.segments src path ↔ Declares t folder.segments src path :=
    fun src path => declares_removeAll hgone
  refine (modulePath_iff (built_removeAll ht gone).closed folder _).mpr ?_
  rcases modulePath_cases ht.closed folder with ⟨src, hfirst⟩ | ⟨hnone, hpath⟩
  · exact Or.inl ⟨src, (hsame _ _).mpr hfirst.declares, fun src' path' h => hfirst.least _ _ ((hsame _ _).mp h)⟩
  · exact Or.inr ⟨fun src path h => hnone _ _ ((hsame _ _).mp h), hpath⟩

/-- A folder with a source that declares nothing, a malformed manifest, and a source one directory down that
    declares a path. -/
def declaredBelow : Tree :=
  ((Tree.empty.addFile ⟨"/ws/a.go"⟩ (Text.bytesOf "package a\n")).addFile ⟨"/ws/Godeps/Godeps.json"⟩
    (Text.bytesOf "[")).addFile ⟨"/ws/lib/b.go"⟩ (Text.bytesOf "package b // import \"h.org/m/lib\"\n")

def godepManifest : Text.Bytes := Text.bytesOf "\x7b\"ImportPath\": \"h.org/g\"\x7d"

def govendorManifest : Text.Bytes := Text.bytesOf "\x7b\"ignore\": \"\", \"rootPath\": \"h.org/v\"\x7d"

def emptyManifest : Text.Bytes := Text.bytesOf "\x7b\"importPath\": \"\"\x7d"

/-- A folder with the manifests of both tools. -/
def declaredTwice (godep : Text.Bytes) : Tree :=
  (Tree.empty.addFile ⟨"/ws/vendor/vendor.json"⟩ govendorManifest).addFile ⟨"/ws/Godeps/Godeps.json"⟩ godep

theorem godepManifest_gives : OldTool.godep.Gives godepManifest "h.org/g" :=
  OldTool.gives_iff.mpr ⟨by decide, by decide +kernel⟩

theorem govendorManifest_gives : OldTool.govendor.Gives govendorManifest "h.org/v" :=
  OldTool.gives_iff.mpr ⟨by decide, by decide +kernel⟩

theorem modulePath_first_declared :
    ((∃ src, IsFirst declaredBelow ["/", "ws"] src "h.org/m") ∧
      (modulePath ⟨"/ws"⟩ (removeAll [⟨"/ws/a.go"⟩, ⟨"/ws/Godeps/Godeps.json"⟩] declaredBelow)).1 = "h.org/m") ∧
    (∃ src, IsFirst (declaredTwice godepManifest) ["/", "ws"] src "h.org/g") ∧
    (∃ src, IsFirst (declaredTwice emptyManifest) ["/", "ws"] src "h.org/v") := by
  have hbelow : declaredBelow.Built := .addFile _ _ (.addFile _ _ (.addFile _ _ .empty))
  have htwice : ∀ b, (declaredTwice b).Built := fun b => .addFile _ _ (.addFile _ _ .empty)
  have hname : (modulePath ⟨"/ws"⟩ declaredBelow).1 = "h.org/m" := by decide +kernel
  obtain ⟨hfirst, hgone⟩ := modulePath_first hbelow ⟨"/ws"⟩
  refine ⟨⟨?_, ?_⟩, ?_, ?_⟩
  · rcases (hfirst "h.org/m").mp hname with h | ⟨_, h⟩
    · exact h
    · exact absurd h (by decide +kernel)
  · refine (hgone _ fun p hp b hb => ?_).trans hname
    simp only [List.mem_cons, List.not_mem_nil, or_false] at hp
    rcases hp with rfl | rfl
    · have hsource : declaredBelow.contents? ["/", "ws", "a.go"] = some (Text.bytesOf "package a\n") := rfl
      cases hsource.symm.trans hb
      exact @Mute.source ["/", "ws"] "a.go" _ (by decide +kernel) (by decide +kernel)
    · have hmanifest : declaredBelow.contents? ["/", "ws", "Godeps", "Godeps.json"] = some (Text.bytesOf "[") := rfl
      cases hmanifest.symm.trans hb
      have hnone : (Json.ofBytes? (Text.bytesOf "[")).bind (manifestField? OldTool.godep.fields) = none := by
        decide +kernel
      exact @Mute.manifest ["/", "ws"] .godep _ fun path hgives => by
        rw [OldTool.gives_iff, hnone] at hgives
        cases hgives.2
  · rcases ((modulePath_first (htwice godepManifest) ⟨"/ws"⟩).1 "h.org/g").mp (by decide +kernel) with h | ⟨hno, _⟩
    · exact h
    · exact absurd (.manifest rfl godepManifest_gives) (hno (.manifest .godep) "h.org/g")
  · rcases ((modulePath_first (htwice emptyManifest) ⟨"/ws"⟩).1 "h.org/v").mp (by decide +kernel) with h | ⟨hno, _⟩
    · exact h
    · exact absurd (.manifest rfl govendorManifest_gives) (hno (.manifest .govendor) "h.org/v")

/-- A name that ends as a source's does and is no text. -/
def straySource : Octets := Tree.strayName ++ Octets.ofText ".go"

def strayDeclared : Tree :=
  Tree.empty.addFile ((⟨"/ws"⟩ : Path).join straySource) (Text.bytesOf "package a // import \"h.org/m\"\n")

/-- The folder can be listed, and its only file is a source that declares a path. But the file is looked up under
    the name that is shown, where there is none, and the path is read off the checkout. -/
theorem modulePath_straySource :
    strayDeclared.Built ∧ strayDeclared.Listable ["/", "ws"] ∧ Octets.ofText ".go" <:+ straySource ∧
      ((strayDeclared.contents? ["/", "ws", straySource]).bind fun b => importComment? (Text.lossy b)) =
        some "h.org/m" ∧
      (modulePath ⟨"/ws"⟩ strayDeclared).1 = "/ws" :=
  ⟨.addFile _ _ .empty, ⟨by decide, List.not_mem_nil⟩, by decide, by decide +kernel, by decide +kernel⟩

end Module

end GoAtlas
