/-
  GoAtlas.Proofs.Alike — trees that look alike to a reader.

  Two trees are `Alike` for a reader that sees some files only: they have the same directories, and the
  same files among those seen. Whatever reads only what is seen gives the same answer on both.
  - `Alike.putFile`: a file that is not seen may be written.
  - `Alike.contents?_eq` / `Alike.filter_entries`: the files seen have the same contents, and listings show
    the same of them, in the same order.
  - `Wrote.alike`: writing module files changes nothing for a reader of all other files.
  - `hasManifest_alike` / `modulePath_alike`: manifests and the module path of a folder are read off files
    below it that are no module files.
-/
import GoAtlas.Proofs.Writes

namespace GoAtlas

open GoAtlas.Module

/-! ## Sorted listings -/

theorem insertEntry_pairwise {e : Entry} {es : List Entry} (h : es.Pairwise fun a b => a.name ≤ b.name) :
    (insertEntry e es).Pairwise fun a b => a.name ≤ b.name := by
  induction es with
  | nil => exact List.pairwise_singleton _ _
  | cons x xs ih =>
    obtain ⟨hx, hxs⟩ := List.pairwise_cons.mp h
    unfold insertEntry
    split
    · rename_i hle
      refine List.pairwise_cons.mpr ⟨fun y hy => ?_, h⟩
      rcases List.mem_cons.mp hy with rfl | hy
      · exact hle
      · exact String.le_trans hle (hx y hy)
    · rename_i hle
      refine List.pairwise_cons.mpr ⟨fun y hy => ?_, ih hxs⟩
      rcases List.mem_cons.mp ((Tree.insertEntry_perm e xs).mem_iff.mp hy) with rfl | hy
      · exact (String.le_total _ _).resolve_left hle
      · exact hx y hy

theorem sortEntries_pairwise (es : List Entry) : (sortEntries es).Pairwise fun a b => a.name ≤ b.name := by
  induction es with
  | nil => exact .nil
  | cons e es ih => exact insertEntry_pairwise ih

/-- An entry goes before all that are not smaller, so leaving out others does not move it. -/
theorem filter_insertEntry {p : Entry → Bool} {e : Entry} {es : List Entry}
    (h : es.Pairwise fun a b => a.name ≤ b.name) :
    (insertEntry e es).filter p = if p e then insertEntry e (es.filter p) else es.filter p := by
  induction es with
  | nil => cases he : p e <;> simp [insertEntry, he]
  | cons x xs ih =>
    obtain ⟨hx, hxs⟩ := List.pairwise_cons.mp h
    by_cases hle : e.name ≤ x.name
    · rw [insertEntry, if_pos hle, List.filter_cons]
      split
      · -- all that is left of the list is not smaller either
        have hall : ∀ y ∈ (x :: xs).filter p, e.name ≤ y.name := by
          intro y hy
          rcases List.mem_cons.mp (List.mem_filter.mp hy).1 with rfl | hy
          · exact hle
          · exact String.le_trans hle (hx y hy)
        cases hf : (x :: xs).filter p with
        | nil => rfl
        | cons y ys =>
          rw [hf] at hall
          rw [insertEntry, if_pos (hall y (List.mem_cons_self ..))]
      · rfl
    · rw [insertEntry, if_neg hle, List.filter_cons, ih hxs, List.filter_cons]
      cases hp : p x <;> cases he : p e <;> simp [insertEntry, hle]

theorem filter_sortEntries (p : Entry → Bool) (es : List Entry) :
    (sortEntries es).filter p = sortEntries (es.filter p) := by
  induction es with
  | nil => rfl
  | cons e es ih =>
    rw [sortEntries, filter_insertEntry (sortEntries_pairwise es), ih, List.filter_cons]
    split <;> rfl

namespace Tree

/-! ## What is seen -/

/-- The trees differ at most in files that are not seen. -/
structure Alike (seen : Segments → Bool) (t t' : Tree) : Prop where
  dirs : t'.dirs = t.dirs
  unreadable : t'.unreadable = t.unreadable
  files : t'.files.filter (fun f => seen f.1) = t.files.filter fun f => seen f.1

variable {seen : Segments → Bool} {t t' t'' : Tree}

theorem Alike.refl (seen : Segments → Bool) (t : Tree) : Alike seen t t := ⟨rfl, rfl, rfl⟩

theorem Alike.trans (h : Alike seen t t') (h' : Alike seen t' t'') : Alike seen t t'' :=
  ⟨h'.dirs.trans h.dirs, h'.unreadable.trans h.unreadable, h'.files.trans h.files⟩

theorem Alike.putFile (h : Alike seen t t') {p : Path} (hp : seen p.segments = false) (b : Text.Bytes) :
    Alike seen t (t'.putFile p b) := by
  refine ⟨h.dirs, h.unreadable, ?_⟩
  rw [← h.files, Tree.putFile, List.filter_append, List.filter_filter]
  have hnew : [(p.segments, b)].filter (fun f => seen f.1) = [] := by simp [hp]
  rw [hnew, List.append_nil]
  refine List.filter_congr fun f _ => ?_
  by_cases e : f.1 = p.segments
  · simp [e, hp]
  · simp [e]

theorem lookup_filter (fs : List (Segments × Text.Bytes)) {q : Segments} (hq : seen q = true) :
    (fs.filter fun f => seen f.1).lookup q = fs.lookup q := by
  induction fs with
  | nil => rfl
  | cons f fs ih =>
    by_cases e : q = f.1
    · subst e
      rw [List.filter_cons_of_pos (by simpa using hq), List.lookup_cons, List.lookup_cons]
      simp
    · have hne : (q == f.1) = false := by simp [e]
      rw [List.filter_cons, List.lookup_cons, hne]
      split
      · rw [List.lookup_cons, hne, ih]
      · exact ih

/-- A file that is seen has the same contents. -/
theorem Alike.contents?_eq (h : Alike seen t t') {q : Segments} (hq : seen q = true) :
    t'.contents? q = t.contents? q := by
  rw [contents?, contents?, ← lookup_filter t'.files hq, ← lookup_filter t.files hq, h.files]

theorem Alike.hasAt_eq (h : Alike seen t t') {q : Segments} (hq : seen q = true) : t'.hasAt q = t.hasAt q := by
  rw [hasAt, hasAt, h.contents?_eq hq, h.dirs]

theorem Alike.read_eq (h : Alike seen t t') {p : Path} (hp : seen p.segments = true) : t'.read p = t.read p := by
  have hf : t'.file? p = t.file? p := h.contents?_eq hp
  rw [read, read, hf]

/-- A listing that leaves out files that are not seen does not miss them. -/
theorem filter_listed {p : Entry → Bool} {dir : Segments}
    (hp : ∀ n : Octets, p ⟨n.shown, false, true⟩ = true → seen (dir ++ [n]) = true)
    (fs : List (Segments × Text.Bytes)) :
    (fs.filterMap fun f => (nameIn? dir f.1).map fun n => (⟨n.shown, false, true⟩ : Entry)).filter p =
      ((fs.filter fun f => seen f.1).filterMap fun f =>
        (nameIn? dir f.1).map fun n => (⟨n.shown, false, true⟩ : Entry)).filter p := by
  induction fs with
  | nil => rfl
  | cons f fs ih =>
    cases hs : seen f.1 with
    | true =>
      rw [List.filter_cons_of_pos (by simpa using hs), List.filterMap_cons, List.filterMap_cons]
      cases nameIn? dir f.1 with
      | none => exact ih
      | some n => simp only [Option.map_some, List.filter_cons, ih]
    | false =>
      rw [List.filter_cons_of_neg (by simp [hs]), List.filterMap_cons]
      cases hn : nameIn? dir f.1 with
      | none => exact ih
      | some n =>
        have hno : p ⟨n.shown, false, true⟩ = false := by
          refine Bool.eq_false_iff.mpr fun hpn => ?_
          have := hp n hpn
          rw [← (nameIn?_eq_some.mp hn).1, hs] at this
          cases this
        rw [Option.map_some]
        simp only [List.filter_cons, hno, Bool.false_eq_true, if_false, ih]

/-- Listings show the same of what is seen. -/
theorem Alike.filter_entries (h : Alike seen t t') {p : Entry → Bool} {dir : Segments}
    (hp : ∀ n : Octets, p ⟨n.shown, false, true⟩ = true → seen (dir ++ [n]) = true) :
    (t'.entries dir).filter p = (t.entries dir).filter p := by
  rw [entries, entries, filter_sortEntries, filter_sortEntries, List.filter_append, List.filter_append,
    filter_listed hp t'.files, filter_listed hp t.files, h.files, h.dirs]

/-- A reader that sees all files directly in a directory sees its whole listing. -/
theorem Alike.entries_eq (h : Alike seen t t') {dir : Segments} (hs : ∀ n, seen (dir ++ [n]) = true) :
    t'.entries dir = t.entries dir := by
  have hall : ∀ es : List Entry, es.filter (fun _ => true) = es := fun es => List.filter_eq_self.mpr fun _ _ => rfl
  rw [← hall (t'.entries dir), h.filter_entries fun n _ => hs n, hall]

/-- The entries of a directory; one that cannot be listed has none. -/
def listed (t : Tree) (dir : Path) : List Entry :=
  match t.list dir with
  | .ok es => es
  | .error _ => []

theorem listed_cases (t : Tree) (dir : Path) :
    t.listed dir = [] ∨ dir.segments ∈ t.dirs ∧ t.listed dir = t.entries dir.segments := by
  cases h : t.list dir with
  | error e => exact Or.inl (by rw [listed, h])
  | ok es =>
    obtain ⟨_, hd, rfl⟩ := list_eq_ok.mp h
    exact Or.inr ⟨hd, by rw [listed, h]⟩

/-- Every name of a listing is one step. -/
theorem Closed.isStep_entry (ht : t.Closed) {dir : Path} {e : Entry} (he : e ∈ t.listed dir) :
    Path.IsStep (e.name : Octets) := by
  rcases t.listed_cases dir with h | ⟨hd, h⟩
  · rw [h] at he
    cases he
  · rw [h] at he
    have h0 := (ht.dirsProper _ hd).2
    obtain ⟨n, -, ⟨rfl, hn⟩ | ⟨rfl, hc⟩⟩ := mem_entries.mp he
    · exact (ht.isStep h0 hn).shown
    · obtain ⟨f, hf, hfe⟩ := contents?_isSome.mp hc
      have hproper := ht.filesProper f hf
      rw [hfe] at hproper
      exact (hproper.isStep h0 n (List.mem_singleton_self _)).shown

theorem Alike.list_cases (h : Alike seen t t') (dir : Path) :
    (∃ e, t'.list dir = .error e ∧ t.list dir = .error e) ∨
      t'.list dir = .ok (t'.entries dir.segments) ∧ t.list dir = .ok (t.entries dir.segments) := by
  unfold list isDir
  rw [h.dirs, h.unreadable]
  split
  · exact Or.inl ⟨_, rfl, rfl⟩
  · split
    · exact Or.inr ⟨rfl, rfl⟩
    · exact Or.inl ⟨_, rfl, rfl⟩

/-- Whether a directory can be scanned does not depend on files. -/
theorem Alike.readable_iff (h : Alike seen t t') {skip : String → Bool} {root : Segments} :
    t'.Readable skip root ↔ t.Readable skip root := by
  obtain ⟨dirs, files, unreadable⟩ := t
  obtain ⟨dirs', files', unreadable'⟩ := t'
  obtain ⟨rfl, rfl, -⟩ := h
  exact ⟨fun h => ⟨h.isDir, h.listed, h.there⟩, fun h => ⟨h.isDir, h.listed, h.there⟩⟩

theorem Alike.filter_listed (h : Alike seen t t') {p : Entry → Bool} {dir : Path}
    (hp : ∀ n : Octets, p ⟨n.shown, false, true⟩ = true → seen (dir.segments ++ [n]) = true) :
    (t'.listed dir).filter p = (t.listed dir).filter p := by
  unfold listed
  rcases h.list_cases dir with ⟨e, h', ht⟩ | ⟨h', ht⟩
  · rw [h', ht]
  · rw [h', ht]
    exact h.filter_entries hp

end Tree

/-! ## Readers of sources -/

namespace Module

variable {seen : Segments → Bool} {w w' : Workbench Tree} {folder : Path}

/-- What is seen below a directory includes all but module files. -/
def SeesSources (seen : Segments → Bool) (dir : Segments) : Prop :=
  ∀ names, names ≠ [] → names.getLast? ≠ some (Octets.ofText moduleFile) → seen (dir ++ names) = true

theorem SeesSources.below {dir : Segments} (h : SeesSources seen dir) (n : Octets) : SeesSources seen (dir ++ [n]) := by
  intro names h0 hlast
  rw [List.append_assoc]
  refine h _ (by simp) ?_
  rw [List.getLast?_append, List.getLast?_eq_some_getLast h0, Option.some_or, ← List.getLast?_eq_some_getLast h0]
  exact hlast

theorem SeesSources.file {dir : Segments} (h : SeesSources seen dir) {n : Octets} (hn : n ≠ .ofText moduleFile) :
    seen (dir ++ [n]) = true := h [n] (List.cons_ne_nil _ _) (by simpa using hn)

/-- Files other than module files. -/
def isOther (q : Segments) : Bool := q.getLast? != some (Octets.ofText moduleFile)

theorem seesSources_isOther (dir : Segments) : SeesSources isOther dir := by
  intro names h0 hlast
  rw [isOther, List.getLast?_append, List.getLast?_eq_some_getLast h0, Option.some_or,
    ← List.getLast?_eq_some_getLast h0]
  exact bne_iff_ne.mpr hlast

/-! ## The module path of a folder -/

theorem findSome?_congr {α β : Type} {f g : α → Option β} {l : List α} (h : ∀ a ∈ l, f a = g a) :
    l.findSome? f = l.findSome? g := by
  induction l with
  | nil => rfl
  | cons a l ih =>
    rw [List.findSome?_cons, List.findSome?_cons, h a (List.mem_cons_self ..),
      ih fun b hb => h b (List.mem_cons_of_mem _ hb)]

theorem listOrEmpty_eq (dir : Path) (w : Workbench Tree) : listOrEmpty dir w = (w.files.listed dir, w) := by
  unfold listOrEmpty Tree.listed
  rw [w.shows.list]
  cases w.files.list dir <;> rfl

theorem firstBelow?_eq (ds : List Path) (w : Workbench Tree) :
    firstBelow? ds w = (ds.findSome? fun d => ownComment? w d (w.files.listed d), w) := by
  induction ds with
  | nil => rfl
  | cons d ds ih =>
    simp only [firstBelow?, listOrEmpty_eq, List.findSome?_cons]
    cases ownComment? w d (w.files.listed d) with
    | some path => rfl
    | none => exact ih

/-- What declares a module path, in the order in which it is looked for. -/
theorem declaredPath?_eq (folder : Path) (w : Workbench Tree) : declaredPath? folder w =
    ((ownComment? w folder (w.files.listed folder)).or
      (((((w.files.listed folder).filter (·.isDir)).map fun e => folder.join e.name).findSome? fun d =>
        ownComment? w d (w.files.listed d)).map parentImportPath |>.or
          ((godepsPath? w folder).or (vendorPath? w folder))), w) := by
  simp only [declaredPath?, listOrEmpty_eq, firstBelow?_eq]
  cases ownComment? w folder (w.files.listed folder) with
  | some path => rfl
  | none =>
    cases (((w.files.listed folder).filter (·.isDir)).map fun e => folder.join e.name).findSome? fun d =>
      ownComment? w d (w.files.listed d) <;> rfl

theorem modulePath_eq (folder : Path) (w : Workbench Tree) :
    modulePath folder w = ((declaredPath? folder w).1.getD (checkoutPath folder.shown), w) := by
  refine Prod.ext ?_ (modulePath_state folder w)
  unfold modulePath
  rcases declaredPath? folder w with ⟨_ | path, s⟩ <;> rfl

theorem isGoFile_ne_moduleFile {e : Entry} (h : isGoFile e = true) : e.name ≠ moduleFile := by
  intro hn
  unfold isGoFile at h
  rw [hn, Bool.and_eq_true] at h
  exact absurd h.2 (by decide)

theorem ne_moduleFile_of_shown {n : Octets} (h : n.shown ≠ moduleFile) : n ≠ Octets.ofText moduleFile := by
  rintro rfl
  exact h (Octets.shown_ofText _)

theorem fileComment?_alike (h : Tree.Alike seen w.files w'.files) {file : Path} (hf : seen file.segments = true) :
    fileComment? w' file = fileComment? w file := by
  have hread : FileSystem.read w' file = FileSystem.read w file := h.read_eq hf
  rw [fileComment?, fileComment?, hread]

theorem manifestPath?_alike (h : Tree.Alike seen w.files w'.files) {file : Path} (hf : seen file.segments = true)
    (names : List String) : manifestPath? w' file names = manifestPath? w file names := by
  have hread : FileSystem.read w' file = FileSystem.read w file := h.read_eq hf
  rw [manifestPath?, manifestPath?, hread]

theorem ownComment?_alike (h : Tree.Alike seen w.files w'.files) (ht : w.files.Closed) {dir : Path}
    (hs : SeesSources seen dir.segments) :
    ownComment? w' dir (w'.files.listed dir) = ownComment? w dir (w.files.listed dir) := by
  unfold ownComment?
  rw [h.filter_listed fun n hn => hs.file (ne_moduleFile_of_shown (isGoFile_ne_moduleFile hn))]
  refine findSome?_congr fun e he => ?_
  obtain ⟨hmem, hgo⟩ := List.mem_filter.mp he
  refine fileComment?_alike h ?_
  rw [Path.segments_join_step dir (ht.isStep_entry hmem)]
  exact hs.file fun e => isGoFile_ne_moduleFile hgo (Octets.ofText_inj.mp e)

/-- A relative text that names no module file is there for both or for none. -/
theorem present_alike (h : Tree.Alike seen w.files w'.files) {dir : Path} (hs : SeesSources seen dir.segments)
    (h0 : dir.segments ≠ []) {name : Octets} (hname : name.head? ≠ some Octets.slash)
    (hparts : (Text.fields Octets.slash name).filter (fun s => !Path.idle s) ≠ [])
    (hlast : ((Text.fields Octets.slash name).filter fun s => !Path.idle s).getLast? ≠ some (Octets.ofText moduleFile)) :
    present w' (dir.join name) = present w (dir.join name) := by
  have hseg := Path.segments_join (p := dir) (fun e => h0 (Tree.segments_eq_nil_of_octets e)) hname
  have hseen : seen (dir.join name).segments = true := by
    rw [hseg]
    exact hs _ hparts hlast
  exact h.hasAt_eq hseen

theorem hasLegacyManifest_alike (h : Tree.Alike seen w.files w'.files) {dir : Path}
    (hs : SeesSources seen dir.segments) (h0 : dir.segments ≠ []) :
    hasLegacyManifest w' dir = hasLegacyManifest w dir := by
  unfold hasLegacyManifest
  rw [Bool.eq_iff_iff, List.any_eq_true, List.any_eq_true]
  refine exists_congr fun m => and_congr_right fun hm => ?_
  obtain ⟨hrelative, hparts, hlast⟩ := legacyManifests_relative m hm
  rw [present_alike h hs h0 hrelative hparts hlast]

theorem hasVendorDir_alike (h : Tree.Alike seen w.files w'.files) {dir : Path} (hs : SeesSources seen dir.segments)
    (h0 : dir.segments ≠ []) : hasVendorDir w' dir = hasVendorDir w dir :=
  present_alike h hs h0 (by decide) (by decide) (by decide)

theorem hasManifest_alike (h : Tree.Alike seen w.files w'.files) {dir : Path} (hs : SeesSources seen dir.segments)
    (h0 : dir.segments ≠ []) : hasManifest w' dir = hasManifest w dir := by
  rw [hasManifest, hasManifest, hasLegacyManifest_alike h hs h0, hasVendorDir_alike h hs h0]

/-- A folder has the same module path in trees that look alike below it, but for module files. -/
theorem modulePath_alike (h : Tree.Alike seen w.files w'.files) (ht : w.files.Closed)
    (hs : SeesSources seen folder.segments) : (modulePath folder w').1 = (modulePath folder w).1 := by
  have hown := ownComment?_alike h ht hs
  have hdirs : (w'.files.listed folder).filter (·.isDir) = (w.files.listed folder).filter (·.isDir) :=
    h.filter_listed fun n hn => by cases hn
  have hbelow : (((w.files.listed folder).filter (·.isDir)).map fun e => folder.join e.name).findSome? (fun d =>
        ownComment? w' d (w'.files.listed d)) =
      (((w.files.listed folder).filter (·.isDir)).map fun e => folder.join e.name).findSome? fun d =>
        ownComment? w d (w.files.listed d) := by
    refine findSome?_congr fun d hd => ?_
    obtain ⟨e, he, rfl⟩ := List.mem_map.mp hd
    refine ownComment?_alike h ht ?_
    rw [Path.segments_join_step folder (ht.isStep_entry (List.mem_filter.mp he).1)]
    exact hs.below e.name
  have hgodeps : godepsPath? w' folder = godepsPath? w folder := by
    refine manifestPath?_alike h ?_ _
    rw [Path.segments_join_step _ (by decide), Path.segments_join_step _ (by decide), List.append_assoc]
    exact hs _ (by simp) (by decide)
  have hvendor : vendorPath? w' folder = vendorPath? w folder := by
    refine manifestPath?_alike h ?_ _
    rw [Path.segments_join_step _ (by decide), Path.segments_join_step _ (by decide), List.append_assoc]
    exact hs _ (by simp) (by decide)
  rw [modulePath_eq, modulePath_eq, declaredPath?_eq, declaredPath?_eq, hown, hdirs, hbelow, hgodeps, hvendor]

end Module

/-- Writing module files changes nothing for a reader of all other files. -/
theorem Wrote.alike {t t' : Tree} {ds : List Path} (h : Wrote t ds t') : t.Alike isOther t' := by
  induction h with
  | none t => exact .refl _ t
  | @write t t' d ds name _ _ _ ih =>
    refine Tree.Alike.trans ((Tree.Alike.refl _ t).putFile ?_ _) ih
    rw [segments_moduleFile, isOther, moduleFileOf, List.getLast?_concat]
    exact bne_self_eq_false _

end GoAtlas
