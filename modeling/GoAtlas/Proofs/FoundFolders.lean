/-
  GoAtlas.Proofs.FoundFolders — the folders that running a manager returns are the roots of the scan.

  A root goes from its directory to an address and a name, and is told apart from the others by those. None is
  lost on the way, because the folder of an address is an absolute path and so are all roots around it; and none
  comes twice, because the address leads back to the directory.
  - `Url.isAbsolute_of_toFilePath?`: an address that names a path names an absolute one.
  - `Manager.foldersOf_places`: the addresses of the folders lead to the directories of the roots, in order.
  - `Folder.addNew_places`: a list of them takes each directory once, where it comes first.
  - `foldersOf_stays`: after a scan without the go command a second one leads to no other folders.
  - `run_exact`: hence what is returned and kept is what the scan found, and a second run returns nothing.
-/
import GoAtlas.Proofs.Answers
import GoAtlas.Proofs.Rescan
import GoAtlas.Proofs.Tracking

namespace GoAtlas

open GoAtlas.Module

/-! ## Absolute paths -/

theorem Url.head?_decodeText_slash (cs : List Char) :
    (decodeText (String.ofList ('/' :: cs))).head? = some Octets.slash := by
  have hslash : String.utf8EncodeChar '/' = [0x2F] := by decide
  rw [decodeText, Octets.ofText_eq, String.toList_ofList, List.flatMap_cons, hslash, List.singleton_append,
    decodeBytes_cons (by decide)]
  rfl

/-- An address that names a path names an absolute one. -/
theorem Url.isAbsolute_of_toFilePath? {u : Url} {p : Path} (h : u.toFilePath? = some p) : p.isAbsolute = true := by
  unfold toFilePath? at h
  split at h
  · cases h
  rename_i ss hss
  obtain ⟨s, rest, rfl⟩ : ∃ s rest, ss = s :: rest := by
    unfold segments? at hss
    split at hss <;> cases hss
    rename_i hne _
    exact List.exists_cons_of_ne_nil hne
  simp only [Option.ite_none_right_eq_some, Option.some.injEq] at h
  rw [← h.2, isAbsolute_iff, segments_closeDrive, ← isAbsolute_iff, Path.isAbsolute, beq_iff_eq,
    ← String.ofList_toList (s := String.join _), toList_route, List.flatMap_cons]
  exact head?_decodeText_slash _

/-! ## Folders of directories -/

namespace Folder

/-- The directory that the folder's address leads to. -/
def place? (f : Folder) : Option Segments := f.uri.toFilePath?.map Path.segments

theorem place?_of_ofDir? {d : Path} {g : Folder} (h : ofDir? d = some g) : g.place? = some d.segments := by
  obtain ⟨q, hq, hsegments⟩ := toFilePath?_of_ofDir? h
  rw [place?, hq, Option.map_some, hsegments]

theorem exists_ofDir? {d : Path} (h : d.isAbsolute = true) : ∃ g, ofDir? d = some g := by
  obtain ⟨u, hu⟩ := Option.isSome_iff_exists.mp ((Url.isSome_ofFilePath? d).trans h)
  exact ⟨_, by rw [ofDir?, hu, Option.map_some]⟩

/-- Folders that the segments of directories give look alike exactly if they lead to the same one. -/
theorem shown_eq_iff {d e : Path} {f g : Folder} (hf : ofDir? (.ofSegments d.segments) = some f)
    (hg : ofDir? (.ofSegments e.segments) = some g) : f.shown = g.shown ↔ f.place? = g.place? := by
  constructor
  · intro h
    rw [place?_of_ofDir? hf, place?_of_ofDir? hg, segments_eq_of_same hf hg (Url.same_iff.mpr (congrArg Prod.fst h))]
  · intro h
    rw [place?_of_ofDir? hf, place?_of_ofDir? hg, Path.segments_ofSegments d.proper_segments,
      Path.segments_ofSegments e.proper_segments, Option.some.injEq] at h
    rw [h, hg, Option.some.injEq] at hf
    rw [hf]

/-- A list takes each directory that it does not lead to yet, where it comes first. -/
theorem addNew_places {fs more : List Folder}
    (h : ∀ f ∈ fs ++ more, ∃ d : Path, ofDir? (.ofSegments d.segments) = some f) :
    (addNew fs more).map place? =
      fs.map place? ++ ((more.map place?).filter fun q => !(fs.map place?).contains q).eraseDups := by
  induction more generalizing fs with
  | nil => exact (List.append_nil _).symm
  | cons f more ih =>
    have hin : f.isIn fs = (fs.map place?).contains f.place? := by
      rw [Bool.eq_iff_iff, isIn_iff, List.contains_iff_mem, List.mem_map, List.mem_map]
      refine exists_congr fun g => and_congr_right fun hg => ?_
      obtain ⟨d, hd⟩ := h g (List.mem_append_left _ hg)
      obtain ⟨e, he⟩ := h f (List.mem_append_right _ (List.mem_cons_self ..))
      exact shown_eq_iff hd he
    rw [addNew_cons, List.map_cons, List.filter_cons, ← hin]
    cases hf : f.isIn fs with
    | true => exact ih fun a ha => h a (ha |> List.mem_append.mp |>.elim (List.mem_append_left _) fun ha =>
        List.mem_append_right _ (List.mem_cons_of_mem _ ha))
    | false =>
      have hrest := @ih (fs ++ [f]) fun a ha => h a (by simpa using ha)
      simp only [Bool.false_eq_true, if_false, Bool.not_false, if_true]
      rw [hrest, List.map_append, List.append_assoc, List.map_singleton, List.singleton_append, List.eraseDups_cons,
        List.filter_filter]
      refine congrArg (fs.map place? ++ f.place? :: ·) (congrArg List.eraseDups (List.filter_congr fun q _ => ?_))
      by_cases e : q = f.place?
      · simp [e]
      · simp [e, beq_eq_false_iff_ne.mpr e]

/-- A list that shows all of the folders takes none. -/
theorem addNew_of_shown {fs more : List Folder} (h : ∀ g ∈ more, g.shown ∈ fs.map shown) : addNew fs more = fs := by
  induction more with
  | nil => rfl
  | cons f more ih =>
    rw [List.forall_mem_cons] at h
    rw [addNew_cons, isIn_iff.mpr h.1, if_pos rfl, ih h.2]

end Folder

namespace Manager

variable {dir : Path} {roots : List ModuleRoot}

/-- The roots other than the directory of the scan. -/
def others (dir : Path) (roots : List ModuleRoot) : List ModuleRoot := roots.filter fun r => !r.path.same dir

theorem mem_foldersOf {g : Folder} : g ∈ foldersOf dir roots ↔ ∃ r ∈ others dir roots, Folder.ofDir? r.path = some g :=
  List.mem_filterMap

/-- None of the roots is lost, and their order stays. -/
theorem foldersOf_places (h : ∀ r ∈ roots, r.path.isAbsolute = true) :
    (foldersOf dir roots).map Folder.place? = (others dir roots).map fun r => some r.path.segments := by
  have hall : ∀ r ∈ others dir roots, r.path.isAbsolute = true := fun r hr => h r (List.mem_filter.mp hr).1
  show ((others dir roots).filterMap fun r => Folder.ofDir? r.path).map Folder.place? = _
  generalize others dir roots = rs at hall ⊢
  induction rs with
  | nil => rfl
  | cons r rs ih =>
    rw [List.forall_mem_cons] at hall
    obtain ⟨g, hg⟩ := Folder.exists_ofDir? hall.1
    rw [@List.filterMap_cons_some _ _ (fun r : ModuleRoot => Folder.ofDir? r.path) r rs g hg, List.map_cons,
      List.map_cons, Folder.place?_of_ofDir? hg, ih hall.2]

/-- What running a manager comes to, by how the scan of the directory ends. -/
theorem run_local {m : Manager} {f : Folder} (hf : f.uri.toFilePath? = some dir) (w : Workbench Tree) :
    m.run f w =
      match Module.scan m.policy dir w with
      | (.error e, w) => (.error (.scan e), m, w)
      | (.ok (roots, written), w) =>
        (.ok (newFolders m.moduleFolders (foldersOf dir roots)),
          ⟨m.policy, m.moduleFolders ++ newFolders m.moduleFolders (foldersOf dir roots), m.cleanup ++ written⟩,
          w) := by
  simp only [run, hf, Manager.scan]
  rcases Module.scan m.policy dir w with ⟨e | ⟨roots, written⟩, w'⟩ <;> rfl

/-- A fresh manager takes each folder once. -/
theorem run_fresh {policy : Policy} {f : Folder} {w w' : Workbench Tree} {written : List Path}
    (hf : f.uri.toFilePath? = some dir) (hscan : Module.scan policy dir w = (.ok (roots, written), w')) :
    (Manager.new policy).run f w = (.ok (Folder.addNew [] (foldersOf dir roots)),
      ⟨policy, Folder.addNew [] (foldersOf dir roots), written⟩, w') := by
  rw [run_local hf]
  simp only [Manager.new, hscan, newFolders, List.length_nil, List.drop_zero, List.nil_append]

/-- A manager that knows all folders takes none. -/
theorem run_known {m : Manager} {f : Folder} {w : Workbench Tree} {written : List Path}
    (hf : f.uri.toFilePath? = some dir) (hscan : (Module.scan m.policy dir w).1 = .ok (roots, written))
    (h : ∀ g ∈ foldersOf dir roots, g.shown ∈ m.moduleFolders.map Folder.shown) : (m.run f w).1 = .ok [] := by
  have hnone : newFolders m.moduleFolders (foldersOf dir roots) = [] := by
    rw [newFolders, Folder.addNew_of_shown h, List.drop_length]
  rw [run_local hf]
  rcases hs : Module.scan m.policy dir w with ⟨r, w'⟩
  rw [hs] at hscan
  cases hscan
  simp only [hnone]

end Manager

/-! ## Scanning again -/

namespace Module

variable {w : Workbench Tree} {policy : Policy} {dir : Path} {roots : List ModuleRoot} {written : List Path}

/-- The roots of a scan of an absolute path are absolute. -/
theorem isAbsolute_of_root (ht : w.files.Closed) (hdir : dir.isAbsolute = true)
    (h : (scan policy dir w).1 = .ok (roots, written)) : ∀ r ∈ roots, r.path.isAbsolute = true := by
  intro r hr
  rw [Url.isAbsolute_iff] at hdir ⊢
  obtain ⟨names, hnames⟩ := List.head?_eq_some_iff.mp hdir
  rcases around_scan ht h r hr with hin | hin <;> rw [hnames] at hin
  · obtain ⟨rest, hrest⟩ := hin
    rw [← hrest]
    rfl
  · obtain ⟨rest, hrest⟩ := hin
    rw [← hrest]
    rfl

/-- The folders of the roots are those that the segments of directories give. -/
theorem foldersOf_named (ht : w.files.Closed) (h : (scan policy dir w).1 = .ok (roots, written)) :
    ∀ g ∈ Manager.foldersOf dir roots, ∃ r ∈ Manager.others dir roots,
      Folder.ofDir? (.ofSegments r.path.segments) = some g := by
  intro g hg
  obtain ⟨r, hr, hofDir⟩ := Manager.mem_foldersOf.mp hg
  obtain ⟨hmem, hother⟩ := List.mem_filter.mp hr
  exact ⟨r, hr, (ofDir?_of_root ht (Prod.ext h rfl) hmem ((Bool.not_eq_true' _).mp hother)).trans hofDir⟩

/-- The folders that a second scan leads to are those of the first. -/
theorem foldersOf_stays (ht : w.files.Closed) (hp : policy.install = false)
    (h : (scan policy dir w).1 = .ok (roots, written)) :
    ∃ again written', (scan policy dir (scan policy dir w).2).1 = .ok (again, written') ∧
      ∀ g ∈ Manager.foldersOf dir again, g ∈ Manager.foldersOf dir roots := by
  obtain ⟨again, written', hagain, hsub⟩ := scan_stays ht hp h
  refine ⟨again, written', hagain, fun g hg => ?_⟩
  obtain ⟨r, hr, hofDir⟩ := foldersOf_named ((scan_wrote policy dir w).closed ht) hagain g hg
  obtain ⟨hr, hother⟩ := List.mem_filter.mp hr
  obtain ⟨r₀, hr₀, hsame⟩ := List.mem_map.mp (hsub r hr)
  have hother₀ : r₀.path.same dir = false := by
    rw [Path.same, hsame, ← Path.same]
    exact (Bool.not_eq_true' _).mp hother
  refine Manager.mem_foldersOf.mpr ⟨r₀, List.mem_filter.mpr ⟨hr₀, by rw [hother₀]; rfl⟩, ?_⟩
  rw [← ofDir?_of_root ht (Prod.ext h rfl) hr₀ hother₀, hsame, hofDir]

end Module

/-- A fresh manager that does not use the go command returns and keeps the folders of exactly the roots that the
    scan finds beside the directory itself, in their order and each once; run once more, it returns nothing. -/
theorem run_exact {w : Workbench Tree} (ht : w.files.Built) {policy : Policy} (hp : policy.install = false)
    {f : Folder} {dir : Path} (hf : f.uri.toFilePath? = some dir) {added : List Folder}
    (h : ((Manager.new policy).run f w).1 = .ok added) :
    ∃ roots, ((Manager.new policy).scan dir w).1 = .ok roots ∧
      added.map Folder.place? =
        ((roots.filter fun r => !r.path.same dir).map fun r => some r.path.segments).eraseDups ∧
      (added.map Folder.place?).Nodup ∧
      ((Manager.new policy).run f w).2.1.moduleFolders = added ∧
      (((Manager.new policy).run f w).2.1.run f ((Manager.new policy).run f w).2.2).1 = .ok [] := by
  have hdir := Url.isAbsolute_of_toFilePath? hf
  rcases hscan : Module.scan policy dir w with ⟨e | ⟨roots, written⟩, w'⟩
  · rw [Manager.run_local hf] at h
    simp only [Manager.new, hscan] at h
    cases h
  have hok : (Module.scan policy dir w).1 = .ok (roots, written) := congrArg Prod.fst hscan
  have hnamed := foldersOf_named ht.closed hok
  obtain ⟨again, written', hagain, hsub⟩ := foldersOf_stays ht.closed hp hok
  rw [Manager.run_fresh hf hscan] at h ⊢
  cases h
  refine ⟨roots, ?_, ?_, ?_, rfl, ?_⟩
  · rw [manager_scan_eq]
    simp only [Manager.new, hscan, Except.map]
  · rw [Folder.addNew_places fun g hg => by
        obtain ⟨r, _, hr⟩ := hnamed g hg
        exact ⟨r.path, hr⟩,
      Manager.foldersOf_places (isAbsolute_of_root ht.closed hdir hok)]
    simp [Manager.others]
  · have hdistinct := @Folder.nodup_addNew [] List.nodup_nil (Manager.foldersOf dir roots)
    refine List.pairwise_map.mpr (List.Pairwise.imp_of_mem (fun {a b} ha hb hne => ?_) (List.pairwise_map.mp hdistinct))
    obtain ⟨r, _, hr⟩ := hnamed a ((Folder.mem_of_mem_addNew ha).resolve_left List.not_mem_nil)
    obtain ⟨q, _, hq⟩ := hnamed b ((Folder.mem_of_mem_addNew hb).resolve_left List.not_mem_nil)
    exact fun e => hne ((Folder.shown_eq_iff hr hq).mpr e)
  · rw [hscan] at hagain
    refine Manager.run_known hf hagain fun g hg => ?_
    exact Folder.mem_addNew_shown.mpr (Or.inr (List.mem_map_of_mem (hsub g hg)))

/-- A module and an old manifest below a folder, in directories whose names are encoded in addresses. -/
def oddlyNamed : Workbench Tree :=
  ⟨(Tree.empty.addFile ⟨"/a b/5%/go.mod"⟩ .empty).addFile ⟨"/a b/é#/Gopkg.lock"⟩ .empty, ⟨[], []⟩⟩

def oddFolder : Folder := ⟨⟨"file", some ⟨"", none, "", none⟩, .segments ["a%20b"], none, none⟩, "a b"⟩

theorem run_exact_oddlyNamed : ∃ added,
    ((Manager.new ⟨false, .default⟩).run oddFolder oddlyNamed).1 = .ok added ∧
      added.map Folder.place? = [some (["/", "a b", "5%"] : Segments), some (["/", "a b", "é#"] : Segments)] := by
  have hbuilt : oddlyNamed.files.Built := .addFile _ _ (.addFile _ _ .empty)
  have hlocal : oddFolder.uri.toFilePath? = some ⟨"/a b"⟩ := by decide +kernel
  have hscan : (Module.scan ⟨false, .default⟩ ⟨"/a b"⟩ oddlyNamed).1 =
      .ok ([⟨⟨"/a b/5%"⟩, .existing⟩, ⟨⟨"/a b/é#"⟩, .manifest⟩], [⟨"/a b/é#"⟩]) := by
    decide +kernel
  obtain ⟨added, hrun⟩ : ∃ added, ((Manager.new ⟨false, .default⟩).run oddFolder oddlyNamed).1 = .ok added := by
    rw [Manager.run_local hlocal, Manager.new]
    rcases hs : Module.scan ⟨false, .default⟩ ⟨"/a b"⟩ oddlyNamed with ⟨r, w'⟩
    rw [hs] at hscan
    simp only at hscan
    rw [hscan]
    exact ⟨_, rfl⟩
  obtain ⟨roots, hroots, hplaces, _⟩ := run_exact hbuilt rfl hlocal hrun
  rw [manager_scan_eq, Manager.new, hscan] at hroots
  cases hroots
  exact ⟨added, hrun, hplaces.trans (by decide)⟩

end GoAtlas
