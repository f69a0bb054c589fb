/-
  GoAtlas.Proofs.Groups — lists of folders, and the folders that managing one brings up.

  Folders are compared by what they show: the address as it is written, and the name. Lists of them grow by
  those that are new.
  - `addNew_spec` / `mem_addNew_shown`: what such a list shows afterwards, each new folder once.
  - `addNew_perm`: the order in which folders are added decides the order only.
  - `lists_addNew` / `lists_removeFolders`: which addresses a list has then.
  - `manage_eq`: managing one local folder scans it, and then downloads for the folder and its modules.
  - `manageFolder_group` / `manageAll_lists`: what it returns is the folder itself and directories around it.
-/
import GoAtlas.Proofs.Address
import GoAtlas.Proofs.Coverage
import GoAtlas.Proofs.Management
import Mathlib.Data.List.Nodup

namespace GoAtlas

open GoAtlas.Module

namespace Folder

/-- What folders are compared by. -/
def shown (f : Folder) : String × String := (f.uri.text, f.name)

theorem same_iff {a b : Folder} : a.same b = true ↔ a.shown = b.shown := by
  simp [same, Url.same, shown]

theorem isIn_iff {f : Folder} {fs : List Folder} : f.isIn fs = true ↔ f.shown ∈ fs.map shown := by
  simp only [isIn, List.any_eq_true, same_iff, List.mem_map]

/-- Some folder of the list has the address. -/
def Lists (u : Url) (fs : List Folder) : Prop := ∃ f ∈ fs, f.uri.same u = true

instance (u : Url) (fs : List Folder) : Decidable (Lists u fs) :=
  inferInstanceAs (Decidable (∃ f ∈ fs, f.uri.same u = true))

theorem lists_iff {u : Url} {fs : List Folder} : Lists u fs ↔ ∃ k ∈ fs.map shown, k.1 = u.text := by
  simp [Lists, Url.same, shown]

theorem not_lists_nil (u : Url) : ¬Lists u [] := fun h => by
  obtain ⟨f, hf, _⟩ := h
  cases hf

theorem lists_cons {u : Url} {f : Folder} {fs : List Folder} :
    Lists u (f :: fs) ↔ f.uri.same u = true ∨ Lists u fs := List.exists_mem_cons_iff ..

/-- The address is that of another directory inside the folder, or inside what the folder is shown as. -/
def Encloses (f : Folder) (u : Url) : Prop :=
  ∃ dir d g, f.uri.toFilePath? = some dir ∧ ofDir? d = some g ∧ g.uri.same u = true ∧
    Around dir d.segments ∧ dir.segments ≠ d.segments

theorem Encloses.of_same {f : Folder} {u v : Url} (h : f.Encloses u) (hv : u.same v = true) : f.Encloses v := by
  obtain ⟨dir, d, g, hdir, hg, hu, hbelow⟩ := h
  refine ⟨dir, d, g, hdir, hg, ?_, hbelow⟩
  exact beq_iff_eq.mpr ((beq_iff_eq.mp hu).trans (beq_iff_eq.mp hv))

theorem addNew_append (fs as bs : List Folder) : addNew fs (as ++ bs) = addNew (addNew fs as) bs :=
  List.foldl_append ..

theorem addNew_cons (fs : List Folder) (f : Folder) (more : List Folder) :
    addNew fs (f :: more) = addNew (if f.isIn fs then fs else fs ++ [f]) more := rfl

/-- A list grows by folders of the other one that it did not show, each of them once. -/
theorem addNew_spec (fs more : List Folder) : ∃ rest, addNew fs more = fs ++ rest ∧ (∀ f ∈ rest, f ∈ more) ∧
    (rest.map shown).Nodup ∧ ∀ k, k ∈ rest.map shown ↔ k ∈ more.map shown ∧ k ∉ fs.map shown := by
  induction more generalizing fs with
  | nil => exact ⟨[], by simp [addNew], by simp, by simp, by simp⟩
  | cons f more ih =>
    rw [addNew_cons]
    cases hf : f.isIn fs with
    | true =>
      have hin := isIn_iff.mp hf
      obtain ⟨rest, heq, hsub, hnodup, hmem⟩ := ih fs
      refine ⟨rest, heq, fun g hg => List.mem_cons_of_mem _ (hsub g hg), hnodup, fun k => ?_⟩
      rw [hmem, List.map_cons, List.mem_cons]
      constructor
      · exact fun h => ⟨Or.inr h.1, h.2⟩
      · rintro ⟨rfl | h, hno⟩
        · exact absurd hin hno
        · exact ⟨h, hno⟩
    | false =>
      have hout : f.shown ∉ fs.map shown := fun h => by
        rw [isIn_iff.mpr h] at hf
        cases hf
      obtain ⟨rest, heq, hsub, hnodup, hmem⟩ := ih (fs ++ [f])
      have hfresh : f.shown ∉ rest.map shown := fun h => ((hmem _).mp h).2 (by simp)
      refine ⟨f :: rest, ?_, fun g hg => ?_, List.nodup_cons.mpr ⟨hfresh, hnodup⟩, fun k => ?_⟩
      · rw [if_neg (by simp), heq, List.append_assoc]
        rfl
      · rcases List.mem_cons.mp hg with rfl | hg
        · exact List.mem_cons_self ..
        · exact List.mem_cons_of_mem _ (hsub g hg)
      · simp only [List.map_cons, List.mem_cons, hmem, List.map_append, List.mem_append, List.map_nil, List.not_mem_nil,
          or_false, not_or]
        constructor
        · rintro (rfl | ⟨h, hno, _⟩)
          · exact ⟨Or.inl rfl, hout⟩
          · exact ⟨Or.inr h, hno⟩
        · rintro ⟨rfl | h, hno⟩
          · exact Or.inl rfl
          · by_cases e : k = f.shown
            · exact Or.inl e
            · exact Or.inr ⟨h, hno, e⟩

theorem mem_addNew_shown {fs more : List Folder} {k : String × String} :
    k ∈ (addNew fs more).map shown ↔ k ∈ fs.map shown ∨ k ∈ more.map shown := by
  obtain ⟨rest, heq, _, _, hmem⟩ := addNew_spec fs more
  rw [heq, List.map_append, List.mem_append, hmem]
  constructor
  · rintro (h | ⟨h, _⟩)
    · exact Or.inl h
    · exact Or.inr h
  · rintro (h | h)
    · exact Or.inl h
    · by_cases hk : k ∈ fs.map shown
      · exact Or.inl hk
      · exact Or.inr ⟨h, hk⟩

theorem lists_addNew {u : Url} {fs more : List Folder} : Lists u (addNew fs more) ↔ Lists u fs ∨ Lists u more := by
  simp only [lists_iff, mem_addNew_shown, or_and_right, exists_or]

/-- Lists that show the same add the same. -/
theorem addNew_perm (fs : List Folder) {as bs : List Folder} (h : ∀ k, k ∈ as.map shown ↔ k ∈ bs.map shown) :
    ((addNew fs as).map shown).Perm ((addNew fs bs).map shown) := by
  obtain ⟨rest, heq, _, hnodup, hmem⟩ := addNew_spec fs as
  obtain ⟨rest', heq', _, hnodup', hmem'⟩ := addNew_spec fs bs
  rw [heq, heq', List.map_append, List.map_append]
  refine ((List.perm_ext_iff_of_nodup hnodup hnodup').mpr fun k => ?_).append_left _
  rw [hmem, hmem', h]

end Folder

/-! ## Managing one folder -/

namespace Manager

variable {policy : Policy} {f : Folder} {dir : Path}

/-- The folder with the folders of its module roots. -/
def groupOf (f : Folder) (dir : Path) (roots : List ModuleRoot) : List Folder :=
  Folder.addNew [f] (Folder.addNew [] (foldersOf dir roots))

/-- What managing one local folder comes to, by how the scan of its directory ends. -/
theorem manage_eq (hf : f.uri.toFilePath? = some dir) (v : Registry) (w : Workbench Tree) :
    (Manager.new policy).manage [f] v w =
      match Module.scan policy dir w with
      | (.error _, w) => ([f], .new policy, (downloadDeps (.new policy) [f] v w))
      | (.ok (roots, written), w) =>
        (groupOf f dir roots, ⟨policy, Folder.addNew [] (foldersOf dir roots), written⟩,
          downloadDeps (.new policy) (groupOf f dir roots) v w) := by
  simp only [manage, runAll, run, hf, Manager.scan, Manager.new]
  rcases Module.scan policy dir w with ⟨e | ⟨roots, written⟩, w'⟩
  · rfl
  · simp only [newFolders, List.nil_append, List.length_nil, List.drop_zero]
    rfl

/-- A folder that is not local is left alone. -/
theorem manage_of_not_local (hf : f.uri.toFilePath? = none) (v : Registry) (w : Workbench Tree) :
    (Manager.new policy).manage [f] v w = ([f], .new policy, v, w) := by
  have hdown : downloadDeps (.new policy) [f] v w = (v, w) := by
    unfold downloadDeps
    split
    · simp only [downloadAll, downloadOne, hf]
    · rfl
  simp only [manage, runAll, run, hf]
  exact congrArg (fun r => ([f], Manager.new policy, r)) hdown

/-- The folder comes first, and the others belong to roots in other directories. -/
theorem groupOf_eq (f : Folder) (dir : Path) (roots : List ModuleRoot) :
    ∃ rest, groupOf f dir roots = f :: rest ∧
      ∀ g ∈ rest, ∃ r ∈ roots, r.path.same dir = false ∧ Folder.ofDir? r.path = some g := by
  obtain ⟨rest, heq, hsub, _⟩ := Folder.addNew_spec [f] (Folder.addNew [] (foldersOf dir roots))
  refine ⟨rest, heq, fun g hg => ?_⟩
  obtain ⟨found, hfound, hroots, _⟩ := Folder.addNew_spec [] (foldersOf dir roots)
  have hg := hsub g hg
  rw [hfound, List.nil_append] at hg
  obtain ⟨r, hr, hrg⟩ := List.mem_filterMap.mp (hroots g hg)
  obtain ⟨hr, hother⟩ := List.mem_filter.mp hr
  exact ⟨r, hr, (Bool.not_eq_true' _).mp hother, hrg⟩

/-- A local folder comes with the folders of roots that lie around it. -/
theorem manage_group (policy : Policy) {w : Workbench Tree} (hw : w.files.Closed) (hf : f.uri.toFilePath? = some dir)
    (v : Registry) :
    ∃ roots : List ModuleRoot, (∀ r ∈ roots, Around dir r.path.segments) ∧
      ((Manager.new policy).manage [f] v w).1 = groupOf f dir roots := by
  rw [manage_eq hf]
  rcases hscan : Module.scan policy dir w with ⟨e | ⟨roots, written⟩, w'⟩
  · exact ⟨[], by simp, rfl⟩
  · exact ⟨roots, around_scan hw (congrArg Prod.fst hscan), rfl⟩

end Manager

theorem Folder.toFilePath?_of_ofDir? {d : Path} {g : Folder} (h : Folder.ofDir? d = some g) :
    ∃ q, g.uri.toFilePath? = some q ∧ q.segments = d.segments := by
  obtain ⟨u, hu, rfl⟩ := Option.map_eq_some_iff.mp h
  exact Url.toFilePath?_ofFilePath? hu

theorem Session.lists_removeFolders {u : Url} (s : Session) (removed : List Folder) :
    Folder.Lists u (s.removeFolders removed).folders ↔ Folder.Lists u s.folders ∧ ¬Folder.Lists u removed := by
  have hsame : ∀ {f r : Folder}, f.uri.same u = true → (r.uri.same f.uri = true ↔ r.uri.same u = true) := by
    intro f r hf
    simp only [Url.same, beq_iff_eq] at hf ⊢
    rw [hf]
  constructor
  · intro h
    obtain ⟨f, hf, hu⟩ := h
    obtain ⟨hf, hkept⟩ := List.mem_filter.mp hf
    refine ⟨⟨f, hf, hu⟩, fun hr => ?_⟩
    obtain ⟨r, hr, hru⟩ := hr
    rw [List.any_eq_true.mpr ⟨r, hr, (hsame hu).mpr hru⟩] at hkept
    cases hkept
  · intro h
    obtain ⟨⟨f, hf, hu⟩, hno⟩ := h
    refine ⟨f, List.mem_filter.mpr ⟨hf, ?_⟩, hu⟩
    rw [Bool.not_eq_true', List.any_eq_false]
    exact fun r hr hrf => hno ⟨r, hr, (hsame hu).mp hrf⟩

namespace Workspace

variable [ProjectSettings (Workbench Tree)] {w : Workspace (Workbench Tree)} {f g : Folder}

/-- Managing a folder returns it first, and then folders of directories that it encloses. -/
theorem manageFolder_group (hw : w.world.files.Closed) (options : Option Json) (f : Folder) :
    ∃ rest, (w.manageFolder options f).1 = f :: rest ∧ ∀ g ∈ rest, f.Encloses g.uri := by
  rw [show (w.manageFolder options f).1 = ((Manager.new (w.policyFor options f)).manage [f] w.vendor w.world).1 from
    rfl]
  cases hf : f.uri.toFilePath? with
  | none =>
    rw [Manager.manage_of_not_local hf]
    exact ⟨[], rfl, by simp⟩
  | some dir =>
    obtain ⟨roots, hroots, hgroup⟩ := Manager.manage_group (w.policyFor options f) hw hf w.vendor
    obtain ⟨rest, heq, hrest⟩ := Manager.groupOf_eq f dir roots
    refine ⟨rest, hgroup.trans heq, fun g hg => ?_⟩
    obtain ⟨r, hr, hother, hrg⟩ := hrest g hg
    refine ⟨dir, r.path, g, hf, hrg, beq_self_eq_true _, hroots r hr, fun e => ?_⟩
    rw [Path.same_iff.mpr e.symm] at hother
    cases hother

theorem manageFolder_closed (hw : w.world.files.Closed) (options : Option Json) (f : Folder) :
    (w.manageFolder options f).2.world.files.Closed := by
  obtain ⟨_, hscan, _⟩ := manageFolder_scans w options f
  exact hscan.wrote.closed hw

theorem manageDeps_closed (hw : w.world.files.Closed) (fs : List Folder) (options : Option Json) :
    (w.manageDeps fs options).2.world.files.Closed := by
  cases hopen : w.session.closed with
  | true =>
    rw [manageDeps_of_closed hopen]
    exact hw
  | false =>
    obtain ⟨_, hscan, _⟩ := manageDeps_scans hopen fs options (fun _ => True) fun _ _ _ => trivial
    exact hscan.wrote.closed hw

/-- The addresses that managing folders returns: at least those of the folders, and beyond them only such as
    one of them encloses. -/
theorem manageAll_lists (hw : w.world.files.Closed) (options : Option Json) (fs found : List Folder) (u : Url) :
    (Folder.Lists u found ∨ Folder.Lists u fs → Folder.Lists u (w.manageAll options fs found).1) ∧
      (Folder.Lists u (w.manageAll options fs found).1 →
        Folder.Lists u found ∨ Folder.Lists u fs ∨ ∃ f ∈ fs, f.Encloses u) := by
  induction fs generalizing w found with
  | nil =>
    exact ⟨fun h => h.elim id fun h => absurd h (Folder.not_lists_nil u), Or.inl⟩
  | cons f fs ih =>
    obtain ⟨rest, hgroup, hrest⟩ := manageFolder_group hw options f
    obtain ⟨hto, hfrom⟩ := ih (manageFolder_closed hw options f) (Folder.addNew found (w.manageFolder options f).1)
    have hfound : Folder.Lists u (Folder.addNew found (w.manageFolder options f).1) ↔
        Folder.Lists u found ∨ f.uri.same u = true ∨ Folder.Lists u rest := by
      rw [Folder.lists_addNew, hgroup, Folder.lists_cons]
    rw [manageAll, Folder.lists_cons]
    constructor
    · rintro (h | h | h)
      · exact hto (Or.inl (hfound.mpr (Or.inl h)))
      · exact hto (Or.inl (hfound.mpr (Or.inr (Or.inl h))))
      · exact hto (Or.inr h)
    · intro h
      rcases hfrom h with h | h | ⟨g, hg, hu⟩
      · rcases hfound.mp h with h | h | ⟨g, hg, hu⟩
        · exact Or.inl h
        · exact Or.inr (Or.inl (Or.inl h))
        · exact Or.inr (Or.inr ⟨f, List.mem_cons_self .., (hrest g hg).of_same hu⟩)
      · exact Or.inr (Or.inl (Or.inr h))
      · exact Or.inr (Or.inr ⟨g, List.mem_cons_of_mem _ hg, hu⟩)

/-- What an open session tracks once folders were managed. -/
theorem manageDeps_folders (hopen : w.session.closed = false) (fs : List Folder) (options : Option Json) :
    (w.manageDeps fs options).2.session.folders = Folder.addNew w.session.folders (w.manageAll options fs []).1 := by
  obtain ⟨_, _, hsession⟩ := @manageAll_scans _ w options fs [] (fun _ => True) fun _ _ _ => trivial
  simp only [manageDeps, hopen, Bool.false_eq_true, if_false, Session.addFolders, hsession]

end Workspace

end GoAtlas
