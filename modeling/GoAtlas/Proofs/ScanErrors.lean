/-
  GoAtlas.Proofs.ScanErrors — where a scan fails, and what it leaves then.

  The walk for module roots lists the folder and every directory that it enters; the second pass stops at
  more places, but does not pass over a vendor directory by its name.
  - `walkBelow_error`: where all that is reached is reached by texts, a walk fails only with the failure of a
    directory that it enters.
  - `scan_readable_cases`: either the first pass fails, or both passes succeed.
  - `scan_fails_iff_blocked`: a scan fails exactly in the first case, and changes nothing then.
  - `scan_fails_strayTree`: elsewhere it may fail though every directory can be listed.
-/
import GoAtlas.Proofs.Coverage

namespace GoAtlas

open GoAtlas.Module

/-! ## The failure of a walk -/

section Walk

variable {σ ε α : Type} {s : σ}

/-- Visits that change nothing fail with the failure of one of them. -/
theorem collect_error {visit : Path → σ → Except ε (List α) × σ} (hv : ∀ p, (visit p s).2 = s) {ps : List Path}
    {e : ε} (h : (collect visit ps s).1 = .error e) : ∃ p ∈ ps, (visit p s).1 = .error e := by
  induction ps with
  | nil => cases h
  | cons p ps ih =>
    cases hvp : visit p s with
    | mk r s' =>
      have hs : s' = s := (congrArg Prod.snd hvp).symm.trans (hv p)
      rw [hs] at hvp
      cases r with
      | error cause =>
        simp only [collect, hvp] at h
        exact ⟨p, List.mem_cons_self .., by rw [hvp, h]⟩
      | ok xs =>
        simp only [collect, hvp] at h
        rcases hc : collect visit ps s with ⟨cause | ys, s''⟩
        · rw [hc] at h ih
          obtain ⟨q, hq, hqe⟩ := ih h
          exact ⟨q, List.mem_cons_of_mem _ hq, hqe⟩
        · rw [hc] at h
          cases h

variable {list : Path → σ → Except Failure (List Entry) × σ} {skip : String → Bool} {t : Tree}

/-- Where all that is reached is reached by texts, a walk that may go deeper than there are directories fails with
    the failure of its root or of a directory that it reaches. -/
theorem walkBelow_error (hl : ∀ dir, list dir s = (t.list dir, s)) (ht : t.Closed) {depth : Nat} {dir : Path}
    (hd : (t.dirs.filter fun d => dir.segments.isPrefixOf d).length < depth)
    (hlegible : t.Legible skip dir.segments) {e : Failure} (h : (walkBelow list skip depth dir s).1 = .error e) :
    ∃ names, (names = [] ∨ t.Reached skip dir.segments names) ∧ t.list (dir.descend names) = .error e := by
  induction depth generalizing dir with
  | zero => omega
  | succ depth ih =>
    cases hlist : t.list dir with
    | error cause =>
      simp only [walkBelow, hl, hlist] at h
      cases h
      exact ⟨[], Or.inl rfl, hlist⟩
    | ok es =>
      obtain ⟨_, hdir, rfl⟩ := Tree.list_eq_ok.mp hlist
      have hcollect : (collect (walkBelow list skip depth) (subdirectories skip dir (t.entries dir.segments)) s).1 =
          .error e := by
        simp only [walkBelow, hl, hlist] at h
        rcases hc : collect (walkBelow list skip depth) (subdirectories skip dir (t.entries dir.segments)) s with
          ⟨e' | ds, s'⟩ <;> rw [hc] at h
        · exact h
        · cases h
      obtain ⟨c, hc, hce⟩ := collect_error (walkBelow_state skip hl depth) hcollect
      have hbelow := hlegible.subdirectory ht (ht.dirsProper _ hdir).2 hc
      -- fewer directories lie below a subdirectory, so the depth that is left is enough for it
      have hfewer := length_below_subdirectory_lt ht hdir hc
      obtain ⟨n, rfl, hn, hs, hnd⟩ := Tree.mem_subdirectories.mp hc
      have htext : Octets.ofText n.shown = n := hlegible.showsTexts n hn hs hnd
      rw [htext] at hce hbelow hfewer
      have hseg := Path.segments_join_step dir (ht.isStep (ht.dirsProper _ hdir).2 hnd)
      obtain ⟨names, hnames, herr⟩ := ih (by omega) hbelow hce
      refine ⟨n :: names, Or.inr ((Tree.reached_cons ht).mpr ⟨⟨hn, hs, hnd⟩, ?_⟩), herr⟩
      rw [← hseg]
      rcases hnames with rfl | hr
      · exact Tree.reached_nil (hseg ▸ hnd)
      · exact hr

end Walk

/-! ## Directories that cannot be listed -/

/-- The names lead from the folder to a directory that cannot be listed, and none of them is hidden or
    `vendor`; no names, if it is the folder itself. -/
structure Blocked (t : Tree) (folder : Path) (names : Segments) (cause : Failure) : Prop where
  entered : ∀ n ∈ names, isPassedOver n.shown = false
  there : names = [] ∨ folder.segments ++ names ∈ t.dirs
  refused : t.list (folder.descend names) = .error cause

namespace Blocked

variable {t : Tree} {folder : Path} {names : Segments} {cause : Failure}

theorem of_reached (h : names = [] ∨ t.Reached isPassedOver folder.segments names)
    (he : t.list (folder.descend names) = .error cause) : Blocked t folder names cause := by
  rcases h with rfl | h
  · exact ⟨by simp, Or.inl rfl, he⟩
  · exact ⟨fun n hn => (h.1 n hn).2, Or.inr h.2, he⟩

theorem not_readable (h : Blocked t folder names cause) (ht : t.Closed)
    (hlegible : t.Legible isPassedOver folder.segments) : ¬t.Readable isPassedOver folder.segments := by
  rw [hlegible.readable_iff]
  intro hread
  have h0 := (ht.dirsProper _ hread.1).2
  have hdir : folder.segments ++ names ∈ t.dirs := by
    rcases h.there with rfl | hdir
    · rw [List.append_nil]
      exact hread.1
    · exact hdir
  have hsteps := ht.isSteps h0 hdir
  have hreach : t.Reached isPassedOver folder.segments names := ⟨fun n hn =>
    ⟨Tree.isName_of_not_isHidden (hsteps n hn) (isHidden_of_not_isPassedOver (h.entered n hn)), h.entered n hn⟩, hdir⟩
  have hok : t.list (folder.descend names) = .ok (t.entries (folder.descend names).segments) := by
    rw [Tree.list_eq_ok, Path.segments_descend hsteps]
    exact ⟨hread.2 names hreach, hdir, rfl⟩
  rw [h.refused] at hok
  cases hok

end Blocked

/-! ## Scans -/

variable {w : Workbench Tree} {folder : Path}

/-- The walk for module roots fails with the failure of a directory that cannot be listed. -/
theorem findModuleRoots_blocked (ht : w.files.Closed) (hlegible : w.files.Legible isPassedOver folder.segments)
    {e : ScanError} (h : (findModuleRoots folder w).1 = .error e) :
    ∃ names cause, Blocked w.files folder names cause ∧ e = .walk folder cause := by
  have hwalk : FileSystem.walk (fun name => isHidden name || name == vendorDir) folder w =
      ((walkBelow FileSystem.list isPassedOver (w.files.dirs.length + 1) folder w.files).1, w) := walk_eq w _ folder
  cases hb : (walkBelow FileSystem.list isPassedOver (w.files.dirs.length + 1) folder w.files).1 with
  | error cause =>
    simp only [findModuleRoots, hwalk, hb] at h
    cases h
    obtain ⟨names, hnames, herr⟩ :=
      walkBelow_error w.files.shows.list ht (Nat.lt_succ_of_le (List.length_filter_le ..)) hlegible hb
    exact ⟨names, cause, .of_reached hnames herr, rfl⟩
  | ok ds =>
    simp only [findModuleRoots, hwalk, hb] at h
    cases h

/-- Either the first pass of a scan fails, or both passes succeed. -/
theorem scan_readable_cases (ht : w.files.Closed) (folder : Path) :
    ¬w.files.Readable isPassedOver folder.segments ∧ (∃ e, findModuleRoots folder w = (.error e, w)) ∨
      w.files.Readable isPassedOver folder.segments ∧
        ∃ ds u, findModuleRoots folder w = (.ok ds, w) ∧ findUncovered folder w = (.ok u, w) := by
  rcases findModuleRoots_cases ht folder with ⟨hno, e, he⟩ | ⟨hread, ds, hds, hroots⟩
  · exact Or.inl ⟨hno, _, he⟩
  · obtain ⟨found, hfound⟩ := findingsBelow_ok w.files.shows.list w.shows hds
    have hpass : findingsBelow (FileSystem.maxDepth w) folder w = (.ok found, w) := hfound
    exact Or.inr ⟨hread, _, .ofFindings found, hroots, by simp only [findUncovered, hpass]⟩

/-- A scan fails exactly if the folder, or a directory that is entered from it, cannot be listed or shows a name
    that nothing has. So where all that is reached is reached by texts, it fails exactly if the folder, or a
    directory below it that is reached through names neither hidden nor `vendor`, cannot be listed, and with that
    directory's failure. A scan that fails changes neither the files, nor the calls of the go command, nor what
    the manager has noted. Where the first pass succeeds, so does the second. -/
theorem scan_fails_iff_blocked (m : Manager) (hw : w.files.Built) (folder : Path) :
    ((∃ e, (m.scan folder w).1 = .error e) ↔ ¬w.files.Readable isPassedOver folder.segments) ∧
      (w.files.Legible isPassedOver folder.segments →
        ((∃ e, (m.scan folder w).1 = .error e) ↔ ∃ names cause, Blocked w.files folder names cause) ∧
        ∀ e, (m.scan folder w).1 = .error e →
          ∃ names cause, Blocked w.files folder names cause ∧ e = .walk folder cause) ∧
      (∀ e, (m.scan folder w).1 = .error e → (m.scan folder w).2 = (m, w)) ∧
      ∀ ds w', findModuleRoots folder w = (.ok ds, w') → ∃ u, findUncovered folder w' = (.ok u, w') := by
  rcases scan_readable_cases hw.closed folder with ⟨hno, e, hroots⟩ | ⟨hread, ds, u, hroots, hunc⟩
  · have hscan : m.scan folder w = (.error e, m, w) := by
      simp only [Manager.scan, scan, hroots]
    rw [hscan, hroots]
    refine ⟨iff_of_true ⟨_, rfl⟩ hno, fun hlegible => ?_, fun _ _ => rfl, fun ds w' h => by cases h⟩
    have hblocked := findModuleRoots_blocked hw.closed hlegible (congrArg Prod.fst hroots)
    refine ⟨iff_of_true ⟨_, rfl⟩ ?_, fun e' he => ?_⟩
    · obtain ⟨names, cause, hblocked, -⟩ := hblocked
      exact ⟨names, cause, hblocked⟩
    · cases he
      exact hblocked
  · have hscan : ∀ e, (m.scan folder w).1 ≠ .error e := by
      intro e he
      simp only [Manager.scan, scan, hroots, hunc] at he
      cases he
    refine ⟨iff_of_false (not_exists.mpr hscan) (not_not_intro hread), fun hlegible => ?_,
      fun e he => absurd he (hscan e), fun ds' w' h => ?_⟩
    · refine ⟨iff_of_false (not_exists.mpr hscan) fun h => ?_, fun e he => absurd he (hscan e)⟩
      obtain ⟨names, cause, hblocked⟩ := h
      exact hblocked.not_readable hw.closed hlegible hread
    · rw [hroots] at h
      cases h
      exact ⟨u, hunc⟩

-- the second pass stops above a vendor directory, so neither pass lists it
example : ((Manager.new ⟨false, .default⟩).scan ⟨"/ws"⟩
    (⟨(Tree.empty.addFile ⟨"/ws/vendor/a/a.go"⟩ .empty).lock ⟨"/ws/vendor"⟩, ⟨[], []⟩⟩ : Workbench Tree)).1.isOk =
      true := by
  decide +kernel

/-- A library with a directory that cannot be listed. -/
def lockedLibrary : Workbench Tree :=
  ⟨(Tree.empty.addFile ⟨"/ws/lib/inner/a.go"⟩ .empty).lock ⟨"/ws/lib/inner"⟩, ⟨[], []⟩⟩

theorem a_locked_directory_fails_the_scan : lockedLibrary.files.Built ∧
    lockedLibrary.files.Legible isPassedOver (⟨"/ws"⟩ : Path).segments ∧
    Blocked lockedLibrary.files ⟨"/ws"⟩ ["lib", "inner"] (.permissionDenied ⟨"/ws/lib/inner"⟩) ∧
    ∃ e, ((Manager.new ⟨false, .default⟩).scan ⟨"/ws"⟩ lockedLibrary).1 = .error e := by
  have hbuilt : lockedLibrary.files.Built := .lock _ (.addFile _ _ .empty)
  have hlegible : lockedLibrary.files.Legible isPassedOver (⟨"/ws"⟩ : Path).segments := .of_dirs (by decide +kernel)
  have hblocked : Blocked lockedLibrary.files ⟨"/ws"⟩ ["lib", "inner"] (.permissionDenied ⟨"/ws/lib/inner"⟩) :=
    ⟨by decide +kernel, Or.inr (by decide +kernel), by rfl⟩
  obtain ⟨_, hfails, _, _⟩ := scan_fails_iff_blocked (.new ⟨false, .default⟩) hbuilt ⟨"/ws"⟩
  exact ⟨hbuilt, hlegible, hblocked, (hfails hlegible).1.mpr ⟨_, _, hblocked⟩⟩

/-- The scan fails, though the folder and every directory below it can be listed. -/
theorem scan_fails_strayTree : Tree.strayTree.Built ∧ (∀ d ∈ Tree.strayTree.dirs, d ∉ Tree.strayTree.unreadable) ∧
    ((Manager.new ⟨false, .default⟩).scan ⟨"/ws"⟩ (⟨.strayTree, ⟨[], []⟩⟩ : Workbench Tree)).1 =
      .error (.walk ⟨"/ws"⟩ (.directoryNotFound ⟨"/ws/\uFFFD"⟩)) :=
  ⟨.addDir _ .empty, by simp [Tree.strayTree, Tree.addDir, Tree.addDirs, Tree.empty], rfl⟩

end GoAtlas
