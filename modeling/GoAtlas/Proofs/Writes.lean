/-
  GoAtlas.Proofs.Writes — the module files that management writes.

  `Wrote t ds t'` says that `t'` comes from `t` by writing a module file in each of the directories `ds`,
  in order, each where there was none. Everything that management does to the files is of this form:
  - `createAll_wrote`: creating roots writes module files exactly in the directories it reports.
  - `Wrote.contents_other` / `Wrote.contents_written`: no other file changes, and each directory has its
    module file at the end, which it had not before.
  - `Wrote.pairwise`: no directory is written to twice.
  - `createAll_made`: without the go command, the roots that are directories are created, and are module roots then.
-/
import GoAtlas.Module.Manager
import GoAtlas.Proofs.Walk

namespace GoAtlas

open GoAtlas.Module

theorem Workbench.shows (w : Workbench Tree) : Shows w w.files := ⟨fun _ => rfl, fun _ => rfl⟩

/-- The segments of a directory's module file. -/
def moduleFileOf (dir : Segments) : Segments := dir ++ [Octets.ofText moduleFile]

theorem segments_moduleFile (d : Path) : (d.join moduleFile).segments = moduleFileOf d.segments :=
  d.segments_join_step isStep_moduleFile

theorem moduleFileOf_inj {a b : Segments} (h : moduleFileOf a = moduleFileOf b) : a = b := by
  simpa [moduleFileOf] using h

/-! ## Trees with module files written -/

inductive Wrote : Tree → List Path → Tree → Prop
  | none (t : Tree) : Wrote t [] t
  | write {t t' : Tree} {d : Path} {ds : List Path} (name : String) : t.isModule d.segments = false →
      (d.segments ≠ [] → d.segments ∈ t.dirs) →
      Wrote (t.putFile (d.join moduleFile) (Text.bytesOf (directive name))) ds t' → Wrote t (d :: ds) t'

namespace Tree

/-- Writing a module file makes its directory a module root and no other. -/
theorem isModule_putFile (t : Tree) (d : Path) (b : Text.Bytes) (q : Segments) :
    (t.putFile (d.join moduleFile) b).isModule q = (decide (q = d.segments) || t.isModule q) := by
  have h : (q ++ [Octets.ofText moduleFile] = moduleFileOf d.segments) ↔ q = d.segments := by simp [moduleFileOf]
  unfold isModule
  rw [hasAt_putFile, segments_moduleFile, decide_eq_decide.mpr h]

end Tree

namespace Wrote

variable {t t' t'' : Tree} {ds es : List Path}

theorem append (h : Wrote t ds t') (h' : Wrote t' es t'') : Wrote t (ds ++ es) t'' := by
  induction h with
  | none t => exact h'
  | write name hm hd _ ih => exact .write name hm hd (ih h')

theorem dirs_eq (h : Wrote t ds t') : t'.dirs = t.dirs := by
  induction h with
  | none t => rfl
  | write _ _ _ _ ih => exact ih

theorem closed (h : Wrote t ds t') (ht : t.Closed) : t'.Closed := by
  induction h with
  | none t => exact ht
  | @write t t' d ds name _ hd _ ih =>
    refine ih (ht.putFile _ _ fun e n he h0 => ?_)
    rw [segments_moduleFile, moduleFileOf] at he
    obtain ⟨rfl, _⟩ := List.append_inj' he rfl
    exact hd h0

/-- The module roots afterwards are those before and those written. -/
theorem isModule_iff (h : Wrote t ds t') {q : Segments} :
    t'.isModule q = true ↔ t.isModule q = true ∨ ∃ d ∈ ds, d.segments = q := by
  induction h with
  | none t => simp
  | @write t t' d ds name hm _ _ ih =>
    rw [ih, Tree.isModule_putFile, Bool.or_eq_true, decide_eq_true_iff]
    constructor
    · intro h
      rcases h with (rfl | h) | ⟨e, he, rfl⟩
      · exact Or.inr ⟨d, List.mem_cons_self .., rfl⟩
      · exact Or.inl h
      · exact Or.inr ⟨e, List.mem_cons_of_mem _ he, rfl⟩
    · intro h
      rcases h with h | ⟨e, he, rfl⟩
      · exact Or.inl (Or.inr h)
      · rcases List.mem_cons.mp he with rfl | he
        · exact Or.inl (Or.inl rfl)
        · exact Or.inr ⟨e, he, rfl⟩

/-- No directory that is written to is a module root before. -/
theorem not_isModule (h : Wrote t ds t') {d : Path} (hd : d ∈ ds) : t.isModule d.segments = false := by
  induction h with
  | none t => cases hd
  | @write t t' e ds name hm _ _ ih =>
    rcases List.mem_cons.mp hd with rfl | hd
    · exact hm
    · have := ih hd
      rw [Tree.isModule_putFile, Bool.or_eq_false_iff] at this
      exact this.2

theorem pairwise (h : Wrote t ds t') : ds.Pairwise fun a b => a.segments ≠ b.segments := by
  induction h with
  | none t => exact .nil
  | @write t t' d ds name hm _ hw ih =>
    refine List.pairwise_cons.mpr ⟨fun e he hde => ?_, ih⟩
    have := hw.not_isModule he
    rw [Tree.isModule_putFile, hde] at this
    simp at this

theorem contents_other (h : Wrote t ds t') {q : Segments} (hq : ∀ d ∈ ds, q ≠ moduleFileOf d.segments) :
    t'.contents? q = t.contents? q := by
  induction h with
  | none t => rfl
  | @write t t' d ds name hm _ _ ih =>
    rw [ih fun e he => hq e (List.mem_cons_of_mem _ he), Tree.contents?_putFile, segments_moduleFile,
      if_neg (hq d (List.mem_cons_self ..))]

theorem contents_written (h : Wrote t ds t') {d : Path} (hd : d ∈ ds) :
    t.contents? (moduleFileOf d.segments) = .none ∧
      ∃ name, t'.contents? (moduleFileOf d.segments) = some (Text.bytesOf (directive name)) := by
  constructor
  · have := h.not_isModule hd
    unfold Tree.isModule Tree.hasAt at this
    simp only [Bool.or_eq_false_iff, Option.isSome_eq_false_iff, Option.isNone_iff_eq_none] at this
    exact this.1
  · induction h with
    | none t => cases hd
    | @write t t' e ds name hm hdir hw ih =>
      by_cases hin : d ∈ ds
      · exact ih hin
      · -- the first of the directories, which no later one is
        have hde : d = e := (List.mem_cons.mp hd).resolve_right hin
        subst hde
        have hne : ∀ e ∈ ds, moduleFileOf d.segments ≠ moduleFileOf e.segments := fun e he he' => by
          have := (List.pairwise_cons.mp (Wrote.write name hm hdir hw).pairwise).1 e he
          exact this (moduleFileOf_inj he')
        refine ⟨name, ?_⟩
        rw [hw.contents_other hne, Tree.contents?_putFile, segments_moduleFile, if_pos rfl]

end Wrote

/-! ## What creating a module does -/

namespace Module

theorem listOrEmpty_state (dir : Path) (w : Workbench Tree) : (listOrEmpty dir w).2 = w := by
  unfold listOrEmpty
  rw [w.shows.list]
  cases w.files.list dir <;> rfl

theorem firstBelow?_state (ds : List Path) (w : Workbench Tree) : (firstBelow? ds w).2 = w := by
  induction ds with
  | nil => rfl
  | cons d ds ih =>
    simp only [firstBelow?, listOrEmpty_state]
    split
    · rfl
    · exact ih

theorem modulePath_state (folder : Path) (w : Workbench Tree) : (modulePath folder w).2 = w := by
  have hd : (declaredPath? folder w).2 = w := by
    simp only [declaredPath?, listOrEmpty_state]
    split
    · rfl
    · have hf := firstBelow?_state
        (((listOrEmpty folder w).1.filter (·.isDir)).map fun e => folder.join e.name) w
      split <;> rename_i heq <;> rw [heq] at hf <;> exact hf
  unfold modulePath
  split <;> rename_i heq <;> rw [heq] at hd <;> exact hd

/-- A module file is written where there is none, or nothing changes. -/
theorem writeModuleFile_cases (dir : Path) (name : String) (w : Workbench Tree) :
    (∃ r, writeModuleFile dir name w = (r, w) ∧ r ≠ .ok true) ∨
      w.files.isModule dir.segments = false ∧ (dir.segments ≠ [] → dir.segments ∈ w.files.dirs) ∧
        writeModuleFile dir name w = (.ok true,
          { w with files := w.files.putFile (dir.join moduleFile) (Text.bytesOf (directive name)) }) := by
  unfold writeModuleFile
  rw [hasModuleFile_eq w.shows]
  cases hm : w.files.isModule dir.segments with
  | true => exact Or.inl ⟨.ok false, rfl, by simp⟩
  | false =>
    cases hw : w.files.write (dir.join moduleFile) (Text.bytesOf (directive name)) with
    | error e =>
      refine Or.inl ⟨.error e, ?_, by simp⟩
      simp [FileSystem.write, Tree.change, hw, Workbench.onFiles]
    | ok t =>
      obtain ⟨rfl, hin⟩ := Tree.write_ok_iff hw
      refine Or.inr ⟨rfl, hin _ _ (segments_moduleFile dir), ?_⟩
      simp [FileSystem.write, Tree.change, hw, Workbench.onFiles]

/-- Creating a module writes a module file where there is none and says so, or leaves the files alone. -/
theorem createModule_cases (policy : Policy) (dir : Path) (w : Workbench Tree) :
    ((createModule policy dir w).2.files = w.files ∧ (createModule policy dir w).1 ≠ .ok true) ∨
      ∃ name, w.files.isModule dir.segments = false ∧ (dir.segments ≠ [] → dir.segments ∈ w.files.dirs) ∧
        (createModule policy dir w).1 = .ok true ∧
        (createModule policy dir w).2.files =
          w.files.putFile (dir.join moduleFile) (Text.bytesOf (directive name)) := by
  simp only [createModule, modulePath_state]
  cases policy.install with
  | true =>
    left
    simp only [if_true, Toolchain.modInit]
    cases (w.go.run dir ("mod init " ++ (modulePath dir w).1)).1 <;> exact ⟨rfl, by simp⟩
  | false =>
    simp only [Bool.false_eq_true, if_false]
    rcases writeModuleFile_cases dir (modulePath dir w).1 w with ⟨r, hr, hne⟩ | ⟨hm, hdir, hr⟩
    · left
      rw [hr]
      cases r with
      | error e => exact ⟨rfl, by simp⟩
      | ok wrote => exact ⟨rfl, fun e => hne (by simpa using e)⟩
    · right
      rw [hr]
      exact ⟨_, hm, hdir, rfl, rfl⟩

/-- Creating roots writes module files in the directories that it reports, and changes nothing else. -/
theorem createAll_wrote (policy : Policy) (rs : List ModuleRoot) (w : Workbench Tree) :
    Wrote w.files (createAll policy rs w).2.1 (createAll policy rs w).2.2.files := by
  induction rs generalizing w with
  | nil => exact .none _
  | cons r rs ih =>
    have hc := createModule_cases policy r.path w
    simp only [createAll]
    rcases hcm : createModule policy r.path w with ⟨e | wrote, w'⟩ <;> rw [hcm] at hc
    · rcases hc with ⟨hf, _⟩ | ⟨_, _, _, he, _⟩
      · simp only at hf ⊢
        rw [← hf]
        exact ih w'
      · cases he
    · have ih' := ih w'
      rcases hc with ⟨hf, hne⟩ | ⟨name, hm, hdir, hok, hf⟩
      · have hw : wrote = false := by simpa using hne
        simp only at hf
        simpa [hw, hf] using ih'
      · have hw : wrote = true := by simpa using hok
        simp only at hf
        rw [hf] at ih'
        simpa [hw] using Wrote.write name hm hdir ih'

/-- Only roots that were to be created are, in their order. -/
theorem createAll_sublist (policy : Policy) (rs : List ModuleRoot) (w : Workbench Tree) :
    (createAll policy rs w).1.Sublist rs := by
  induction rs generalizing w with
  | nil => exact List.nil_sublist _
  | cons r rs ih =>
    rw [createAll]
    split
    · exact (ih _).cons r
    · exact (ih _).cons_cons r

/-- Module files are written for roots that were to be created, in their order. -/
theorem createAll_written_sublist (policy : Policy) (rs : List ModuleRoot) (w : Workbench Tree) :
    (createAll policy rs w).2.1.Sublist (rs.map (·.path)) := by
  induction rs generalizing w with
  | nil => exact .slnil
  | cons r rs ih =>
    simp only [createAll]
    split
    · exact (ih _).cons _
    · simp only
      split
      · exact (ih _).cons_cons _
      · exact (ih _).cons _

/-- Without the go command, a directory is a module root afterwards; a module file is written if it was none. -/
theorem createModule_of_dir {policy : Policy} (hp : policy.install = false) {dir : Path} {w : Workbench Tree}
    (h0 : dir.segments ≠ []) (hdir : dir.segments ∈ w.files.dirs) :
    (createModule policy dir w).1 = .ok (!w.files.isModule dir.segments) := by
  have hw := Tree.write_eq_ok (segments_moduleFile dir) h0 hdir
    (Text.bytesOf (directive (modulePath dir w).1))
  cases hm : w.files.isModule dir.segments with
  | true => simp [createModule, modulePath_state, hp, writeModuleFile, hasModuleFile_eq w.shows, hm]
  | false =>
    simp [createModule, modulePath_state, hp, writeModuleFile, hasModuleFile_eq w.shows, hm, FileSystem.write,
      Tree.change, hw, Workbench.onFiles]

/-- A module root is a directory. -/
theorem dir_of_isModule {t : Tree} (ht : t.Closed) {q : Segments} (h0 : q ≠ []) (h : t.isModule q = true) :
    q ∈ t.dirs := by
  rw [Tree.isModule, Tree.hasAt, Bool.or_eq_true, List.contains_iff_mem] at h
  rcases h with h | h
  · exact ht.dir_of_contents h h0
  · exact ht.mem_of_append h0 h

/-- Without the go command no module is made where no directory is. -/
theorem createModule_absent {policy : Policy} (hp : policy.install = false) {dir : Path} {w : Workbench Tree}
    (ht : w.files.Closed) (h0 : dir.segments ≠ []) (hdir : dir.segments ∉ w.files.dirs) :
    ∃ e, createModule policy dir w = (.error e, w) := by
  have hm : w.files.isModule dir.segments = false := Bool.eq_false_iff.mpr fun h => hdir (dir_of_isModule ht h0 h)
  cases hw : w.files.write (dir.join moduleFile) (Text.bytesOf (directive (modulePath dir w).1)) with
  | error e =>
    refine ⟨.files e, ?_⟩
    simp [createModule, modulePath_state, hp, writeModuleFile, hasModuleFile_eq w.shows, hm, FileSystem.write,
      Tree.change, hw, Workbench.onFiles]
  | ok t => exact absurd ((Tree.write_ok_iff hw).2 _ _ (segments_moduleFile dir) h0) hdir

/-- Without the go command, the roots that are directories are created; each is a module root afterwards. -/
theorem createAll_made {policy : Policy} (hp : policy.install = false) {rs : List ModuleRoot} {w : Workbench Tree}
    (ht : w.files.Closed) (hrs : ∀ r ∈ rs, r.path.segments ≠ []) :
    (createAll policy rs w).1 = rs.filter (fun r => w.files.dirs.contains r.path.segments) ∧
      ∀ r ∈ rs, r.path.segments ∈ w.files.dirs → (createAll policy rs w).2.2.files.isModule r.path.segments = true := by
  induction rs generalizing w with
  | nil => exact ⟨rfl, by simp⟩
  | cons r rs ih =>
    have h0 := hrs r (List.mem_cons_self ..)
    have hrs := fun q hq => hrs q (List.mem_cons_of_mem r hq)
    by_cases hdir : r.path.segments ∈ w.files.dirs
    · have hok := createModule_of_dir hp h0 hdir
      have hstep : (createModule policy r.path w).2.files.dirs = w.files.dirs ∧
          (createModule policy r.path w).2.files.Closed ∧
          (createModule policy r.path w).2.files.isModule r.path.segments = true := by
        rcases createModule_cases policy r.path w with ⟨hf, hne⟩ | ⟨name, hm, hin, _, hf⟩ <;> rw [hf]
        · rw [hok] at hne
          exact ⟨rfl, ht, by simpa using hne⟩
        · refine ⟨rfl, (Wrote.write name hm hin (.none _)).closed ht, ?_⟩
          rw [Tree.isModule_putFile, decide_eq_true rfl, Bool.true_or]
      rcases hcm : createModule policy r.path w with ⟨e | wrote, w'⟩ <;> rw [hcm] at hok hstep <;>
        simp only at hok hstep
      · cases hok
      · obtain ⟨hdirs, hclosed, hmodule⟩ := hstep
        obtain ⟨hroots, hmade⟩ := @ih w' hclosed hrs
        rw [hdirs] at hroots hmade
        simp only [createAll, hcm, hroots, List.filter_cons, List.contains_iff_mem.mpr hdir, if_true, true_and]
        refine List.forall_mem_cons.mpr ⟨fun _ => ?_, hmade⟩
        exact (createAll_wrote policy rs w').isModule_iff.mpr (Or.inl hmodule)
    · obtain ⟨e, he⟩ := createModule_absent hp ht h0 hdir
      obtain ⟨hroots, hmade⟩ := @ih w ht hrs
      simp only [createAll, he, hroots]
      refine ⟨by simp [hdir], List.forall_mem_cons.mpr ⟨fun h => absurd h hdir, hmade⟩⟩

end Module

end GoAtlas
