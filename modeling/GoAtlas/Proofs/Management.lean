/-
  GoAtlas.Proofs.Management — what bringing folders under management does to the files.

  Managing folders is one scan after the other, of the folders that are local; between two scans only
  the go command is used, which leaves the files alone (`Scans`). Each policy is that of the folder's
  project, whatever a project may set.
  - `Scans.wrote`: scans write module files and note each of them.
  - `manageFolder_scans` / `manageDeps_scans`: what managing one folder, or many, comes to. The session's
    list of folders to clean up grows by just what was written.
-/
import GoAtlas.Proofs.Coverage
import GoAtlas.Session

namespace GoAtlas

open GoAtlas.Module

/-- The directories of the folders that are local. -/
def localDirs (folders : List Folder) : List Path := folders.filterMap fun f => f.uri.toFilePath?

theorem localDirs_cons (f : Folder) (fs : List Folder) : localDirs (f :: fs) = localDirs [f] ++ localDirs fs := by
  unfold localDirs
  rw [← List.filterMap_append, List.singleton_append]

/-- Scans of directories one after the other, each under a policy that is allowed: the first state, the
    directories written to, the last state. The go command may run before and after each scan. -/
inductive Scans (allowed : Policy → Prop) : List Path → Workbench Tree → List Path → Workbench Tree → Prop
  | none {w w' : Workbench Tree} : w'.files = w.files → Scans allowed [] w [] w'
  | scan {policy : Policy} {d : Path} {ds written : List Path} {w w₁ w' : Workbench Tree} : allowed policy →
      w₁.files = w.files → Scans allowed ds (scan policy d w₁).2 written w' →
      Scans allowed (d :: ds) w (writtenBy (scan policy d w₁).1 ++ written) w'

namespace Scans

variable {allowed allowed' : Policy → Prop} {ds es written more : List Path} {w w' w'' : Workbench Tree}

theorem mono (h : Scans allowed ds w written w') (hok : ∀ p, allowed p → allowed' p) :
    Scans allowed' ds w written w' := by
  induction h with
  | none he => exact .none he
  | scan hp he _ ih => exact .scan (hok _ hp) he ih

theorem of_files (h : Scans allowed ds w written w') (he : w.files = w''.files) : Scans allowed ds w'' written w' := by
  cases h with
  | none hf => exact .none (hf.trans he)
  | scan hp hf h => exact .scan hp (hf.trans he) h

theorem append (h : Scans allowed ds w written w') (h' : Scans allowed es w' more w'') :
    Scans allowed (ds ++ es) w (written ++ more) w'' := by
  induction h with
  | none he => exact h'.of_files he
  | scan hp he _ ih =>
    rw [List.cons_append, List.append_assoc]
    exact .scan hp he (ih h')

theorem wrote (h : Scans allowed ds w written w') : Wrote w.files written w'.files := by
  induction h with
  | none he =>
    rw [he]
    exact .none _
  | @scan policy d ds written w w₁ w' _ he _ ih =>
    rw [← he]
    exact (scan_wrote policy d w₁).append ih

end Scans

/-! ## The manager -/

namespace Manager

/-- Scanning one folder: nothing happens if it is not local. -/
theorem run_scans (m : Manager) (f : Folder) (w : Workbench Tree) :
    ∃ written, Scans (· = m.policy) (localDirs [f]) w written (m.run f w).2.2 ∧
      (m.run f w).2.1.cleanup = m.cleanup ++ written ∧ (m.run f w).2.1.policy = m.policy := by
  unfold run localDirs
  rw [List.filterMap_cons]
  cases f.uri.toFilePath? with
  | none => exact ⟨[], .none rfl, by simp, rfl⟩
  | some dir =>
    have hscan : Scans (· = m.policy) [dir] w (writtenBy (Module.scan m.policy dir w).1 ++ [])
        (Module.scan m.policy dir w).2 := .scan rfl rfl (.none rfl)
    rw [List.append_nil] at hscan
    simp only [manager_scan_eq]
    rcases hs : Module.scan m.policy dir w with ⟨e | ⟨roots, written⟩, w'⟩ <;> rw [hs] at hscan
    all_goals exact ⟨_, hscan, rfl, rfl⟩

theorem runAll_scans (m : Manager) (roots folders : List Folder) (w : Workbench Tree) :
    ∃ written, Scans (· = m.policy) (localDirs roots) w written (m.runAll roots folders w).2.2 ∧
      (m.runAll roots folders w).2.1.cleanup = m.cleanup ++ written ∧
      (m.runAll roots folders w).2.1.policy = m.policy := by
  induction roots generalizing m folders w with
  | nil => exact ⟨[], .none rfl, by simp [runAll], rfl⟩
  | cons r rs ih =>
    obtain ⟨written, hscan, hclean, hpol⟩ := run_scans m r w
    rw [localDirs_cons]
    simp only [runAll]
    rcases hrun : m.run r w with ⟨e | added, m', w'⟩
    all_goals
      rw [hrun] at hscan hclean hpol
      obtain ⟨more, hmore, hclean', hpol'⟩ := ih m' _ w'
      rw [show m'.policy = m.policy from hpol] at hmore hpol'
      refine ⟨written ++ more, hscan.append hmore, ?_, hpol'⟩
      rw [hclean', show m'.cleanup = _ from hclean, List.append_assoc]

theorem downloadAll_files (config : Config) (fs : List Folder) (v : Registry) (w : Workbench Tree) :
    (downloadAll config fs v w).2.files = w.files := by
  induction fs generalizing v w with
  | nil => rfl
  | cons f fs ih =>
    have hone : (downloadOne config f v w).2.files = w.files := by
      unfold downloadOne
      cases f.uri.toFilePath? with
      | none => rfl
      | some dir =>
        rcases hv : v.checkOrRegister w dir with ⟨_ | _, v'⟩
        · simp only [hv, Toolchain.modDownload]
          cases (w.go.run dir "mod download").1 <;> rfl
        · simp only [hv]
    exact (ih _ _).trans hone

theorem manage_scans (m : Manager) (folders : List Folder) (v : Registry) (w : Workbench Tree) :
    ∃ written, Scans (· = m.policy) (localDirs folders) w written (m.manage folders v w).2.2.2 ∧
      (m.manage folders v w).2.1.cleanup = m.cleanup ++ written := by
  obtain ⟨written, hscan, hclean, _⟩ := runAll_scans m folders folders w
  have hdown : (m.manage folders v w).2.2.2.files = (m.runAll folders folders w).2.2.files := by
    simp only [manage, downloadDeps]
    split
    · exact downloadAll_files ..
    · rfl
  have hall := hscan.append (.none hdown)
  rw [List.append_nil, List.append_nil] at hall
  exact ⟨written, hall, hclean⟩

end Manager

/-! ## The session -/

namespace Workspace

variable [ProjectSettings (Workbench Tree)]

/-- The policy under which a folder is managed. -/
def policyFor (w : Workspace (Workbench Tree)) (options : Option Json) (folder : Folder) : Policy :=
  ⟨(w.folderConfig folder).installsFor options, w.folderConfig folder⟩

theorem manageFolder_scans (w : Workspace (Workbench Tree)) (options : Option Json) (folder : Folder) :
    ∃ written, Scans (· = w.policyFor options folder) (localDirs [folder]) w.world written
        (w.manageFolder options folder).2.world ∧
      (w.manageFolder options folder).2.session = { w.session with cleanup := w.session.cleanup ++ written } := by
  obtain ⟨written, hscan, hclean⟩ :=
    Manager.manage_scans (.new (w.policyFor options folder)) [folder] w.vendor w.world
  refine ⟨written, hscan, ?_⟩
  rw [show written = _ from hclean.symm]
  rfl

/-- Managing folders scans the local ones in order, each under its project's policy by then. -/
theorem manageAll_scans (w : Workspace (Workbench Tree)) (options : Option Json) (folders found : List Folder)
    {allowed : Policy → Prop} (hok : ∀ world, ∀ f ∈ folders, allowed (policyFor { w with world := world } options f)) :
    ∃ written, Scans allowed (localDirs folders) w.world written (w.manageAll options folders found).2.world ∧
      (w.manageAll options folders found).2.session =
        { w.session with cleanup := w.session.cleanup ++ written } := by
  induction folders generalizing w found with
  | nil => exact ⟨[], .none rfl, by simp [manageAll]⟩
  | cons f fs ih =>
    obtain ⟨written, hscan, hsession⟩ := manageFolder_scans w options f
    have hfirst := hscan.mono fun p hp => hp ▸ hok w.world f (List.mem_cons_self ..)
    simp only [manageAll]
    rcases hw : w.manageFolder options f with ⟨group, w'⟩
    rw [hw] at hfirst hsession
    simp only at hfirst hsession
    -- the settings that decide the later policies are still the same
    have hrest : ∀ world, ∀ g ∈ fs, allowed (policyFor { w' with world := world } options g) := by
      intro world g hg
      have := hok world g (List.mem_cons_of_mem _ hg)
      unfold policyFor folderConfig configFor Session.config Session.configOver at this ⊢
      rw [hsession]
      exact this
    obtain ⟨more, hmore, hsession'⟩ := ih w' (Folder.addNew found group) hrest
    rw [localDirs_cons]
    refine ⟨written ++ more, hfirst.append hmore, ?_⟩
    rw [hsession', hsession, List.append_assoc]

/-- What an open session does when it is asked to manage folders. -/
theorem manageDeps_scans {w : Workspace (Workbench Tree)} (hopen : w.session.closed = false)
    (folders : List Folder) (options : Option Json) (allowed : Policy → Prop)
    (hok : ∀ world, ∀ f ∈ folders, allowed (policyFor { w with world := world } options f)) :
    ∃ written, Scans allowed (localDirs folders) w.world written (w.manageDeps folders options).2.world ∧
      (w.manageDeps folders options).2.session.cleanup = w.session.cleanup ++ written ∧
      (w.manageDeps folders options).2.session.closed = false := by
  obtain ⟨written, hscan, hsession⟩ := manageAll_scans w options folders [] hok
  simp only [manageDeps, hopen, Bool.false_eq_true, if_false]
  refine ⟨written, hscan, ?_, ?_⟩
  · simp only [Session.addFolders, hsession]
  · simp only [Session.addFolders, hsession, hopen]

/-- A closed session manages nothing. -/
theorem manageDeps_of_closed {w : Workspace (Workbench Tree)} (h : w.session.closed = true) (folders : List Folder)
    (options : Option Json) : w.manageDeps folders options = (folders, w) := by
  simp [manageDeps, h]

end Workspace

end GoAtlas
