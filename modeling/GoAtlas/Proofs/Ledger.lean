/-
  GoAtlas.Proofs.Ledger — the module files of a session, over all it may be asked to do.

  A session notes the folders that it wrote module files to; `clean` takes the files away and closes it.
  `Operation` is whatever a client can ask for, `Workspace.run` a sequence of that from a new session.
  - `run_open` / `run_closed`: what holds until the session is cleaned up, and from then on.
  - `run_ledger`: while a session is open, what is new are exactly the module files of the folders noted,
    each noted once; once it is closed nothing is new any more, and nothing changes.
  - `run_keeps`: a file that was there at the start keeps its contents, unless it is the checksum file of
    a folder noted when the session was cleaned up: that one is gone.
  - `a_checksum_file_is_removed`: a session removes a checksum file that it did not write.
-/
import GoAtlas.Proofs.Management

namespace GoAtlas

open GoAtlas.Module

/-! ## Removing module files -/

/-- The segments of a directory's checksum file. -/
def sumFileOf (dir : Segments) : Segments := dir ++ [Octets.ofText sumFile]

theorem segments_sumFile (d : Path) : (d.join sumFile).segments = sumFileOf d.segments :=
  d.segments_join_step (by decide : Path.IsStep (.ofText sumFile))

theorem contents?_removeIfPresent (p : Path) (w : Workbench Tree) (q : Segments) :
    (removeIfPresent p w).files.contents? q = if q = p.segments then none else w.files.contents? q := by
  unfold removeIfPresent
  split
  · exact w.files.contents?_remove p q
  · rename_i h
    split
    · rename_i e
      rw [w.shows.present, Tree.has, Bool.or_eq_true, not_or] at h
      rw [e]
      exact Option.not_isSome_iff_eq_none.mp h.1
    · rfl

/-- Cleaning up takes away the module files and the checksum files of the folders, and nothing else. -/
theorem contents?_cleanupFolders (ds : List Path) (w : Workbench Tree) (q : Segments) :
    (cleanupFolders ds w).files.contents? q =
      if ∃ d ∈ ds, q = moduleFileOf d.segments ∨ q = sumFileOf d.segments then none else w.files.contents? q := by
  induction ds generalizing w with
  | nil => simp [cleanupFolders]
  | cons d ds ih =>
    have hstep : cleanupFolders (d :: ds) w = cleanupFolders ds (removeModuleFiles d w) := rfl
    rw [hstep, ih, removeModuleFiles, contents?_removeIfPresent, contents?_removeIfPresent, segments_moduleFile,
      segments_sumFile]
    by_cases hd : q = moduleFileOf d.segments
    · simp [hd]
    by_cases hs : q = sumFileOf d.segments
    · simp [hs]
    simp [hd, hs]

/-! ## What a session owes -/

namespace Workspace

/-- An open session has written the module files of the folders it notes, and no other file. -/
structure Open (start : Tree) (w : Workspace (Workbench Tree)) : Prop where
  isOpen : w.session.closed = false
  wrote : Wrote start w.session.cleanup w.world.files

/-- A new session. -/
def begun (base : Config) (vendor : Registry) (world : Workbench Tree) : Workspace (Workbench Tree) :=
  ⟨.new base, vendor, world⟩

theorem begun_open (base : Config) (vendor : Registry) (world : Workbench Tree) :
    Open world.files (begun base vendor world) := ⟨rfl, .none _⟩

/-- Cleaning up brings the files back to the start, but for the checksum files of the folders noted. -/
theorem Open.contents?_clean {start : Tree} {w : Workspace (Workbench Tree)} (h : Open start w) (q : Segments) :
    w.clean.world.files.contents? q =
      if ∃ d ∈ w.session.cleanup, q = sumFileOf d.segments then none else start.contents? q := by
  have hclean := contents?_cleanupFolders w.session.cleanup w.world q
  by_cases hs : ∃ d ∈ w.session.cleanup, q = sumFileOf d.segments
  · obtain ⟨d, hd, e⟩ := hs
    rw [if_pos ⟨d, hd, Or.inr e⟩] at hclean
    rw [if_pos ⟨d, hd, e⟩]
    exact hclean
  rw [if_neg hs]
  by_cases hm : ∃ d ∈ w.session.cleanup, q = moduleFileOf d.segments
  · -- a module file that was written was not there at the start
    obtain ⟨d, hd, e⟩ := hm
    rw [if_pos ⟨d, hd, Or.inl e⟩] at hclean
    rw [e, (h.wrote.contents_written hd).1, ← e]
    exact hclean
  · have hno : ¬∃ d ∈ w.session.cleanup, q = moduleFileOf d.segments ∨ q = sumFileOf d.segments := by
      intro h
      rcases h with ⟨d, hd, e | e⟩
      · exact hm ⟨d, hd, e⟩
      · exact hs ⟨d, hd, e⟩
    rw [if_neg hno, h.wrote.contents_other fun d hd e => hm ⟨d, hd, e⟩] at hclean
    exact hclean

end Workspace

/-! ## Operations -/

inductive Operation where
  | setOptions (options : Option Json)
  | setSettings (settings : Json)
  | addFolders (folders : List Folder)
  | removeFolders (folders : List Folder)
  | manage (folders : List Folder) (options : Option Json)
  | clean

def Operation.isClean : Operation → Bool
  | .clean => true
  | _ => false

theorem exists_first_clean {ops : List Operation} (h : ops.any Operation.isClean = true) :
    ∃ before after, ops = before ++ .clean :: after ∧ before.any Operation.isClean = false := by
  induction ops with
  | nil => cases h
  | cons op ops ih =>
    cases hop : op.isClean with
    | true =>
      cases op <;> cases hop
      exact ⟨[], ops, rfl, rfl⟩
    | false =>
      rw [List.any_cons, hop, Bool.false_or] at h
      obtain ⟨before, after, rfl, hb⟩ := ih h
      exact ⟨op :: before, after, rfl, by simp [hop, hb]⟩

namespace Workspace

variable [ProjectSettings (Workbench Tree)]

def step (w : Workspace (Workbench Tree)) : Operation → Workspace (Workbench Tree)
  | .setOptions options => w.onSession (·.setInitializationOptions options)
  | .setSettings settings => w.onSession (·.setWorkspaceSettings settings)
  | .addFolders folders => w.onSession (·.addFolders folders)
  | .removeFolders folders => w.onSession (·.removeFolders folders)
  | .manage folders options => (w.manageDeps folders options).2
  | .clean => w.clean

def run (w : Workspace (Workbench Tree)) (ops : List Operation) : Workspace (Workbench Tree) := ops.foldl step w

/-! ## Until the session is cleaned up -/

variable {start : Tree} {w : Workspace (Workbench Tree)}

/-- Only cleaning up ends it. -/
theorem Open.step (h : Open start w) {op : Operation} (hop : op.isClean = false) : Open start (w.step op) := by
  cases op with
  | setOptions options => exact ⟨h.isOpen, h.wrote⟩
  | setSettings settings => exact ⟨h.isOpen, h.wrote⟩
  | addFolders folders => exact ⟨h.isOpen, h.wrote⟩
  | removeFolders folders => exact ⟨h.isOpen, h.wrote⟩
  | manage folders options =>
    obtain ⟨written, hscan, hclean, hopen⟩ :=
      manageDeps_scans h.isOpen folders options (fun _ => True) fun _ _ _ => trivial
    refine ⟨hopen, ?_⟩
    rw [Workspace.step, hclean]
    exact h.wrote.append hscan.wrote
  | clean => cases hop

theorem run_open (h : Open start w) {ops : List Operation} (hops : ops.any Operation.isClean = false) :
    Open start (w.run ops) := by
  induction ops generalizing w with
  | nil => exact h
  | cons op ops ih =>
    rw [List.any_cons, Bool.or_eq_false_iff] at hops
    exact ih (h.step hops.1) hops.2

/-! ## From then on -/

/-- A closed session notes nothing. -/
structure Shut (w : Workspace (Workbench Tree)) : Prop where
  isClosed : w.session.closed = true
  noted : w.session.cleanup = []

/-- A closed session changes nothing and stays so. -/
theorem Shut.step (h : Shut w) (op : Operation) :
    Shut (w.step op) ∧ (w.step op).world = w.world ∧ (w.step op).vendor = w.vendor := by
  cases op with
  | setOptions options => exact ⟨⟨h.isClosed, h.noted⟩, rfl, rfl⟩
  | setSettings settings => exact ⟨⟨h.isClosed, h.noted⟩, rfl, rfl⟩
  | addFolders folders => exact ⟨⟨h.isClosed, h.noted⟩, rfl, rfl⟩
  | removeFolders folders => exact ⟨⟨h.isClosed, h.noted⟩, rfl, rfl⟩
  | manage folders options =>
    rw [Workspace.step, manageDeps_of_closed h.isClosed]
    exact ⟨h, rfl, rfl⟩
  | clean =>
    refine ⟨⟨rfl, rfl⟩, ?_, rfl⟩
    simp only [Workspace.step, clean, h.noted]
    rfl

theorem run_closed (h : Shut w) (ops : List Operation) : Shut (w.run ops) ∧ (w.run ops).world = w.world := by
  induction ops generalizing w with
  | nil => exact ⟨h, rfl⟩
  | cons op ops ih =>
    obtain ⟨hs, hw, _⟩ := h.step op
    obtain ⟨hs', hw'⟩ := ih hs
    exact ⟨hs', hw'.trans hw⟩

/-! ## Whole runs -/

variable (base : Config) (vendor : Registry) (world : Workbench Tree)

/-- What is new since the start are the module files of the folders noted. The session wrote each of them,
    and notes each once. -/
structure Accounted (start : Tree) (w : Workspace (Workbench Tree)) : Prop where
  isNoted : ∀ q, start.contents? q = none → w.world.files.contents? q ≠ none →
    ∃ d ∈ w.session.cleanup, q = moduleFileOf d.segments
  isWritten : ∀ d ∈ w.session.cleanup, start.contents? (moduleFileOf d.segments) = none ∧
    ∃ name, w.world.files.contents? (moduleFileOf d.segments) = some (Text.bytesOf (directive name))
  once : w.session.cleanup.Pairwise fun a b => a.same b = false

/-- Nothing is new since the start, nothing is noted, and no operation changes the files, the calls of the
    go command or the registry. -/
structure Settled (start : Tree) (w : Workspace (Workbench Tree)) : Prop where
  nothingNew : ∀ q, start.contents? q = none → w.world.files.contents? q = none
  nothingNoted : w.session.cleanup = []
  unchanged : ∀ op, (w.step op).world = w.world ∧ (w.step op).vendor = w.vendor
  returned : ∀ folders options, (w.manageDeps folders options).1 = folders

/-- After the first cleaning up the files are those of the start, but for checksum files. -/
theorem run_first_clean (before after : List Operation) (hb : before.any Operation.isClean = false) :
    Shut ((begun base vendor world).run (before ++ .clean :: after)) ∧
      ∀ q, ((begun base vendor world).run (before ++ .clean :: after)).world.files.contents? q =
        if ∃ d ∈ ((begun base vendor world).run before).session.cleanup, q = sumFileOf d.segments then none
        else world.files.contents? q := by
  have hopen := run_open (begun_open base vendor world) hb
  have hrun : (begun base vendor world).run (before ++ .clean :: after) =
      ((begun base vendor world).run before).clean.run after := List.foldl_append ..
  obtain ⟨hshut, hworld⟩ := run_closed (w := ((begun base vendor world).run before).clean) ⟨rfl, rfl⟩ after
  rw [hrun, hworld]
  exact ⟨hshut, hopen.contents?_clean⟩

/-- No module file outlives the session: until it is cleaned up all that is new is noted, and afterwards
    nothing is new. -/
theorem run_ledger (ops : List Operation) :
    ((begun base vendor world).run ops).session.closed = ops.any Operation.isClean ∧
      (ops.any Operation.isClean = false → Accounted world.files ((begun base vendor world).run ops)) ∧
      (ops.any Operation.isClean = true → Settled world.files ((begun base vendor world).run ops)) := by
  cases hops : ops.any Operation.isClean with
  | false =>
    have hopen := run_open (begun_open base vendor world) hops
    refine ⟨hopen.isOpen, fun _ => ⟨fun q hq hnew => ?_, fun d hd => hopen.wrote.contents_written hd, ?_⟩,
      nofun⟩
    · -- another file is as it was at the start
      refine Classical.byContradiction fun hno => hnew ?_
      rw [hopen.wrote.contents_other fun d hd e => hno ⟨d, hd, e⟩]
      exact hq
    · refine hopen.wrote.pairwise.imp fun hne => ?_
      rw [Bool.eq_false_iff, Ne, Path.same_iff]
      exact hne
  | true =>
    obtain ⟨before, after, rfl, hb⟩ := exists_first_clean hops
    obtain ⟨hshut, hfiles⟩ := run_first_clean base vendor world before after hb
    refine ⟨hshut.isClosed, nofun, fun _ => ⟨fun q hq => ?_, hshut.noted, fun op => (hshut.step op).2,
      fun folders options => by rw [manageDeps_of_closed hshut.isClosed]⟩⟩
    rw [hfiles]
    split
    · rfl
    · exact hq

/-- The file is the checksum file of a folder that is noted when the session is first cleaned up. -/
def Doomed (w : Workspace (Workbench Tree)) (ops : List Operation) (q : Segments) : Prop :=
  ∃ before after, ops = before ++ .clean :: after ∧ before.any Operation.isClean = false ∧
    ∃ d ∈ (w.run before).session.cleanup, q = sumFileOf d.segments

/-- A file that is there at the start stays as it is, unless it is a checksum file that cleaning up takes
    away: then it is gone. -/
theorem run_keeps (ops : List Operation) {q : Segments} {b : Text.Bytes} (hq : world.files.contents? q = some b) :
    (¬Doomed (begun base vendor world) ops q →
        ((begun base vendor world).run ops).world.files.contents? q = some b) ∧
      (Doomed (begun base vendor world) ops q →
        ((begun base vendor world).run ops).world.files.contents? q = none) := by
  constructor
  · intro hkeep
    cases hops : ops.any Operation.isClean with
    | false =>
      have hopen := run_open (begun_open base vendor world) hops
      rw [hopen.wrote.contents_other fun d hd e => ?_]
      · exact hq
      · rw [e, (hopen.wrote.contents_written hd).1] at hq
        cases hq
    | true =>
      obtain ⟨before, after, rfl, hb⟩ := exists_first_clean hops
      rw [(run_first_clean base vendor world before after hb).2, if_neg fun h => hkeep ⟨before, after, rfl, hb, h⟩]
      exact hq
  · intro h
    obtain ⟨before, after, rfl, hb, hd⟩ := h
    rw [(run_first_clean base vendor world before after hb).2, if_pos hd]

end Workspace

open Workspace

/-- A folder with a source and a checksum file. -/
def checksummed : Workbench Tree :=
  ⟨(Tree.empty.addFile ⟨"/ws/main.go"⟩ .empty).addFile ⟨"/ws/go.sum"⟩ .empty, ⟨[], []⟩⟩

/-- The folder is managed, and then the session is cleaned up. -/
def manageAndClean : List Operation := [.manage (Folder.ofDir? ⟨"/ws"⟩).toList none, .clean]

theorem a_source_stays :
    ((begun .default .empty checksummed).run manageAndClean).world.files.contents? ["/", "ws", "main.go"] =
      some .empty := by
  refine (run_keeps .default .empty checksummed manageAndClean rfl).1 ?_
  intro h
  obtain ⟨_, _, _, _, d, _, e⟩ := h
  have hlast := congrArg List.getLast? e
  rw [sumFileOf, List.getLast?_concat] at hlast
  exact absurd hlast (by decide)

/-- The checksum file was there before the module file was written, and is gone after cleaning up. -/
theorem a_checksum_file_is_removed :
    (checksummed.files.contents? ["/", "ws", "go.sum"]).isSome = true ∧
      (((begun .default .empty checksummed).run manageAndClean).world.files.contents?
        ["/", "ws", "go.sum"]).isSome = false := by
  decide +kernel

end GoAtlas
