/-
  GoAtlas.Proofs.Events — the server, event by event.

  An event is a message of the client, or that a task of those pending runs; tasks run in any order, at any
  time. `Effect` says all that a message can do to the session, the files and the tasks.
  - `step_effect`: every message has one of these effects; `changeBy?` is the change of folders it makes.
  - `Effect.folders` / `Effect.pending`: how it changes the folders, and which tasks it queues.
  - `next_closed` / `next_shut`: every event keeps the tree closed, and a closed session closed.
-/
import GoAtlas.Proofs.Groups
import GoAtlas.Server.Basic

namespace GoAtlas.Server

open GoAtlas.Module

/-! ## What a message does -/

section Messages

variable {σ : Type}

/-- The folders that the server tracks. -/
def folders (s : Server σ) : List Folder := s.workspace.session.folders

/-- The change of folders that a message makes: the first folders, or a later change. -/
def changeBy? (s : Server σ) (m : Message) : Option FolderChange :=
  match Method.of m.method, s.phase, m.id with
  | .start, .uninitialized, some _ =>
    (m.params.bind InitializeParams.ofJson?).map fun p => ⟨InitializeParams.startFolders p, []⟩
  | .changeFolders, .initialized, none => m.params.bind FolderChange.ofJson?
  | _, _, _ => none

/-- What a message can do, by the change of folders that it makes: the workspace and the tasks it leaves. -/
inductive Effect [FileSystem σ] (s : Server σ) : Option FolderChange → Workspace σ → List Task → Prop
  | nothing : Effect s none s.workspace s.pending
  | begin (p : InitializeParams) :
    Effect s (some ⟨InitializeParams.startFolders p, []⟩) (started p s).workspace s.pending
  | ready : Effect s none s.workspace (s.pending ++ [⟨s.folders, s.workspace.session.options⟩])
  | change (c : FolderChange) : Effect s (some c) (changeFolders c s).workspace (changeFolders c s).pending
  | configure (settings : Json) : Effect s none (changeConfiguration settings s).workspace s.pending
  | clean : Effect s none s.workspace.clean s.pending

variable {m : Message} {s : Server σ}

theorem request_state {P : Server σ → Prop} {run : Json → Option (Except RpcError Json × Server σ)} (hs : P s)
    (hrun : ∀ j r s', run j = some (r, s') → P s') : P (request m s run).2 := by
  unfold request
  split
  · exact hs
  split
  · exact hs
  all_goals
    rename_i h
    obtain ⟨j, _, hj⟩ := Option.bind_eq_some_iff.mp h
    exact hrun j _ _ hj

theorem notification_state {P : Server σ → Prop} {run : Json → Option (Server σ)} (hs : P s)
    (hrun : ∀ j s', run j = some s' → P s') : P (notification m s run).2 := by
  unfold notification
  split
  · exact hs
  · cases h : m.params.bind run with
    | none => exact hs
    | some s' =>
      obtain ⟨j, _, hj⟩ := Option.bind_eq_some_iff.mp h
      exact hrun j s' hj

theorem refuse_state (m : Message) (s : Server σ) : (refuse m s).2 = s := by
  unfold refuse
  split <;> rfl

theorem changeBy?_eq_none (hstart : ¬(Method.of m.method = .start ∧ s.phase = .uninitialized))
    (hchange : ¬(Method.of m.method = .changeFolders ∧ s.phase = .initialized)) : changeBy? s m = none := by
  unfold changeBy?
  split
  · rename_i hm hp _
    exact absurd ⟨hm, hp⟩ hstart
  · rename_i hm hp _
    exact absurd ⟨hm, hp⟩ hchange
  · rfl

variable [FileSystem σ]

theorem Effect.of_same {s' : Server σ} (hw : s'.workspace = s.workspace) (hp : s'.pending = s.pending) :
    Effect s none s'.workspace s'.pending := by
  rw [hw, hp]
  exact .nothing

/-- A request whose answer leaves the workspace and the tasks alone. -/
theorem request_effect {α : Type} {read : Json → Option α} {answer : α → Except RpcError Json × Server σ}
    (h : ∀ p, (answer p).2.workspace = s.workspace ∧ (answer p).2.pending = s.pending) :
    Effect s none (request m s fun j => (read j).map answer).2.workspace
      (request m s fun j => (read j).map answer).2.pending := by
  refine request_state (P := fun s' => Effect s none s'.workspace s'.pending) .nothing fun j r s' hj => ?_
  obtain ⟨p, _, hp⟩ := Option.map_eq_some_iff.mp hj
  have hsame := h p
  rw [hp] at hsame
  exact .of_same hsame.1 hsame.2

theorem handleStart_effect (hm : Method.of m.method = .start) :
    Effect s (changeBy? s m) (handleStart m s).2.workspace (handleStart m s).2.pending := by
  unfold handleStart
  by_cases hp : s.phase = .uninitialized
  · rw [if_pos hp]
    unfold request changeBy?
    rw [hm, hp]
    cases m.id with
    | none => exact .nothing
    | some id =>
      cases m.params with
      | none => exact .nothing
      | some j =>
        simp only [Option.bind_some]
        cases InitializeParams.ofJson? j with
        | none => exact .nothing
        | some p => exact .begin p
  · rw [if_neg hp, changeBy?_eq_none (fun h => hp h.2) (fun h => by rw [hm] at h; cases h.1)]
    split <;> exact .nothing

theorem handleShutdown_effect (m : Message) (s : Server σ) :
    Effect s none (handleShutdown m s).2.workspace (handleShutdown m s).2.pending := by
  unfold handleShutdown
  split
  · split
    · exact .nothing
    · split
      · exact .nothing
      · exact .clean
  · rw [refuse_state]
    exact .nothing

theorem handle_effect (hphase : s.phase = .initialized) (hstart : Method.of m.method ≠ .start) :
    Effect s (changeBy? s m) (handle (Method.of m.method) m s).2.workspace
      (handle (Method.of m.method) m s).2.pending := by
  by_cases hchange : Method.of m.method = .changeFolders
  · unfold changeBy? handle notification
    rw [hchange, hphase]
    cases m.id with
    | some id => exact .nothing
    | none =>
      cases m.params with
      | none => exact .nothing
      | some j =>
        simp only [Option.bind_some]
        cases FolderChange.ofJson? j with
        | none => exact .nothing
        | some c => exact .change c
  rw [changeBy?_eq_none (fun h => hstart h.1) (fun h => hchange h.1)]
  have hnotice : ∀ run : Json → Option (Server σ), (∀ j s', run j = some s' → Effect s none s'.workspace s'.pending) →
      Effect s none (notification m s run).2.workspace (notification m s run).2.pending := fun run hrun =>
    notification_state (P := fun s' => Effect s none s'.workspace s'.pending) .nothing hrun
  cases hm : Method.of m.method with
  | extendedDefinition => exact request_effect fun p => ⟨rfl, rfl⟩
  | full => exact request_effect fun p => ⟨rfl, rfl⟩
  | definition => exact request_effect fun p => ⟨rfl, rfl⟩
  | documentSymbol => exact request_effect fun uri => ⟨rfl, rfl⟩
  | otherRequest params => exact request_effect fun _ => ⟨rfl, rfl⟩
  | initialized =>
    refine hnotice _ fun j s' hj => ?_
    obtain ⟨_, _, rfl⟩ := Option.map_eq_some_iff.mp hj
    exact .ready
  | changeConfiguration =>
    refine hnotice _ fun j s' hj => ?_
    obtain ⟨settings, _, rfl⟩ := Option.map_eq_some_iff.mp hj
    exact .configure settings
  | changeFolders => exact absurd hm hchange
  | exit | start | shutdown | otherNotification | unknown => exact hnotice (fun _ => none) fun _ _ hj => by cases hj

/-- Every message has one of the effects. -/
theorem step_effect (m : Message) (s : Server σ) :
    Effect s (changeBy? s m) (step m s).2.workspace (step m s).2.pending := by
  unfold step
  by_cases hx : s.phase = .exited
  · rw [if_pos hx, changeBy?_eq_none (by simp [hx]) (by simp [hx])]
    exact .nothing
  rw [if_neg hx]
  have hother : Method.of m.method ≠ .start → Method.of m.method ≠ .changeFolders → changeBy? s m = none :=
    fun hs hc => changeBy?_eq_none (fun h => hs h.1) (fun h => hc h.1)
  split
  · rename_i hm
    rw [hother (by simp [hm]) (by simp [hm])]
    exact .nothing
  · rename_i hm
    rw [hother (by simp [hm]) (by simp [hm])]
    exact .nothing
  · rename_i hm
    exact handleStart_effect hm
  · rename_i hm
    rw [hother (by simp [hm]) (by simp [hm])]
    exact handleShutdown_effect m s
  · rename_i hs _
    split
    · rename_i hphase
      exact handle_effect hphase hs
    · rename_i hphase
      rw [refuse_state, changeBy?_eq_none (fun h => hs h.1) (fun h => hphase h.2)]
      exact .nothing

namespace Effect

variable {c : Option FolderChange} {w : Workspace σ} {tasks : List Task}

theorem folders_eq (h : Effect s none w tasks) : w.session.folders = s.folders := by
  cases h <;> rfl

/-- The addresses tracked after a change of folders: an address that is removed and added is there. -/
theorem lists_iff {c : FolderChange} (h : Effect s (some c) w tasks) {u : Url} : Folder.Lists u w.session.folders ↔
    Folder.Lists u s.folders ∧ ¬Folder.Lists u c.removed ∨ Folder.Lists u c.added := by
  have hnone := Folder.not_lists_nil u
  cases h with
  | begin p => exact Folder.lists_addNew.trans (or_congr_left (and_iff_left hnone).symm)
  | change =>
    have hremoved := Session.lists_removeFolders (u := u) s.workspace.session c.removed
    unfold changeFolders
    split
    · rename_i hempty
      rw [List.isEmpty_iff.mp hempty, or_iff_left hnone]
      exact hremoved
    · exact Folder.lists_addNew.trans (or_congr_left hremoved)

/-- The tasks stay; a new one holds the folders tracked by then, or those that were added. -/
theorem pending (h : Effect s c w tasks) : ∃ new, tasks = s.pending ++ new ∧
    ∀ t ∈ new, t.folders = w.session.folders ∨ ∃ d, c = some d ∧ t.folders = d.added := by
  cases h with
  | nothing | begin | configure | clean => exact ⟨[], (List.append_nil _).symm, by simp⟩
  | ready => exact ⟨[_], rfl, fun t ht => Or.inl (List.mem_singleton.mp ht ▸ rfl)⟩
  | change c =>
    unfold changeFolders
    split
    · exact ⟨[], (List.append_nil _).symm, by simp⟩
    · exact ⟨[_], rfl, fun t ht => Or.inr ⟨c, rfl, List.mem_singleton.mp ht ▸ rfl⟩⟩

/-- A closed session stays closed. -/
theorem shut (h : Effect s c w tasks) (hs : s.workspace.session.closed = true) : w.session.closed = true := by
  cases h with
  | nothing | ready | begin | configure => exact hs
  | clean => rfl
  | change c =>
    unfold changeFolders
    split <;> exact hs

end Effect

end Messages

/-! ## Closed trees -/

theorem closed_removeIfPresent {w : Workbench Tree} (hw : w.files.Closed) (p : Path) :
    (removeIfPresent p w).files.Closed := by
  unfold removeIfPresent
  split
  · simp only [FileSystem.remove, Workbench.onFiles, Tree.remove, Tree.change]
    cases w.files.file? p with
    | none => exact hw
    | some b => exact hw.dropFile p
  · exact hw

theorem closed_cleanupFolders {w : Workbench Tree} (hw : w.files.Closed) (ds : List Path) :
    (cleanupFolders ds w).files.Closed := by
  induction ds generalizing w with
  | nil => exact hw
  | cons d ds ih => exact ih (closed_removeIfPresent (closed_removeIfPresent hw _) _)

theorem Effect.closed {s : Server (Workbench Tree)} {c : Option FolderChange} {w : Workspace (Workbench Tree)}
    {tasks : List Task} (h : Effect s c w tasks) (hs : s.workspace.world.files.Closed) : w.world.files.Closed := by
  cases h with
  | nothing | ready | begin | configure => exact hs
  | clean => exact closed_cleanupFolders hs _
  | change c =>
    unfold changeFolders
    split <;> exact hs

/-! ## Events -/

inductive Event where
  | message (m : Message)
  /-- The pending task at an index runs. -/
  | run (index : Nat)

/-- The change of folders that the client makes in an event. -/
def change? (s : Server (Workbench Tree)) : Event → Option FolderChange
  | .message m => changeBy? s m
  | .run _ => none

/-- The folders that are managed in an event. -/
def managed (s : Server (Workbench Tree)) : Event → List Folder
  | .message _ => []
  | .run i => (s.pending[i]?).elim [] Task.folders

variable [ProjectSettings (Workbench Tree)]

def next (s : Server (Workbench Tree)) : Event → Server (Workbench Tree)
  | .message m => (step m s).2
  | .run i => (runPending i s).2

def play (s : Server (Workbench Tree)) (es : List Event) : Server (Workbench Tree) := es.foldl next s

/-- Each event is as wanted in the state that it meets. -/
def Along (wanted : Server (Workbench Tree) → Event → Prop) : Server (Workbench Tree) → List Event → Prop
  | _, [] => True
  | s, e :: es => wanted s e ∧ Along wanted (s.next e) es

/-- The states that a server can reach, on whatever files it begins. -/
inductive Reached : Server (Workbench Tree) → Prop
  | new (engine : Engine) (env : GoEnv) {w : Workspace (Workbench Tree)} : w.world.files.Built →
    Reached (new engine env w)
  | next {s : Server (Workbench Tree)} (e : Event) : Reached s → Reached (s.next e)

variable {s : Server (Workbench Tree)}

theorem message_folders {m : Message} (hc : changeBy? s m = none) : (s.next (.message m)).folders = s.folders :=
  Effect.folders_eq (hc ▸ step_effect m s)

theorem message_lists {m : Message} {c : FolderChange} (hc : changeBy? s m = some c) {u : Url} :
    Folder.Lists u (s.next (.message m)).folders ↔
      Folder.Lists u s.folders ∧ ¬Folder.Lists u c.removed ∨ Folder.Lists u c.added :=
  Effect.lists_iff (hc ▸ step_effect m s)

theorem message_pending (m : Message) (s : Server (Workbench Tree)) :
    ∃ new, (s.next (.message m)).pending = s.pending ++ new ∧
      ∀ t ∈ new, t.folders = (s.next (.message m)).folders ∨ ∃ c, changeBy? s m = some c ∧ t.folders = c.added :=
  (step_effect m s).pending

/-- Running a task takes it from those pending and manages its folders. -/
theorem runPending_cases (i : Nat) (s : Server (Workbench Tree)) :
    s.pending[i]? = none ∧ s.next (.run i) = s ∨ ∃ t, s.pending[i]? = some t ∧
      (s.next (.run i)).pending = s.pending.eraseIdx i ∧
      (s.next (.run i)).workspace = (s.workspace.manageDeps t.folders t.options).2 := by
  simp only [next, runPending]
  cases s.pending[i]? with
  | none => exact Or.inl ⟨rfl, rfl⟩
  | some t => exact Or.inr ⟨t, rfl, rfl, rfl⟩

/-- Every event keeps the tree closed. -/
theorem next_closed (hs : s.workspace.world.files.Closed) (e : Event) : (s.next e).workspace.world.files.Closed := by
  cases e with
  | message m => exact (step_effect m s).closed hs
  | run i =>
    rcases runPending_cases i s with ⟨_, h⟩ | ⟨t, _, _, h⟩
    · rw [h]
      exact hs
    · rw [h]
      exact Workspace.manageDeps_closed hs ..

theorem Reached.closed (h : Reached s) : s.workspace.world.files.Closed := by
  induction h with
  | new engine env hw => exact hw.closed
  | next e _ ih => exact next_closed ih e

theorem Reached.play (h : Reached s) (es : List Event) : Reached (s.play es) := by
  induction es generalizing s with
  | nil => exact h
  | cons e es ih => exact ih (h.next e)

/-- No event opens a closed session again. -/
theorem next_shut (hs : s.workspace.session.closed = true) (e : Event) :
    (s.next e).workspace.session.closed = true := by
  cases e with
  | message m => exact (step_effect m s).shut hs
  | run i =>
    rcases runPending_cases i s with ⟨_, h⟩ | ⟨t, _, _, h⟩
    · rw [h]
      exact hs
    · rw [h, Workspace.manageDeps_of_closed hs]
      exact hs

theorem play_shut (hs : s.workspace.session.closed = true) (es : List Event) :
    (s.play es).workspace.session.closed = true := by
  induction es generalizing s with
  | nil => exact hs
  | cons e es ih => exact ih (next_shut hs e)

end GoAtlas.Server
