/-
  GoAtlas.Proofs.Removal — folders that the client has removed.

  A task brings all folders that it holds under management and tracks them, whatever the client did since it
  was queued.
  - `Gone.next` / `Gone.play`: an address that is neither tracked nor awaited by a task stays so, until the
    client names it again or a folder around it is managed.
  - `Due.next` / `Due.play`: one that is tracked or awaited stays so, while the session is open.
  - `removal_lasts`: so a removed folder stays removed if no task awaits it at the time, and otherwise it is
    back once all tasks have run.
  - `a_pending_task_brings_a_folder_back`: that happens.
-/
import GoAtlas.Proofs.Events

namespace GoAtlas.Server

open GoAtlas.Module

/-- The client adds or removes the address in an event. -/
def Names (u : Url) (s : Server (Workbench Tree)) (e : Event) : Prop :=
  ∃ c ∈ s.change? e, Folder.Lists u c.added ∨ Folder.Lists u c.removed

/-- A pending task holds the address. -/
def Awaits (u : Url) (s : Server (Workbench Tree)) : Prop := ∃ t ∈ s.pending, Folder.Lists u t.folders

/-- An event manages no other folder that the address lies inside. -/
def Outside (u : Url) (s : Server (Workbench Tree)) (e : Event) : Prop :=
  ∀ f ∈ s.managed e, f.uri.same u = false → ¬f.Encloses u

instance (u : Url) (s : Server (Workbench Tree)) (e : Event) : Decidable (Names u s e) :=
  inferInstanceAs (Decidable (∃ c ∈ s.change? e, Folder.Lists u c.added ∨ Folder.Lists u c.removed))

instance (u : Url) (s : Server (Workbench Tree)) : Decidable (Awaits u s) :=
  inferInstanceAs (Decidable (∃ t ∈ s.pending, Folder.Lists u t.folders))

section Runs

variable [ProjectSettings (Workbench Tree)] {u : Url} {s : Server (Workbench Tree)} {e : Event}

/-- A message that does not name the address leaves it tracked or not, as it was. -/
theorem lists_message {m : Message} (hnames : ¬Names u s (.message m)) :
    Folder.Lists u (s.next (.message m)).folders ↔ Folder.Lists u s.folders := by
  cases hc : changeBy? s m with
  | none => rw [message_folders hc]
  | some c =>
    have hremoved : ¬Folder.Lists u c.removed := fun hu => hnames ⟨c, hc, Or.inr hu⟩
    have hadded : ¬Folder.Lists u c.added := fun hu => hnames ⟨c, hc, Or.inl hu⟩
    rw [message_lists hc, or_iff_left hadded, and_iff_left hremoved]

/-! ## Neither tracked nor awaited -/

structure Gone (u : Url) (s : Server (Workbench Tree)) : Prop where
  untracked : ¬Folder.Lists u s.folders
  unawaited : ¬Awaits u s

/-- A message after which the address is not tracked queues no task for it, unless it adds it. -/
theorem Gone.of_message {m : Message} (hawaits : ¬Awaits u s)
    (hadded : ∀ c, changeBy? s m = some c → ¬Folder.Lists u c.added)
    (huntracked : ¬Folder.Lists u (s.next (.message m)).folders) : Gone u (s.next (.message m)) := by
  refine ⟨huntracked, fun h => ?_⟩
  obtain ⟨t, ht, hu⟩ := h
  obtain ⟨new, hpending, hnew⟩ := message_pending m s
  rw [hpending] at ht
  rcases List.mem_append.mp ht with ht | ht
  · exact hawaits ⟨t, ht, hu⟩
  · rcases hnew t ht with e | ⟨c, hc, e⟩
    · exact huntracked (e ▸ hu)
    · exact hadded c hc (e ▸ hu)

theorem Gone.message (h : Gone u s) {m : Message} (hnames : ¬Names u s (.message m)) :
    Gone u (s.next (.message m)) := by
  refine .of_message h.unawaited (fun c hc hu => hnames ⟨c, hc, Or.inl hu⟩) ?_
  rw [lists_message hnames]
  exact h.untracked

/-- Tasks that hold neither the address nor a folder around it do not bring it up. -/
theorem Gone.run (h : Gone u s) (hs : s.workspace.world.files.Closed) {i : Nat} (hout : Outside u s (.run i)) :
    Gone u (s.next (.run i)) := by
  rcases runPending_cases i s with ⟨_, hsame⟩ | ⟨t, ht, hpending, hworkspace⟩
  · rw [hsame]
    exact h
  have hmem : t ∈ s.pending := List.mem_of_getElem? ht
  refine ⟨fun hu => ?_, fun hawaits => ?_⟩
  · unfold folders at hu
    rw [hworkspace] at hu
    cases hopen : s.workspace.session.closed with
    | true =>
      rw [Workspace.manageDeps_of_closed hopen] at hu
      exact h.untracked hu
    | false =>
      rw [Workspace.manageDeps_folders hopen, Folder.lists_addNew] at hu
      rcases hu with hu | hu
      · exact h.untracked hu
      -- what the task brings up are its own folders and what lies inside them
      rcases (Workspace.manageAll_lists hs t.options t.folders [] u).2 hu with hu | hu | ⟨f, hf, hu⟩
      · exact Folder.not_lists_nil u hu
      · exact h.unawaited ⟨t, hmem, hu⟩
      · refine hout f ?_ ?_ hu
        · rw [managed, ht]
          exact hf
        · exact Bool.eq_false_iff.mpr fun hsame => h.unawaited ⟨t, hmem, f, hf, hsame⟩
  · obtain ⟨t', ht', hu⟩ := hawaits
    rw [hpending] at ht'
    exact h.unawaited ⟨t', List.mem_of_mem_eraseIdx ht', hu⟩

theorem Gone.next (h : Gone u s) (hs : s.workspace.world.files.Closed) (hnames : ¬Names u s e)
    (hout : Outside u s e) : Gone u (s.next e) := by
  cases e with
  | message m => exact h.message hnames
  | run i => exact h.run hs hout

theorem Gone.play {es : List Event} (h : Gone u s) (hs : s.workspace.world.files.Closed)
    (hnames : Along (fun s e => ¬Names u s e) s es) (hout : Along (Outside u) s es) : Gone u (s.play es) := by
  induction es generalizing s with
  | nil => exact h
  | cons e es ih => exact ih (h.next hs hnames.1 hout.1) (next_closed hs e) hnames.2 hout.2

/-! ## Tracked or awaited -/

def Due (u : Url) (s : Server (Workbench Tree)) : Prop := Folder.Lists u s.folders ∨ Awaits u s

theorem Awaits.message (h : Awaits u s) (m : Message) : Awaits u (s.next (.message m)) := by
  obtain ⟨t, ht, hu⟩ := h
  obtain ⟨new, hpending, _⟩ := message_pending m s
  refine ⟨t, ?_, hu⟩
  rw [hpending]
  exact List.mem_append_left _ ht

theorem Due.message (h : Due u s) {m : Message} (hnames : ¬Names u s (.message m)) :
    Due u (s.next (.message m)) := by
  rcases h with h | h
  · exact Or.inl ((lists_message hnames).mpr h)
  · exact Or.inr (h.message m)

/-- While the session is open, a task that runs leaves its folders tracked. -/
theorem Due.run (h : Due u s) (hs : s.workspace.world.files.Closed) (hopen : s.workspace.session.closed = false)
    (i : Nat) : Due u (s.next (.run i)) := by
  rcases runPending_cases i s with ⟨_, hsame⟩ | ⟨t, ht, hpending, hworkspace⟩
  · rw [hsame]
    exact h
  have htracked : Folder.Lists u s.folders ∨ Folder.Lists u t.folders → Folder.Lists u (s.next (.run i)).folders := by
    intro hu
    rw [folders, hworkspace, Workspace.manageDeps_folders hopen, Folder.lists_addNew]
    exact hu.imp id fun hu => (Workspace.manageAll_lists hs t.options t.folders [] u).1 (Or.inr hu)
  rcases h with h | ⟨t', ht', hu⟩
  · exact Or.inl (htracked (Or.inl h))
  · obtain ⟨j, hj⟩ := List.mem_iff_getElem?.mp ht'
    by_cases hij : j = i
    · rw [hij, ht] at hj
      rw [← Option.some.inj hj] at hu
      exact Or.inl (htracked (Or.inr hu))
    · refine Or.inr ⟨t', ?_, hu⟩
      rw [hpending]
      exact List.mem_eraseIdx_iff_getElem?.mpr ⟨j, hij, hj⟩

theorem Due.next (h : Due u s) (hs : s.workspace.world.files.Closed) (hnames : ¬Names u s e)
    (hopen : s.workspace.session.closed = false) : Due u (s.next e) := by
  cases e with
  | message m => exact h.message hnames
  | run i => exact h.run hs hopen i

theorem Due.play {es : List Event} (h : Due u s) (hs : s.workspace.world.files.Closed)
    (hnames : Along (fun s e => ¬Names u s e) s es) (hopen : (s.play es).workspace.session.closed = false) :
    Due u (s.play es) := by
  induction es generalizing s with
  | nil => exact h
  | cons e es ih =>
    -- a session that is open in the end was open all the time
    have hfirst : s.workspace.session.closed = false := by
      refine Bool.eq_false_iff.mpr fun hclosed => ?_
      rw [play_shut hclosed] at hopen
      cases hopen
    exact ih (h.next hs hnames.1 hfirst) (next_closed hs e) hnames.2 hopen

/-! ## Removed folders -/

/-- After the last event in which the client names an address, and removes it, the address is not tracked,
    as long as no other folder around it is managed and no task awaited it. If one did, the address is
    tracked again once all tasks have run, unless the session is closed by then. -/
theorem removal_lasts (hs : Reached s) {m : Message} {c : FolderChange} (hm : changeBy? s m = some c)
    (hremoved : Folder.Lists u c.removed) (hadded : ¬Folder.Lists u c.added) {es : List Event}
    (hlast : Along (fun s e => ¬Names u s e) (s.next (.message m)) es)
    (hout : Along (Outside u) (s.next (.message m)) es) :
    (¬Awaits u s → ¬Folder.Lists u (s.play (.message m :: es)).folders) ∧
      (Awaits u s → (s.play (.message m :: es)).pending = [] →
        (s.play (.message m :: es)).workspace.session.closed = false →
        Folder.Lists u (s.play (.message m :: es)).folders) := by
  have hclosed := next_closed hs.closed (.message m)
  constructor
  · intro hawaits
    have hgone : Gone u (s.next (.message m)) := by
      refine .of_message hawaits (fun d hd hu => ?_) fun hu => ?_
      · rw [hm] at hd
        rw [← Option.some.inj hd] at hu
        exact hadded hu
      · rcases (message_lists hm).mp hu with h | h
        · exact h.2 hremoved
        · exact hadded h
    exact (hgone.play hclosed hlast hout).untracked
  · intro hawaits hdone hopen
    have hdue : Due u (s.next (.message m)) := Or.inr (hawaits.message m)
    rcases hdue.play hclosed hlast hopen with h | ⟨t, ht, _⟩
    · exact h
    · have hnone : t ∈ (s.play (.message m :: es)).pending := ht
      rw [hdone] at hnone
      cases hnone

end Runs

/-! ## A client that removes its folder -/

def home : Folder := ⟨⟨"file", some ⟨"", none, "", none⟩, .segments ["ws"], none, none⟩, "ws"⟩

/-- A folder that is not on this machine. -/
def elsewhere : Folder := ⟨⟨"http", some ⟨"", none, "example.com", none⟩, .segments ["lib"], none, none⟩, "lib"⟩

def foldersJson (fs : List Folder) : Json := .arr (fs.map Folder.toJson)

/-- A client starts with its folder and is ready. -/
def opening : List Event :=
  [ .message ⟨some (.int 1), "initialize",
      some (.obj [("capabilities", .obj []), ("workspaceFolders", foldersJson [home])])⟩,
    .message ⟨none, "initialized", some (.obj [])⟩ ]

def changing (added removed : List Folder) : Message :=
  ⟨none, "workspace/didChangeWorkspaceFolders",
    some (.obj [("event", .obj [("added", foldersJson added), ("removed", foldersJson removed)])])⟩

/-- A server that begins with an empty directory. -/
def serving : Server (Workbench Tree) :=
  .new Engine.Prepared.empty.toEngine (.ofPaths ⟨"/go"⟩ none)
    ⟨.new .default, .empty, ⟨Tree.empty.addDir ⟨"/ws"⟩, ⟨[], []⟩⟩⟩

/-- The task for the folder has run. -/
def settled : Server (Workbench Tree) := serving.play (opening ++ [.run 0])

/-- The folder is removed then; later another one is added and managed. -/
theorem removal_lasts_once_managed :
    ¬Awaits home.uri settled ∧ ¬Folder.Lists home.uri
      (settled.play [.message (changing [] [home]), .message (changing [elsewhere] []), .run 0]).folders := by
  obtain ⟨hawaits, hchange, hnames, hremote⟩ : ¬Awaits home.uri settled ∧
      (changeBy? settled (changing [] [home])).map (fun c => (c.added, c.removed)) = some ([], [home]) ∧
      ¬Names home.uri (settled.next (.message (changing [] [home]))) (.message (changing [elsewhere] [])) ∧
      ∀ f ∈ (settled.play [.message (changing [] [home]), .message (changing [elsewhere] [])]).managed (.run 0),
        f.uri.toFilePath? = none := by
    decide +kernel
  have hserving : Reached serving := .new _ _ (.addDir _ .empty)
  obtain ⟨c, hm, hc⟩ := Option.map_eq_some_iff.mp hchange
  obtain ⟨hadded, hremoved⟩ := Prod.mk.inj hc
  refine ⟨hawaits, (removal_lasts (hserving.play _) hm ?_ ?_ ?_ ?_).1 hawaits⟩
  · rw [hremoved]
    decide +kernel
  · rw [hadded]
    exact Folder.not_lists_nil _
  · refine ⟨hnames, fun h => ?_, trivial⟩
    obtain ⟨c, hc, _⟩ := h
    cases hc
  · refine ⟨nofun, fun f hf _ => ?_, trivial⟩
    rintro ⟨dir, _, _, hdir, _⟩
    have hno := hremote f hf
    rw [hdir] at hno
    cases hno

/-- The folder is removed before the task for it has run. -/
def hasty : Server (Workbench Tree) := serving.play (opening ++ [.message (changing [] [home])])

/-- The client removed the folder, no other folder is managed and no task is left, but the folder is tracked:
    the task that was pending brought it back. -/
theorem a_pending_task_brings_a_folder_back :
    (changeBy? (serving.play opening) (changing [] [home])).map (fun c => (c.added, c.removed)) = some ([], [home]) ∧
      hasty.folders = [] ∧ hasty.managed (.run 0) = [home] ∧ (hasty.next (.run 0)).pending.length = 0 ∧
      (hasty.next (.run 0)).folders = [home] := by
  decide +kernel

end GoAtlas.Server
