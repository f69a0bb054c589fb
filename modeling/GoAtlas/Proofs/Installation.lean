/-
  GoAtlas.Proofs.Installation — which settings let the go command be called.

  A client starts the server with options, changes its settings any number of times and says that it is ready;
  then its folders are managed, each in its turn.
  - `manage_calls`: in a turn the go command is called only if installation is on, and then it is called to
    download at least, unless the directory is registered.
  - `play_opening`: the session has been given the options and then, one after the other, the settings.
  - `ready_installs`: so a turn calls the go command only if the effective configuration has installation on, or
    if the options, as they were sent, switch it on; and then it does.
  - `options_install_against_the_configuration`: the options do so also where the configuration does not follow
    them: a later setting has switched installation off, or the options are spoiled by another field.
-/
import GoAtlas.Proofs.Downloads
import GoAtlas.Proofs.Groups
import GoAtlas.Proofs.Removal
import GoAtlas.Proofs.Settings

namespace GoAtlas

open GoAtlas.Module

/-! ## The calls of one turn -/

namespace Module

/-- A directory that the registry passes over is registered then. -/
theorem contains_checkOrRegister {σ : Type} [FileSystem σ] {v v' : Registry} {s : σ} {dir : Path} {i : Nat}
    (h : v.checkOrRegister s dir = (some i, v')) : v'.contains dir = true := by
  have hknown : (v.index? dir).isSome = v.contains dir := List.findIdx?_isSome
  unfold Registry.checkOrRegister at h
  cases hi : v.index? dir with
  | some j =>
    rw [hi] at h hknown
    cases h
    exact hknown.symm
  | none =>
    rw [hi] at h
    simp only at h
    split at h
    · cases h
    split at h
    · cases h
      rw [Registry.contains_mark, Path.same_iff.mpr rfl, Bool.or_true]
    · cases h

variable {policy : Policy}

theorem createAll_go (hp : policy.install = false) (rs : List ModuleRoot) (w : Workbench Tree) :
    (createAll policy rs w).2.2.go = w.go := by
  induction rs generalizing w with
  | nil => rfl
  | cons r rs ih =>
    have hfirst := createModule_go hp r.path w
    simp only [createAll]
    rcases hcm : createModule policy r.path w with ⟨e | wrote, w'⟩
    all_goals
      rw [hcm] at hfirst
      exact (ih w').trans hfirst

theorem scan_go (hp : policy.install = false) (folder : Path) (w : Workbench Tree) :
    (scan policy folder w).2.go = w.go := by
  obtain ⟨rs, hstate, _⟩ := scan_creates policy folder w
  rw [hstate]
  exact createAll_go hp rs w

end Module

namespace Manager

variable {policy : Policy} {f : Folder} {dir : Path}

/-- A download for the first folder is tried, or its directory is registered in the end. -/
theorem exists_tried_or_registered (hf : f.uri.toFilePath? = some dir) (config : Config) (fs : List Folder)
    (v : Registry) (w : Workbench Tree) :
    (∃ d ∈ triedAll config (f :: fs) v w, d.dir = dir) ∨
      (downloadAll config (f :: fs) v w).1.contains dir = true := by
  rcases hc : v.checkOrRegister w dir with ⟨_ | i, v'⟩
  · have htried : tried? f v w = some ⟨dir, v, w.go.refuses (callIn dir "mod download")⟩ := by
      simp [tried?, hf, hc]
    exact Or.inl ⟨_, List.mem_append_left _ (Option.mem_toList.mpr htried), rfl⟩
  · have hone : (downloadOne config f v w).1 = v' := by
      simp only [downloadOne, hf, hc]
    have hkept : (downloadOne config f v w).1.folders <+: (downloadAll config (f :: fs) v w).1.folders :=
      (downloadAll_traced config fs _ _).kept
    rw [hone] at hkept
    exact Or.inr (Registry.contains_mono hkept (contains_checkOrRegister hc))

/-- A local folder is scanned, and then dependencies are downloaded, first of all for the folder itself. -/
theorem manage_downloads (policy : Policy) (hf : f.uri.toFilePath? = some dir) (v : Registry) (w : Workbench Tree) :
    ∃ rest, ((Manager.new policy).manage [f] v w).2.2 =
      downloadDeps (.new policy) (f :: rest) v (Module.scan policy dir w).2 := by
  rw [manage_eq hf]
  rcases Module.scan policy dir w with ⟨e | ⟨roots, written⟩, w'⟩
  · exact ⟨[], rfl⟩
  · obtain ⟨rest, hrest, _⟩ := groupOf_eq f dir roots
    exact ⟨rest, by simp only [hrest]⟩

/-- What managing one folder does to the go command: without installation nothing is called, and with it a local
    folder's dependencies are downloaded, unless its directory is registered. -/
theorem manage_calls (policy : Policy) (f : Folder) (v : Registry) (w : Workbench Tree) :
    ∃ calls, ((Manager.new policy).manage [f] v w).2.2.2.go.calls = w.go.calls ++ calls ∧
      (policy.install = false → calls = []) ∧
      (policy.install = true → ∀ dir, f.uri.toFilePath? = some dir →
        callIn dir "mod download" ∈ calls ∨ ((Manager.new policy).manage [f] v w).2.2.1.contains dir = true) := by
  cases hf : f.uri.toFilePath? with
  | none =>
    rw [manage_of_not_local hf]
    exact ⟨[], (List.append_nil _).symm, fun _ => rfl, fun _ dir h => by cases h⟩
  | some dir =>
    obtain ⟨rest, hmanage⟩ := manage_downloads policy hf v w
    rw [hmanage]
    cases hp : policy.install with
    | false =>
      have hoff : (downloadDeps (.new policy) (f :: rest) v (Module.scan policy dir w).2).2.go = w.go := by
        simp only [downloadDeps, Manager.new, hp, Bool.false_eq_true, if_false]
        exact scan_go hp dir w
      exact ⟨[], by rw [hoff, List.append_nil], fun _ => rfl, fun h => by cases h⟩
    | true =>
      have hon : ∀ w' : Workbench Tree, downloadDeps (.new policy) (f :: rest) v w' =
          downloadAll policy.config (f :: rest) v w' := by
        intro w'
        simp only [downloadDeps, Manager.new, hp, if_true]
      rw [hon]
      obtain ⟨cs, hcs, _⟩ := scan_initializes policy dir w v
      have hall := (hcs.append (downloadAll_traced policy.config (f :: rest) v (Module.scan policy dir w).2)).calls_eq
      refine ⟨_, hall, (fun h => by cases h), fun _ dir' hdir => ?_⟩
      cases hdir
      rcases exists_tried_or_registered hf policy.config rest v (Module.scan policy dir w).2 with ⟨d, hd, hdir⟩ | h
      · have hcall : GoCall.text (.download d) = callIn dir "mod download" := by rw [← hdir]; rfl
        rw [← hcall]
        exact Or.inl (List.mem_map_of_mem (List.mem_append_right _ (List.mem_map_of_mem hd)))
      · exact Or.inr h

end Manager

/-! ## Turns -/

namespace Workspace

variable [ProjectSettings (Workbench Tree)]

/-- The calls of the go command while a folder is managed. -/
def callsFor (w : Workspace (Workbench Tree)) (options : Option Json) (f : Folder) : List String :=
  (w.manageFolder options f).2.world.go.calls.drop w.world.go.calls.length

/-- The folders that are managed one after the other, each with the state that it meets. -/
def turns (w : Workspace (Workbench Tree)) (options : Option Json) :
    List Folder → List (Folder × Workspace (Workbench Tree))
  | [] => []
  | f :: fs => (f, w) :: turns (w.manageFolder options f).2 options fs

variable {w : Workspace (Workbench Tree)} {options : Option Json} {folders : List Folder}

/-- The calls of a turn: none without installation; with it one to download, unless the directory is registered. -/
theorem manageFolder_calls (w : Workspace (Workbench Tree)) (options : Option Json) (f : Folder) :
    (w.manageFolder options f).2.world.go.calls = w.world.go.calls ++ w.callsFor options f ∧
      (w.callsFor options f ≠ [] → (w.policyFor options f).install = true) ∧
      ((w.policyFor options f).install = true → ∀ dir, f.uri.toFilePath? = some dir →
        callIn dir "mod download" ∈ w.callsFor options f ∨
          (w.manageFolder options f).2.vendor.contains dir = true) := by
  obtain ⟨calls, hcalls, hoff, hon⟩ := Manager.manage_calls (w.policyFor options f) f w.vendor w.world
  have hturn : (w.manageFolder options f).2.world.go.calls = w.world.go.calls ++ calls := hcalls
  have hfor : w.callsFor options f = calls := by rw [callsFor, hturn, List.drop_left]
  rw [hfor]
  refine ⟨hturn, fun h => ?_, hon⟩
  cases hp : (w.policyFor options f).install with
  | true => rfl
  | false => exact absurd (hoff hp) h

theorem manageAll_calls (w : Workspace (Workbench Tree)) (options : Option Json) (folders found : List Folder) :
    (w.manageAll options folders found).2.world.go.calls =
      w.world.go.calls ++ (w.turns options folders).flatMap fun t => t.2.callsFor options t.1 := by
  induction folders generalizing w found with
  | nil => simp [manageAll, turns]
  | cons f fs ih =>
    rw [turns, List.flatMap_cons, ← List.append_assoc, ← (manageFolder_calls w options f).1]
    exact ih (w.manageFolder options f).2 _

/-- An open session manages folders in turns. -/
theorem manageDeps_calls (hopen : w.session.closed = false) (folders : List Folder) (options : Option Json) :
    (w.manageDeps folders options).2.world.go.calls =
      w.world.go.calls ++ (w.turns options folders).flatMap fun t => t.2.callsFor options t.1 := by
  simp only [manageDeps, hopen, Bool.false_eq_true, if_false]
  exact manageAll_calls w options folders []

/-- The settings are the same in every turn. -/
theorem configOver_of_mem_turns {t : Folder × Workspace (Workbench Tree)} (ht : t ∈ w.turns options folders) :
    t.2.session.configOver = w.session.configOver := by
  induction folders generalizing w with
  | nil => cases ht
  | cons f fs ih =>
    rcases List.mem_cons.mp ht with rfl | ht
    · rfl
    · obtain ⟨written, _, hsession⟩ := manageFolder_scans w options f
      rw [ih ht, hsession]
      rfl

/-- The layer of a folder's project; a folder that is not local has none. -/
def projectOf (w : Workspace (Workbench Tree)) (f : Folder) : ConfigLayer :=
  f.uri.toFilePath?.elim .empty (ProjectSettings.layer w.world)

theorem folderConfig_projectOf (w : Workspace (Workbench Tree)) (f : Folder) :
    w.folderConfig f = w.session.configOver (w.projectOf f) := by
  unfold folderConfig projectOf
  cases f.uri.toFilePath? <;> rfl

end Workspace

/-! ## What decides -/

/-- The configuration that a base, a project, options and settings come to. -/
def effective (base : Config) (project : ConfigLayer) (options settings : Option Json) : Config :=
  ((base.merge project).merge (options.elim .empty .ofJson)).merge
    ((settings.map Session.ownSection).elim .empty .ofJson)

theorem Follows.configOver {base : Config} {options settings : Option Json} {s : Session}
    (h : Follows base options settings s) (project : ConfigLayer) :
    s.configOver project = effective base project options settings := by
  rw [Session.configOver, h.fromBase, standsFor_iff.mp h.initialization, settingsStandFor_iff.mp h.workspace]
  cases settings <;> rfl

/-- The options have the flag, as they were sent; nothing else in them matters. -/
def SwitchedOn (options : Option Json) : Prop :=
  ∃ o, options = some o ∧ o.get? "installGoDependency" = some (.bool true)

theorem installsFor_iff {c : Config} {options : Option Json} :
    c.installsFor options = true ↔ c.installGoDependency = true ∨ SwitchedOn options := by
  have hflag : (options.bind fun o => (o.get? Config.installOption).bind Json.bool?).getD false = true ↔
      SwitchedOn options := by
    cases options with
    | none => simp [SwitchedOn]
    | some o =>
      cases hj : o.get? Config.installOption with
      | none => simp [SwitchedOn, hj, show o.get? "installGoDependency" = none from hj]
      | some j => cases j <;> simp [SwitchedOn, hj, show o.get? "installGoDependency" = _ from hj, Json.bool?]
  rw [Config.installsFor, Bool.or_eq_true, hflag]

/-! ## A client that opens -/

namespace Server

/-- The settings that a notification sets. -/
def settingsOf? (m : Message) : Option Json := if m.id.isSome then none else m.params.bind settingsParam?

/-- A client starts the server with these parameters, sends changes of its settings, some of which may not be
    well formed, and says that it is ready. -/
structure Opens (start : Message) (changes : List Message) (ready : Message) (p : InitializeParams) : Prop where
  startMethod : start.method = "initialize"
  startId : start.id.isSome = true
  startParams : start.params.bind InitializeParams.ofJson? = some p
  changeMethods : ∀ m ∈ changes, m.method = "workspace/didChangeConfiguration"
  readyMethod : ready.method = "initialized"
  readyId : ready.id = none
  readyParams : (ready.params.bind emptyParams?).isSome = true

section Steps

variable {σ : Type} [FileSystem σ] {s : Server σ} {m : Message}

theorem step_start (hphase : s.phase = .uninitialized) (hm : m.method = "initialize") (hid : m.id.isSome = true)
    {p : InitializeParams} (hp : m.params.bind InitializeParams.ofJson? = some p) :
    (step m s).2 = { started p s with phase := .initialized } := by
  obtain ⟨id, hid⟩ := Option.isSome_iff_exists.mp hid
  obtain ⟨j, hj, hp⟩ := Option.bind_eq_some_iff.mp hp
  have hmethod : Method.of m.method = .start := by rw [hm]; rfl
  simp [step, hmethod, hphase, handleStart, request, hid, hj, hp]

theorem step_changeConfiguration (hphase : s.phase = .initialized)
    (hm : m.method = "workspace/didChangeConfiguration") :
    (step m s).2 = (settingsOf? m).elim s fun settings => changeConfiguration settings s := by
  have hmethod : Method.of m.method = .changeConfiguration := by rw [hm]; rfl
  cases hid : m.id with
  | some id => simp [step, hmethod, hphase, handle, notification, settingsOf?, hid]
  | none =>
    cases hj : m.params with
    | none => simp [step, hmethod, hphase, handle, notification, settingsOf?, hid, hj]
    | some j =>
      cases hv : settingsParam? j <;>
        simp [step, hmethod, hphase, handle, notification, settingsOf?, hid, hj, hv]

theorem step_ready (hphase : s.phase = .initialized) (hm : m.method = "initialized") (hid : m.id = none)
    (hp : (m.params.bind emptyParams?).isSome = true) :
    (step m s).2 = s.queue s.workspace.session.folders s.workspace.session.options := by
  obtain ⟨_, hp⟩ := Option.isSome_iff_exists.mp hp
  obtain ⟨j, hj, hp⟩ := Option.bind_eq_some_iff.mp hp
  have hmethod : Method.of m.method = .initialized := by rw [hm]; rfl
  simp [step, hmethod, hphase, handle, notification, hid, hj, hp]

end Steps

/-- What a client that opens asks of the session, if it sets these settings. -/
def openingOf (p : InitializeParams) (settings : List Json) : List Operation :=
  .addFolders (InitializeParams.startFolders p) :: .setOptions p.options :: settings.map .setSettings

theorem lastOptions_openingOf (p : InitializeParams) (settings : List Json) :
    lastOptions (openingOf p settings) = p.options := by
  have hnone : (settings.map Operation.setSettings).filterMap Operation.options? = [] := by
    simp [List.filterMap_eq_nil_iff, Operation.options?]
  simp only [lastOptions, openingOf, List.filterMap_cons, Operation.options?, hnone]
  rfl

theorem lastSettings_openingOf (p : InitializeParams) (settings : List Json) :
    lastSettings (openingOf p settings) = settings.getLast? := by
  have hall : (settings.map Operation.setSettings).filterMap Operation.settings? = settings := by
    rw [List.filterMap_map]
    exact List.filterMap_some
  simp only [lastSettings, openingOf, List.filterMap_cons, Operation.settings?, hall]

theorem not_clean_openingOf (p : InitializeParams) (settings : List Json) :
    (openingOf p settings).any Operation.isClean = false := by
  simp [openingOf, Operation.isClean]

variable [ProjectSettings (Workbench Tree)]

/-- Changes of the settings reach the session one after the other. -/
theorem play_changes {s : Server (Workbench Tree)} (hphase : s.phase = .initialized) {changes : List Message}
    (h : ∀ m ∈ changes, m.method = "workspace/didChangeConfiguration") :
    (s.play (changes.map .message)).workspace = s.workspace.run ((changes.filterMap settingsOf?).map .setSettings) ∧
      (s.play (changes.map .message)).phase = .initialized ∧ (s.play (changes.map .message)).pending = s.pending := by
  induction changes generalizing s with
  | nil => exact ⟨rfl, hphase, rfl⟩
  | cons m changes ih =>
    have hstep : s.next (.message m) = (settingsOf? m).elim s fun settings => changeConfiguration settings s :=
      step_changeConfiguration hphase (h m (List.mem_cons_self ..))
    have hrest : ∀ n ∈ changes, n.method = "workspace/didChangeConfiguration" :=
      fun n hn => h n (List.mem_cons_of_mem _ hn)
    rw [List.map_cons, play, List.foldl_cons, ← play, hstep]
    cases hv : settingsOf? m with
    | none =>
      rw [List.filterMap_cons_none hv]
      exact ih hphase hrest
    | some settings =>
      rw [List.filterMap_cons_some hv]
      exact ih (s := changeConfiguration settings s) hphase hrest

theorem run_openingOf_world (w : Workspace (Workbench Tree)) (p : InitializeParams) (settings : List Json) :
    (w.run (openingOf p settings)).world = w.world := by
  have hsettings : ∀ w : Workspace (Workbench Tree), (w.run (settings.map .setSettings)).world = w.world := by
    induction settings with
    | nil => exact fun _ => rfl
    | cons j settings ih => exact fun w => ih _
  exact hsettings _

variable (engine : Engine) (env : GoEnv) (base : Config) (vendor : Registry) (world : Workbench Tree)

/-- A server on a new session, after a client has opened. -/
def openedBy (start : Message) (changes : List Message) (ready : Message) : Server (Workbench Tree) :=
  (new engine env (.begun base vendor world)).play ((start :: changes ++ [ready]).map .message)

variable {start ready : Message} {changes : List Message} {p : InitializeParams}

/-- The session has been given the options and the settings in order, and the client's folders wait to be managed. -/
theorem play_opening (h : Opens start changes ready p) {s : Server (Workbench Tree)}
    (hs : openedBy engine env base vendor world start changes ready = s) :
    s.workspace = (Workspace.begun base vendor world).run (openingOf p (changes.filterMap settingsOf?)) ∧
      s.pending = [⟨s.folders, s.workspace.session.options⟩] := by
  have hstart : (new engine env (.begun base vendor world)).next (.message start) =
      { started p (new engine env (.begun base vendor world)) with phase := .initialized } :=
    step_start rfl h.startMethod h.startId h.startParams
  obtain ⟨hw, hphase, hpending⟩ := play_changes
    (s := { started p (new engine env (.begun base vendor world)) with phase := .initialized }) rfl h.changeMethods
  have hplayed : openedBy engine env base vendor world start changes ready =
      (((new engine env (.begun base vendor world)).next (.message start)).play (changes.map .message)).next
        (.message ready) := by
    simp [openedBy, play]
  rw [hstart, hs] at hplayed
  have hready := hplayed.trans (step_ready hphase h.readyMethod h.readyId h.readyParams)
  rw [hready]
  exact ⟨hw, congrArg (· ++ _) hpending⟩

/-- The effective configuration for a folder has installation on, or the options, as sent, switch it on. -/
def MayInstall (base : Config) (options settings : Option Json) (w : Workspace (Workbench Tree)) (f : Folder) : Prop :=
  (effective base (w.projectOf f) options settings).installGoDependency = true ∨ SwitchedOn options

/-- Once a client has opened, one task is pending, for its folders and with its options. The task manages the
    folders in turns, and the calls of the go command are those of the turns. In a turn the command is called only
    if the effective configuration has installation on or the options, as they were sent, switch it on. In either
    case it is called to download for a local folder, unless the directory is registered. -/
theorem ready_installs (h : Opens start changes ready p) {s : Server (Workbench Tree)}
    (hs : openedBy engine env base vendor world start changes ready = s) :
    s.pending = [⟨s.folders, p.options⟩] ∧
      (s.next (.run 0)).workspace.world.go.calls =
        world.go.calls ++ (s.workspace.turns p.options s.folders).flatMap (fun t => t.2.callsFor p.options t.1) ∧
      ∀ t ∈ s.workspace.turns p.options s.folders,
        (t.2.callsFor p.options t.1 ≠ [] →
          MayInstall base p.options (changes.filterMap settingsOf?).getLast? t.2 t.1) ∧
        (MayInstall base p.options (changes.filterMap settingsOf?).getLast? t.2 t.1 →
          ∀ dir, t.1.uri.toFilePath? = some dir → callIn dir "mod download" ∈ t.2.callsFor p.options t.1 ∨
            (t.2.manageFolder p.options t.1).2.vendor.contains dir = true) := by
  obtain ⟨hw, hpending⟩ := play_opening engine env base vendor world h hs
  have hfollows : Follows base p.options (changes.filterMap settingsOf?).getLast? s.workspace.session := by
    have := Workspace.run_follows base vendor world (openingOf p (changes.filterMap settingsOf?))
    rw [lastOptions_openingOf, lastSettings_openingOf, ← hw] at this
    exact this
  have hopen : s.workspace.session.closed = false := by
    rw [hw]
    exact (Workspace.run_open (Workspace.begun_open base vendor world) (not_clean_openingOf p _)).isOpen
  rw [hfollows.asSent] at hpending
  refine ⟨hpending, ?_, fun t ht => ?_⟩
  · rcases runPending_cases 0 s with ⟨hnone, _⟩ | ⟨task, htask, _, hrun⟩
    · rw [hpending] at hnone
      cases hnone
    · rw [hpending] at htask
      cases htask
      have hworld : s.workspace.world = world := by
        rw [hw]
        exact run_openingOf_world _ p _
      rw [hrun, Workspace.manageDeps_calls hopen, hworld]
  · have hinstall : (t.2.policyFor p.options t.1).install = true ↔
        MayInstall base p.options (changes.filterMap settingsOf?).getLast? t.2 t.1 := by
      rw [MayInstall, ← hfollows.configOver, ← Workspace.configOver_of_mem_turns ht,
        ← Workspace.folderConfig_projectOf]
      exact installsFor_iff
    rw [← hinstall]
    exact (Workspace.manageFolder_calls t.2 p.options t.1).2

end Server

/-! ## Options that win against the configuration -/

namespace Server

/-- A client starts with its folder and these options. -/
def startWith (options : Json) : Message :=
  ⟨some (.int 1), "initialize",
    some (.obj
      [ ("capabilities", .obj []), ("workspaceFolders", foldersJson [home]), ("initializationOptions", options) ])⟩

def configuring (settings : Json) : Message :=
  ⟨none, "workspace/didChangeConfiguration", some (.obj [("settings", settings)])⟩

def installing (on : Bool) : Json := .obj [("installGoDependency", .bool on)]

/-- Installation is on, but the proxy is no text. -/
def spoiledOptions : Json := .obj [("installGoDependency", .bool true), ("goProxy", .int 5)]

/-- A client opens whose folder is a module. -/
def openedWith (options : Json) (settings : List Json) : Server (Workbench Tree) :=
  openedBy Engine.Prepared.empty.toEngine (.ofPaths ⟨"/go"⟩ none) .default .empty
    ⟨Tree.empty.addFile ⟨"/ws/go.mod"⟩ .empty, ⟨[], []⟩⟩ (startWith options) (settings.map configuring)
    ⟨none, "initialized", some (.obj [])⟩

theorem ready_installs_switched_off : ∃ p, Opens (startWith (installing true)) [configuring (installing false)]
      ⟨none, "initialized", some (.obj [])⟩ p ∧
    (openedWith (installing true) [installing false]).pending =
      [⟨(openedWith (installing true) [installing false]).folders, p.options⟩] := by
  have hparams : ((startWith (installing true)).params.bind InitializeParams.ofJson?).isSome = true := by
    decide +kernel
  obtain ⟨p, hp⟩ := Option.isSome_iff_exists.mp hparams
  have hopens : Opens (startWith (installing true)) [configuring (installing false)]
      ⟨none, "initialized", some (.obj [])⟩ p :=
    ⟨rfl, rfl, hp, fun m hm => by rw [List.mem_singleton.mp hm]; rfl, rfl, rfl, rfl⟩
  exact ⟨p, hopens, (ready_installs _ _ _ _ _ hopens rfl).1⟩

/-- Twice the effective configuration has installation off, because of a later setting or because another field
    spoils the options, and yet the go command is called. -/
theorem options_install_against_the_configuration :
    ((openedWith (installing true) [installing false]).workspace.folderConfig home).installGoDependency = false ∧
      ((openedWith (installing true) [installing false]).next (.run 0)).workspace.world.go.calls =
        ["/ws: go mod download"] ∧
      ((openedWith spoiledOptions []).workspace.folderConfig home).installGoDependency = false ∧
      ((openedWith spoiledOptions []).next (.run 0)).workspace.world.go.calls = ["/ws: go mod download"] := by
  decide +kernel

end Server

end GoAtlas
