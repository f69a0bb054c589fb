/-
  GoAtlas.Server.Basic — the language server.

  The server goes through four phases. A message is judged by its phase first, then by whether it has
  an id as its method wants, then by its parameters. Bringing folders under management runs in the
  background: a notification queues a task with the folders of that moment, and `runTask` runs one,
  whenever that is; it ends with a notice to the client. A task of a session that was cleaned up in the
  meantime finds it closed.
-/
import GoAtlas.Server.Message

namespace GoAtlas

namespace Server

inductive Phase where
  | uninitialized
  | initialized
  | shutDown
  | exited
  deriving DecidableEq, Repr

/-- Folders that wait to be brought under management. -/
structure Task where
  folders : List Folder
  options : Option Json

end Server

structure Server (σ : Type) where
  phase : Server.Phase
  engine : Engine
  env : GoEnv
  /-- Whether hosts may be asked, as of the last change of settings. -/
  remote : Bool
  workspace : Workspace σ
  pending : List Server.Task
  /-- What the engine was asked so far. -/
  use : Engine.Use

namespace Server

variable {σ : Type}

def new (engine : Engine) (env : GoEnv) (w : Workspace σ) : Server σ :=
  ⟨.uninitialized, engine, env, w.session.config.remoteRepoLookup, w, [], .none⟩

def resolver (s : Server σ) : PackageResolver := ⟨s.env, .offline s.remote⟩

def onSession (s : Server σ) (f : Session → Session) : Server σ := { s with workspace := s.workspace.onSession f }

/-- Takes over what the settings say about remote lookup. -/
def reload (s : Server σ) : Server σ := { s with remote := s.workspace.session.config.remoteRepoLookup }

def spend (s : Server σ) (use : Engine.Use) : Server σ := { s with use := s.use.append use }

/-! ## Requests and notifications -/

/-- The outcome of a request: without an id it is ignored, and its parameters have to fit. -/
def request (m : Message) (s : Server σ) (run : Json → Option (Except RpcError Json × Server σ)) :
    Reply × Server σ :=
  match m.id with
  | none => (.silent, s)
  | some id =>
    match m.params.bind run with
    | none => (.error id .invalidParams, s)
    | some (.ok value, s) => (.result id value, s)
    | some (.error e, s) => (.error id e, s)

/-- The outcome of a notification: with an id it is refused, and if its parameters do not fit it is
    ignored. -/
def notification (m : Message) (s : Server σ) (run : Json → Option (Server σ)) : Reply × Server σ :=
  match m.id with
  | some id => (.error id .invalidRequest, s)
  | none => (.silent, (m.params.bind run).getD s)

/-- A request that the phase does not allow. -/
def refuse (m : Message) (s : Server σ) : Reply × Server σ :=
  match m.id with
  | none => (.silent, s)
  | some id => (.error id (if s.phase = .uninitialized then .notInitialized else .invalidRequest), s)

/-! ## Life cycle -/

def serverName : String := "xrepo"

def serverVersion : String := "0.1.0"

/-- What the server says it can do. -/
def capabilities : Json :=
  .obj
    [ ("capabilities",
        .obj
          [ ("definitionProvider", .bool true),
            ("documentSymbolProvider", .bool true),
            ("workspace",
              .obj [("workspaceFolders", .obj [("supported", .bool true), ("changeNotifications", .bool true)])]),
            ("experimental", .obj [("edefinitionProvider", .bool true), ("fullProvider", .bool true)]) ]),
      ("serverInfo", .obj [("name", .str serverName), ("version", .str serverVersion)]) ]

/-- The folders that a client starts with: those it lists, or else its root. -/
def InitializeParams.startFolders (p : InitializeParams) : List Folder :=
  match p.folders, p.rootUri with
  | some fs, _ => fs
  | none, some uri => [⟨uri, (uri.segments?.bind List.getLast?).getD ""⟩]
  | none, none => []

def started (p : InitializeParams) (s : Server σ) : Server σ :=
  (s.onSession fun t => (t.addFolders (InitializeParams.startFolders p)).setInitializationOptions p.options).reload

/-- Initializes once; only success leaves the first phase. -/
def handleStart (m : Message) (s : Server σ) : Reply × Server σ :=
  if s.phase = .uninitialized then
    request m s fun j =>
      (InitializeParams.ofJson? j).map fun p => (.ok capabilities, { started p s with phase := .initialized })
  else
    match m.id with
    | none => (.silent, s)
    | some id => (.error id .invalidRequest, s)

/-- Shuts down; the phase changes even if the request is not well formed, the session is cleaned up
    only if it is. -/
def handleShutdown [FileSystem σ] (m : Message) (s : Server σ) : Reply × Server σ :=
  if s.phase = .initialized then
    let s := { s with phase := .shutDown }
    match m.id with
    | none => (.silent, s)
    | some id =>
      match m.params with
      | some _ => (.error id .invalidParams, s)
      | none => (.result id .null, { s with workspace := s.workspace.clean })
  else refuse m s

/-! ## Background tasks -/

def queue (s : Server σ) (folders : List Folder) (options : Option Json) : Server σ :=
  { s with pending := s.pending ++ [⟨folders, options⟩] }

def managedNotice (count : Nat) : Notice :=
  ⟨"window/logMessage",
    .obj [("type", .int 3), ("message", .str (toString count ++ " workspace folders under module management"))]⟩

/-- Runs a task. -/
def runTask [FileSystem σ] [Toolchain σ] [ProjectSettings σ] (t : Task) (s : Server σ) : Notice × Server σ :=
  let (managed, w) := s.workspace.manageDeps t.folders t.options
  (managedNotice managed.length, { s with workspace := w })

/-- Runs the pending task at an index, if there is one. -/
def runPending [FileSystem σ] [Toolchain σ] [ProjectSettings σ] (i : Nat) (s : Server σ) : Option Notice × Server σ :=
  match s.pending[i]? with
  | none => (none, s)
  | some t =>
    let (notice, s) := runTask t { s with pending := s.pending.eraseIdx i }
    (some notice, s)

/-- Runs the tasks that are pending now, first to last. -/
def settle [FileSystem σ] [Toolchain σ] [ProjectSettings σ] (s : Server σ) : List Notice × Server σ :=
  s.pending.foldl
    (fun acc t =>
      let (notice, s) := runTask t acc.2
      (acc.1 ++ [notice], s))
    ([], { s with pending := [] })

/-! ## Folders and settings -/

def changeFolders (c : FolderChange) (s : Server σ) : Server σ :=
  let s := s.onSession (·.removeFolders c.removed)
  if c.added.isEmpty then s else (s.onSession (·.addFolders c.added)).queue c.added none

def changeConfiguration (settings : Json) (s : Server σ) : Server σ :=
  (s.onSession (·.setWorkspaceSettings settings)).reload

/-! ## Symbols -/

def answerExtended (p : PositionParams) (s : Server σ) : Except RpcError Json × Server σ :=
  let (r, use) := GoAtlas.definition s.engine s.resolver p
  let value :=
    match r with
    | .ok ls => .ok (.arr (ls.map SymbolLocator.toJson))
    | .error (.unresolved ..) => .ok (.arr [])
    | .error e => .error (.internal e.message)
  (value, s.spend use)

def answerFull (p : FullParams) (s : Server σ) : Except RpcError Json × Server σ :=
  let (r, use) := GoAtlas.full s.engine s.resolver p
  let value :=
    match r with
    | .ok f => .ok f.toJson
    | .error e => .error (.internal e.message)
  (value, s.spend use)

def answerDefinition (p : PositionParams) (s : Server σ) : Except RpcError Json × Server σ :=
  let value :=
    match s.engine.identifierAt p.uri p.position with
    | .error _ => Json.null
    | .ok ident =>
      match Url.ofFilePath? ident.declaration.file with
      | some uri => (Location.mk uri ident.declaration.range).toJson
      | none => .null
  (.ok value, s.spend .check)

def answerDocumentSymbol (uri : Url) (s : Server σ) : Except RpcError Json × Server σ :=
  let value :=
    match s.engine.documentSymbols uri with
    | .ok outline => .ok (.arr (Outline.listToJson outline))
    | .error reason => .error (.internal reason)
  (value, s.spend .check)

/-! ## Messages -/

/-- Handles a message of the running server. -/
def handle (method : Method) (m : Message) (s : Server σ) : Reply × Server σ :=
  match method with
  | .extendedDefinition => request m s fun j => (PositionParams.ofJson? j).map fun p => answerExtended p s
  | .full => request m s fun j => (FullParams.ofJson? j).map fun p => answerFull p s
  | .definition => request m s fun j => (positionParams? j).map fun p => answerDefinition p s
  | .documentSymbol => request m s fun j => (documentParams? j).map fun uri => answerDocumentSymbol uri s
  | .otherRequest params => request m s fun j => (shaped params j).map fun _ => (.error (.methodNotFound none), s)
  | .initialized =>
    notification m s fun j =>
      (emptyParams? j).map fun _ => s.queue s.workspace.session.folders s.workspace.session.options
  | .changeFolders => notification m s fun j => (FolderChange.ofJson? j).map fun c => changeFolders c s
  | .changeConfiguration => notification m s fun j => (settingsParam? j).map fun v => changeConfiguration v s
  | _ => notification m s fun _ => none

/-- An unknown method is named in the reply, unless its name marks it as optional. -/
def unknownReply (m : Message) : Reply :=
  match m.id with
  | none => .silent
  | some id =>
    if "$/".toList.isPrefixOf m.method.toList then .silent else .error id (.methodNotFound (some m.method))

/-- Takes a message: the reply, and what it leaves to be done in the background. -/
def step [FileSystem σ] (m : Message) (s : Server σ) : Reply × Server σ :=
  if s.phase = .exited then (.exited, s)
  else
    match Method.of m.method with
    | .exit => (.silent, { s with phase := .exited })
    | .unknown => (unknownReply m, s)
    | .start => handleStart m s
    | .shutdown => handleShutdown m s
    | method => if s.phase = .initialized then handle method m s else refuse m s

/-- The client goes away: the session is cleaned up. -/
def disconnect [FileSystem σ] (s : Server σ) : Server σ := { s with workspace := s.workspace.clean }

end Server

end GoAtlas
