/-
  GoAtlas.Server.Message — messages between client and server.

  A message with an id is a request and gets a reply; one without is a notification. `Method.of` sorts
  the method names: those the server handles, those of the protocol it does not implement, and all
  others.
-/
import GoAtlas.Resolve.Full
import GoAtlas.Server.Shapes.Capabilities
import GoAtlas.Server.Shapes.Requests
import GoAtlas.Session

namespace GoAtlas.Server

structure Message where
  id : Option Json
  method : String
  params : Option Json

inductive RpcError where
  /-- A method that nobody knows is named. -/
  | methodNotFound (method : Option String)
  | invalidRequest
  | notInitialized
  | invalidParams
  | internal (message : String)
  deriving DecidableEq, Repr

def RpcError.code : RpcError → Int
  | .methodNotFound _ => -32601
  | .invalidRequest => -32600
  | .notInitialized => -32002
  | .invalidParams => -32602
  | .internal _ => -32603

def RpcError.message : RpcError → String
  | .methodNotFound _ => "Method not found"
  | .invalidRequest => "Invalid request"
  | .notInitialized => "Server not initialized"
  | .invalidParams => "Invalid params"
  | .internal m => m

def RpcError.data? : RpcError → Option Json
  | .methodNotFound (some m) => some (.str m)
  | _ => none

inductive Reply where
  | silent
  | result (id value : Json)
  | error (id : Json) (e : RpcError)
  /-- The server is gone. -/
  | exited

/-- What every message is answered with once the server is gone. -/
def goneText : String := "language server has exited"

/-- A notification to the client. -/
structure Notice where
  method : String
  params : Json

inductive Method where
  | exit
  | start
  | initialized
  | shutdown
  | extendedDefinition
  | full
  | definition
  | documentSymbol
  | changeFolders
  | changeConfiguration
  /-- A request of the protocol that is not implemented, by what its parameters look like. -/
  | otherRequest (params : Json.Shape)
  | otherNotification
  | unknown

/-- Notifications that change nothing. -/
def otherNotifications : List String :=
  [ "textDocument/didOpen", "textDocument/didChange", "textDocument/willSave", "textDocument/didSave",
    "textDocument/didClose", "workspace/didCreateFiles", "workspace/didRenameFiles", "workspace/didDeleteFiles",
    "workspace/didChangeWatchedFiles", "$/cancelRequest" ]

def Method.of (name : String) : Method :=
  match name with
  | "exit" => .exit
  | "initialize" => .start
  | "initialized" => .initialized
  | "shutdown" => .shutdown
  | "textDocument/edefinition" => .extendedDefinition
  | "textDocument/full" => .full
  | "textDocument/definition" => .definition
  | "textDocument/documentSymbol" => .documentSymbol
  | "workspace/didChangeWorkspaceFolders" => .changeFolders
  | "workspace/didChangeConfiguration" => .changeConfiguration
  | _ =>
    match Shapes.requestShape? name with
    | some params => .otherRequest params
    | none => if otherNotifications.contains name then .otherNotification else .unknown

/-! ## Parameters -/

/-- Reads nothing, but requires a shape. -/
def shaped (shape : Json.Shape) (j : Json) : Option Unit := if shape.fits j then some () else none

/-- The slots of parameters that also carry tokens for progress reports. -/
def streamed? (fields : List (List String)) (j : Json) : Option (List Json.Slot) :=
  if (Shapes.streaming []).fits j then j.objectRecord? fields else none

def documentParams? (j : Json) : Option Url := do
  match ← streamed? [["textDocument"]] j with
  | [document] => document.required documentUri?
  | _ => none

def positionParams? (j : Json) : Option PositionParams := do
  match ← streamed? [["textDocument"], ["position"]] j with
  | [document, position] =>
    return ⟨← document.required documentUri?, ← position.required Position.ofJson?⟩
  | _ => none

def traceNames : List String := ["off", "messages", "verbose"]

def clientInfo : Json.Shape := .record [Shapes.need "name" Shapes.string, Shapes.may "version" Shapes.string]

structure InitializeParams where
  rootUri : Option Url
  folders : Option (List Folder)
  options : Option Json

def InitializeParams.ofJson? (j : Json) : Option InitializeParams := do
  match ← j.record?
      [ ["processId"], ["rootPath"], ["rootUri"], ["initializationOptions"], ["capabilities"], ["trace"],
        ["workspaceFolders"], ["clientInfo"], ["locale"] ] with
  | [processId, rootPath, rootUri, options, capabilities, trace, folders, client, locale] =>
    let _ ← processId.optional Json.word32?
    let _ ← rootPath.optional Json.str?
    let _ ← capabilities.required (shaped Shapes.clientCapabilities)
    let _ ← trace.optionalAtEnd (shaped (.choice false traceNames))
    let _ ← client.optional (shaped clientInfo)
    let _ ← locale.optional Json.str?
    return ⟨← rootUri.optionalAtEnd Url.ofJson?, ← folders.optional (Json.list? Folder.ofJson?), ← options.optional some⟩
  | _ => none

/-- Folders that were removed and added. -/
structure FolderChange where
  added : List Folder
  removed : List Folder

def FolderChange.ofEvent? (j : Json) : Option FolderChange := do
  match ← j.record? [["added"], ["removed"]] with
  | [added, removed] =>
    return ⟨← added.required (Json.list? Folder.ofJson?), ← removed.required (Json.list? Folder.ofJson?)⟩
  | _ => none

def FolderChange.ofJson? (j : Json) : Option FolderChange := do
  match ← j.record? [["event"]] with
  | [event] => event.required FolderChange.ofEvent?
  | _ => none

def settingsParam? (j : Json) : Option Json := do
  match ← j.record? [["settings"]] with
  | [settings] => settings.required some
  | _ => none

def emptyParams? (j : Json) : Option Unit :=
  match j with
  | .obj _ | .arr [] => some ()
  | _ => none

end GoAtlas.Server
