/-
  GoAtlas.Module.Toolchain — the go command.

  Two of its operations are used: `go mod init` and `go mod download` in a folder. `GoStub` stands in
  for the command where none is run: it records each call and refuses those that begin as listed.
-/
import GoAtlas.Config
import GoAtlas.Files.Basic
import GoAtlas.Text.Blank

namespace GoAtlas

/-- Why a command did not succeed. -/
inductive ProcessError where
  | notStarted (program : Path) (cause : SystemError)
  /-- Without an exit code the command was killed. -/
  | failed (command : String) (code : Option Nat) (stderr : String)
  deriving DecidableEq, Repr

def exitText : Option Nat → String
  | some n => "Some(" ++ toString n ++ ")"
  | none => "None"

def ProcessError.chain : ProcessError → List String
  | .notStarted program cause => ["failed to execute `" ++ program.shown ++ "`", cause.message]
  | .failed command code stderr =>
    ["`" ++ command ++ "` failed with exit code " ++ exitText code ++ "\n" ++ Text.trimEnd stderr]

inductive GoError where
  | refused (args : String) (folder : Path)
  | step (action : String) (folder : Path) (cause : ProcessError)
  deriving DecidableEq, Repr

def GoError.chain : GoError → List String
  | .refused args folder => ["`go " ++ args ++ "` failed in " ++ folder.shown]
  | .step action folder cause => ("go " ++ action ++ " failed in " ++ folder.shown) :: cause.chain

/-- The go command in a state `σ`; the configuration names the binary and the proxy. -/
class Toolchain (σ : Type) where
  modInit : Config → (folder : Path) → (modulePath : String) → σ → Except GoError Unit × σ
  modDownload : Config → (folder : Path) → σ → Except GoError Unit × σ

structure GoStub where
  /-- Calls that begin with one of these fail. -/
  refusing : List String
  calls : List String
  deriving DecidableEq, Repr

namespace GoStub

def refuses (g : GoStub) (call : String) : Bool :=
  g.refusing.any fun lead => lead.toList.isPrefixOf call.toList

def run (g : GoStub) (folder : Path) (args : String) : Except GoError Unit × GoStub :=
  let call := folder.shown ++ ": go " ++ args
  let g' := { g with calls := g.calls ++ [call] }
  if g.refuses call then (.error (.refused args folder), g') else (.ok (), g')

end GoStub

/-- A file system with a stand-in for the go command. -/
structure Workbench (φ : Type) where
  files : φ
  go : GoStub

namespace Workbench

variable {φ α : Type}

def onFiles (r : α × φ) (w : Workbench φ) : α × Workbench φ := (r.1, { w with files := r.2 })

instance [FileSystem φ] : FileSystem (Workbench φ) where
  list dir w := onFiles (FileSystem.list dir w.files) w
  present w p := FileSystem.present w.files p
  read w p := FileSystem.read w.files p
  write p b w := onFiles (FileSystem.write p b w.files) w
  remove p w := onFiles (FileSystem.remove p w.files) w
  maxDepth w := FileSystem.maxDepth w.files
  walk skip root w := onFiles (FileSystem.walk skip root w.files) w

instance : Toolchain (Workbench φ) where
  modInit _ folder modulePath w :=
    let r := w.go.run folder ("mod init " ++ modulePath)
    (r.1, { w with go := r.2 })
  modDownload _ folder w :=
    let r := w.go.run folder "mod download"
    (r.1, { w with go := r.2 })

end Workbench

end GoAtlas
