/-
  GoAtlas.Main — the program.

  Arguments and variables are those of the process. The disk on which folders are scanned and the go
  command is looked for is described on standard input.
-/
import GoAtlas.CommandLine.Basic
import GoAtlas.Json.Reader
import GoAtlas.Machine.Description

namespace GoAtlas.Program

def variableNames : List String :=
  ["HOME", "PATH", "GOPATH", "GOROOT", "GOMODCACHE", "XREPO_INSTALL_DEPS", "CLICOLOR_FORCE", "NO_COLOR"]

def environment : IO (List (String × String)) := do
  let mut vars : List (String × String) := []
  for name in variableNames do
    if let some value ← IO.getEnv name then vars := vars ++ [(name, value)]
  return vars

partial def readAll (input : IO.FS.Stream) (text : String) : IO String := do
  let line ← input.getLine
  if line.isEmpty then return text else readAll input (text ++ line)

/-- The machine that a description gives; it also names the working directory. -/
def describedMachine (vars : List (String × String)) (description : Json) : Machine :=
  let cwd := ((description.get? "cwd").bind Json.str?).getD "/"
  ⟨Disk.bare.addDescribed [] description, vars, Machine.placeOf [] cwd⟩

def needsDisk : CommandLine.Request → Bool
  | .scan .. | .env => true
  | _ => false

end GoAtlas.Program

open GoAtlas Program in
def main (args : List String) : IO UInt32 := do
  let vars ← environment
  let bare : Machine := ⟨.bare, vars, []⟩
  let machine ←
    if (CommandLine.Request.parse bare.var? args).any needsDisk then do
      let text ← readAll (← IO.getStdin) ""
      pure (describedMachine vars ((Json.ofText? text).getD .null))
    else pure bare
  let outcome := (CommandLine.run args machine).1
  (← IO.getStderr).putStr outcome.stderr
  (← IO.getStdout).putStr outcome.stdout
  return outcome.code.toUInt32
