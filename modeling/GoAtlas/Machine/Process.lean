/-
  GoAtlas.Machine.Process — running programs.

  A program is found by its path, or by its name in the directories of the PATH variable. It has to be
  executable: one of the machine's own tools, or a script whose first line names an interpreter. Some
  callers hand a script without such a line to the shell (`orShell`): the shell itself does, and a
  command that sets PATH and is found there. How deep scripts may start each other is bounded by
  `maxNesting`.
-/
import GoAtlas.Machine.Shell
import GoAtlas.Module.Toolchain

namespace GoAtlas

namespace Machine

/-- The interpreter that the first line of a script names, with its argument if there is one. -/
def interpreter? (b : Text.Bytes) : Option (String × List String) :=
  match (Text.lossy b).toList with
  | '#' :: '!' :: cs =>
    let isBlank (c : Char) : Bool := c == ' ' || c == '\t'
    let line := (Text.upTo '\n' cs).dropWhile isBlank
    let arg := ((line.dropWhile (!isBlank ·)).dropWhile isBlank).reverse.dropWhile isBlank
    match line.takeWhile (!isBlank ·) with
    | [] => none
    | name => some (String.ofList name, if arg.isEmpty then [] else [String.ofList arg.reverse])
  | _ => none

/-- Runs the shell as its arguments say: a script in the arguments or in a file. -/
def runShell (spawn : Spawn) (m : Machine) : (name : String) → (strict : Bool) → List String → Output × Disk
  | _, _, [] => (.ofText 0 "" "", m.disk)
  | name, strict, arg :: args =>
    if arg.toList.head? = some '-' then
      let strict := strict || arg.toList.contains 'e'
      if arg.toList.contains 'c' then
        match args with
        | [] => (.ofText 2 "" (name ++ ": 0: -c requires an argument\n"), m.disk)
        | script :: rest => { Shell.start m (rest.headD name) (rest.drop 1) with strict := strict }.run spawn script
      else runShell spawn m name strict args
    else
      match m.disk.read m.cwd ⟨arg⟩ with
      | .ok b => { Shell.start m arg args with strict := strict }.run spawn (Text.lossy b)
      | .error _ => (.ofText 2 "" (name ++ ": 0: cannot open " ++ arg ++ ": No such file\n"), m.disk)

def runTool (spawn : Spawn) (m : Machine) (t : Tool) (name : String) (args : List String) : Output × Disk :=
  let wrote (b : Output.ByteList) : Output × Disk := (⟨some 0, Output.ofBytes b, ByteArray.empty⟩, m.disk)
  match t with
  | .sh => runShell spawn m name false args
  | .echo => wrote (Output.echo false true args)
  | .printf =>
    match args with
    | [] => (.ofText 1 "" "printf: missing operand\n", m.disk)
    | format :: args => wrote (Output.formatted format args)
  | .cat => (Output.concatenated m.disk m.cwd args, m.disk)
  | .pwd => wrote ((Place.path m.cwd).octets ++ [0x0A])
  | .test =>
    let name := String.ofList ((Text.afterLast? '/' name.toList).getD name.toList)
    (.ofText (Output.testCode m.disk m.cwd name args) "" "", m.disk)
  | .succeed => (.ofText 0 "" "", m.disk)
  | .fail => (.ofText 1 "" "", m.disk)

/-- Runs the program at a path under the name it was asked for. -/
abbrev Exec := Machine → (name : String) → Path → (args : List String) → Except SystemError Output × Disk

/-- Tries the directories in order; one that lacks the program is passed over. -/
def search (exec : Exec) (m : Machine) (program : Path) (args : List String) (refused : Bool) :
    List String → Except SystemError Output × Disk
  | [] => (.error (if refused then .noAccess else .notFound), m.disk)
  | dir :: dirs =>
    match exec m program.shown (Path.join ⟨dir⟩ program.octets) args with
    | (.error .notFound, _) | (.error .notDirectory, _) => search exec m program args refused dirs
    | (.error .noAccess, _) => search exec m program args true dirs
    | r => r

/-- Where programs are looked for. -/
def searchPath (m : Machine) : List String := Text.split ':' ((m.var? "PATH").getD "/bin:/usr/bin")

/-- Runs a program by its path if the name has a slash, else by looking for it. -/
def launch (exec : Exec) (m : Machine) (program : Path) (args : List String) : Except SystemError Output × Disk :=
  if program.octets = [] then (.error .notFound, m.disk)
  else if program.octets.contains Octets.slash then exec m program.shown program args
  else search exec m program args false m.searchPath

/-- Programs that are asked for by a text. -/
def spawn (exec : Exec) : Spawn := fun m program args => launch exec m ⟨program⟩ args

/-- Runs a file that names no interpreter as a script of the shell. -/
def orShell (exec : Exec) : Exec := fun m name path args =>
  match exec m name path args with
  | (.error .badFormat, _) => exec m "/bin/sh" ⟨"/bin/sh"⟩ (path.shown :: args)
  | r => r

def exec : (depth : Nat) → Exec
  | 0, m, _, _, _ => (.error .tooManyLinks, m.disk)
  | depth + 1, m, name, path, args =>
    match m.disk.stat m.cwd true path with
    | .error e => (.error e, m.disk)
    | .ok (_, .tool t) =>
      let (o, disk) := runTool (spawn (orShell (exec depth))) m t name args
      (.ok o, disk)
    | .ok (_, .file b true) =>
      match interpreter? b with
      | some (shell, more) => exec depth m shell ⟨shell⟩ (more ++ path.shown :: args)
      | none => (.error .badFormat, m.disk)
    | .ok _ => (.error .noAccess, m.disk)

def maxNesting : Nat := 32

end Machine

/-- A command to run: a program with its arguments, variables to set, and a directory to run it in. -/
structure Command where
  program : Path
  args : List String
  vars : List (String × String) := []
  cwd : Option Path := none

namespace Command

def display (c : Command) : String := Text.join " " (c.program.shown :: c.args)

/-- The working directory of the command. -/
def directory (c : Command) (m : Machine) : Except SystemError Place :=
  match c.cwd with
  | some dir => m.disk.directory m.cwd dir
  | none => .ok m.cwd

/-- Everything that is handed to the system. -/
def handedOver (c : Command) : List Octets :=
  let texts := c.args ++ c.vars.flatMap fun v => [v.1, v.2]
  c.program.octets :: texts.map Octets.ofText ++ (c.cwd.map Path.octets).toList

/-- How the command's program is executed; the shell takes over only where the program is looked for
    along a PATH of the command's own. -/
def exec (c : Command) : Machine.Exec :=
  let exec := Machine.exec Machine.maxNesting
  let looked := !c.program.octets.contains Octets.slash
  if looked && c.vars.any fun v => v.1 == "PATH" then Machine.orShell exec else exec

/-- Runs the command; without a slash its program is looked for on the search path. -/
def run (c : Command) (m : Machine) : Except ProcessError Output × Machine :=
  if c.handedOver.any Octets.hasNul then (.error (.notStarted c.program .nulInCommand), m)
  else
    match c.directory m with
    | .error e => (.error (.notStarted c.program e), m)
    | .ok place =>
      match Machine.launch c.exec { m.setVars c.vars with cwd := place } c.program c.args with
      | (.ok o, disk) => (.ok o, { m with disk := disk })
      | (.error e, disk) => (.error (.notStarted c.program e), { m with disk := disk })

/-- Runs the command and requires that it succeeds. -/
def check (c : Command) (m : Machine) : Except ProcessError Output × Machine :=
  match c.run m with
  | (.error e, m) => (.error e, m)
  | (.ok o, m) =>
    if o.code = some 0 then (.ok o, m) else (.error (.failed c.display o.code (Text.lossy o.stderr)), m)

end Command

end GoAtlas
