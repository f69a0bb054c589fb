/-
  GoAtlas.Machine.Shell — running scripts.

  A shell carries its own view of the machine, its variables and parameters, and where its two output
  channels lead. Words are expanded into fields: an unquoted parameter is split at blanks, a quoted one
  is not. A command is one of the shell's own or a program, which `Spawn` runs. Once the shell has
  ended, the rest of the script has no effect.
-/
import GoAtlas.Machine.Basic
import GoAtlas.Machine.Output
import GoAtlas.Machine.Pattern
import GoAtlas.Machine.Script

namespace GoAtlas

/-- Runs a program by name on a machine: what it wrote, or why it did not start, and the disk after. -/
abbrev Spawn := Machine → (program : String) → (args : List String) → Except SystemError Output × Disk

/-- Where an output channel leads. -/
inductive Channel where
  | stdout
  | stderr
  | file (place : Place)
  deriving DecidableEq, Repr

structure Shell where
  machine : Machine
  /-- Variables that programs do not see. -/
  locals : List (String × String)
  name : String
  params : List String
  status : Nat
  /-- The shell ends when a command fails that is no condition. -/
  strict : Bool
  out : Channel
  err : Channel
  stdout : Text.Bytes
  stderr : Text.Bytes
  /-- How the shell ended; killed if there is no code. -/
  ended : Option (Option Nat)

namespace Shell

def start (m : Machine) (name : String) (params : List String) : Shell :=
  { machine := m.setVar "PWD" (Place.shown m.cwd)
    locals := []
    name := name
    params := params
    status := 0
    strict := false
    out := .stdout
    err := .stderr
    stdout := ByteArray.empty
    stderr := ByteArray.empty
    ended := none }

/-! ## Expansion -/

def processId : Nat := 4000

def value (s : Shell) (name : String) : String :=
  ((s.locals.lookup name).or (s.machine.var? name)).getD ""

def parameter (s : Shell) (name : String) : String :=
  match name with
  | "#" => toString s.params.length
  | "?" => toString s.status
  | "$" => toString processId
  | "-" => if s.strict then "e" else ""
  | "*" | "@" => Text.join " " s.params
  | "0" => s.name
  | _ =>
    if name.toList.all Text.isDigit then (s.params.drop (Text.decimal name.toList - 1)).headD ""
    else s.value name

/-- Fields that are complete, and the one under way. -/
structure Fields where
  complete : List String
  current : Option String

namespace Fields

def put (f : Fields) (text : String) : Fields := { f with current := some (f.current.getD "" ++ text) }

def cut (f : Fields) : Fields := ⟨f.complete ++ f.current.toList, none⟩

/-- Adds text that is split at blanks. -/
def putSplit (f : Fields) (text : String) : Fields :=
  text.toList.foldl (fun f c => if c = ' ' || c = '\t' || c = '\n' then f.cut else f.put (String.singleton c)) f

/-- Adds texts of which each but the first begins a field. -/
def putEach (f : Fields) : List String → Fields
  | [] => f
  | [t] => f.put t
  | t :: ts => putEach ((f.put t).cut) ts

end Fields

def expandPiece (s : Shell) (f : Fields) (p : Script.Piece) : Fields :=
  match p with
  | .text _ t => f.put t
  | .parameter true "@" => f.putEach s.params
  | .parameter true n => f.put (s.parameter n)
  | .parameter false n => f.putSplit (s.parameter n)

/-- The fields of a word; all parameters at once, quoted, are none where there are none. -/
def fields (s : Shell) (w : Script.Word) : List String :=
  if w = [.text true "", .parameter true "@"] && s.params.isEmpty then []
  else (w.foldl s.expandPiece ⟨[], none⟩).cut.complete

/-- The text of a word that is not split. -/
def expand (s : Shell) (w : Script.Word) : String :=
  Text.join "" (w.map fun p =>
    match p with
    | .text _ t => t
    | .parameter _ n => s.parameter n)

/-- The pattern that a word writes. -/
def pattern (s : Shell) (w : Script.Word) : Pattern :=
  let marks (quoted : Bool) (t : String) : List Pattern.Mark := t.toList.map fun c => ⟨c, quoted⟩
  Pattern.ofText (w.flatMap fun p =>
    match p with
    | .text quoted t => marks quoted t
    | .parameter quoted n => marks quoted (s.parameter n))

/-! ## Channels -/

def emit (s : Shell) (c : Channel) (b : Text.Bytes) : Shell :=
  match c with
  | .stdout => { s with stdout := s.stdout ++ b }
  | .stderr => { s with stderr := s.stderr ++ b }
  | .file place => { s with machine := { s.machine with disk := s.machine.disk.append place b } }

def say (s : Shell) (b : Output.ByteList) : Shell := s.emit s.out (Output.ofBytes b)

/-- A complaint about a line of the script. -/
def complain (s : Shell) (line : Nat) (text : String) : Shell :=
  s.emit s.err (Text.bytesOf (s.name ++ ": " ++ toString line ++ ": " ++ text ++ "\n"))

def done (s : Shell) (status : Nat) : Shell := { s with status := status }

def setChannel (s : Shell) (channel : Nat) (c : Channel) : Shell :=
  if channel = 1 then { s with out := c } else if channel = 2 then { s with err := c } else s

/-- Opens a file for output. -/
def openFile (s : Shell) (r : Script.Redirect) (line : Nat) : Shell × Bool :=
  let target := s.expand r.target
  let m := s.machine
  match m.disk.writable m.cwd ⟨target⟩ with
  | .error e =>
    let why := if e = .notFound then "Directory nonexistent" else e.text
    ((s.complain line ("cannot create " ++ target ++ ": " ++ why)).done 2, false)
  | .ok place =>
    let keep := r.mode = .append && (m.disk.node? place).isSome
    let disk := if keep then m.disk else m.disk.store place ByteArray.empty
    ({ s with machine := { m with disk := disk } }.setChannel r.channel (.file place), true)

/-- Makes one redirection; tells whether it could be made. -/
def redirect (s : Shell) (line : Nat) (r : Script.Redirect) : Shell × Bool :=
  let target := s.expand r.target
  match r.mode with
  | .replace | .append => s.openFile r line
  | .duplicate => (s.setChannel r.channel (if target = "2" then s.err else if target = "1" then s.out else .stdout), true)
  | .input =>
    match s.machine.disk.read s.machine.cwd ⟨target⟩ with
    | .ok _ => (s, true)
    | .error _ => ((s.complain line ("cannot open " ++ target ++ ": No such file")).done 2, false)

/-- Makes the redirections in order, up to the first that fails. -/
def redirectAll (line : Nat) : Shell → List Script.Redirect → Shell × Bool
  | s, [] => (s, true)
  | s, r :: rs =>
    match s.redirect line r with
    | (s, true) => redirectAll line s rs
    | (s, false) => (s, false)

/-- Runs a part of a script with redirections of its own. -/
def redirected (s : Shell) (line : Nat) (rs : List Script.Redirect) (run : Shell → Shell) : Shell :=
  let t :=
    match redirectAll line s rs with
    | (t, true) => run t
    | (t, false) => t
  { t with out := s.out, err := s.err }

/-! ## Commands -/

/-- Sets a variable where it is: programs go on seeing one that they see. -/
def assign (s : Shell) (name value : String) : Shell :=
  if (s.machine.var? name).isSome then { s with machine := s.machine.setVar name value }
  else { s with locals := (name, value) :: s.locals.filter fun v => v.1 != name }

/-- Lets programs see a variable. -/
def exportVar (s : Shell) (arg : String) : Shell :=
  let name := String.ofList (Text.upTo '=' arg.toList)
  let value := if name = arg then s.value name else String.ofList (arg.toList.drop (name.length + 1))
  { s with machine := s.machine.setVar name value, locals := s.locals.filter fun v => v.1 != name }

def changeDir (s : Shell) (line : Nat) (dir : String) : Shell :=
  match s.machine.disk.directory s.machine.cwd ⟨dir⟩ with
  | .ok place => { s with machine := { s.machine with cwd := place }.setVar "PWD" (Place.shown place) }.done 0
  | .error _ => (s.complain line ("cd: can't cd to " ++ dir)).done 2

def exitCode (s : Shell) (args : List String) : Nat :=
  match args with
  | [] => s.status
  | n :: _ => Text.decimal n.toList % 256

def endWith (s : Shell) (code : Option Nat) : Shell := { s with ended := some code }

/-- Sends a signal; one to the shell itself ends it, unless it is only a question. -/
def kill (s : Shell) (line : Nat) (args : List String) : Shell :=
  if args.getLast? != some (toString processId) then (s.complain line "kill: No such process").done 1
  else if args.head? = some "-0" then s.done 0
  else s.endWith none

/-- Options of the shell: only that of ending at failures has an effect. -/
def setOptions (s : Shell) (args : List String) : Shell :=
  let has (sign : Char) : Bool := args.any fun a => a.toList.head? = some sign && a.toList.contains 'e'
  { s with strict := (s.strict || has '-') && !has '+' }.done 0

/-- The shell's own commands. -/
def builtin? (s : Shell) (line : Nat) (name : String) (args : List String) : Option Shell :=
  match name with
  | ":" | "true" => some (s.done 0)
  | "false" => some (s.done 1)
  | "echo" => some ((s.say (Output.shellEcho args)).done 0)
  | "printf" =>
    match args with
    | [] => some ((s.complain line "printf: usage: printf format [arg ...]").done 2)
    | format :: args => some ((s.say (Output.formatted format args)).done 0)
  | "test" | "[" => some (s.done (Output.testCode s.machine.disk s.machine.cwd name args))
  | "pwd" => some ((s.say (Output.bytes (s.value "PWD" ++ "\n"))).done 0)
  | "exec" => some (s.done 0)
  | "cd" => some (s.changeDir line (args.headD (s.value "HOME")))
  | "exit" => some (s.endWith (some (s.exitCode args)))
  | "kill" => some (s.kill line args)
  | "set" => some (s.setOptions args)
  | "shift" => some ({ s with params := s.params.drop ((args.head?.map fun (n : String) => Text.decimal n.toList).getD 1) }.done 0)
  | "export" => some ((args.foldl exportVar s).done 0)
  | "unset" =>
    let keep (v : String × String) : Bool := !args.contains v.1
    let m := { s.machine with environment := s.machine.environment.filter keep }
    some ({ s with machine := m, locals := s.locals.filter keep }.done 0)
  | _ => none

/-- Runs a program and passes on what it wrote; a complaint begins with the command that asked for it. -/
def external (spawn : Spawn) (line : Nat) (asked name : String) (args : List String) (vars : List (String × String))
    (s : Shell) : Shell :=
  let (r, disk) := spawn (s.machine.setVars vars) name args
  let s := { s with machine := { s.machine with disk := disk } }
  match r with
  | .ok o => ((s.emit s.out o.stdout).emit s.err o.stderr).done (o.code.getD 137)
  | .error .notFound => (s.complain line (asked ++ name ++ ": not found")).done 127
  | .error e => (s.complain line (asked ++ name ++ ": " ++ e.text)).done 126

/-- Runs a command whose redirections have been made. -/
def command (spawn : Spawn) (c : Script.Simple) (s : Shell) : Shell :=
  let vars := c.assignments.map fun a => (a.1, s.expand a.2)
  match c.words.flatMap s.fields with
  | [] => (vars.foldl (fun s v => s.assign v.1 v.2) s).done 0
  | "exec" :: name :: args =>
    let s := s.external spawn c.line "exec: " name args vars
    s.endWith (some s.status)
  | name :: args =>
    match s.builtin? c.line name args with
    | some s => s
    | none => s.external spawn c.line "" name args vars

/-- A strict shell ends at a failure. -/
def checked (guarded : Bool) (s : Shell) : Shell :=
  if s.strict && !guarded && s.status != 0 && s.ended.isNone then s.endWith (some s.status) else s

def isSkip : Script → Bool
  | .skip => true
  | _ => false

/-- Runs a script; `guarded` is set in conditions, where a failure is an answer. -/
def eval (spawn : Spawn) (guarded : Bool) : Script → Shell → Shell
  | .skip, s => s
  | .simple c, s => checked guarded (s.redirected c.line c.redirects (command spawn c))
  | .seq a b, s =>
    let s := eval spawn guarded a s
    if s.ended.isSome then s else eval spawn guarded b s
  | .both a b, s =>
    let s := eval spawn true a s
    if s.ended.isSome || s.status != 0 then s else eval spawn guarded b s
  | .either a b, s =>
    let s := eval spawn true a s
    if s.ended.isSome || s.status = 0 then s else eval spawn guarded b s
  | .negate a, s =>
    let s := eval spawn true a s
    if s.ended.isSome then s else s.done (if s.status = 0 then 1 else 0)
  | .choose c yes no, s =>
    let s := eval spawn true c s
    if s.ended.isSome then s
    else if s.status = 0 then eval spawn guarded yes s
    else if isSkip no then s.done 0
    else eval spawn guarded no s
  | .pick subject ps yes no, s =>
    let text := (s.expand subject).toList
    if ps.any fun p => (s.pattern p).covers text then if isSkip yes then s.done 0 else eval spawn guarded yes s
    else if isSkip no then s.done 0
    else eval spawn guarded no s
  | .each name ws body, s =>
    match ws.flatMap s.fields with
    | [] => s.done 0
    | vs => vs.foldl (fun s v => if s.ended.isSome then s else eval spawn guarded body (s.assign name v)) s
  | .group body rs, s => s.redirected 1 rs (eval spawn guarded body)

/-- What the shell leaves behind at its end. -/
def result (s : Shell) : Output × Disk := (⟨s.ended.getD (some s.status), s.stdout, s.stderr⟩, s.machine.disk)

def run (spawn : Spawn) (script : String) (s : Shell) : Output × Disk :=
  match Script.ofText? script with
  | some c => (eval spawn false c s).result
  | none => ((s.complain 1 "Syntax error").done 2).result

end Shell

end GoAtlas
