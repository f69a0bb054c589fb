/-
  GoAtlas.CommandLine.Usage — how commands are written.

  A usage lists the switches of a command and its operand. Arguments are read from left to right, and
  the first that does not fit, or asks for help, decides. A switch is given at most once; one that
  takes a value has it after an equals sign or as the next argument, which must not look like a switch.
  After `--` everything is an operand.
-/
import GoAtlas.CommandLine.Plain
import GoAtlas.Text.Split

namespace GoAtlas.CommandLine

structure Switch where
  long : String
  short : Option Char
  /-- What stands for the value, if the switch takes one. -/
  value : Option String
  /-- The variable that is used where the switch is not given. -/
  variableName : Option String
  about : String

structure Operand where
  name : String
  /-- It may be given more than once. -/
  many : Bool
  required : Bool
  /-- An empty text is no path. -/
  mayBeEmpty : Bool
  about : String

structure Usage where
  name : String
  about : String
  switches : List Switch
  operand : Option Operand

/-- What was given on a command line. -/
structure Given where
  switches : List String
  values : List (String × String)
  operands : List String

/-- Why reading stopped. -/
inductive Halt where
  | misuse
  | help
  deriving DecidableEq, Repr

namespace Given

def empty : Given := ⟨[], [], []⟩

def has (g : Given) (long : String) : Bool := g.switches.contains long

def value? (g : Given) (long : String) : Option String := g.values.lookup long

end Given

namespace Usage

def long? (u : Usage) (name : String) : Option Switch := u.switches.find? fun s => s.long == name

def short? (u : Usage) (c : Char) : Option Switch := u.switches.find? fun s => s.short == some c

def addOperand (u : Usage) (g : Given) (arg : String) : Except Halt Given :=
  match u.operand with
  | none => .error .misuse
  | some o =>
    if (!o.many && !g.operands.isEmpty) || (!o.mayBeEmpty && arg == "") then .error .misuse
    else .ok { g with operands := g.operands ++ [arg] }

def addOperands (u : Usage) : Given → List String → Except Halt Given
  | g, [] => .ok g
  | g, arg :: args =>
    match u.addOperand g arg with
    | .ok g => addOperands u g args
    | .error h => .error h

/-- One more switch without a value. -/
def addSwitch (s : Switch) (g : Given) : Except Halt Given :=
  if s.value.isSome || g.has s.long then .error .misuse else .ok { g with switches := g.switches ++ [s.long] }

def addValue (s : Switch) (g : Given) (value : String) : Except Halt Given :=
  if value = "" || (g.value? s.long).isSome then .error .misuse else .ok { g with values := g.values ++ [(s.long, value)] }

/-- A switch that the argument looks like: a dash alone is an operand. -/
def looksLikeSwitch (arg : String) : Bool := arg.toList.head? == some '-' && arg != "-"

/-- The one-letter switches of an argument. -/
def addShorts (u : Usage) : Given → List Char → Except Halt Given
  | g, [] => .ok g
  | g, c :: cs =>
    if c = 'h' then .error .help
    else
      match u.short? c with
      | none => .error .misuse
      | some s =>
        match addSwitch s g with
        | .ok g => addShorts u g cs
        | .error h => .error h

/-- The name and, after an equals sign, the value of a long switch. -/
def longParts (cs : List Char) : String × Option String :=
  let name := Text.upTo '=' cs
  (String.ofList name, if name.length < cs.length then some (String.ofList (cs.drop (name.length + 1))) else none)

/-- What an argument adds, if it is complete; a long switch may still need a value. -/
inductive Reading where
  | complete (r : Except Halt Given)
  | needsValue (s : Switch)

def readLong (u : Usage) (g : Given) (cs : List Char) : Reading :=
  let (name, value) := longParts cs
  if name = "help" then .complete (.error (if value.isSome then .misuse else .help))
  else
    match u.long? name with
    | none => .complete (.error .misuse)
    | some s =>
      match s.value, value with
      | none, none => .complete (addSwitch s g)
      | none, some _ => .complete (.error .misuse)
      | some _, some v => .complete (addValue s g v)
      | some _, none => .needsValue s

def readOne (u : Usage) (g : Given) (arg : String) : Reading :=
  match arg.toList with
  | '-' :: '-' :: cs => u.readLong g cs
  | '-' :: c :: cs => .complete (u.addShorts g (c :: cs))
  | _ => .complete (u.addOperand g arg)

def read (u : Usage) : Given → List String → Except Halt Given
  | g, [] => .ok g
  | g, arg :: args =>
    if arg = "--" then u.addOperands g args
    else
      match u.readOne g arg with
      | .complete (.error h) => .error h
      | .complete (.ok g) => read u g args
      | .needsValue s =>
        match args with
        | [] => .error .misuse
        | v :: args =>
          if looksLikeSwitch v then .error .misuse
          else
            match addValue s g v with
            | .ok g => read u g args
            | .error h => .error h

/-- What the arguments give; a required operand has to be among them. -/
def parse (u : Usage) (args : List String) : Except Halt Given :=
  match u.read .empty args with
  | .error h => .error h
  | .ok g => if u.operand.any (·.required) && g.operands.isEmpty then .error .misuse else .ok g

end Usage

/-! ## Help -/

def blanks (n : Nat) : String := String.ofList (List.replicate n ' ')

/-- Rows of two columns; the second begins at the same place in all of them, on each of its lines. -/
def columns (rows : List (String × String)) : String :=
  let width := rows.foldl (fun w r => max w (plain r.1).length) 0
  String.join (rows.map fun r =>
    "  " ++ r.1 ++ blanks (width - (plain r.1).length + 2) ++
      Text.join ("\n" ++ blanks (width + 4)) (Text.split '\n' r.2) ++ "\n")

def titled (title : String) (rows : List (String × String)) : String :=
  if rows.isEmpty then "" else "\n" ++ underlined (title ++ ":") ++ "\n" ++ columns rows

/-- How a command is written, below what it is for. -/
def synopsis (about name rest : String) : String :=
  about ++ "\n\n" ++ underlined "Usage:" ++ " " ++ bold name ++ rest ++ "\n"

def Operand.sign (o : Operand) : String :=
  (if o.required then "<" ++ o.name ++ ">" else "[" ++ o.name ++ "]") ++ (if o.many then "..." else "")

def Switch.sign (s : Switch) : String :=
  (match s.short with
    | some c => bold (String.ofList ['-', c]) ++ ", "
    | none => "    ") ++
  bold ("--" ++ s.long) ++ (s.value.elim "" fun v => " <" ++ v ++ ">")

/-- What a switch is for, with the variable that replaces it. -/
def Switch.help (s : Switch) (vars : String → Option String) : String :=
  s.about ++ s.variableName.elim "" fun v => " [env: " ++ v ++ "=" ++ (vars v).getD "" ++ "]"

def helpRow : String × String := (bold "-h" ++ ", " ++ bold "--help", "Print help")

def Usage.help (u : Usage) (vars : String → Option String) : String :=
  shown vars (synopsis u.about u.name (" [OPTIONS]" ++ u.operand.elim "" fun o => " " ++ o.sign) ++
    titled "Arguments" (u.operand.toList.map fun o => (o.sign, o.about)) ++
    titled "Options" (u.switches.map (fun s => (s.sign, s.help vars)) ++ [helpRow]))

end GoAtlas.CommandLine
