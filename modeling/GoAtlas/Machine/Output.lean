/-
  GoAtlas.Machine.Output — what small programs write.

  `echoed` and `formatted` give the bytes that echo and printf write, `holds?` the verdict of test.
  Backslashes write control characters and, in base eight, any byte.
-/
import GoAtlas.Machine.Disk

namespace GoAtlas

/-- What a program that has ended left behind; without a code it was killed. -/
structure Output where
  code : Option Nat
  stdout : Text.Bytes
  stderr : Text.Bytes

namespace Output

def ofText (code : Nat) (stdout stderr : String) : Output := ⟨some code, Text.bytesOf stdout, Text.bytesOf stderr⟩

abbrev ByteList := List UInt8

def bytes (s : String) : ByteList := (Text.bytesOf s).toList

def ofBytes (b : ByteList) : Text.Bytes := ⟨b.toArray⟩

/-! ## Escapes -/

def isOctal (c : Char) : Bool := '0' ≤ c && c ≤ '7'

/-- Up to `n` digits of base eight: the byte and what follows. -/
def octal (n : Nat) (cs : List Char) : UInt8 × List Char :=
  let ds := (cs.take n).takeWhile isOctal
  ((Text.numeral 8 ds).toUInt8, cs.drop ds.length)

/-- The control character that a letter after a backslash stands for. -/
def control? : Char → Option UInt8
  | 'a' => some 7
  | 'b' => some 8
  | 'f' => some 12
  | 'n' => some 10
  | 'r' => some 13
  | 't' => some 9
  | 'v' => some 11
  | '\\' => some 92
  | _ => none

/-- How digits after a backslash are read: after a zero only, or directly. -/
inductive Digits where
  | afterZero
  | direct
  deriving DecidableEq, Repr

/-- The bytes that a text with escapes writes, and whether it ended output with `\c`. -/
def unescaped (digits : Digits) : Nat → List Char → ByteList × Bool
  | 0, _ => ([], false)
  | _ + 1, [] => ([], false)
  | fuel + 1, '\\' :: c :: cs =>
    let put (b : ByteList) (rest : List Char) : ByteList × Bool :=
      let r := unescaped digits fuel rest
      (b ++ r.1, r.2)
    match control? c with
    | some b => put [b] cs
    | none =>
      if c = 'c' then ([], true)
      else if c = '0' && digits = .afterZero then
        let r := octal 3 cs
        put [r.1] r.2
      else if isOctal c && digits = .direct then
        let r := octal 3 (c :: cs)
        put [r.1] r.2
      else put (bytes "\\") (c :: cs)
  | fuel + 1, c :: cs =>
    let r := unescaped digits fuel cs
    (bytes (String.singleton c) ++ r.1, r.2)

def unescape (digits : Digits) (s : String) : ByteList × Bool := unescaped digits (s.length + 1) s.toList

/-! ## Programs -/

/-- The words with blanks between them; escapes are read if asked for. -/
def echoed (escapes newline : Bool) (args : List String) : ByteList :=
  let line := Text.join " " args
  let (b, cut) := if escapes then unescape .afterZero line else (bytes line, false)
  if newline && !cut then b ++ [10] else b

/-- Echo as the shell has it: escapes are read, and `-n` leaves out the newline. -/
def shellEcho : List String → ByteList
  | "-n" :: args => echoed true false args
  | args => echoed true true args

/-- Echo as a program: letters after a dash switch the newline and escapes. -/
def echo (escapes newline : Bool) : List String → ByteList
  | [] => echoed escapes newline []
  | arg :: args =>
    match arg.toList with
    | '-' :: c :: cs =>
      if (c :: cs).all fun x => x == 'n' || x == 'e' || x == 'E' then
        let on := (c :: cs).foldl (fun e x => if x = 'e' then true else if x = 'E' then false else e) escapes
        echo on (newline && !(c :: cs).contains 'n') args
      else echoed escapes newline (arg :: args)
    | _ => echoed escapes newline (arg :: args)

/-- The integer that an argument writes; anything else counts as zero. -/
def integerOf (s : String) : Int :=
  match s.toList with
  | '-' :: cs => if cs.all Text.isDigit then -(Text.decimal cs : Int) else 0
  | cs => if cs.all Text.isDigit then Text.decimal cs else 0

/-- One pass over a format: the bytes, the arguments left, and whether output ended. -/
def formattedOnce : Nat → List Char → List String → ByteList × List String × Bool
  | 0, _, args => ([], args, false)
  | _ + 1, [], args => ([], args, false)
  | fuel + 1, '%' :: c :: cs, args =>
    let put (b : ByteList) (args : List String) : ByteList × List String × Bool :=
      let r := formattedOnce fuel cs args
      (b ++ r.1, r.2)
    let arg := args.headD ""
    match c with
    | '%' => put [37] args
    | 's' => put (bytes arg) (args.drop 1)
    | 'd' | 'i' => put (bytes (toString (integerOf arg))) (args.drop 1)
    | 'c' => put (bytes (String.ofList (arg.toList.take 1))) (args.drop 1)
    | 'b' =>
      let r := unescape .afterZero arg
      if r.2 then (r.1, args.drop 1, true) else put r.1 (args.drop 1)
    | c => put (bytes (String.ofList ['%', c])) args
  | fuel + 1, '\\' :: c :: cs, args =>
    let (piece, rest) :=
      if isOctal c then (['\\', c] ++ (cs.take 2).takeWhile isOctal, cs.drop ((cs.take 2).takeWhile isOctal).length)
      else (['\\', c], cs)
    let (b, cut) := unescape .direct (String.ofList piece)
    if cut then (b, args, true)
    else
      let r := formattedOnce fuel rest args
      (b ++ r.1, r.2)
  | fuel + 1, c :: cs, args =>
    let r := formattedOnce fuel cs args
    (bytes (String.singleton c) ++ r.1, r.2)

/-- The format is used again while it takes up arguments. -/
def formattedFrom (format : List Char) : (passes : Nat) → List String → ByteList
  | 0, _ => []
  | passes + 1, args =>
    let (b, rest, cut) := formattedOnce (format.length + 1) format args
    if cut || rest.isEmpty || rest.length = args.length then b else b ++ formattedFrom format passes rest

def formatted (format : String) (args : List String) : ByteList :=
  formattedFrom format.toList (args.length + 1) args

def comparison? (op : String) : Option (Int → Int → Bool) :=
  match op with
  | "-eq" => some fun a b => a == b
  | "-ne" => some fun a b => a != b
  | "-lt" => some fun a b => a < b
  | "-le" => some fun a b => a ≤ b
  | "-gt" => some fun a b => b < a
  | "-ge" => some fun a b => b ≤ a
  | _ => none

def hasContents : Inode → Bool
  | .file b _ => b.size != 0
  | .tool _ => true
  | _ => false

/-- The verdict on an expression, or none if it is malformed. -/
def holds? (d : Disk) (cwd : Place) : List String → Option Bool
  | [] => some false
  | [s] => some (s != "")
  | "!" :: rest => (holds? d cwd rest).map not
  | [op, arg] =>
    let names (kind : Inode → Bool) : Option Bool := some (d.names cwd kind ⟨arg⟩)
    match op with
    | "-n" => some (arg != "")
    | "-z" => some (arg == "")
    | "-e" | "-r" | "-w" => names fun _ => true
    | "-f" => names Disk.isRegular
    | "-d" => names Disk.isDirectory
    | "-x" => names fun n => Disk.isExecutable n || Disk.isDirectory n
    | "-s" => names fun n => hasContents n || Disk.isDirectory n
    | "-h" | "-L" =>
      match d.stat cwd false ⟨arg⟩ with
      | .ok (_, .link _) => some true
      | _ => some false
    | _ => none
  | [a, op, b] =>
    match op, comparison? op with
    | "=", _ => some (a == b)
    | "!=", _ => some (a != b)
    | _, some f => some (f (integerOf a) (integerOf b))
    | _, none => none
  | _ => none

def verdictCode : Option Bool → Nat
  | some true => 0
  | some false => 1
  | none => 2

/-- The verdict of a test that is written with brackets or by name. -/
def testCode (d : Disk) (cwd : Place) (name : String) (args : List String) : Nat :=
  if name = "[" then
    if args.getLast? = some "]" then verdictCode (holds? d cwd args.dropLast) else 2
  else verdictCode (holds? d cwd args)

/-- The files one after the other; each that cannot be read is reported. -/
def concatenated (d : Disk) (cwd : Place) : List String → Output
  | [] => ofText 0 "" ""
  | arg :: args =>
    let rest := concatenated d cwd args
    if arg = "-" then rest
    else
      match d.read cwd ⟨arg⟩ with
      | .ok b => { rest with stdout := b ++ rest.stdout }
      | .error e => ⟨some 1, rest.stdout, Text.bytesOf ("cat: " ++ arg ++ ": " ++ e.text ++ "\n") ++ rest.stderr⟩

end Output

end GoAtlas
