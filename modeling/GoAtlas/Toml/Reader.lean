/-
  GoAtlas.Toml.Reader — TOML text to values.

  A document is a list of lines: headers, settings, comments, blanks. `ofText?` gives the object that
  it writes, or none if a line is malformed or sets what is already there. The fuel is the length of
  the text; how deep values may nest is bounded by `nesting`.
-/
import GoAtlas.Toml.Scalar
import GoAtlas.Toml.Table

namespace GoAtlas.Toml

/-- Values nest less deep than this, and a dotted key has fewer parts. -/
def nesting : Nat := 80

def skipComment : List Char → List Char
  | '#' :: cs => cs.dropWhile isPlain
  | cs => cs

/-- Past spaces, line ends and comments. -/
def skipTrivia : Nat → List Char → List Char
  | 0, cs => cs
  | fuel + 1, cs =>
    let cs := skipComment (skipSpace cs)
    match newline? cs with
    | some cs => skipTrivia fuel cs
    | none => cs

/-- What follows the end of a line, past a comment. -/
def lineEnd? (cs : List Char) : Option (List Char) :=
  match skipComment (skipSpace cs) with
  | [] => some []
  | cs => newline? cs

/-! ## Keys -/

def isBare (c : Char) : Bool := Text.isAlnum c || c == '_' || c == '-'

def simpleKey? (cs : List Char) : Option (String × List Char) :=
  match cs.takeWhile isBare with
  | [] => lineString? cs
  | k => some (String.ofList k, cs.dropWhile isBare)

/-- The parts of a key, dots between them, with spaces around each. -/
def keyParts? : Nat → List Char → Option (List String × List Char)
  | 0, _ => none
  | fuel + 1, cs =>
    match simpleKey? (skipSpace cs) with
    | none => none
    | some (k, cs) =>
      match skipSpace cs with
      | '.' :: cs => (keyParts? fuel cs).map fun r => (k :: r.1, r.2)
      | cs => some ([k], cs)

def key? (cs : List Char) : Option (List String × List Char) :=
  (keyParts? (cs.length + 1) cs).bind fun r => if r.1.length < nesting then some r else none

/-! ## Values -/

mutual

def value? : (fuel room : Nat) → List Char → Option (Json × List Char)
  | 0, _, _ => none
  | fuel + 1, room, cs =>
    match cs with
    | 't' :: 'r' :: 'u' :: 'e' :: cs => some (.bool true, cs)
    | 'f' :: 'a' :: 'l' :: 's' :: 'e' :: cs => some (.bool false, cs)
    | '[' :: cs =>
      if room = 0 then none else (items? fuel (room - 1) cs).map fun r => (.arr r.1, r.2)
    | '\x7b' :: cs =>
      if room = 0 then none
      else
        match skipSpace cs with
        | '\x7d' :: cs => some (.obj [], cs)
        | _ => (pairs? fuel (room - 1) (.empty .named) cs).map fun r => (r.1.toJson, r.2)
    | c :: _ =>
      if c = '"' || c = '\'' then (string? cs).map fun r => (.str r.1, r.2) else number? cs
    | [] => none

/-- The items of an array up to its closing bracket; the last may be followed by a comma. -/
def items? : (fuel room : Nat) → List Char → Option (List Json × List Char)
  | 0, _, _ => none
  | fuel + 1, room, cs =>
    match skipTrivia cs.length cs with
    | ']' :: cs => some ([], cs)
    | cs =>
      match value? fuel room cs with
      | none => none
      | some (v, cs) =>
        match skipTrivia cs.length cs with
        | ',' :: cs => (items? fuel room cs).map fun r => (v :: r.1, r.2)
        | ']' :: cs => some ([v], cs)
        | _ => none

/-- One or more settings of an inline table up to its closing brace, added to the table. -/
def pairs? : (fuel room : Nat) → Table → List Char → Option (Table × List Char)
  | 0, _, _, _ => none
  | fuel + 1, room, t, cs =>
    match key? cs with
    | some (keys, '=' :: cs) =>
      match value? fuel room (skipSpace cs) with
      | none => none
      | some (v, cs) =>
        match t.set keys v with
        | none => none
        | some t =>
          match skipSpace cs with
          | ',' :: cs => pairs? fuel room t cs
          | '\x7d' :: cs => some (t, cs)
          | _ => none
    | _ => none

end

/-! ## Documents -/

structure Document where
  root : Table
  /-- The table that settings go to. -/
  header : List String

def Document.empty : Document := ⟨.empty .named, []⟩

/-- One line that is neither blank nor a comment: the document with it, and the rest. -/
def line? (d : Document) : List Char → Option (Document × List Char)
  | '[' :: '[' :: cs =>
    match key? cs with
    | some (keys, ']' :: ']' :: cs) => do
      let root ← d.root.addRow keys
      let cs ← lineEnd? cs
      return (⟨root, keys⟩, cs)
    | _ => none
  | '[' :: cs =>
    match key? cs with
    | some (keys, ']' :: cs) => do
      let root ← d.root.nameTable keys
      let cs ← lineEnd? cs
      return (⟨root, keys⟩, cs)
    | _ => none
  | cs =>
    match key? cs with
    | some (keys, '=' :: cs) => do
      let (v, cs) ← value? (2 * cs.length + 2) (nesting - 1) (skipSpace cs)
      let root ← d.root.setUnder d.header keys v
      let cs ← lineEnd? cs
      return (⟨root, d.header⟩, cs)
    | _ => none

def lines? : Nat → Document → List Char → Option Document
  | 0, _, _ => none
  | fuel + 1, d, cs =>
    match skipSpace cs with
    | [] => some d
    | '#' :: cs => (lineEnd? ('#' :: cs)).bind fun cs => lines? fuel d cs
    | cs =>
      match newline? cs with
      | some cs => lines? fuel d cs
      | none => (line? d cs).bind fun r => lines? fuel r.1 r.2

/-- The object that a document writes; a byte order mark before it is ignored. -/
def ofText? (s : String) : Option Json :=
  let cs :=
    match s.toList with
    | c :: cs => if c.toNat = 0xFEFF then cs else c :: cs
    | [] => []
  (lines? (cs.length + 1) .empty cs).map fun d => d.root.toJson

end GoAtlas.Toml
