/-
  GoAtlas.CommandLine.Plain — text for an output that is no terminal.

  Help is composed with styles for a terminal and, unless they are forced, written with everything
  taken out that would steer one: escape sequences, and control characters other than blanks and line
  ends. A sequence that is never finished swallows what follows, but a blank or a line end within one
  ends it and is written. The reading goes by bytes, since a byte of a longer character can end a
  sequence too.
-/
import GoAtlas.Text.Utf8

namespace GoAtlas.CommandLine

namespace Plain

/-- What the next byte belongs to. -/
inductive Mode where
  | text
  /-- A character of several bytes, of which this many are to come. -/
  | character (owed : Nat)
  | escape
  | escapeTail
  /-- A sequence with parameters, up to its final letter. -/
  | control
  /-- A string for the terminal, up to its terminator. -/
  | string
  /-- A title for the terminal, up to a bell. -/
  | title
  deriving DecidableEq, Repr

/-- A blank or line end among the control characters. -/
def isSpacing (b : Nat) : Bool := b == 9 || b == 10 || b == 12 || b == 13

/-- What the byte after an escape character begins. -/
def Mode.afterEscape (b : Nat) : Mode :=
  if b < 0x20 || 0x7E < b then .escape
  else if b < 0x30 then .escapeTail
  else if b = 0x50 || b = 0x58 || b = 0x5E || b = 0x5F then .string
  else if b = 0x5B then .control
  else if b = 0x5D then .title
  else .text

/-- What follows a byte that is read between characters, and whether the byte is written. -/
def Mode.ofText (b : Nat) : Mode × Bool :=
  if b < 0x20 then (.text, isSpacing b)
  else if b < 0x7F then (.text, true)
  else if b < 0xC2 then (.text, false)
  else if b < 0xE0 then (.character 1, true)
  else if b < 0xF0 then (.character 2, true)
  else if b < 0xF5 then (.character 3, true)
  else (.text, false)

/-- What follows a byte, and whether the byte is written. -/
def Mode.step (m : Mode) (b : Nat) : Mode × Bool :=
  match m with
  | .character owed => (if owed ≤ 1 then .text else .character (owed - 1), true)
  | _ =>
    if b = 0x1B then (.escape, false)
    else if b = 0x18 || b = 0x1A then (.text, false)
    else
      match m with
      | .string => (if b = 0x9C then .text else .string, false)
      | .title => (if b = 7 then .text else .title, false)
      | .escape => if isSpacing b then (.text, true) else (.afterEscape b, false)
      | .escapeTail => if isSpacing b then (.text, true) else (if 0x30 ≤ b && b ≤ 0x7E then .text else .escapeTail, false)
      | .control => if isSpacing b then (.text, true) else (if 0x40 ≤ b && b ≤ 0x7E then .text else .control, false)
      | _ => Mode.ofText b

def bytes : Mode → List UInt8 → List UInt8
  | _, [] => []
  | m, b :: bs =>
    let (next, written) := m.step b.toNat
    if written then b :: bytes next bs else bytes next bs

end Plain

/-- The text without anything that steers a terminal. -/
def plain (s : String) : String := Text.lossy ⟨(Plain.bytes .text (Text.bytesOf s).toList).toArray⟩

/-- A text in bold, as what is typed literally stands in help. -/
def bold (s : String) : String := "\x1b[1m" ++ s ++ "\x1b[0m"

/-- A text in bold and underlined, as titles stand in help. -/
def underlined (s : String) : String := "\x1b[1m\x1b[4m" ++ s ++ "\x1b[0m"

/-- Styles are written where `CLICOLOR_FORCE` has a value and `NO_COLOR` has none. -/
def stylesForced (vars : String → Option String) : Bool :=
  (vars "CLICOLOR_FORCE").any (· != "") && !(vars "NO_COLOR").any (· != "")

/-- A styled text as it is shown. -/
def shown (vars : String → Option String) (s : String) : String := if stylesForced vars then s else plain s

end GoAtlas.CommandLine
