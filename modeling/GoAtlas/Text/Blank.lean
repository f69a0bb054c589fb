/-
  GoAtlas.Text.Blank — white space.

  `isBlank` is the White_Space property of characters: the ASCII blanks from tab to carriage return and
  the space, next line, the no-break space and the typographic spaces and separators.
-/

namespace GoAtlas.Text

def isBlank (c : Char) : Bool :=
  let n := c.toNat
  (9 ≤ n && n ≤ 13) || n == 0x20 || n == 0x85 || n == 0xA0 || n == 0x1680 ||
    (0x2000 ≤ n && n ≤ 0x200A) || n == 0x2028 || n == 0x2029 || n == 0x202F || n == 0x205F ||
    n == 0x3000

def trimEndChars (cs : List Char) : List Char := (cs.reverse.dropWhile isBlank).reverse

def trimChars (cs : List Char) : List Char := trimEndChars (cs.dropWhile isBlank)

def trim (s : String) : String := String.ofList (trimChars s.toList)

def trimEnd (s : String) : String := String.ofList (trimEndChars s.toList)

/-- The non-empty runs of characters between white space. -/
def words (cs : List Char) : List (List Char) :=
  go cs []
where
  /-- `run` is the word under way, last character first. -/
  go : List Char → List Char → List (List Char)
    | [], run => if run.isEmpty then [] else [run.reverse]
    | c :: cs, run =>
      if isBlank c then
        if run.isEmpty then go cs [] else run.reverse :: go cs []
      else go cs (c :: run)

/-- The lines of a text: a line ends in a newline, before which one carriage return is dropped; text
    after the last newline is a line too. -/
def lines (s : String) : List String :=
  let fs := fields s.toList
  fs.map fun f => String.ofList (f.getLast?.elim f fun c => if c = '\r' then f.dropLast else f)
where
  fields (cs : List Char) : List (List Char) := go cs []
  go : List Char → List Char → List (List Char)
    | [], run => if run.isEmpty then [] else [run.reverse]
    | c :: cs, run => if c = '\n' then run.reverse :: go cs [] else go cs (c :: run)

end GoAtlas.Text
