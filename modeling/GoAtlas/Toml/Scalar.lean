/-
  GoAtlas.Toml.Scalar — strings, numbers and dates of TOML.

  Every reader takes the text that is left and gives the value with what follows it, or none. A number
  is kept as the value of a JSON number; of a date only the shape matters, so it is read as an empty
  object. Line ends inside a string are read as newlines.
-/
import GoAtlas.Json.Basic
import GoAtlas.Text.Split

namespace GoAtlas.Toml

def isSpace (c : Char) : Bool := c == ' ' || c == '\t'

def skipSpace (cs : List Char) : List Char := cs.dropWhile isSpace

/-- A character that may stand in comments and, but for quotes, in strings: no control but tab. -/
def isPlain (c : Char) : Bool := c == '\t' || (0x20 ≤ c.toNat && c.toNat != 0x7F)

/-- What follows a line end. -/
def newline? : List Char → Option (List Char)
  | '\n' :: cs => some cs
  | '\r' :: '\n' :: cs => some cs
  | _ => none

/-! ## Strings -/

/-- The number that `n` digits of base sixteen write. -/
def hexDigits? : (n : Nat) → (sum : Nat) → List Char → Option (Nat × List Char)
  | 0, sum, cs => some (sum, cs)
  | n + 1, sum, c :: cs =>
    match Text.hexValue? c with
    | some d => hexDigits? n (sum * 16 + d) cs
    | none => none
  | _ + 1, _, [] => none

def scalarOf? (n : Nat) : Option Char := if h : n.isValidChar then some (Char.ofNatAux n h) else none

/-- The character of an escape, after the backslash. -/
def escape? : List Char → Option (Char × List Char)
  | 'b' :: cs => some (Char.ofNat 8, cs)
  | 't' :: cs => some ('\t', cs)
  | 'n' :: cs => some ('\n', cs)
  | 'f' :: cs => some (Char.ofNat 12, cs)
  | 'r' :: cs => some ('\r', cs)
  | '"' :: cs => some ('"', cs)
  | '\\' :: cs => some ('\\', cs)
  | 'u' :: cs => (hexDigits? 4 0 cs).bind fun r => (scalarOf? r.1).map fun c => (c, r.2)
  | 'U' :: cs => (hexDigits? 8 0 cs).bind fun r => (scalarOf? r.1).map fun c => (c, r.2)
  | _ => none

/-- One line between quotes, after the opening one; escapes are read if there are any. -/
def lineBody? (quote : Char) (escapes : Bool) : Nat → List Char → Option (List Char × List Char)
  | 0, _ => none
  | _ + 1, [] => none
  | fuel + 1, c :: cs =>
    if c = quote then some ([], cs)
    else if c = '\\' && escapes then
      match escape? cs with
      | some (e, cs) => (lineBody? quote escapes fuel cs).map fun r => (e :: r.1, r.2)
      | none => none
    else if isPlain c then (lineBody? quote escapes fuel cs).map fun r => (c :: r.1, r.2)
    else none

/-- Past spaces and line ends. -/
def skipBlank : List Char → List Char
  | '\r' :: '\n' :: cs => skipBlank cs
  | c :: cs => if isSpace c || c == '\n' then skipBlank cs else c :: cs
  | [] => []

/-- Where the text goes on if a backslash stands at the end of a line. -/
def continued? (cs : List Char) : Option (List Char) := (newline? (skipSpace cs)).map skipBlank

/-- Several lines between triple quotes, after the opening ones. Up to two quotes may stand before the
    closing three. -/
def linesBody? (quote : Char) (escapes : Bool) : Nat → List Char → Option (List Char × List Char)
  | 0, _ => none
  | _ + 1, [] => none
  | fuel + 1, c :: cs =>
    if c = quote then
      let run := ((c :: cs).takeWhile (· == quote)).length
      if 3 ≤ run then some (List.replicate (min run 5 - 3) quote, (c :: cs).drop (min run 5))
      else (linesBody? quote escapes fuel cs).map fun r => (c :: r.1, r.2)
    else if c = '\\' && escapes then
      match continued? cs with
      | some cs => linesBody? quote escapes fuel cs
      | none =>
        match escape? cs with
        | some (e, cs) => (linesBody? quote escapes fuel cs).map fun r => (e :: r.1, r.2)
        | none => none
    else
      match newline? (c :: cs) with
      | some cs => (linesBody? quote escapes fuel cs).map fun r => ('\n' :: r.1, r.2)
      | none =>
        if isPlain c then (linesBody? quote escapes fuel cs).map fun r => (c :: r.1, r.2) else none

def asText (r : List Char × List Char) : String × List Char := (String.ofList r.1, r.2)

/-- A string on one line, as keys may be written. -/
def lineString? : List Char → Option (String × List Char)
  | '"' :: cs => (lineBody? '"' true (cs.length + 1) cs).map asText
  | '\'' :: cs => (lineBody? '\'' false (cs.length + 1) cs).map asText
  | _ => none

def string? : List Char → Option (String × List Char)
  | '"' :: '"' :: '"' :: cs => (linesBody? '"' true (cs.length + 1) ((newline? cs).getD cs)).map asText
  | '\'' :: '\'' :: '\'' :: cs => (linesBody? '\'' false (cs.length + 1) ((newline? cs).getD cs)).map asText
  | cs => lineString? cs

/-! ## Numbers -/

/-- The digits after the first: an underscore may stand between two of them. -/
def moreDigits (isDigit : Char → Bool) : List Char → List Char × List Char
  | '_' :: c :: cs =>
    if isDigit c then
      let r := moreDigits isDigit cs
      (c :: r.1, r.2)
    else ([], '_' :: c :: cs)
  | c :: cs =>
    if isDigit c then
      let r := moreDigits isDigit cs
      (c :: r.1, r.2)
    else ([], c :: cs)
  | [] => ([], [])

def digits? (isDigit : Char → Bool) : List Char → Option (List Char × List Char)
  | c :: cs => if isDigit c then some (c :: (moreDigits isDigit cs).1, (moreDigits isDigit cs).2) else none
  | [] => none

/-- Digits without a leading zero, or a single zero. -/
def whole? : List Char → Option (List Char × List Char)
  | '0' :: cs => some (['0'], cs)
  | cs => digits? Text.isDigit cs

/-- The sign and what follows it. -/
def sign : List Char → Bool × List Char
  | '-' :: cs => (true, cs)
  | '+' :: cs => (false, cs)
  | cs => (false, cs)

/-- An integer that 64 bits hold. -/
def int64? (negative : Bool) (n : Nat) : Option Json :=
  if negative then if n ≤ 9223372036854775808 then some (.int (-(n : Int))) else none
  else if n ≤ 9223372036854775807 then some (.int n) else none

/-- An integer of base two, eight or sixteen, after its mark. -/
def based? (base : Nat) (cs : List Char) : Option (Json × List Char) :=
  let isDigit (c : Char) : Bool := (Text.hexValue? c).any (· < base)
  (digits? isDigit cs).bind fun r =>
    let n := r.1.foldl (fun n c => n * base + (Text.hexValue? c).getD 0) 0
    (int64? false n).map fun j => (j, r.2)

def fraction? : List Char → Option (List Char × List Char)
  | '.' :: cs => digits? Text.isDigit cs
  | _ => none

/-- The exponent, negative or not. -/
def exponent? : List Char → Option (Bool × List Char × List Char)
  | c :: cs =>
    if c = 'e' || c = 'E' then (digits? Text.isDigit (sign cs).2).map fun r => ((sign cs).1, r) else none
  | [] => none

/-- The digits, scaled by a power of ten, are no finite number of double precision: they reach the
    middle between its greatest value and the next power of two. -/
def isHuge (digits : List Char) (scale : Int) : Bool :=
  let m := Text.decimal digits
  let places : Int := (digits.dropWhile (· == '0')).length + scale
  if m = 0 || places < 300 then false
  else if 320 < places then true
  else
    let bound := Nat.pow 2 1024 - Nat.pow 2 970
    if 0 ≤ scale then bound ≤ m * Nat.pow 10 scale.toNat else bound * Nat.pow 10 (-scale).toNat ≤ m

/-- A number with a fraction or an exponent. One that is too great is refused; one that is too small
    below zero reads as infinite. -/
def float? (cs : List Char) : Option (Json × List Char) :=
  match whole? (sign cs).2 with
  | none => none
  | some (whole, rest) =>
    let part := fraction? rest
    let rest' := (part.map (·.2)).getD rest
    let power := exponent? rest'
    if part.isNone && power.isNone then none
    else
      let digits := whole ++ (part.map (·.1)).getD []
      let places := ((part.map (·.1)).getD []).length
      let shift : Int := power.elim 0 fun p => if p.1 then -(Text.decimal p.2.1 : Int) else Text.decimal p.2.1
      if !(sign cs).1 && isHuge digits (shift - places) then none
      else
        let rest'' := power.elim rest' fun p => p.2.2
        some (.decimal (String.ofList (cs.take (cs.length - rest''.length))), rest'')

def specialFloat? (cs : List Char) : Option (Json × List Char) :=
  match (sign cs).2 with
  | 'i' :: 'n' :: 'f' :: rest => some (.decimal "inf", rest)
  | 'n' :: 'a' :: 'n' :: rest => some (.decimal "nan", rest)
  | _ => none

def integer? : List Char → Option (Json × List Char)
  | '0' :: 'x' :: cs => based? 16 cs
  | '0' :: 'o' :: cs => based? 8 cs
  | '0' :: 'b' :: cs => based? 2 cs
  | cs => (whole? (sign cs).2).bind fun r => (int64? (sign cs).1 (Text.decimal r.1)).map fun j => (j, r.2)

/-! ## Dates -/

/-- A number of exactly two digits within the bounds. -/
def twoDigits? (least greatest : Nat) : List Char → Option (Nat × List Char)
  | a :: b :: cs =>
    if Text.isDigit a && Text.isDigit b then
      let n := Text.decimal [a, b]
      if least ≤ n && n ≤ greatest then some (n, cs) else none
    else none
  | _ => none

def skip? (c : Char) : List Char → Option (List Char)
  | d :: cs => if d = c then some cs else none
  | [] => none

def daysIn (year month : Nat) : Nat :=
  if month = 2 then if year % 4 = 0 && (year % 100 != 0 || year % 400 = 0) then 29 else 28
  else if [4, 6, 9, 11].contains month then 30
  else 31

def day? : List Char → Option (List Char)
  | a :: b :: c :: d :: cs => do
    let year := [a, b, c, d]
    if !year.all Text.isDigit then none
    else
      let (month, cs) ← twoDigits? 1 12 (← skip? '-' cs)
      let (_, cs) ← twoDigits? 1 (daysIn (Text.decimal year) month) (← skip? '-' cs)
      return cs
  | _ => none

def secondPart : List Char → List Char
  | '.' :: c :: cs => if Text.isDigit c then cs.dropWhile Text.isDigit else '.' :: c :: cs
  | cs => cs

def time? (cs : List Char) : Option (List Char) := do
  let (_, cs) ← twoDigits? 0 23 cs
  let (_, cs) ← twoDigits? 0 59 (← skip? ':' cs)
  let (_, cs) ← twoDigits? 0 60 (← skip? ':' cs)
  return secondPart cs

def offset? : List Char → Option (List Char)
  | [] => none
  | c :: cs =>
    if c = 'Z' || c = 'z' then some cs
    else if c = '+' || c = '-' then do
      let (_, cs) ← twoDigits? 0 23 cs
      let (_, cs) ← twoDigits? 0 59 (← skip? ':' cs)
      return cs
    else none

/-- The time of day after a date, if one follows. -/
def dayTime? : List Char → Option (List Char)
  | c :: cs => if c = 'T' || c = 't' || c = ' ' then (time? cs).map fun cs => (offset? cs).getD cs else none
  | [] => none

def date? (cs : List Char) : Option (Json × List Char) :=
  match day? cs with
  | some rest => some (.obj [], (dayTime? rest).getD rest)
  | none => (time? cs).map fun rest => (.obj [], rest)

def number? (cs : List Char) : Option (Json × List Char) :=
  (date? cs).or ((specialFloat? cs).or ((float? cs).or (integer? cs)))

end GoAtlas.Toml
