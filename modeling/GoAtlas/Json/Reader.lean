/-
  GoAtlas.Json.Reader — JSON text to values.

  The reader works on bytes, seen as characters below 256. The text of a string is put together from
  its bytes and escapes and has to be well-formed; a string that is not (a lone surrogate, ill-formed
  bytes) still has the shape of a value and reads as null. As a member name such a string is refused in
  the outermost object and reads as the empty name in all others. The fuel is the length of the text:
  every call consumes a character or is followed by one that does.
-/
import GoAtlas.Json.Basic
import GoAtlas.Text.Split
import GoAtlas.Text.Utf8

namespace GoAtlas.Json

def isSpace (c : Char) : Bool := c == ' ' || c == '\t' || c == '\n' || c == '\r'

def skipSpace (cs : List Char) : List Char := cs.dropWhile isSpace

/-- The bytes of a character, as characters below 256. -/
def byteChars (c : Char) : List Char :=
  (Text.bytesOf (String.singleton c)).toList.map fun b => Char.ofNat b.toNat

def textOfBytes? (cs : List Char) : Option String :=
  Text.text? ⟨(cs.map fun c => c.toNat.toUInt8).toArray⟩

/-- Four digits of base sixteen. -/
def hex4? : List Char → Option (Nat × List Char)
  | a :: b :: c :: d :: cs =>
    match Text.hexValue? a, Text.hexValue? b, Text.hexValue? c, Text.hexValue? d with
    | some a, some b, some c, some d => some (((a * 16 + b) * 16 + c) * 16 + d, cs)
    | _, _, _, _ => none
  | _ => none

def escape? : Char → Option Char
  | '"' => some '"'
  | '\\' => some '\\'
  | '/' => some '/'
  | 'b' => some (Char.ofNat 8)
  | 'f' => some (Char.ofNat 12)
  | 'n' => some '\n'
  | 'r' => some '\r'
  | 't' => some '\t'
  | _ => none

def isHighSurrogate (n : Nat) : Bool := 0xD800 ≤ n && n ≤ 0xDBFF

def isLowSurrogate (n : Nat) : Bool := 0xDC00 ≤ n && n ≤ 0xDFFF

/-- The rest of a string after its opening quote: its contents, or none if an escape is no character,
    and what follows the closing quote. `put` writes an escaped character into the contents. -/
def stringBody (put : Char → List Char) : Nat → List Char → Option (Option (List Char) × List Char)
  | 0, _ => none
  | _ + 1, [] => none
  | _ + 1, '"' :: cs => some (some [], cs)
  | fuel + 1, '\\' :: 'u' :: cs =>
    match hex4? cs with
    | none => none
    | some (n, cs) =>
      if isHighSurrogate n then
        match cs with
        | '\\' :: 'u' :: ds =>
          match hex4? ds with
          | none => none
          | some (m, es) =>
            if isLowSurrogate m then
              (stringBody put fuel es).map fun r =>
                (r.1.map (put (Char.ofNat (0x10000 + (n - 0xD800) * 1024 + (m - 0xDC00))) ++ ·), r.2)
            else (stringBody put fuel es).map fun r => (none, r.2)
        | _ => (stringBody put fuel cs).map fun r => (none, r.2)
      else if isLowSurrogate n then (stringBody put fuel cs).map fun r => (none, r.2)
      else (stringBody put fuel cs).map fun r => (r.1.map (put (Char.ofNat n) ++ ·), r.2)
  | fuel + 1, '\\' :: c :: cs =>
    match escape? c with
    | none => none
    | some e => (stringBody put fuel cs).map fun r => (r.1.map (e :: ·), r.2)
  | fuel + 1, c :: cs =>
    if c.toNat < 0x20 || c == '\\' then none
    else (stringBody put fuel cs).map fun r => (r.1.map (c :: ·), r.2)

/-- One or more digits. -/
def digits1? (cs : List Char) : Option (List Char × List Char) :=
  match cs.takeWhile Text.isDigit with
  | [] => none
  | ds => some (ds, cs.dropWhile Text.isDigit)

/-- Digits without a leading zero, or zero itself. -/
def natural? : List Char → Option (List Char × List Char)
  | '0' :: c :: cs => if Text.isDigit c then none else some (['0'], c :: cs)
  | cs => digits1? cs

def fraction? : List Char → Option (List Char × List Char)
  | '.' :: cs => (digits1? cs).map fun r => ('.' :: r.1, r.2)
  | cs => some ([], cs)

def exponent? : List Char → Option (List Char × List Char)
  | c :: cs =>
    if c == 'e' || c == 'E' then
      match cs with
      | s :: ds =>
        if s == '+' || s == '-' then (digits1? ds).map fun r => (c :: s :: r.1, r.2)
        else (digits1? cs).map fun r => (c :: r.1, r.2)
      | [] => none
    else some ([], c :: cs)
  | [] => some ([], [])

/-- Integers are those written without fraction and exponent that 64 bits hold. -/
def numberOf (negative : Bool) (whole rest : List Char) : Json :=
  let n := Text.decimal whole
  let text := String.ofList ((if negative then ['-'] else []) ++ whole ++ rest)
  if !rest.isEmpty then .decimal text
  else if negative then
    if n = 0 || 9223372036854775808 < n then .decimal text else .int (-(n : Int))
  else if 18446744073709551615 < n then .decimal text
  else .int n

def number? (cs : List Char) : Option (Json × List Char) :=
  let negative := cs.head? == some '-'
  match natural? (if negative then cs.drop 1 else cs) with
  | none => none
  | some (whole, cs) =>
    match fraction? cs with
    | none => none
    | some (fraction, cs) =>
      match exponent? cs with
      | none => none
      | some (exponent, cs) => some (numberOf negative whole (fraction ++ exponent), cs)

/-- The text of a member name. -/
def nameOf? (outermost : Bool) (contents : Option (List Char)) : Option String :=
  match contents.bind textOfBytes? with
  | some name => some name
  | none => if outermost then none else some ""

mutual

def value? : (fuel : Nat) → (outermost : Bool) → List Char → Option (Json × List Char)
  | 0, _, _ => none
  | fuel + 1, outermost, cs =>
    match skipSpace cs with
    | 'n' :: 'u' :: 'l' :: 'l' :: cs => some (.null, cs)
    | 't' :: 'r' :: 'u' :: 'e' :: cs => some (.bool true, cs)
    | 'f' :: 'a' :: 'l' :: 's' :: 'e' :: cs => some (.bool false, cs)
    | '"' :: cs =>
      (stringBody byteChars (cs.length + 1) cs).map fun r => (((r.1.bind textOfBytes?).map Json.str).getD .null, r.2)
    | '[' :: cs =>
      match skipSpace cs with
      | ']' :: cs => some (.arr [], cs)
      | cs => (itemsFrom? fuel cs).map fun r => (.arr r.1, r.2)
    | '\x7b' :: cs =>
      match skipSpace cs with
      | '\x7d' :: cs => some (.obj [], cs)
      | cs => (membersFrom? fuel outermost cs).map fun r => (.obj r.1, r.2)
    | cs => number? cs

/-- One or more items up to the closing bracket. -/
def itemsFrom? : Nat → List Char → Option (List Json × List Char)
  | 0, _ => none
  | fuel + 1, cs =>
    match value? fuel false cs with
    | none => none
    | some (j, cs) =>
      match skipSpace cs with
      | ',' :: cs => (itemsFrom? fuel cs).map fun r => (j :: r.1, r.2)
      | ']' :: cs => some ([j], cs)
      | _ => none

/-- One or more members up to the closing brace. -/
def membersFrom? : (fuel : Nat) → (outermost : Bool) → List Char → Option (List (String × Json) × List Char)
  | 0, _, _ => none
  | fuel + 1, outermost, cs =>
    match skipSpace cs with
    | '"' :: cs =>
      match stringBody byteChars (cs.length + 1) cs with
      | some (contents, cs) =>
        match nameOf? outermost contents, skipSpace cs with
        | some key, ':' :: cs =>
          match value? fuel false cs with
          | none => none
          | some (j, cs) =>
            match skipSpace cs with
            | ',' :: cs => (membersFrom? fuel outermost cs).map fun r => ((key, j) :: r.1, r.2)
            | '\x7d' :: cs => some ([(key, j)], cs)
            | _ => none
        | _, _ => none
      | none => none
    | _ => none

end

/-- The value that the bytes write, with nothing but space around it. -/
def ofBytes? (b : Text.Bytes) : Option Json :=
  let cs := b.toList.map fun x => Char.ofNat x.toNat
  match value? (2 * cs.length + 2) true cs with
  | some (j, rest) => if (skipSpace rest).isEmpty then some j else none
  | none => none

def ofText? (s : String) : Option Json := ofBytes? (Text.bytesOf s)

/-- The text that stands between two quotes, with its escapes resolved. -/
def unquote? (cs : List Char) : Option (List Char) :=
  match stringBody (fun c => [c]) (cs.length + 1) (cs ++ ['"']) with
  | some (some text, []) => some text
  | _ => none

end GoAtlas.Json
