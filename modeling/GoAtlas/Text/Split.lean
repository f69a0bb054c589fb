/-
  GoAtlas.Text.Split — cutting text at separators.

  Everything is defined by recursion on a list, of characters mostly, and lifted to `String` by one
  wrapper each; paths are cut at slashes in the same way, octet by octet. `fields` keeps every field,
  empty ones included, so that joining the fields with the separator gives the text back
  (`joinFields_fields`).
-/

namespace GoAtlas.Text

section Fields

variable {α : Type}

/-- The fields between occurrences of `sep`: one more than there are separators. -/
def fields [DecidableEq α] (sep : α) : List α → List (List α)
  | [] => [[]]
  | c :: cs =>
    if c = sep then [] :: fields sep cs
    else match fields sep cs with
      | [] => [[c]]
      | f :: fs => (c :: f) :: fs

/-- Fields written one after the other with `sep` between them. -/
def joinFields (sep : List α) : List (List α) → List α
  | [] => []
  | [f] => f
  | f :: g :: fs => f ++ sep ++ joinFields sep (g :: fs)

theorem fields_ne_nil [DecidableEq α] (sep : α) (cs : List α) : fields sep cs ≠ [] := by
  cases cs with
  | nil => simp [fields]
  | cons c cs =>
    simp only [fields]
    split
    · simp
    · split <;> simp

theorem joinFields_fields [DecidableEq α] (sep : α) (cs : List α) : joinFields [sep] (fields sep cs) = cs := by
  induction cs with
  | nil => rfl
  | cons c cs ih =>
    simp only [fields]
    split
    · rename_i h
      cases hf : fields sep cs with
      | nil => exact absurd hf (fields_ne_nil sep cs)
      | cons f fs => rw [hf] at ih; simp [joinFields, ih, h]
    · cases hf : fields sep cs with
      | nil => exact absurd hf (fields_ne_nil sep cs)
      | cons f fs =>
        rw [hf] at ih
        cases fs with
        | nil => simpa [joinFields] using ih
        | cons g gs => simpa [joinFields] using ih

end Fields

def split (sep : Char) (s : String) : List String := (fields sep s.toList).map String.ofList

/-- `ss` written one after the other with `sep` between them. -/
def join (sep : String) : List String → String
  | [] => ""
  | [s] => s
  | s :: t :: ss => s ++ sep ++ join sep (t :: ss)

/-- What follows `lead`, if the text begins with it. -/
def after? : (lead text : List Char) → Option (List Char)
  | [], cs => some cs
  | _ :: _, [] => none
  | l :: ls, c :: cs => if l = c then after? ls cs else none

/-- What stands before `tail`, if the text ends with it. -/
def before? (tail text : List Char) : Option (List Char) :=
  (after? tail.reverse text.reverse).map List.reverse

/-- The text cut at every occurrence of `mark`, found from the left without overlap; `budget` bounds
    the number of steps and the length of the text is enough. -/
def cutsWithin (mark : List Char) : Nat → List Char → List (List Char)
  | 0, cs => [cs]
  | _ + 1, [] => [[]]
  | budget + 1, c :: cs =>
    match after? mark (c :: cs) with
    | some rest => [] :: cutsWithin mark budget rest
    | none =>
      match cutsWithin mark budget cs with
      | [] => [[c]]
      | f :: fs => (c :: f) :: fs

def cuts (mark : List Char) (cs : List Char) : List (List Char) := cutsWithin mark (cs.length + 1) cs

/-- The text up to the first `c`, without it; all of it where there is none. -/
def upTo (c : Char) (cs : List Char) : List Char := cs.takeWhile (· != c)

/-- The text after the last `c`, if there is one. -/
def afterLast? (c : Char) (cs : List Char) : Option (List Char) :=
  match fields c cs with
  | [] | [_] => none
  | fs => fs.getLast?

/-- The text before the last `c`, if there is one. -/
def beforeLast? (c : Char) (cs : List Char) : Option (List Char) :=
  match fields c cs with
  | [] | [_] => none
  | fs => some (joinFields [c] fs.dropLast)

def isDigit (c : Char) : Bool := '0' ≤ c && c ≤ '9'

def isLower (c : Char) : Bool := 'a' ≤ c && c ≤ 'z'

def isUpper (c : Char) : Bool := 'A' ≤ c && c ≤ 'Z'

def isLetter (c : Char) : Bool := isLower c || isUpper c

def isAlnum (c : Char) : Bool := isLetter c || isDigit c

def lower (c : Char) : Char := if isUpper c then Char.ofNat (c.toNat + 32) else c

/-- The value of a digit of base sixteen, in either case. -/
def hexValue? (c : Char) : Option Nat :=
  if isDigit c then some (c.toNat - 48)
  else if 'a' ≤ c && c ≤ 'f' then some (c.toNat - 87)
  else if 'A' ≤ c && c ≤ 'F' then some (c.toNat - 55)
  else none

def hexUpper (n : Nat) : Char := if n < 10 then Char.ofNat (48 + n) else Char.ofNat (55 + n)

/-- The number that digits below `base`, at most ten, write. -/
def numeral (base : Nat) (cs : List Char) : Nat := cs.foldl (fun n c => n * base + (c.toNat - 48)) 0

/-- The number that decimal digits write. -/
def decimal (cs : List Char) : Nat := numeral 10 cs

end GoAtlas.Text
