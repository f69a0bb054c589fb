/-
  GoAtlas.Text.Table — tables of code points written as text.

  A table is a list of lines, and a line is a list of entries with a blank between them. Code points
  are written in base sixteen; `A-B` are the code points from A to B, both included.
-/
import GoAtlas.Text.Split

namespace GoAtlas.Text

def hexNumber (cs : List Char) : Nat := cs.foldl (fun n c => n * 16 + (hexValue? c).getD 0) 0

def entries (lines : List String) : List (List Char) := lines.flatMap fun l => fields ' ' l.toList

/-- `A-B`, or `A` for a range of one. -/
def rangeOf (cs : List Char) : Nat × Nat :=
  match (fields '-' cs).map hexNumber with
  | [a] => (a, a)
  | a :: b :: _ => (a, b)
  | [] => (0, 0)

abbrev RangeTable := Array (Nat × Nat)

def RangeTable.ofLines (lines : List String) : RangeTable := ((entries lines).map rangeOf).toArray

def RangeTable.contains (t : RangeTable) (c : Char) : Bool := t.any fun r => r.1 ≤ c.toNat && c.toNat ≤ r.2

end GoAtlas.Text
