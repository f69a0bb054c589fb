/-
  GoAtlas.Machine.Pattern — patterns over whole texts.

  A pattern is a list of signs: one that stands for any text, and one for a single character of a
  class. Characters that were quoted stand for themselves; of the others `*`, `?` and a bracket that is
  closed are signs.
-/
import GoAtlas.Text.Split

namespace GoAtlas

inductive PatternSign where
  | anything
  | one (member : Char → Bool)

abbrev Pattern := List PatternSign

namespace Pattern

/-- The pattern stands for the whole text. -/
def covers : Pattern → List Char → Bool
  | [], cs => cs.isEmpty
  | .anything :: ps, cs => (List.range (cs.length + 1)).any fun n => covers ps (cs.drop n)
  | .one _ :: _, [] => false
  | .one member :: ps, c :: cs => member c && covers ps cs

/-- A character of a pattern as it was written. -/
structure Mark where
  char : Char
  quoted : Bool

def Mark.is (m : Mark) (c : Char) : Bool := m.char == c && !m.quoted

/-- Membership in a class: its characters, and ranges of them. -/
def inClass (c : Char) : List Mark → Bool
  | [] => false
  | [m] => c == m.char
  | [m, n] => c == m.char || c == n.char
  | m :: dash :: n :: ms =>
    if dash.is '-' then (m.char ≤ c && c ≤ n.char) || inClass c ms else c == m.char || inClass c (dash :: n :: ms)

/-- The class after an opening bracket, and what follows its end; a bracket that comes first is a
    member. -/
def bracket? (ms : List Mark) : Option (PatternSign × List Mark) :=
  let negated := ms.head?.any (Mark.is · '!')
  let body := if negated then ms.drop 1 else ms
  let members := body.take 1 ++ (body.drop 1).takeWhile (!Mark.is · ']')
  match body.drop members.length with
  | [] => none
  | _ :: rest => some (.one fun c => inClass c members != negated, rest)

def ofMarks : (fuel : Nat) → List Mark → Pattern
  | 0, _ => []
  | _ + 1, [] => []
  | fuel + 1, m :: ms =>
    if m.is '*' then .anything :: ofMarks fuel ms
    else if m.is '?' then .one (fun _ => true) :: ofMarks fuel ms
    else
      match if m.is '[' then bracket? ms else none with
      | some (sign, rest) => sign :: ofMarks fuel rest
      | none => .one (· == m.char) :: ofMarks fuel ms

def ofText (ms : List Mark) : Pattern := ofMarks (ms.length + 1) ms

end Pattern

end GoAtlas
