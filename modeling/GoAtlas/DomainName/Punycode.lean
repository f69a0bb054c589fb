/-
  GoAtlas.DomainName.Punycode — labels outside ASCII.

  A label is written as its ASCII characters, then the others in increasing order as differences in a
  variable-length base of thirty-six whose digit thresholds adapt. Each loop of the writer ends by a
  measure: the value left to write, the difference to scale down, the code points still to place. The
  reader takes one digit at a time.
-/
import GoAtlas.Text.Split

namespace GoAtlas.DomainName.Punycode

def digit (d : Nat) : Char := if d < 26 then Char.ofNat (97 + d) else Char.ofNat (22 + d)

def threshold (k bias : Nat) : Nat :=
  if k ≤ bias then 1 else if bias + 26 ≤ k then 26 else k - bias

theorem threshold_pos (k bias : Nat) : 1 ≤ threshold k bias := by
  unfold threshold; split
  · omega
  · split <;> omega

def scale (delta k : Nat) : Nat × Nat :=
  if 455 < delta then scale (delta / 35) (k + 36) else (delta, k)
termination_by delta
decreasing_by exact Nat.div_lt_self (by omega) (by omega)

def adapt (delta points : Nat) (first : Bool) : Nat :=
  let d := if first then delta / 700 else delta / 2
  let r := scale (d + d / points) 0
  r.2 + 36 * r.1 / (r.1 + 38)

/-- The digits of a difference. -/
def digits (bias k q : Nat) : List Char :=
  let t := threshold k bias
  if q < t then [digit q]
  else digit (t + (q - t) % (36 - t)) :: digits bias (k + 36) ((q - t) / (36 - t))
termination_by q
decreasing_by
  have h := threshold_pos k bias
  have := Nat.div_le_self (q - threshold k bias) (36 - threshold k bias)
  omega

structure State where
  out : List Char
  delta : Nat
  bias : Nat
  placed : Nat

def place (basic point : Nat) (s : State) (c : Char) : State :=
  if c.toNat < point then { s with delta := s.delta + 1 }
  else if c.toNat = point then
    { out := s.out ++ digits s.bias 36 s.delta, delta := 0,
      bias := adapt s.delta (s.placed + 1) (s.placed == basic), placed := s.placed + 1 }
  else s

def run (label : List Char) (basic : Nat) : List Nat → Nat → State → State
  | [], _, s => s
  | p :: ps, next, s =>
    let s := label.foldl (place basic p) { s with delta := s.delta + (p - next) * (s.placed + 1) }
    run label basic ps (p + 1) { s with delta := s.delta + 1 }

/-- Increasing, without repeats. -/
def insert (n : Nat) : List Nat → List Nat
  | [] => [n]
  | m :: ms => if n < m then n :: m :: ms else if n = m then m :: ms else m :: insert n ms

def encode (label : List Char) : List Char :=
  let basic := label.filter (·.toNat < 128)
  let points := (label.filter (128 ≤ ·.toNat)).foldl (fun ps c => insert c.toNat ps) []
  let lead := if basic.isEmpty then [] else basic ++ ['-']
  (run label basic.length points 128 ⟨lead, 0, 72, basic.length⟩).out

/-! ## Reading -/

def digitValue? (c : Char) : Option Nat :=
  if Text.isLower c then some (c.toNat - 97)
  else if Text.isDigit c then some (c.toNat - 22)
  else none

/-- A label under way: its text, the code point and the place of the next character, and of the
    difference that is being read where it started, the weight of the next digit and its threshold's
    position. -/
structure Reading where
  out : List Char
  point : Nat
  index : Nat
  bias : Nat
  start : Nat
  weight : Nat
  position : Nat

/-- Values and weights that 32 bits do not hold are refused. -/
def fits (n : Nat) : Bool := n < 4294967296

def Reading.step? (r : Reading) (c : Char) : Option Reading :=
  match digitValue? c with
  | none => none
  | some d =>
    let index := r.index + d * r.weight
    let t := threshold r.position r.bias
    if !fits index then none
    else if d < t then
      let size := r.out.length + 1
      let point := r.point + index / size
      let place := index % size
      if point.isValidChar then
        some
          { out := r.out.take place ++ [Char.ofNat point] ++ r.out.drop place, point, index := place + 1,
            bias := adapt (index - r.start) size (r.start == 0), start := place + 1, weight := 1, position := 36 }
      else none
    else if fits (r.weight * (36 - t)) then
      some { r with index, weight := r.weight * (36 - t), position := r.position + 36 }
    else none

/-- The label that the digits after the last hyphen make of the characters before it. -/
def decode? (cs : List Char) : Option (List Char) :=
  let basic := (Text.beforeLast? '-' cs).getD []
  let digits := if basic.isEmpty then cs else (Text.afterLast? '-' cs).getD []
  match digits.foldlM Reading.step? ⟨basic, 128, 0, 72, 0, 1, 36⟩ with
  | some r => if r.position = 36 then some r.out else none
  | none => none

end GoAtlas.DomainName.Punycode
