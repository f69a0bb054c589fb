/-
  GoAtlas.Text.Utf8 — reading bytes as text.

  `text?` accepts well-formed UTF-8 only. `lossy` accepts any bytes: each maximal ill-formed piece (a
  lead byte with the continuation bytes that could still belong to it, or a single stray byte) is read
  as one U+FFFD.
-/

namespace GoAtlas.Text

abbrev Bytes := ByteArray

def bytesOf (s : String) : Bytes := s.toUTF8

def text? (b : Bytes) : Option String := String.fromUTF8? b

def replacement : Char := Char.ofNat 0xFFFD

/-- A character under way: how many bytes are owed, the range of the next one, the bits so far.
    Nothing is under way when nothing is owed. -/
structure Sequence where
  owed : Nat
  least : Nat
  greatest : Nat
  bits : Nat

def Sequence.none : Sequence := ⟨0, 0, 0, 0⟩

/-- What a byte between characters gives: text at once, or a character under way. -/
def Sequence.start (b : Nat) : List Char × Sequence :=
  if b < 0x80 then ([Char.ofNat b], .none)
  else if b < 0xC2 then ([replacement], .none)
  else if b < 0xE0 then ([], ⟨1, 0x80, 0xBF, b - 0xC0⟩)
  else if b = 0xE0 then ([], ⟨2, 0xA0, 0xBF, 0⟩)
  else if b = 0xED then ([], ⟨2, 0x80, 0x9F, 0xD⟩)
  else if b < 0xF0 then ([], ⟨2, 0x80, 0xBF, b - 0xE0⟩)
  else if b = 0xF0 then ([], ⟨3, 0x90, 0xBF, 0⟩)
  else if b < 0xF4 then ([], ⟨3, 0x80, 0xBF, b - 0xF0⟩)
  else if b = 0xF4 then ([], ⟨3, 0x80, 0x8F, 4⟩)
  else ([replacement], .none)

def Sequence.step (s : Sequence) (b : Nat) : List Char × Sequence :=
  if s.owed = 0 then start b
  else if s.least ≤ b ∧ b ≤ s.greatest then
    let bits := s.bits * 64 + (b - 0x80)
    if s.owed = 1 then ([Char.ofNat bits], .none) else ([], ⟨s.owed - 1, 0x80, 0xBF, bits⟩)
  else
    let (cs, t) := start b
    (replacement :: cs, t)

def lossyFrom : Sequence → List UInt8 → List Char
  | s, [] => if s.owed = 0 then [] else [replacement]
  | s, b :: bs => (s.step b.toNat).1 ++ lossyFrom (s.step b.toNat).2 bs

def lossy (b : Bytes) : String := String.ofList (lossyFrom .none b.data.toList)

end GoAtlas.Text
