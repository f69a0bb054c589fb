/-
  GoAtlas.Url.Percent — percent-encoding.

  A character outside the allowed set is written as the bytes of its encoding, each a percent sign and
  two capital digits of base sixteen. Decoding works on bytes: a percent sign without two digits after
  it stands for itself. The sets differ by where in an address the text stands.
-/
import GoAtlas.Text.Octets
import GoAtlas.Text.Split

namespace GoAtlas.Url

/-- The characters to encode, among those that print in ASCII; all others are encoded anyway. -/
abbrev EncodeSet := Char → Bool

def controlSet : EncodeSet := fun _ => false

def fragmentSet : EncodeSet := fun c => [' ', '"', '<', '>', Char.ofNat 0x60].contains c

def querySet : EncodeSet := fun c => [' ', '"', '#', '<', '>'].contains c

def specialQuerySet : EncodeSet := fun c => querySet c || c == Char.ofNat 0x27

def pathSet : EncodeSet := fun c => fragmentSet c || ['#', '?', '\x7b', '\x7d'].contains c

def userinfoSet : EncodeSet := fun c =>
  pathSet c || ['/', ':', ';', '=', '@', '[', '\\', ']', '^', '|'].contains c

/-- One segment of a file path: a slash, a percent sign or a backslash in it is not structure. -/
def segmentSet : EncodeSet := fun c => pathSet c || ['/', '%', '\\'].contains c

def percentByte (b : UInt8) : List Char :=
  ['%', Text.hexUpper (b.toNat / 16), Text.hexUpper (b.toNat % 16)]

def encodeByte (set : EncodeSet) (b : UInt8) : List Char :=
  if b < 0x20 || 0x7E < b || set (Char.ofNat b.toNat) then percentByte b else [Char.ofNat b.toNat]

def encodeBytes (set : EncodeSet) (bs : List UInt8) : List Char := bs.flatMap (encodeByte set)

def encode (set : EncodeSet) (cs : List Char) : List Char := encodeBytes set (cs.flatMap String.utf8EncodeChar)

/-- The bytes that a text stands for. -/
def decodeBytes : List UInt8 → List UInt8
  | 0x25 :: a :: b :: rest =>
    match Text.hexValue? (Char.ofNat a.toNat), Text.hexValue? (Char.ofNat b.toNat) with
    | some x, some y => (x * 16 + y).toUInt8 :: decodeBytes rest
    | _, _ => 0x25 :: decodeBytes (a :: b :: rest)
  | b :: rest => b :: decodeBytes rest
  | [] => []

def decodeText (s : String) : Octets := decodeBytes s

end GoAtlas.Url
