/-
  GoAtlas.Path — slash-separated paths.

  A path is the octets it was written as. What it names is its list of segments: `/` first if it is
  absolute, then the pieces between slashes, without the idle ones (empty, and a lone dot past the
  start). Two paths are the same if their segments are; containment is the prefix order on segments
  (`startsWith`, `isInside`). The octets are kept because answers print them, as far as they are text.
-/
import GoAtlas.Text.Octets
import GoAtlas.Text.Split

namespace GoAtlas

/-- The parts of a path; `/` stands for the root. -/
abbrev Segments := List Octets

namespace Segments

/-- The segments that are written as these texts. -/
def ofTexts (names : List String) : Segments := names.map Octets.ofText

def shown (p : Segments) : List String := p.map Octets.shown

end Segments

structure Path where
  octets : Octets
  deriving DecidableEq, Repr, Inhabited

namespace Path

open Octets

/-- The path that is written as this text. -/
def ofText (s : String) : Path := ⟨s⟩

/-- The path as it is printed. -/
def shown (p : Path) : String := p.octets.shown

def isAbsolute (p : Path) : Bool := p.octets.head? == some slash

/-- A piece that names nothing once a path has begun. -/
def idle (piece : Octets) : Bool := piece == [] || piece == [dot]

def pieces (p : Path) : List Octets := Text.fields slash p.octets

/-- The segment that stands for the root. -/
def root : Octets := [slash]

/-- The segments of a path written with these pieces: `first` is empty exactly for absolute paths
    (and for the empty one). -/
def segmentsOf (first : Octets) (rest : List Octets) : Segments :=
  if first = [] then
    if rest.isEmpty then [] else root :: rest.filter fun s => !idle s
  else first :: rest.filter fun s => !idle s

def segments (p : Path) : Segments :=
  match p.pieces with
  | [] => []
  | first :: rest => segmentsOf first rest

/-- The two paths name the same place. -/
def same (p q : Path) : Bool := p.segments == q.segments

/-- The pieces written out again. -/
def ofJoined (pieces : List Octets) : Path := ⟨Text.joinFields [slash] pieces⟩

/-- The pieces written out again; an absolute path with no further piece is the root. -/
def ofPieces (first : Octets) (rest : List Octets) : Path :=
  if first = [] && rest.isEmpty then ⟨root⟩ else ofJoined (first :: rest)

def trimIdleEnd (ps : List Octets) : List Octets := (ps.reverse.dropWhile idle).reverse

/-- The path without its last segment; the root and the empty path have none. -/
def parent? (p : Path) : Option Path :=
  match p.pieces with
  | [] => none
  | first :: rest =>
    match rest.reverse.dropWhile idle with
    | _ :: before => some (ofPieces first (before.dropWhile idle).reverse)
    | [] => if first = [] then none else some ⟨[]⟩

/-- A segment that names an entry of a directory. -/
def isName (segment : Octets) : Bool := segment != root && segment != [dot] && segment != [dot, dot]

def fileName? (p : Path) : Option Octets :=
  match p.segments.getLast? with
  | some s => if isName s then some s else none
  | none => none

/-- `name` taken relative to `p`: an absolute `name` replaces `p`. -/
def join (p : Path) (name : Octets) : Path :=
  if name.head? = some slash then ⟨name⟩
  else if p.octets = [] || p.octets.getLast? = some slash then ⟨p.octets ++ name⟩
  else ⟨p.octets ++ slash :: name⟩

/-- The path that the segments write, one joined after the other. -/
def ofSegments (ss : Segments) : Path := ss.foldl join ⟨[]⟩

def startsWith (p base : Path) : Bool := base.segments.isPrefixOf p.segments

/-- `p` is `parent` or lies below it, comparing whole segments; nothing is inside the empty path. -/
def isInside (p parent : Path) : Bool := parent.octets != [] && p.startsWith parent

def hasSegment (p : Path) (name : Octets) : Bool := p.segments.contains name

/-- The pieces left after `n` segments. -/
def dropSegments : Nat → List Octets → List Octets
  | 0, ps => ps
  | n + 1, ps => dropSegments n ((ps.dropWhile idle).drop 1)

/-- What follows `base` in `p`, if `p` starts with it. -/
def relativeTo? (p base : Path) : Option Path :=
  if p.startsWith base then
    match p.pieces, base.segments.length with
    | [], _ => some p
    | first :: rest, 0 =>
      if p.octets = [] then some p else some (ofPieces first (trimIdleEnd rest))
    | _ :: rest, n + 1 => some (ofJoined (trimIdleEnd ((dropSegments n rest).dropWhile idle)))
  else none

theorem same_iff {p q : Path} : p.same q = true ↔ p.segments = q.segments := by
  simp [same]

theorem isInside_iff {p q : Path} :
    p.isInside q = true ↔ q.octets ≠ [] ∧ q.segments <+: p.segments := by
  simp [isInside, startsWith]

end Path

end GoAtlas
