/-
  GoAtlas.Json.Shape — what a JSON value has to look like.

  A shape describes values that are checked but not used. Records follow the rules of
  `GoAtlas.Json.Record`: an object with a member per field, or an array with the fields in order. `fits`
  is defined by recursion on the shape, so every shape is finite.
-/
import GoAtlas.Json.Record

namespace GoAtlas.Json

/-- What may be said of a field. -/
inductive Presence where
  | required
  /-- It may be missing or null, but an array has to give it. -/
  | optional
  /-- As `optional`, and an array may end before it. -/
  | optionalAtEnd
  /-- It may be missing, also at the end of an array, but not null. -/
  | defaulted
  deriving DecidableEq, Repr

def Presence.mayBeNull : Presence → Bool
  | .optional | .optionalAtEnd => true
  | _ => false

def isNull : Json → Bool
  | .null => true
  | _ => false

/-- Whether a slot of a record is in order, for a field of this presence with values that `fits`. -/
def Presence.admits (p : Presence) (fits : Json → Bool) : Slot → Bool
  | .value j => (p.mayBeNull && j.isNull) || fits j
  | .absent => p != .required
  | .cutOff => p = .optionalAtEnd || p = .defaulted

structure Member (α : Type) where
  name : String
  presence : Presence
  shape : α

inductive Shape where
  | any
  | bool
  | int32
  | word32
  | number
  /-- A text that passes a test. -/
  | text (accepts : String → Bool)
  /-- One of some names: a text, or an object with null under the name. Some readers take an empty
      object for null (`lenient`). -/
  | choice (lenient : Bool) (names : List String)
  | list (item : Shape)
  /-- An array with exactly these items. -/
  | tuple (items : List Shape)
  | record (fields : List (Member Shape))
  /-- A record that has to be an object; its other members have a shape too. -/
  | object (fields : List (Member Shape)) (others : Shape)
  /-- An object with any members whose names pass a test. -/
  | map (accepts : String → Bool) (value : Shape)
  | oneOf (shapes : List Shape)
  /-- A record of one of several kinds. The kind, by its name or its index, stands under the key, or
      first in an array. -/
  | tagged (key : String) (kinds : List (Member Shape))

namespace Shape

def isNumber : Json → Bool
  | .int _ | .decimal _ => true
  | _ => false

/-- Whether the value chooses one of the names. -/
def chooses (lenient : Bool) (names : List String) : Json → Bool
  | .str s => names.contains s
  | .obj [(s, .null)] => names.contains s
  | .obj [(s, .obj [])] => lenient && names.contains s
  | _ => false

/-- The kind that a tagged value names, and the value without it. -/
def tag? (key : String) : Json → Option (Json × Json)
  | .obj members => (members.lookup key).map fun kind => (kind, .obj (members.filter fun m => m.1 != key))
  | .arr (kind :: items) => some (kind, .arr items)
  | _ => none

mutual

def fits : Shape → Json → Bool
  | .any, _ => true
  | .bool, j => j.bool?.isSome
  | .int32, j => j.int32?.isSome
  | .word32, j => j.word32?.isSome
  | .number, j => isNumber j
  | .text accepts, j => j.str?.any accepts
  | .choice lenient names, j => chooses lenient names j
  | .list item, j => j.items?.any fun js => js.all (fits item)
  | .tuple items, j => j.items?.any (fitsTuple items)
  | .record fields, j =>
    match j with
    | .obj members => fitsMembers fields members
    | .arr items => fitsItems fields items
    | _ => false
  | .object fields others, j =>
    match j with
    | .obj members =>
      fitsMembers fields members &&
        members.all fun m => (fields.any fun f => f.name == m.1) || fits others m.2
    | _ => false
  | .map accepts value, j =>
    match j with
    | .obj members => members.all fun m => accepts m.1 && fits value m.2
    | _ => false
  | .oneOf shapes, j => fitsOne shapes j
  | .tagged key kinds, j =>
    match tag? key j with
    | some (kind, j) => fitsKind kinds kind j
    | none => false

def fitsTuple : List Shape → List Json → Bool
  | [], js => js.isEmpty
  | _ :: _, [] => false
  | s :: ss, j :: js => fits s j && fitsTuple ss js

def fitsMembers : List (Member Shape) → List (String × Json) → Bool
  | [], _ => true
  | f :: fs, members =>
    (slotOf [f.name] members).any (f.presence.admits (fits f.shape)) && fitsMembers fs members

def fitsItems : List (Member Shape) → List Json → Bool
  | [], js => js.isEmpty
  | f :: fs, [] => f.presence.admits (fits f.shape) .cutOff && fitsItems fs []
  | f :: fs, j :: js => f.presence.admits (fits f.shape) (.value j) && fitsItems fs js

def fitsOne : List Shape → Json → Bool
  | [], _ => false
  | s :: ss, j => fits s j || fitsOne ss j

def fitsKind : List (Member Shape) → (kind value : Json) → Bool
  | [], _, _ => false
  | f :: fs, kind, j =>
    match kind with
    | .str s => if s = f.name then fits f.shape j else fitsKind fs kind j
    | .int n => if n = 0 then fits f.shape j else if 0 < n then fitsKind fs (.int (n - 1)) j else false
    | _ => false

end

end Shape

end GoAtlas.Json
