/-
  GoAtlas.Json.Record — records written as JSON.

  A record is an object with a member per field, or an array with the fields' values in order. In an
  object other members are ignored and a field given twice, also under two of its names, spoils the
  record; an array may not be longer than the record. What a missing field means is up to its kind:
  `required`, `optional` (none, but an array has to give it), `defaulted`.
-/
import GoAtlas.Json.Basic

namespace GoAtlas.Json

/-- What a record says of a field: its value, or that it is missing from an object or an array. -/
inductive Slot where
  | value (j : Json)
  | absent
  | cutOff

/-- The members of an object that bear one of a field's names. -/
def named (names : List String) (members : List (String × Json)) : List Json :=
  (members.filter fun m => names.contains m.1).map Prod.snd

def slotOf (names : List String) (members : List (String × Json)) : Option Slot :=
  match named names members with
  | [] => some .absent
  | [j] => some (.value j)
  | _ :: _ :: _ => none

/-- The values of an array as slots for `fields` fields. -/
def slotsOf : (fields : Nat) → List Json → Option (List Slot)
  | 0, [] => some []
  | 0, _ :: _ => none
  | n + 1, [] => (slotsOf n []).map (.cutOff :: ·)
  | n + 1, j :: js => (slotsOf n js).map (.value j :: ·)

/-- One slot per field; a field is given by its names. -/
def record? (fields : List (List String)) : Json → Option (List Slot)
  | .obj members => fields.mapM fun names => slotOf names members
  | .arr items => slotsOf fields.length items
  | _ => none

/-- The slots of a record that has to be an object. -/
def objectRecord? (fields : List (List String)) : Json → Option (List Slot)
  | .obj members => fields.mapM fun names => slotOf names members
  | _ => none

namespace Slot

variable {α : Type}

def required (read : Json → Option α) : Slot → Option α
  | .value j => read j
  | _ => none

def optional (read : Json → Option α) : Slot → Option (Option α)
  | .value j => nullable? read j
  | .absent => some none
  | .cutOff => none

/-- As `optional`, but an array may end before it. -/
def optionalAtEnd (read : Json → Option α) : Slot → Option (Option α)
  | .value j => nullable? read j
  | _ => some none

def defaulted (read : Json → Option α) (value : α) : Slot → Option α
  | .value j => read j
  | _ => some value

end Slot

end GoAtlas.Json
