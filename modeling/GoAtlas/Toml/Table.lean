/-
  GoAtlas.Toml.Table — tables while a TOML document is read.

  A table remembers how it came to be: named by a header, passed through by one, or made by a dotted
  key. Each way may be completed only as the format allows: a header may name a table that was only
  passed through, a dotted key may enter only tables that no header named, and no key is set twice. A
  step that would break a rule gives none.
-/
import GoAtlas.Json.Basic

namespace GoAtlas.Toml

inductive Origin where
  | named
  | passed
  | dotted
  deriving DecidableEq, Repr

inductive Item where
  | value (v : Json)
  | table (origin : Origin) (members : List (String × Item))
  /-- An array of tables, last one first. -/
  | rows (rows : List (List (String × Item)))

abbrev Members := List (String × Item)

structure Table where
  origin : Origin
  members : Members

namespace Table

def empty (origin : Origin) : Table := ⟨origin, []⟩

def get? (t : Table) (key : String) : Option Item := t.members.lookup key

/-- The item under the key, at the place of the one before if there is one. -/
def put (t : Table) (key : String) (item : Item) : Table :=
  if (t.get? key).isSome then
    { t with members := t.members.map fun m => if m.1 = key then (key, item) else m }
  else { t with members := t.members ++ [(key, item)] }

def toItem (t : Table) : Item := .table t.origin t.members

/-- Changes the table at the end of the keys. Tables on the way are made with the given origin; of an
    array of tables the last one is entered. -/
def within (origin : Origin) (change : Table → Option Table) : List String → Table → Option Table
  | [], t => change t
  | k :: ks, t =>
    match t.get? k with
    | none => (within origin change ks (empty origin)).map fun c => t.put k c.toItem
    | some (.table o ms) =>
      if origin = .dotted && o = .named then none
      else (within origin change ks ⟨o, ms⟩).map fun c => t.put k c.toItem
    | some (.rows (r :: rs)) =>
      (within origin change ks ⟨.named, r⟩).map fun c => t.put k (.rows (c.members :: rs))
    | some _ => none

/-- Sets a key of this table, which dotted keys made exactly if one leads here. -/
def setHere (byDots : Bool) (key : String) (v : Json) (t : Table) : Option Table :=
  if (t.origin == .dotted) != byDots then none
  else if (t.get? key).isSome then none
  else some (t.put key (.value v))

/-- Sets the key at the end of a dotted key. -/
def set (t : Table) (keys : List String) (v : Json) : Option Table :=
  match keys.getLast? with
  | none => none
  | some key => within .dotted (setHere (1 < keys.length) key v) keys.dropLast t

/-- A table of this name, empty or completing one that was passed through. -/
def nameHere (key : String) (t : Table) : Option Table :=
  match t.get? key with
  | none => some (t.put key (.table .named []))
  | some (.table .passed ms) => some (t.put key (.table .named ms))
  | some _ => none

def nameTable (t : Table) (keys : List String) : Option Table :=
  match keys.getLast? with
  | none => none
  | some key => within .passed (nameHere key) keys.dropLast t

/-- One more table in the array of this name. -/
def addRowHere (key : String) (t : Table) : Option Table :=
  match t.get? key with
  | none => some (t.put key (.rows [[]]))
  | some (.rows rs) => some (t.put key (.rows ([] :: rs)))
  | some _ => none

def addRow (t : Table) (keys : List String) : Option Table :=
  match keys.getLast? with
  | none => none
  | some key => within .passed (addRowHere key) keys.dropLast t

/-- Sets a key in the table that the header names. -/
def setUnder (t : Table) (header keys : List String) (v : Json) : Option Table :=
  within .passed (fun c => c.set keys v) header t

end Table

mutual

def Item.toJson : Item → Json
  | .value v => v
  | .table _ ms => .obj (membersToJson ms)
  | .rows rs => .arr (rowsToJson rs).reverse

def membersToJson : Members → List (String × Json)
  | [] => []
  | (k, i) :: ms => (k, i.toJson) :: membersToJson ms

def rowsToJson : List Members → List Json
  | [] => []
  | r :: rs => .obj (membersToJson r) :: rowsToJson rs

end

def Table.toJson (t : Table) : Json := .obj (membersToJson t.members)

end GoAtlas.Toml
