/-
  GoAtlas.Json.Basic — JSON values.

  An integer is kept as an integer; every other number is kept as written, since nothing computes with
  it. Members of an object keep their order and may repeat; `get?` finds the first.
-/

namespace GoAtlas

inductive Json where
  | null
  | bool (b : Bool)
  | int (n : Int)
  | decimal (text : String)
  | str (s : String)
  | arr (items : List Json)
  | obj (members : List (String × Json))
  deriving Inhabited, Repr

namespace Json

mutual

def beq : Json → Json → Bool
  | .null, .null => true
  | .bool a, .bool b => a == b
  | .int a, .int b => a == b
  | .decimal a, .decimal b => a == b
  | .str a, .str b => a == b
  | .arr a, .arr b => beqItems a b
  | .obj a, .obj b => beqMembers a b
  | _, _ => false

def beqItems : List Json → List Json → Bool
  | [], [] => true
  | a :: as, b :: bs => beq a b && beqItems as bs
  | _, _ => false

def beqMembers : List (String × Json) → List (String × Json) → Bool
  | [], [] => true
  | (k, a) :: as, (l, b) :: bs => k == l && beq a b && beqMembers as bs
  | _, _ => false

end

instance : BEq Json := ⟨beq⟩

def get? (key : String) : Json → Option Json
  | .obj members => members.lookup key
  | _ => none

def isObject : Json → Bool
  | .obj _ => true
  | _ => false

def bool? : Json → Option Bool
  | .bool b => some b
  | _ => none

def str? : Json → Option String
  | .str s => some s
  | _ => none

def items? : Json → Option (List Json)
  | .arr items => some items
  | _ => none

/-- An integer within the bounds, both included. -/
def intIn? (least greatest : Int) : Json → Option Int
  | .int n => if least ≤ n ∧ n ≤ greatest then some n else none
  | _ => none

def word32? (j : Json) : Option UInt32 :=
  (j.intIn? 0 4294967295).map fun n => UInt32.ofNat n.toNat

def int32? (j : Json) : Option Int32 :=
  (j.intIn? (-2147483648) 2147483647).map Int32.ofInt

def ofWord32 (n : UInt32) : Json := .int n.toNat

def ofInt32 (n : Int32) : Json := .int n.toInt

/-- A list of which every item is read by `read`. -/
def list? {α : Type} (read : Json → Option α) : Json → Option (List α)
  | .arr items => items.mapM read
  | _ => none

/-- An optional value: null stands for none. -/
def nullable? {α : Type} (read : Json → Option α) : Json → Option (Option α)
  | .null => some none
  | j => (read j).map some

theorem nullable?_of_ne_null {α : Type} (read : Json → Option α) {j : Json} (h : j ≠ .null) :
    nullable? read j = (read j).map some := by
  cases j with
  | null => exact absurd rfl h
  | bool | int | decimal | str | arr | obj => rfl

/-- The value, or null for none. -/
def ofOption : Option Json → Json
  | some j => j
  | none => .null

mutual

/-- How deep arrays and objects nest. -/
def depth : Json → Nat
  | .arr items => depthItems items + 1
  | .obj members => depthMembers members + 1
  | _ => 0

def depthItems : List Json → Nat
  | [] => 0
  | j :: js => max (depth j) (depthItems js)

def depthMembers : List (String × Json) → Nat
  | [] => 0
  | (_, j) :: ms => max (depth j) (depthMembers ms)

end

/-- The members that are there. -/
def ofFields (fields : List (String × Option Json)) : Json :=
  .obj (fields.filterMap fun f => f.2.map fun j => (f.1, j))

end Json

end GoAtlas
