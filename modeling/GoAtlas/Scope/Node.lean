/-
  GoAtlas.Scope.Node — source trees.

  The parser hands over a tree whose nodes carry what naming needs: a kind with the names it declares,
  a half-open span of byte offsets, children. `enclosing` follows an offset from the root down, each
  time into the first child that contains it.
-/

namespace GoAtlas

inductive Receiver where
  | named (base : String)
  | pointer (base : String)
  deriving DecidableEq, Repr

/-- The receiver's type name, without the pointer. -/
def Receiver.base : Receiver → String
  | .named b | .pointer b => b

inductive NodeKind where
  | file
  | genDecl
  | typeSpec (name : String)
  | valueSpec (names : List String)
  | field (names : List String)
  | fieldList
  | structType
  | interfaceType
  | funcDecl (receiver : Option Receiver)
  | funcType
  | blockStmt
  | ident (name : String)
  | other
  deriving DecidableEq, Repr

structure Span where
  start : Nat
  stop : Nat
  deriving DecidableEq, Repr

def Span.contains (s : Span) (offset : Nat) : Bool := decide (s.start ≤ offset) && decide (offset < s.stop)

inductive Node where
  | mk (kind : NodeKind) (span : Span) (children : List Node)
  deriving Repr

namespace Node

def kind : Node → NodeKind
  | .mk k _ _ => k

def span : Node → Span
  | .mk _ s _ => s

def children : Node → List Node
  | .mk _ _ cs => cs

def contains (n : Node) (offset : Nat) : Bool := n.span.contains offset

mutual

/-- The node, then on into the first child that contains the offset. -/
def descent (offset : Nat) : Node → List Node
  | .mk k s cs => .mk k s cs :: descentFirst offset cs

def descentFirst (offset : Nat) : List Node → List Node
  | [] => []
  | c :: cs => if c.contains offset then descent offset c else descentFirst offset cs

end

/-- The nodes around an offset, innermost first; none if it lies outside. -/
def enclosing (root : Node) (offset : Nat) : List Node :=
  if root.contains offset then (descent offset root).reverse else []

end Node

end GoAtlas
