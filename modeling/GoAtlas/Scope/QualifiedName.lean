/-
  GoAtlas.Scope.QualifiedName — names of declarations within their package.

  A qualified name is the package's name, the names of the scopes around the declaration from the
  outside in, and the declaration's own name, joined by dots. The innermost node is the declaring
  identifier and is no scope. A struct or interface type takes its name from the node directly around
  it, a method from its receiver.
-/
import GoAtlas.Scope.Node
import GoAtlas.Symbol.Declaration

namespace GoAtlas

/-- The name that a node of this kind adds, given the kind directly around it. -/
def NodeKind.scopeName? (kind : NodeKind) (around : Option NodeKind) : Option String :=
  match kind, around with
  | .structType, some (.typeSpec name) => some name
  | .structType, some (.field names) => names.head?
  | .structType, some (.valueSpec names) => names.head?
  | .interfaceType, some (.typeSpec name) => some name
  | .funcDecl (some receiver), _ => some receiver.base
  | _, _ => none

/-- The scope names along nodes listed innermost first, in the same order. -/
def scopeNames : List Node → List String
  | [] => []
  | [n] => (n.kind.scopeName? none).toList
  | n :: p :: rest => (n.kind.scopeName? (some p.kind)).toList ++ scopeNames (p :: rest)

/-- `name` below the scopes, given innermost first. -/
def nameBelow (scopes : List String) (name : String) : String :=
  scopes.foldl (fun q scope => scope ++ "." ++ q) name

def inPackage (package : Option Package) (name : String) : String :=
  match package with
  | some p => p.name ++ "." ++ name
  | none => name

/-- The qualified name of a declaration in its parsed file. -/
def Declaration.qualifiedName (d : Declaration) (root : Node) : String :=
  inPackage d.package (nameBelow (scopeNames ((root.enclosing d.offset).drop 1)) d.name)

end GoAtlas
