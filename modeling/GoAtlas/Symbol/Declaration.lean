/-
  GoAtlas.Symbol.Declaration — declarations as the type checker hands them over.
-/
import GoAtlas.Path
import GoAtlas.Symbol.Range

namespace GoAtlas

/-- A type-checked package: its name in the package clause and its import path. -/
structure Package where
  name : String
  path : String
  deriving DecidableEq, Repr

/-- The shape of a predeclared type. -/
inductive BasicShape where
  | numeric
  | boolean
  | string
  | unsafePointer
  | untypedNil
  deriving DecidableEq, Repr

/-- The shape of a named type. -/
inductive TypeShape where
  | struct
  | interface
  | slice
  | array
  | basic (shape : BasicShape)
  | map
  | chan
  | pointer
  | signature
  deriving DecidableEq, Repr

/-- What a declaration declares. -/
inductive DeclKind where
  | const
  | var (isField : Bool)
  | nil
  | pkgName
  | func (hasReceiver : Bool)
  | typeName (shape : TypeShape)
  | label
  | builtin
  deriving DecidableEq, Repr

structure Declaration where
  name : String
  kind : DeclKind
  /-- None for what every package sees. -/
  package : Option Package
  file : Path
  /-- Where the declaring identifier stands in the file, in bytes. -/
  offset : Nat
  range : Range
  deriving DecidableEq, Repr

/-- An identifier as used and what it refers to. -/
structure Identifier where
  name : String
  declaration : Declaration
  deriving DecidableEq, Repr

end GoAtlas
