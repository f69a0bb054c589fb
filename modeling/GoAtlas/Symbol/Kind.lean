/-
  GoAtlas.Symbol.Kind — kinds of symbols.

  A kind travels as a number and unknown numbers pass through unchanged. `classify` gives the kind of
  a declaration; some named types (maps, channels, ...) have none.
-/
import GoAtlas.Symbol.Declaration

namespace GoAtlas

structure SymbolKind where
  code : Int32
  deriving DecidableEq, Repr

namespace SymbolKind

def package : SymbolKind := ⟨4⟩

def method : SymbolKind := ⟨6⟩

def field : SymbolKind := ⟨8⟩

def interface : SymbolKind := ⟨11⟩

def function : SymbolKind := ⟨12⟩

def variableKind : SymbolKind := ⟨13⟩

def constant : SymbolKind := ⟨14⟩

def string : SymbolKind := ⟨15⟩

def number : SymbolKind := ⟨16⟩

def boolean : SymbolKind := ⟨17⟩

def array : SymbolKind := ⟨18⟩

def null : SymbolKind := ⟨21⟩

def struct : SymbolKind := ⟨23⟩

def toJson (k : SymbolKind) : Json := .ofInt32 k.code

def ofJson? (j : Json) : Option SymbolKind := j.int32?.map SymbolKind.mk

end SymbolKind

def TypeShape.classify : TypeShape → Option SymbolKind
  | .struct => some .struct
  | .interface => some .interface
  | .slice | .array => some .array
  | .basic .numeric => some .number
  | .basic .boolean => some .boolean
  | .basic .string => some .string
  | _ => none

def DeclKind.classify : DeclKind → Option SymbolKind
  | .const => some .constant
  | .var true => some .field
  | .var false => some .variableKind
  | .nil => some .null
  | .pkgName => some .package
  | .func false => some .function
  | .func true => some .method
  | .typeName shape => shape.classify
  | .label | .builtin => none

end GoAtlas
