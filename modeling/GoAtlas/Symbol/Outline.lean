/-
  GoAtlas.Symbol.Outline — the hierarchical outline of a document.

  `flatten` lists an outline in pre-order. A qualified name is built from the nesting: the package's
  name and the names on the way down, joined by dots; empty names at the top add nothing.
-/
import GoAtlas.Symbol.Locator

namespace GoAtlas

/-- One entry of an outline, without what it contains. -/
structure OutlineEntry where
  name : String
  detail : Option String
  kind : SymbolKind
  tags : Option (List Int32)
  deprecated : Option Bool
  range : Range
  selectionRange : Range
  deriving DecidableEq, Repr

/-- An entry and, if the engine lists them, the entries below it. -/
inductive Outline where
  | node (entry : OutlineEntry) (children : Option (List Outline))
  deriving Repr

namespace Outline

mutual

def toJson : Outline → Json
  | .node e children =>
    .ofFields
      [ ("name", some (.str e.name)),
        ("detail", e.detail.map Json.str),
        ("kind", some e.kind.toJson),
        ("tags", e.tags.map tagsToJson),
        ("deprecated", e.deprecated.map Json.bool),
        ("range", some e.range.toJson),
        ("selectionRange", some e.selectionRange.toJson),
        ("children", childrenToJson children) ]

def childrenToJson : Option (List Outline) → Option Json
  | none => none
  | some os => some (.arr (listToJson os))

def listToJson : List Outline → List Json
  | [] => []
  | o :: os => toJson o :: listToJson os

end

/-- `depth` bounds how deep the entries nest. -/
def ofJsonWithin? : (depth : Nat) → Json → Option Outline
  | 0, _ => none
  | depth + 1, j => do
    match ← j.record? [["name"], ["detail"], ["kind"], ["tags"], ["deprecated"], ["range"], ["selectionRange"], ["children"]] with
    | [name, detail, kind, tags, deprecated, range, selectionRange, children] =>
      let entry : OutlineEntry :=
        ⟨← name.required Json.str?, ← detail.optional Json.str?, ← kind.required SymbolKind.ofJson?,
          ← tags.optional tagsOfJson?, ← deprecated.optional Json.bool?, ← range.required Range.ofJson?,
          ← selectionRange.required Range.ofJson?⟩
      return .node entry (← children.optional (Json.list? (ofJsonWithin? depth)))
    | _ => none

def ofJson? (j : Json) : Option Outline := ofJsonWithin? (j.depth + 1) j

/-! ## Flattening -/

/-- `name` below `lead`. -/
def dotted (lead name : String) : String := if lead = "" then name else lead ++ "." ++ name

/-- The listing of one entry: `path` is its name with those above it, `container` the name above. -/
def listed (uri : Url) (package : PackageLocator) (path container : String) (e : OutlineEntry) : DetailSymbol :=
  { symbol :=
      { name := e.name
        kind := e.kind
        tags := e.tags
        deprecated := e.deprecated
        location := ⟨uri, e.selectionRange⟩
        containerName := if container = "" then none else some container }
    qname := dotted package.name path
    package := package }

mutual

def flattenNode (uri : Url) (package : PackageLocator) (lead container : String) : Outline → List DetailSymbol
  | .node e children =>
    listed uri package (dotted lead e.name) container e ::
      flattenChildren uri package (dotted lead e.name) e.name children

def flattenChildren (uri : Url) (package : PackageLocator) (lead container : String) :
    Option (List Outline) → List DetailSymbol
  | none => []
  | some os => flattenBelow uri package lead container os

def flattenBelow (uri : Url) (package : PackageLocator) (lead container : String) :
    List Outline → List DetailSymbol
  | [] => []
  | o :: os => flattenNode uri package lead container o ++ flattenBelow uri package lead container os

end

/-- Every entry of an outline, in pre-order. -/
def flatten (uri : Url) (package : PackageLocator) (outline : List Outline) : List DetailSymbol :=
  flattenBelow uri package "" "" outline

end Outline

end GoAtlas
