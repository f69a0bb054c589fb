/-
  GoAtlas.Symbol.Locator — what the extended requests exchange.

  A package locator identifies a package across repositories. A symbol locator is the answer to a
  definition request: a location for a symbol of the same view; a qualified name, a kind and a package
  for any other. Each type is written as a JSON object, with empty optional fields left out, and read
  back by the rules of `Json.Record`.
-/
import GoAtlas.Symbol.Kind

namespace GoAtlas

structure PackageLocator where
  name : String
  repoUri : String
  /-- A version or a short commit hash; empty if unknown. -/
  version : String
  deriving DecidableEq, Repr

structure SymbolLocator where
  qname : String
  kind : Option SymbolKind
  location : Option Location
  package : PackageLocator
  deriving DecidableEq, Repr

/-- A symbol of a document as it is listed. -/
structure SymbolInformation where
  name : String
  kind : SymbolKind
  tags : Option (List Int32)
  deprecated : Option Bool
  location : Location
  containerName : Option String
  deriving DecidableEq, Repr

/-- A listed symbol with its qualified name and package. -/
structure DetailSymbol where
  symbol : SymbolInformation
  qname : String
  package : PackageLocator
  deriving DecidableEq, Repr

/-- A use of a symbol. -/
structure Reference where
  location : Location
  target : SymbolLocator
  deriving DecidableEq, Repr

/-- A request for all symbols of a document. -/
structure FullParams where
  uri : Url
  reference : Bool
  deriving DecidableEq, Repr

structure FullResponse where
  symbols : List DetailSymbol
  references : List Reference
  deriving DecidableEq, Repr

namespace PackageLocator

def empty : PackageLocator := ⟨"", "", ""⟩

def isEmpty (l : PackageLocator) : Bool := l.name == "" && l.repoUri == "" && l.version == ""

def toJson (l : PackageLocator) : Json :=
  .obj [("name", .str l.name), ("repoUri", .str l.repoUri), ("version", .str l.version)]

def ofJson? (j : Json) : Option PackageLocator := do
  match ← j.record? [["name"], ["repoUri"], ["version"]] with
  | [name, repoUri, version] =>
    return ⟨← name.required Json.str?, ← repoUri.required Json.str?, ← version.required Json.str?⟩
  | _ => none

end PackageLocator

namespace SymbolLocator

/-- The locator of a symbol of the requester's own view. -/
def sameView (location : Location) : SymbolLocator := ⟨"", none, some location, .empty⟩

/-- The locator of a symbol of another view. -/
def crossView (qname : String) (kind : SymbolKind) (package : PackageLocator) : SymbolLocator :=
  ⟨qname, some kind, none, package⟩

def toJson (l : SymbolLocator) : Json :=
  .ofFields
    [ ("qname", if l.qname = "" then none else some (.str l.qname)),
      ("kind", l.kind.map SymbolKind.toJson),
      ("location", l.location.map Location.toJson),
      ("package", some l.package.toJson) ]

def ofJson? (j : Json) : Option SymbolLocator := do
  match ← j.record? [["qname"], ["kind"], ["location"], ["package"]] with
  | [qname, kind, location, package] =>
    return ⟨← qname.defaulted Json.str? "", ← kind.optionalAtEnd SymbolKind.ofJson?,
      ← location.optionalAtEnd Location.ofJson?, ← package.required PackageLocator.ofJson?⟩
  | _ => none

end SymbolLocator

def tagsToJson (tags : List Int32) : Json := .arr (tags.map .ofInt32)

def tagsOfJson? (j : Json) : Option (List Int32) := j.list? Json.int32?

namespace SymbolInformation

def toJson (s : SymbolInformation) : Json :=
  .ofFields
    [ ("name", some (.str s.name)),
      ("kind", some s.kind.toJson),
      ("tags", s.tags.map tagsToJson),
      ("deprecated", s.deprecated.map Json.bool),
      ("location", some s.location.toJson),
      ("containerName", s.containerName.map Json.str) ]

def ofJson? (j : Json) : Option SymbolInformation := do
  match ← j.record? [["name"], ["kind"], ["tags"], ["deprecated"], ["location"], ["containerName"]] with
  | [name, kind, tags, deprecated, location, containerName] =>
    return ⟨← name.required Json.str?, ← kind.required SymbolKind.ofJson?, ← tags.optional tagsOfJson?,
      ← deprecated.optional Json.bool?, ← location.required Location.ofJson?, ← containerName.optional Json.str?⟩
  | _ => none

end SymbolInformation

namespace DetailSymbol

def toJson (s : DetailSymbol) : Json :=
  .obj [("symbol", s.symbol.toJson), ("qname", .str s.qname), ("package", s.package.toJson)]

def ofJson? (j : Json) : Option DetailSymbol := do
  match ← j.record? [["symbol"], ["qname"], ["package"]] with
  | [symbol, qname, package] =>
    return ⟨← symbol.required SymbolInformation.ofJson?, ← qname.required Json.str?,
      ← package.required PackageLocator.ofJson?⟩
  | _ => none

end DetailSymbol

namespace Reference

def toJson (r : Reference) : Json := .obj [("location", r.location.toJson), ("target", r.target.toJson)]

def ofJson? (j : Json) : Option Reference := do
  match ← j.record? [["location"], ["target"]] with
  | [location, target] =>
    return ⟨← location.required Location.ofJson?, ← target.required SymbolLocator.ofJson?⟩
  | _ => none

end Reference

/-- The document that a request is about. -/
def documentUri? (j : Json) : Option Url := do
  match ← j.record? [["uri"]] with
  | [uri] => uri.required Url.ofJson?
  | _ => none

def documentToJson (uri : Url) : Json := .obj [("uri", uri.toJson)]

namespace FullParams

def toJson (p : FullParams) : Json :=
  .obj [("textDocument", documentToJson p.uri), ("reference", .bool p.reference)]

def ofJson? (j : Json) : Option FullParams := do
  match ← j.record? [["textDocument"], ["reference"]] with
  | [document, reference] =>
    return ⟨← document.required documentUri?, ← reference.defaulted Json.bool? false⟩
  | _ => none

end FullParams

namespace FullResponse

def empty : FullResponse := ⟨[], []⟩

def toJson (r : FullResponse) : Json :=
  .obj
    [ ("symbols", .arr (r.symbols.map DetailSymbol.toJson)),
      ("references", .arr (r.references.map Reference.toJson)) ]

def ofJson? (j : Json) : Option FullResponse := do
  match ← j.record? [["symbols"], ["references"]] with
  | [symbols, references] =>
    return ⟨← symbols.required (Json.list? DetailSymbol.ofJson?), ← references.required (Json.list? Reference.ofJson?)⟩
  | _ => none

end FullResponse

end GoAtlas
