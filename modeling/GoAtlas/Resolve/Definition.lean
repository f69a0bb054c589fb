/-
  GoAtlas.Resolve.Definition — definitions that may lie in another view.

  A definition inside the requester's view is answered with its location. Any other is answered with
  its qualified name, its kind and the locator of its package. `Use` records which files were parsed
  and how often the type checker was asked.
-/
import GoAtlas.Engine
import GoAtlas.Resolve.Package

namespace GoAtlas

inductive ResolveError where
  | unresolved (uri : Url) (position : Position) (reason : String)
  | noSymbolKind (name : String)
  | unsupportedVersionLookup (file : Path)
  | engine (reason : String)
  deriving DecidableEq, Repr

def ResolveError.message : ResolveError → String
  | .unresolved uri position reason =>
    "no identifier found at " ++ Engine.positionText uri position ++ ": " ++ reason
  | .noSymbolKind name => "no corresponding symbol kind for '" ++ name ++ "'"
  | .unsupportedVersionLookup file =>
    "no proper and efficient way to look up the revision of `" ++ file.shown ++ "`"
  | .engine reason => reason

/-- There is no other way to a version than the path of the file. -/
def versionFromToolchain (file : Path) : Except ResolveError String := .error (.unsupportedVersionLookup file)

/-- A position in a document. -/
structure PositionParams where
  uri : Url
  position : Position
  deriving DecidableEq, Repr

def PositionParams.ofJson? (j : Json) : Option PositionParams := do
  match ← j.record? [["textDocument"], ["position"]] with
  | [document, position] =>
    return ⟨← document.required documentUri?, ← position.required Position.ofJson?⟩
  | _ => none

/-- The qualified name of a declaration; a package's is its name, and a file that does not parse gives
    none. -/
def qualifiedName (engine : Engine) (d : Declaration) (kind : SymbolKind) : String × Engine.Use :=
  if kind = .package then (d.name, .none)
  else
    match engine.parseFile d.file with
    | .ok root => (d.qualifiedName root, .parse d.file)
    | .error _ => ("", .parse d.file)

/-- The locator of what an identifier refers to, seen from a view. -/
def locateIdentifier (engine : Engine) (packages : PackageResolver) (viewRoot : Path) (ident : Identifier) :
    Except ResolveError SymbolLocator × Engine.Use :=
  let d := ident.declaration
  if d.file.isInside viewRoot then
    match Url.ofFilePath? d.file with
    | some uri => (.ok (.sameView ⟨uri, d.range⟩), .none)
    | none => (.error (.engine ("not an absolute path: " ++ d.file.shown)), .none)
  else
    match d.kind.classify with
    | none => (.error (.noSymbolKind ident.name), .none)
    | some kind =>
      let (qname, use) := qualifiedName engine d kind
      (.ok (.crossView qname kind (packages.locate d.package viewRoot d.file)), use)

/-- The definition of the identifier at a position. -/
def definition (engine : Engine) (packages : PackageResolver) (params : PositionParams) :
    Except ResolveError (List SymbolLocator) × Engine.Use :=
  match engine.viewRoot params.uri with
  | .error reason => (.error (.unresolved params.uri params.position reason), .none)
  | .ok viewRoot =>
    match engine.identifierAt params.uri params.position with
    | .error reason => (.error (.unresolved params.uri params.position reason), .check)
    | .ok ident =>
      match locateIdentifier engine packages viewRoot ident with
      | (.ok locator, use) => (.ok [locator], Engine.Use.check.append use)
      | (.error e, use) => (.error e, Engine.Use.check.append use)

end GoAtlas
