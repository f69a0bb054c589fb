/-
  GoAtlas.Engine — the language server that is extended.

  Parsing, identifier resolution, type checking and outlines belong to the base language server; an
  `Engine` holds its answers. Each answer may fail with a reason. What a request asks of the engine is
  recorded as a `Use`: the files parsed, in order, and the number of questions that need type
  information.
-/
import GoAtlas.Scope.QualifiedName
import GoAtlas.Symbol.Outline

namespace GoAtlas

structure Engine where
  /-- The root folder of the view that owns a document. -/
  viewRoot : Url → Except String Path
  parseFile : Path → Except String Node
  identifierAt : Url → Position → Except String Identifier
  /-- The narrowest package that contains a document. -/
  narrowestPackage : Url → Except String Package
  documentSymbols : Url → Except String (List Outline)

namespace Engine

structure Use where
  parsed : List Path
  checks : Nat
  deriving DecidableEq, Repr

def Use.none : Use := ⟨[], 0⟩

def Use.append (a b : Use) : Use := ⟨a.parsed ++ b.parsed, a.checks + b.checks⟩

def Use.parse (file : Path) : Use := ⟨[file], 0⟩

def Use.check : Use := ⟨[], 1⟩

/-- An engine with prepared answers: every position is the same identifier, every document has the
    same package and outline, and only the listed files parse. -/
structure Prepared where
  viewRoot : Option Path
  identifier : Option Identifier
  /-- The latest tree of a file comes first. -/
  trees : List (Path × Node)
  package : Option Package
  outline : List Outline

def Prepared.empty : Prepared := ⟨Option.none, Option.none, [], Option.none, []⟩

def positionText (uri : Url) (p : Position) : String :=
  uri.text ++ ":" ++ toString p.line.toNat ++ ":" ++ toString p.character.toNat

def orElse {α : Type} (answer : Option α) (reason : String) : Except String α :=
  match answer with
  | some a => .ok a
  | Option.none => .error reason

def Prepared.toEngine (p : Prepared) : Engine where
  viewRoot uri := orElse p.viewRoot ("no view for " ++ uri.text)
  parseFile file := orElse ((p.trees.find? fun t => t.1.same file).map Prod.snd) ("cannot parse " ++ file.shown)
  identifierAt uri position := orElse p.identifier ("no identifier at " ++ positionText uri position)
  narrowestPackage uri := orElse p.package ("no package for " ++ uri.text)
  documentSymbols _ := .ok p.outline

end Engine

end GoAtlas
