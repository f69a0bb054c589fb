/-
  GoAtlas.Module.Folder — workspace folders.
-/
import GoAtlas.Symbol.Range

namespace GoAtlas

structure Folder where
  uri : Url
  name : String
  deriving DecidableEq, Repr

namespace Folder

/-- Address and name are written alike. -/
def same (a b : Folder) : Bool := a.uri.same b.uri && a.name == b.name

/-- The folder of a directory, named after it. -/
def ofDir? (dir : Path) : Option Folder :=
  (Url.ofFilePath? dir).map fun uri => ⟨uri, (dir.fileName?.getD dir.octets).shown⟩

def isIn (f : Folder) (fs : List Folder) : Bool := fs.any fun g => g.same f

/-- The folders with those of `more` that are not among them yet, each once. -/
def addNew (fs more : List Folder) : List Folder :=
  more.foldl (fun acc f => if f.isIn acc then acc else acc ++ [f]) fs

def toJson (f : Folder) : Json := .obj [("uri", f.uri.toJson), ("name", .str f.name)]

def ofJson? (j : Json) : Option Folder := do
  match ← j.record? [["uri"], ["name"]] with
  | [uri, name] => return ⟨← uri.required Url.ofJson?, ← name.required Json.str?⟩
  | _ => none

end Folder

end GoAtlas
