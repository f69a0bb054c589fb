/-
  GoAtlas.Module.Name — the module path of a folder without a module file.

  The first that declares one decides: an import comment of the folder's own sources, by name; the
  parent of an import comment of the sources directly below it, by directory and name; the old
  manifests of two tools. A folder that nothing declares takes its name from the checkout layout
  `<host>/<owner>/<repo>/__<a>/<b>/<sub>`, or else is its own name. Directories that cannot be listed
  and files that cannot be read declare nothing.
-/
import GoAtlas.Files.Basic
import GoAtlas.Json.Record
import GoAtlas.Module.ImportComment

namespace GoAtlas.Module

variable {σ : Type} [FileSystem σ]

def isGoFile (e : Entry) : Bool := e.isFile && (Text.before? ".go".toList e.name.toList).isSome

/-- The import path that a file declares, if it can be read. -/
def fileComment? (s : σ) (file : Path) : Option String :=
  match FileSystem.read s file with
  | .ok b => importComment? (Text.lossy b)
  | .error _ => none

/-- The first import path that the sources of a listing declare. -/
def ownComment? (s : σ) (dir : Path) (entries : List Entry) : Option String :=
  (entries.filter isGoFile).findSome? fun e => fileComment? s (dir.join e.name)

/-- A directory that cannot be listed counts as empty. -/
def listOrEmpty (dir : Path) (s : σ) : List Entry × σ :=
  match FileSystem.list dir s with
  | (.ok es, s) => (es, s)
  | (.error _, s) => ([], s)

/-- The first import path that the sources of these directories declare. -/
def firstBelow? : List Path → σ → Option String × σ
  | [], s => (none, s)
  | d :: ds, s =>
    let (es, s) := listOrEmpty d s
    match ownComment? s d es with
    | some path => (some path, s)
    | none => firstBelow? ds s

/-- The import path of the directory above. -/
def parentImportPath (path : String) : String :=
  match Text.beforeLast? '/' path.toList with
  | some parent => String.ofList parent
  | none => "."

/-- A field of a manifest, under either of its names; empty if it is left out. -/
def manifestField? (names : List String) (j : Json) : Option String := do
  match ← j.record? [names] with
  | [slot] => slot.defaulted Json.str? ""
  | _ => none

/-- A non-empty field of a manifest that can be read. -/
def manifestPath? (s : σ) (file : Path) (names : List String) : Option String :=
  match FileSystem.read s file with
  | .error _ => none
  | .ok b =>
    match (Json.ofBytes? b).bind (manifestField? names) with
    | some path => if path = "" then none else some path
    | none => none

def godepsPath? (s : σ) (folder : Path) : Option String :=
  manifestPath? s ((folder.join "Godeps").join "Godeps.json") ["ImportPath", "importPath"]

def vendorPath? (s : σ) (folder : Path) : Option String :=
  manifestPath? s ((folder.join "vendor").join "vendor.json") ["rootPath", "RootPath"]

/-- The path that a checkout's own layout gives: the three segments before the one that starts with
    two underscores, without that and the next, then the rest. Any other path is kept. -/
def checkoutPath (folder : String) : String :=
  match Text.cuts "/__".toList folder.toList with
  | [outer, inner] =>
    let before := Text.fields '/' outer
    if before.length < 4 then folder
    else
      String.ofList
        (Text.joinFields ['/'] (before.drop (before.length - 3) ++ (Text.fields '/' inner).drop 2))
  | _ => folder

/-- What declares the module path of a folder, if anything does. -/
def declaredPath? (folder : Path) (s : σ) : Option String × σ :=
  let (entries, s) := listOrEmpty folder s
  match ownComment? s folder entries with
  | some path => (some path, s)
  | none =>
    match firstBelow? ((entries.filter (·.isDir)).map fun e => folder.join e.name) s with
    | (some path, s) => (some (parentImportPath path), s)
    | (none, s) => ((godepsPath? s folder).or (vendorPath? s folder), s)

def modulePath (folder : Path) (s : σ) : String × σ :=
  match declaredPath? folder s with
  | (some path, s) => (path, s)
  | (none, s) => (checkoutPath folder.shown, s)

end GoAtlas.Module
