/-
  GoAtlas.Files.Tree — a tree of files in memory.

  Directories and files are kept by their segments, which are octets. Adding a file adds the directories
  above it, so the set of directories is closed under parents; writing needs the parent to be there.
  Listing a directory can be made to fail; otherwise it shows the names in it, each in its lossy reading.
-/
import GoAtlas.Files.Basic

namespace GoAtlas

namespace Segments

/-- All but the last segment; the root and the empty path have no parent. -/
def parent? (p : Segments) : Option Segments :=
  if p = [] || p = [Path.root] then none else some p.dropLast

/-- The last segment, if it names an entry of a directory. -/
def name? (p : Segments) : Option Octets :=
  match p.getLast? with
  | some s => if Path.isName s then some s else none
  | none => none

/-- The path and all non-empty paths above it. -/
def upward (p : Segments) : List Segments :=
  ((List.range p.length).map fun n => p.take (n + 1)).reverse

end Segments

structure Tree where
  dirs : List Segments
  files : List (Segments × Text.Bytes)
  unreadable : List Segments

namespace Tree

def empty : Tree := ⟨[], [], []⟩

def isDir (t : Tree) (p : Path) : Bool := t.dirs.contains p.segments

def file? (t : Tree) (p : Path) : Option Text.Bytes := t.files.lookup p.segments

def addDirs (t : Tree) (ds : List Segments) : Tree :=
  { t with dirs := ds.foldl (fun acc d => if acc.contains d then acc else acc ++ [d]) t.dirs }

/-- The directory with all above it. -/
def addDir (t : Tree) (p : Path) : Tree := t.addDirs p.segments.upward

def putFile (t : Tree) (p : Path) (b : Text.Bytes) : Tree :=
  { t with files := t.files.filter (fun f => f.1 != p.segments) ++ [(p.segments, b)] }

/-- The file with all directories above it. -/
def addFile (t : Tree) (p : Path) (b : Text.Bytes) : Tree :=
  (t.addDirs ((p.segments.parent?.getD []).upward)).putFile p b

def dropFile (t : Tree) (p : Path) : Tree :=
  { t with files := t.files.filter fun f => f.1 != p.segments }

/-- Listing the directory fails from now on. -/
def lock (t : Tree) (p : Path) : Tree := { t with unreadable := t.unreadable ++ [p.segments] }

/-- The name of `p` if it lies directly in `dir`. -/
def nameIn? (dir p : Segments) : Option Octets := if p.parent? = some dir then p.name? else none

/-- What lies directly in a directory, directories before files that are shown under the same name. -/
def entries (t : Tree) (dir : Segments) : List Entry :=
  sortEntries
    ((t.dirs.filterMap fun d => (nameIn? dir d).map fun n => ⟨n.shown, true, false⟩) ++
      (t.files.filterMap fun f => (nameIn? dir f.1).map fun n => ⟨n.shown, false, true⟩))

def list (t : Tree) (dir : Path) : Except Failure (List Entry) :=
  if t.unreadable.contains dir.segments then .error (.permissionDenied dir)
  else if t.isDir dir then .ok (t.entries dir.segments)
  else .error (.directoryNotFound dir)

def has (t : Tree) (p : Path) : Bool := (t.file? p).isSome || t.isDir p

def read (t : Tree) (p : Path) : Except Failure Text.Bytes :=
  match t.file? p with
  | some b => .ok b
  | none => .error (.fileNotFound p)

def write (t : Tree) (p : Path) (b : Text.Bytes) : Except Failure Tree :=
  match p.parent? with
  | some parent =>
    if parent.octets != [] && !t.isDir parent then .error (.noParentDirectory parent) else .ok (t.putFile p b)
  | none => .ok (t.putFile p b)

def remove (t : Tree) (p : Path) : Except Failure Tree :=
  match t.file? p with
  | some _ => .ok (t.dropFile p)
  | none => .error (.fileNotFound p)

/-- The outcome of an operation that changes the tree only if it succeeds. -/
def change (t : Tree) (r : Except Failure Tree) : Except Failure Unit × Tree :=
  match r with
  | .ok t' => (.ok (), t')
  | .error e => (.error e, t)

instance : FileSystem Tree where
  list dir t := (t.list dir, t)
  present t p := t.has p
  read t p := t.read p
  write p b t := t.change (t.write p b)
  remove p t := t.change (t.remove p)
  maxDepth t := t.dirs.length + 1

end Tree

end GoAtlas
