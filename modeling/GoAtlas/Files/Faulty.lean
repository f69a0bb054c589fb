/-
  GoAtlas.Files.Faulty — a tree of files with faults.

  Around a tree: directories that can be listed only so many times, entries that lead out of their
  directory (a mount has an absolute name), entries that are neither file nor directory, paths that
  cannot be read, written or removed. Every write and removal is logged with its outcome.
-/
import GoAtlas.Files.Tree

namespace GoAtlas

/-- A change that was attempted. -/
inductive Change where
  | write (path : Path) (contents : Text.Bytes) (done : Bool)
  | remove (path : Path) (done : Bool)

structure Faulty where
  tree : Tree
  special : List Segments
  mounts : List (Segments × String)
  /-- How often a directory can still be listed. -/
  flaky : List (Segments × Nat)
  failRead : List Segments
  failWrite : List Segments
  failRemove : List Segments
  log : List Change

namespace Faulty

def empty : Faulty := ⟨.empty, [], [], [], [], [], [], []⟩

def ofTree (t : Tree) : Faulty := { empty with tree := t }

/-- Adds special entries; one that is there already is not added again. -/
def addSpecial (f : Faulty) (paths : List Segments) : Faulty := { f with special := (f.special ++ paths).eraseDups }

/-- The entries of a directory with its mounts and special entries. -/
def entries (f : Faulty) (dir : Segments) (es : List Entry) : List Entry :=
  sortEntries
    (es ++ (f.mounts.filterMap fun m => if m.1 = dir then some ⟨m.2, true, false⟩ else none) ++
      (f.special.filterMap fun s => (Tree.nameIn? dir s).map fun n => ⟨n.shown, false, false⟩))

/-- One more listing of a flaky directory. -/
def visit (f : Faulty) (dir : Segments) : Faulty :=
  { f with flaky := f.flaky.map fun x => if x.1 = dir then (x.1, x.2 - 1) else x }

def list (f : Faulty) (dir : Path) : Except Failure (List Entry) × Faulty :=
  if f.flaky.lookup dir.segments = some 0 then (.error (.denied dir), f)
  else
    let f := f.visit dir.segments
    match f.tree.list dir with
    | .error e => (.error e, f)
    | .ok es => (.ok (f.entries dir.segments es), f)

/-- Mounts may lead in circles. A circle ends where a directory can no longer be listed, so a chain of
    directories that ends passes such a one again and again, and no more than so many others between. -/
def maxDepth (f : Faulty) : Nat :=
  (f.tree.dirs.length + 1) * f.flaky.foldl (fun n x => n + x.2 + 1) 1

def logged (f : Faulty) (c : Bool → Change) (r : Except Failure Tree) : Except Failure Unit × Faulty :=
  match r with
  | .ok t => (.ok (), { f with tree := t, log := f.log ++ [c true] })
  | .error e => (.error e, { f with log := f.log ++ [c false] })

instance : FileSystem Faulty where
  list dir f := f.list dir
  present f p := f.tree.has p || f.special.contains p.segments
  read f p := if f.failRead.contains p.segments then .error (.denied p) else f.tree.read p
  write p b f :=
    f.logged (.write p b) (if f.failWrite.contains p.segments then .error (.denied p) else f.tree.write p b)
  remove p f :=
    f.logged (.remove p) (if f.failRemove.contains p.segments then .error (.denied p) else f.tree.remove p)
  maxDepth f := f.maxDepth

end Faulty

end GoAtlas
