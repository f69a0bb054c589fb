/-
  GoAtlas.Machine.Basic — a machine as a process sees it.

  A process sees the disk, from its working directory, and the variables of its environment. Its file
  system differs from the plain walk in two points: it enters directories by their own names and not by
  those that a listing shows; and the root of a walk may be a link to a directory, which is entered but
  not listed itself, or a file, which lists nothing.
-/
import GoAtlas.Machine.Disk

namespace GoAtlas

structure Machine where
  disk : Disk
  environment : List (String × String)
  cwd : Place

namespace Machine

def var? (m : Machine) (name : String) : Option String := m.environment.lookup name

def setVar (m : Machine) (name value : String) : Machine :=
  { m with environment := (name, value) :: m.environment.filter fun v => v.1 != name }

def setVars (m : Machine) (vars : List (String × String)) : Machine :=
  vars.foldl (fun m v => m.setVar v.1 v.2) m

/-- The home directory; an empty variable counts as none, and then it is that of the account. -/
def home (m : Machine) : Path :=
  match m.var? "HOME" with
  | some h => if h = "" then ⟨"/root"⟩ else ⟨h⟩
  | none => ⟨"/root"⟩

/-- The path without links; the length of the one that is given does not matter. -/
def canonical (m : Machine) (p : Path) : Except SystemError Path :=
  match m.disk.locate m.cwd true p with
  | .error e => .error e
  | .ok place => if (m.disk.node? place).isSome then .ok (Place.path place) else .error .notFound

def isDirectory (m : Machine) (p : Path) : Bool := m.disk.names m.cwd Disk.isDirectory p

def isRegular (m : Machine) (p : Path) : Bool := m.disk.names m.cwd Disk.isRegular p

def isExecutable (m : Machine) (p : Path) : Bool := m.disk.names m.cwd Disk.isExecutable p

def systemFailure {α : Type} (r : Except SystemError α) : Except Failure α := r.mapError .system

def list (m : Machine) (dir : Path) : Except Failure (List Entry) := systemFailure (m.disk.list m.cwd dir)

/-- Why a file cannot be read as text. -/
inductive TextError where
  | system (e : SystemError)
  | malformed
  deriving DecidableEq, Repr

def readText (m : Machine) (p : Path) : Except TextError String :=
  match m.disk.read m.cwd p with
  | .error e => .error (.system e)
  | .ok b =>
    match Text.text? b with
    | some s => .ok s
    | none => .error .malformed

/-- A file that could not be read as text. -/
structure ReadError where
  file : Path
  cause : TextError
  deriving DecidableEq, Repr

def ReadError.message (e : ReadError) : String := "failed to read file: " ++ e.file.shown

def fileText (m : Machine) (p : Path) : Except ReadError String := (m.readText p).mapError fun e => ⟨p, e⟩

def write (m : Machine) (p : Path) (b : Text.Bytes) : Except Failure Unit × Machine :=
  match m.disk.writable m.cwd p with
  | .error e => (.error (.system e), m)
  | .ok place => (.ok (), { m with disk := m.disk.store place b })

def remove (m : Machine) (p : Path) : Except Failure Unit × Machine :=
  match m.disk.remove m.cwd p with
  | .error e => (.error (.system e), m)
  | .ok disk => (.ok (), { m with disk := disk })

def maxDepth (m : Machine) : Nat := m.disk.nodes.length + 1

/-- The directory and those below it, in pre-order, by their own names; `depth` bounds the chain of
    directories. -/
def walkFrom (m : Machine) (skip : String → Bool) : (depth : Nat) → Path → Except Failure (List Path)
  | 0, dir => .error (.tooDeep dir)
  | depth + 1, dir => do
    let place ← systemFailure (m.disk.directory m.cwd dir)
    let below ← ((m.disk.dirNames place).filter fun n => !skip n.shown).mapM fun n => m.walkFrom skip depth (dir.join n)
    return dir :: below.flatten

def walkDir (m : Machine) (skip : String → Bool) (root : Path) : Except Failure (List Path) :=
  m.walkFrom skip m.maxDepth root

def walk (m : Machine) (skip : String → Bool) (root : Path) : Except Failure (List Path) :=
  match m.disk.stat m.cwd false root with
  | .error e => .error (.walk root e)
  | .ok (_, .dir) => m.walkDir skip root
  | .ok (_, .link _) =>
    match m.disk.stat m.cwd true root with
    | .error e => .error (.walk root e)
    | .ok (_, .dir) => (m.walkDir skip root).map (List.drop 1)
    | .ok _ => .ok []
  | .ok _ => .ok []

instance : FileSystem Machine where
  list dir m := (m.list dir, m)
  present m p := m.disk.names m.cwd (fun _ => true) p
  read m p := systemFailure (m.disk.read m.cwd p)
  write p b m := m.write p b
  remove p m := m.remove p
  maxDepth m := m.maxDepth
  walk skip root m := (m.walk skip root, m)

end Machine

end GoAtlas
