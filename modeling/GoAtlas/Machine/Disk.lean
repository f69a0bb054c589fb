/-
  GoAtlas.Machine.Disk — what lies on a machine's disk.

  A place is the list of names from the root down; the disk maps places to directories, files, links
  and the few programs that the machine brings along. A path is resolved name by name from a starting
  place: a link on the way is replaced by its target, and after `maxLinks` of them the resolution
  fails. The last name need not be there, so that a file can be created at it. Names and paths have a
  greatest length; a name is held against it when its directory is reached.
-/
import GoAtlas.Files.Basic

namespace GoAtlas

abbrev Place := List Octets

/-- Programs that the machine brings along. -/
inductive Tool where
  | sh
  | echo
  | printf
  | cat
  | pwd
  | test
  | succeed
  | fail
  deriving DecidableEq, Repr

inductive Inode where
  | dir
  | file (contents : Text.Bytes) (executable : Bool)
  | link (target : String)
  | tool (t : Tool)
  /-- Empty to readers; what is written to it is gone. -/
  | sink

structure Disk where
  nodes : List (Place × Inode)

namespace Place

def path (p : Place) : Path := ⟨Octets.slash :: Text.joinFields [Octets.slash] p⟩

/-- The place as it is printed. -/
def shown (p : Place) : String := p.path.shown

/-- The place with all directories above it but the root. -/
def above (p : Place) : List Place := (List.range (p.length - 1)).map fun n => p.take (n + 1)

end Place

namespace Disk

def node? (d : Disk) (p : Place) : Option Inode := if p = [] then some .dir else d.nodes.lookup p

def put (d : Disk) (p : Place) (n : Inode) : Disk := ⟨d.nodes.filter (fun x => x.1 != p) ++ [(p, n)]⟩

def erase (d : Disk) (p : Place) : Disk := ⟨d.nodes.filter fun x => x.1 != p⟩

/-- The directory, unless something is there. -/
def ensureDir (d : Disk) (p : Place) : Disk := if (d.node? p).isSome then d else d.put p .dir

/-- The node with the directories above it. -/
def add (d : Disk) (p : Place) (n : Inode) : Disk := (p.above.foldl ensureDir d).put p n

/-! ## Resolution -/

/-- Where a walk along names stops. -/
inductive Stop where
  | arrived (p : Place)
  | link (dir : Place) (target : String) (rest : List Octets)
  | failed (e : SystemError)

/-- The greatest length of a name, in bytes. -/
def maxName : Nat := 255

/-- Walks from a directory; a link at the end is entered only if `follow` is set. -/
def advance (d : Disk) (follow : Bool) : Place → List Octets → Stop
  | here, [] => .arrived here
  | here, name :: rest =>
    if Path.idle name then advance d follow here rest
    else if name = [Octets.dot, Octets.dot] then advance d follow here.dropLast rest
    else if maxName < name.length then .failed .nameTooLong
    else
      match d.node? (here ++ [name]) with
      | some .dir => advance d follow (here ++ [name]) rest
      | some (.link target) =>
        if rest.isEmpty && !follow then .arrived (here ++ [name]) else .link here target rest
      | some _ => if rest.isEmpty then .arrived (here ++ [name]) else .failed .notDirectory
      | none => if rest.isEmpty then .arrived (here ++ [name]) else .failed .notFound

def maxLinks : Nat := 40

def resolveFrom (d : Disk) (follow : Bool) : (links : Nat) → Place → List Octets → Except SystemError Place
  | links, here, names =>
    match d.advance follow here names, links with
    | .arrived p, _ => .ok p
    | .failed e, _ => .error e
    | .link _ _ _, 0 => .error .tooManyLinks
    | .link dir target rest, links + 1 =>
      resolveFrom d follow links (if (Path.ofText target).isAbsolute then [] else dir) ((Path.ofText target).pieces ++ rest)

/-- The place that a path of any length names, seen from `cwd`; nothing need be there. -/
def locate (d : Disk) (cwd : Place) (follow : Bool) (p : Path) : Except SystemError Place :=
  if p.octets = [] then .error .notFound
  else if Octets.hasNul p.octets then .error .nulInPath
  else d.resolveFrom follow maxLinks (if p.isAbsolute then [] else cwd) p.pieces

/-- Paths of this length, in bytes, are refused. -/
def pathLimit : Nat := 4096

/-- A path that is refused before any of its names is looked up. -/
def refused? (p : Path) : Option SystemError :=
  if Octets.hasNul p.octets then some .nulInPath else if pathLimit ≤ p.octets.length then some .nameTooLong else none

/-- The place that a path names, seen from `cwd`; nothing need be there. -/
def resolve (d : Disk) (cwd : Place) (follow : Bool) (p : Path) : Except SystemError Place :=
  match refused? p with
  | some e => .error e
  | none => d.locate cwd follow p

/-- The place that a path names and what is there. -/
def stat (d : Disk) (cwd : Place) (follow : Bool) (p : Path) : Except SystemError (Place × Inode) :=
  match d.resolve cwd follow p with
  | .error e => .error e
  | .ok place =>
    match d.node? place with
    | some n => .ok (place, n)
    | none => .error .notFound

/-- The directory that a path names. -/
def directory (d : Disk) (cwd : Place) (p : Path) : Except SystemError Place :=
  match d.stat cwd true p with
  | .ok (place, .dir) => .ok place
  | .ok _ => .error .notDirectory
  | .error e => .error e

/-! ## Files -/

def isRegular : Inode → Bool
  | .file _ _ | .tool _ => true
  | _ => false

def isExecutable : Inode → Bool
  | .file _ executable => executable
  | .tool _ => true
  | _ => false

def isDirectory : Inode → Bool
  | .dir => true
  | _ => false

/-- Whether the path names something of this kind, through links. -/
def names (d : Disk) (cwd : Place) (kind : Inode → Bool) (p : Path) : Bool :=
  match d.stat cwd true p with
  | .ok (_, n) => kind n
  | .error _ => false

/-- What a listing of a place shows. A link is neither directory nor file. -/
def entries (d : Disk) (dir : Place) : List Entry :=
  let es := d.nodes.filterMap fun x =>
    match x.1.getLast? with
    | some name => if x.1.dropLast = dir then some ⟨name.shown, isDirectory x.2, isRegular x.2⟩ else none
    | none => none
  sortEntries es

/-- The names of the directories that lie directly in a place, in order. -/
def dirNames (d : Disk) (dir : Place) : List Octets :=
  let names := d.nodes.filterMap fun x => if x.1.dropLast = dir && isDirectory x.2 then x.1.getLast? else none
  names.mergeSort fun a b => decide (a ≤ b)

def list (d : Disk) (cwd : Place) (p : Path) : Except SystemError (List Entry) :=
  (d.directory cwd p).map d.entries

def read (d : Disk) (cwd : Place) (p : Path) : Except SystemError Text.Bytes :=
  match d.stat cwd true p with
  | .error e => .error e
  | .ok (_, .file b _) => .ok b
  | .ok (_, .dir) => .error .isDirectory
  | .ok _ => .ok ByteArray.empty

/-- The names without the empty ones that slashes at the end leave behind. -/
def trimSlashes (names : List Octets) : List Octets := (names.reverse.dropWhile (· == [])).reverse

/-- Where a file can be created or replaced, through links. Names with a slash behind them ask for a
    directory, which cannot be written: the last one is not even looked up. -/
def createFrom (d : Disk) : (links : Nat) → Place → List Octets → Except SystemError Place
  | links, here, names =>
    if names.getLast? = some [] then
      match d.resolveFrom true links here (trimSlashes names).dropLast with
      | .error e => .error e
      | .ok place =>
        match d.node? place with
        | some .dir => .error .isDirectory
        | some _ => .error .notDirectory
        | none => .error .notFound
    else
      match d.advance true here names, links with
      | .arrived p, _ => .ok p
      | .failed e, _ => .error e
      | .link _ _ _, 0 => .error .tooManyLinks
      | .link dir target rest, links + 1 =>
        createFrom d links (if (Path.ofText target).isAbsolute then [] else dir) ((Path.ofText target).pieces ++ rest)

/-- Where a path can be written to: a file, or nothing yet. -/
def writable (d : Disk) (cwd : Place) (p : Path) : Except SystemError Place :=
  match refused? p with
  | some e => .error e
  | none =>
    if p.octets = [] then .error .notFound
    else
      match d.createFrom maxLinks (if p.isAbsolute then [] else cwd) p.pieces with
      | .error e => .error e
      | .ok place => if (d.node? place).any isDirectory then .error .isDirectory else .ok place

/-- The file at a place with these contents; it stays as executable as it was. -/
def store (d : Disk) (place : Place) (b : Text.Bytes) : Disk :=
  match d.node? place with
  | some .sink => d
  | some n => d.put place (.file b (isExecutable n))
  | none => d.put place (.file b false)

/-- The file at a place with more at its end. -/
def append (d : Disk) (place : Place) (b : Text.Bytes) : Disk :=
  match d.node? place with
  | some (.file old executable) => d.put place (.file (old ++ b) executable)
  | _ => d.store place b

/-- Removes a file or a link, which is not followed; neither can have a slash behind it. -/
def remove (d : Disk) (cwd : Place) (p : Path) : Except SystemError Disk :=
  let names := trimSlashes p.pieces
  match refused? p, d.stat cwd false (if names.isEmpty then p else .ofJoined names) with
  | some e, _ | none, .error e => .error e
  | none, .ok (_, .dir) => .error .isDirectory
  | none, .ok (place, _) => if names.length < p.pieces.length then .error .notDirectory else .ok (d.erase place)

/-- A disk with the programs and a directory for temporary files. -/
def bare : Disk :=
  let tools : List (String × Tool) :=
    [ ("sh", .sh), ("echo", .echo), ("printf", .printf), ("cat", .cat), ("pwd", .pwd), ("test", .test), ("[", .test),
      ("true", .succeed), ("false", .fail) ]
  let d := (tools.foldl (fun (d : Disk) t => d.add ["usr", "bin", t.1] (.tool t.2)) ⟨[]⟩).add ["bin"] (.link "usr/bin")
  (d.add ["dev", "null"] .sink).add ["tmp"] .dir

end Disk

end GoAtlas
