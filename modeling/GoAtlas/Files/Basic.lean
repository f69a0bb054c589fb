/-
  GoAtlas.Files.Basic — access to a tree of files.

  `FileSystem σ` lists, reads, writes and removes in a state `σ`. Listing may change the state, because
  a directory may fail only at some visit. A walk lists the directories below a root in pre-order; the
  first failure ends it. Its depth is bounded by `maxDepth`, which every file system chooses so that no
  chain of directories is longer; a walk that goes deeper fails with `tooDeep`.
-/
import GoAtlas.Path
import GoAtlas.Text.Utf8

namespace GoAtlas

/-- A directory entry; it may be neither a directory nor a regular file. Its name is what a listing shows,
    and the entry is looked up under that name. -/
structure Entry where
  name : String
  isDir : Bool
  isFile : Bool
  deriving DecidableEq, Repr

/-- Puts an entry before the first one whose name is not smaller. -/
def insertEntry (e : Entry) : List Entry → List Entry
  | [] => [e]
  | x :: xs => if e.name ≤ x.name then e :: x :: xs else x :: insertEntry e xs

/-- The entries by name; those of the same name stay in order. -/
def sortEntries : List Entry → List Entry
  | [] => []
  | e :: es => insertEntry e (sortEntries es)

/-- Failures that an operating system reports, and two refusals of text that no system call can take. -/
inductive SystemError where
  | notFound
  | notDirectory
  | isDirectory
  | tooManyLinks
  | noAccess
  | badFormat
  | nameTooLong
  /-- The path contains a NUL. -/
  | nulInPath
  /-- An argument, a variable or a directory of a command contains a NUL. -/
  | nulInCommand
  deriving DecidableEq, Repr

/-- The system's number for a failure; a refusal has none. -/
def SystemError.code? : SystemError → Option Nat
  | .notFound => some 2
  | .notDirectory => some 20
  | .isDirectory => some 21
  | .tooManyLinks => some 40
  | .noAccess => some 13
  | .badFormat => some 8
  | .nameTooLong => some 36
  | .nulInPath | .nulInCommand => none

def SystemError.text : SystemError → String
  | .notFound => "No such file or directory"
  | .notDirectory => "Not a directory"
  | .isDirectory => "Is a directory"
  | .tooManyLinks => "Too many levels of symbolic links"
  | .noAccess => "Permission denied"
  | .badFormat => "Exec format error"
  | .nameTooLong => "File name too long"
  | .nulInPath => "file name contained an unexpected NUL byte"
  | .nulInCommand => "nul byte found in provided data"

def SystemError.message (e : SystemError) : String :=
  e.text ++ e.code?.elim "" fun n => " (os error " ++ toString n ++ ")"

/-- Why a file operation failed. -/
inductive Failure where
  | permissionDenied (dir : Path)
  | directoryNotFound (dir : Path)
  | fileNotFound (file : Path)
  | noParentDirectory (dir : Path)
  | denied (path : Path)
  | system (e : SystemError)
  | walk (path : Path) (e : SystemError)
  | tooDeep (dir : Path)
  deriving DecidableEq, Repr

/-- The failure's text, then the texts of its causes. -/
def Failure.chain : Failure → List String
  | .permissionDenied d => ["permission denied: " ++ d.shown]
  | .directoryNotFound d => ["directory not found: " ++ d.shown]
  | .fileNotFound f => ["file not found: " ++ f.shown]
  | .noParentDirectory d => ["parent directory does not exist: " ++ d.shown]
  | .denied p => ["denied: " ++ p.shown]
  | .system e => [e.message]
  | .walk p e => ["IO error for operation on " ++ p.shown ++ ": " ++ e.message, e.message]
  | .tooDeep d => ["too deep: " ++ d.shown]

def chainText (chain : List String) : String := Text.join ": " chain

def Failure.message (f : Failure) : String := chainText f.chain

/-- Visits the paths in order and puts the results together; the first failure ends the visit. -/
def collect {σ ε α : Type} (visit : Path → σ → Except ε (List α) × σ) : List Path → σ → Except ε (List α) × σ
  | [], s => (.ok [], s)
  | p :: ps, s =>
    match visit p s with
    | (.error e, s) => (.error e, s)
    | (.ok xs, s) =>
      match collect visit ps s with
      | (.error e, s) => (.error e, s)
      | (.ok ys, s) => (.ok (xs ++ ys), s)

/-- The subdirectories of a listing that are not skipped. -/
def subdirectories (skip : String → Bool) (dir : Path) (entries : List Entry) : List Path :=
  (entries.filter fun e => e.isDir && !skip e.name).map fun e => dir.join e.name

/-- The directory and those below it, in pre-order; `depth` bounds the chain of directories. -/
def walkBelow {σ : Type} (list : Path → σ → Except Failure (List Entry) × σ) (skip : String → Bool) :
    (depth : Nat) → Path → σ → Except Failure (List Path) × σ
  | 0, dir, s => (.error (.tooDeep dir), s)
  | depth + 1, dir, s =>
    match list dir s with
    | (.error e, s) => (.error e, s)
    | (.ok entries, s) =>
      match collect (walkBelow list skip depth) (subdirectories skip dir entries) s with
      | (.error e, s) => (.error e, s)
      | (.ok dirs, s) => (.ok (dir :: dirs), s)

class FileSystem (σ : Type) where
  /-- The entries of a directory, sorted by name. -/
  list : Path → σ → Except Failure (List Entry) × σ
  /-- Whether anything has this path. -/
  present : σ → Path → Bool
  read : σ → Path → Except Failure Text.Bytes
  /-- Creates the file or replaces its contents. -/
  write : Path → Text.Bytes → σ → Except Failure Unit × σ
  remove : Path → σ → Except Failure Unit × σ
  maxDepth : σ → Nat
  /-- The root and the directories below it; those whose name is skipped are not entered, the root
      always is. -/
  walk : (skip : String → Bool) → Path → σ → Except Failure (List Path) × σ :=
    fun skip root s => walkBelow list skip (maxDepth s) root s

export FileSystem (present)

end GoAtlas
