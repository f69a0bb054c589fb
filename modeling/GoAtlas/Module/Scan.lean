/-
  GoAtlas.Module.Scan — modules in a folder tree.

  One pass finds the module roots; it does not enter hidden or vendor directories. The other finds
  what no module covers: it stops at module roots and at directories with an old manifest or a vendor
  entry, and notes the directories that hold sources. Either pass fails as a whole with the first
  directory it cannot list.
-/
import GoAtlas.Module.Manifest

namespace GoAtlas.Module

inductive ScanError where
  | readDir (dir : Path) (cause : Failure)
  | walk (root : Path) (cause : Failure)
  deriving DecidableEq, Repr

def ScanError.chain : ScanError → List String
  | .readDir dir cause => ("failed to read directory " ++ dir.shown) :: cause.chain
  | .walk root cause => ("failed to walk " ++ root.shown) :: cause.chain

def ScanError.message (e : ScanError) : String := chainText e.chain

def isHidden (name : String) : Bool := name.toList.head? == some '.'

def isTestFile (name : String) : Bool := (Text.before? "_test.go".toList name.toList).isSome

/-- A regular Go file that is no test. -/
def isSourceFile (e : Entry) : Bool :=
  e.isFile && (Text.before? ".go".toList e.name.toList).isSome && !isTestFile e.name

variable {σ : Type} [FileSystem σ]

def findModuleRoots (root : Path) (s : σ) : Except ScanError (List Path) × σ :=
  match FileSystem.walk (fun name => isHidden name || name == vendorDir) root s with
  | (.error e, s) => (.error (.walk root e), s)
  | (.ok dirs, s) => (.ok (dirs.filter (hasModuleFile s)), s)

/-- A directory that no module covers: it has an old manifest or a vendor entry, or holds sources. -/
inductive Finding where
  | manifest (dir : Path)
  | sources (dir : Path)
  deriving DecidableEq, Repr

def Finding.manifest? : Finding → Option Path
  | .manifest d => some d
  | .sources _ => none

/-- Where sources are, segment by segment as it is printed. -/
def Finding.sources? : Finding → Option (List String)
  | .sources d => some d.segments.shown
  | .manifest _ => none

/-- What a directory that is not stopped at adds itself. -/
def sourcesIn (dir : Path) (entries : List Entry) : List Finding :=
  if entries.any isSourceFile then [.sources dir] else []

/-- The findings at a directory and below it, in pre-order; `depth` bounds the chain of directories. -/
def findingsBelow : (depth : Nat) → Path → σ → Except ScanError (List Finding) × σ
  | 0, dir, s => (.error (.readDir dir (.tooDeep dir)), s)
  | depth + 1, dir, s =>
    if hasModuleFile s dir then (.ok [], s)
    else if hasLegacyManifest s dir || hasVendorDir s dir then (.ok [.manifest dir], s)
    else
      match FileSystem.list dir s with
      | (.error e, s) => (.error (.readDir dir e), s)
      | (.ok entries, s) =>
        match collect (findingsBelow depth) (subdirectories isHidden dir entries) s with
        | (.error e, s) => (.error e, s)
        | (.ok found, s) => (.ok (sourcesIn dir entries ++ found), s)

structure Uncovered where
  /-- Each becomes a module root of its own. -/
  manifestDirs : List Path
  /-- These are compared as they are printed. -/
  sourceDirs : List (List String)
  deriving DecidableEq, Repr

def Uncovered.isEmpty (u : Uncovered) : Bool := u.manifestDirs.isEmpty && u.sourceDirs.isEmpty

def Uncovered.ofFindings (fs : List Finding) : Uncovered :=
  ⟨fs.filterMap Finding.manifest?, fs.filterMap Finding.sources?⟩

def findUncovered (root : Path) (s : σ) : Except ScanError Uncovered × σ :=
  match findingsBelow (FileSystem.maxDepth s) root s with
  | (.error e, s) => (.error e, s)
  | (.ok found, s) => (.ok (.ofFindings found), s)

/-! ## The directory that sources share -/

/-- The segments that both begin with. -/
def commonLead : List String → List String → List String
  | a :: as, b :: bs => if a = b then a :: commonLead as bs else []
  | _, _ => []

/-- The deepest directory above all of them; the root if they share nothing. -/
def sharedDirectory : List (List String) → Path
  | [] => ⟨"/"⟩
  | d :: ds =>
    match ds.foldl commonLead d with
    | [] => ⟨"/"⟩
    | shared => .ofSegments (.ofTexts shared)

end GoAtlas.Module
