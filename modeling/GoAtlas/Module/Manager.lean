/-
  GoAtlas.Module.Manager — module management of workspace folders.

  A scan finds the module roots of a folder and creates those that are missing: one for each directory
  with an old manifest or a vendor entry, and one for the directory that the other sources share. With
  installation on the go command creates them; otherwise a module file is written, and the folder is
  noted for cleaning up. A creation that fails drops only its own root.
-/
import GoAtlas.Module.Folder
import GoAtlas.Module.Name
import GoAtlas.Module.Scan
import GoAtlas.Module.Toolchain
import GoAtlas.Module.Vendor

namespace GoAtlas.Module

/-- How a module root came to be. -/
inductive Origin where
  | existing
  | manifest
  | synthetic
  deriving DecidableEq, Repr

structure ModuleRoot where
  path : Path
  origin : Origin
  deriving DecidableEq, Repr

inductive CreateError where
  | files (e : Failure)
  | go (e : GoError)
  deriving DecidableEq, Repr

/-- What decides how modules are created: the go command if `install` is on. -/
structure Policy where
  install : Bool
  config : Config
  deriving DecidableEq, Repr

variable {σ : Type} [FileSystem σ] [Toolchain σ]

/-- Makes the folder a module root; tells whether a module file was written. -/
def createModule (policy : Policy) (folder : Path) (s : σ) : Except CreateError Bool × σ :=
  let (path, s) := modulePath folder s
  if policy.install then
    match Toolchain.modInit policy.config folder path s with
    | (.ok _, s) => (.ok false, s)
    | (.error e, s) => (.error (.go e), s)
  else
    match writeModuleFile folder path s with
    | (.ok wrote, s) => (.ok wrote, s)
    | (.error e, s) => (.error (.files e), s)

/-- Creates the roots in order: those created, the folders written to, the state. -/
def createAll (policy : Policy) : List ModuleRoot → σ → List ModuleRoot × List Path × σ
  | [], s => ([], [], s)
  | r :: rs, s =>
    match createModule policy r.path s with
    | (.error _, s) => createAll policy rs s
    | (.ok wrote, s) =>
      let (roots, written, s) := createAll policy rs s
      (r :: roots, if wrote then r.path :: written else written, s)

/-- The roots that cover the sources: their shared directory if it lies inside the folder, otherwise
    each directory by itself. -/
def sourceRoots (folder : Path) (sourceDirs : List (List String)) : List ModuleRoot :=
  if sourceDirs.isEmpty then []
  else if (sharedDirectory sourceDirs).isInside folder then [⟨sharedDirectory sourceDirs, .synthetic⟩]
  else sourceDirs.map fun d => ⟨.ofSegments (.ofTexts d), .synthetic⟩

/-- The roots to create for what no module covers. -/
def pendingRoots (folder : Path) (u : Uncovered) : List ModuleRoot :=
  (u.manifestDirs.map fun d => ⟨d, .manifest⟩) ++ sourceRoots folder u.sourceDirs

/-- The module roots of a folder, found or created, and the folders written to. If what is uncovered
    cannot be found out, nothing is created. -/
def scan (policy : Policy) (folder : Path) (s : σ) : Except ScanError (List ModuleRoot × List Path) × σ :=
  match findModuleRoots folder s with
  | (.error e, s) => (.error e, s)
  | (.ok dirs, s) =>
    let roots := dirs.map fun d => (⟨d, .existing⟩ : ModuleRoot)
    match findUncovered folder s with
    | (.error _, s) => (.ok (roots, []), s)
    | (.ok u, s) =>
      let (created, written, s) := createAll policy (pendingRoots folder u) s
      (.ok (roots ++ created, written), s)

end GoAtlas.Module

namespace GoAtlas

open GoAtlas.Module

/-- A manager with what it has found: the workspace folders of module roots, and the folders that
    hold module files it wrote itself. -/
structure Manager where
  policy : Policy
  moduleFolders : List Folder
  cleanup : List Path
  deriving DecidableEq, Repr

inductive RunError where
  | notLocal (uri : Url)
  | scan (e : ScanError)
  deriving DecidableEq, Repr

def RunError.message : RunError → String
  | .notLocal uri => "workspace folder is not a local path: " ++ uri.text
  | .scan e => e.message

namespace Manager

def new (policy : Policy) : Manager := ⟨policy, [], []⟩

variable {σ : Type} [FileSystem σ] [Toolchain σ]

def scan (m : Manager) (folder : Path) (s : σ) : Except ScanError (List ModuleRoot) × Manager × σ :=
  match Module.scan m.policy folder s with
  | (.error e, s) => (.error e, m, s)
  | (.ok (roots, written), s) => (.ok roots, { m with cleanup := m.cleanup ++ written }, s)

/-- The workspace folders of the roots other than `dir` itself. -/
def foldersOf (dir : Path) (roots : List ModuleRoot) : List Folder :=
  (roots.filter fun r => !r.path.same dir).filterMap fun r => Folder.ofDir? r.path

/-- Those of `found` that are not among the known ones, each once. -/
def newFolders (known found : List Folder) : List Folder := (Folder.addNew known found).drop known.length

/-- Scans a workspace folder and returns the folders of the module roots that were not known yet. -/
def run (m : Manager) (folder : Folder) (s : σ) : Except RunError (List Folder) × Manager × σ :=
  match folder.uri.toFilePath? with
  | none => (.error (.notLocal folder.uri), m, s)
  | some dir =>
    match m.scan dir s with
    | (.error e, m, s) => (.error (.scan e), m, s)
    | (.ok roots, m, s) =>
      let added := newFolders m.moduleFolders (foldersOf dir roots)
      (.ok added, { m with moduleFolders := m.moduleFolders ++ added }, s)

/-- Downloads the dependencies of a folder unless it is registered; a failure registers it. -/
def downloadOne (config : Config) (folder : Folder) (v : Registry) (s : σ) : Registry × σ :=
  match folder.uri.toFilePath? with
  | none => (v, s)
  | some dir =>
    match v.checkOrRegister s dir with
    | (some _, v) => (v, s)
    | (none, v) =>
      match Toolchain.modDownload config dir s with
      | (.ok _, s) => (v, s)
      | (.error _, s) => (v.mark dir, s)

def downloadAll (config : Config) : List Folder → Registry → σ → Registry × σ
  | [], v, s => (v, s)
  | f :: fs, v, s =>
    let (v, s) := downloadOne config f v s
    downloadAll config fs v s

/-- Downloads the dependencies of the folders, if installation is on. -/
def downloadDeps (m : Manager) (folders : List Folder) (v : Registry) (s : σ) : Registry × σ :=
  if m.policy.install then downloadAll m.policy.config folders v s else (v, s)

/-- Scans the roots in order and adds the folders found to `folders`. -/
def runAll (m : Manager) : (roots folders : List Folder) → σ → List Folder × Manager × σ
  | [], folders, s => (folders, m, s)
  | r :: rs, folders, s =>
    match m.run r s with
    | (.ok added, m, s) => runAll m rs (Folder.addNew folders added) s
    | (.error _, m, s) => runAll m rs folders s

/-- Scans every folder, adds the module roots found and downloads the dependencies of the result. -/
def manage (m : Manager) (folders : List Folder) (v : Registry) (s : σ) :
    List Folder × Manager × Registry × σ :=
  let (folders, m, s) := m.runAll folders folders s
  let (v, s) := m.downloadDeps folders v s
  (folders, m, v, s)

/-- Hands over the folders noted for cleaning up. -/
def takeCleanup (m : Manager) : List Path × Manager := (m.cleanup, { m with cleanup := [] })

/-- Removes the module files that the manager wrote. -/
def clean (m : Manager) (s : σ) : Manager × σ := ({ m with cleanup := [] }, cleanupFolders m.cleanup s)

end Manager

end GoAtlas
