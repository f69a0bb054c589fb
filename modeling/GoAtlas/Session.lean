/-
  GoAtlas.Session — the state of one client.

  A session keeps the client's settings, the folders it tracks and the folders that hold module files
  it wrote. The effective configuration is the base with three layers over it: the project's file for
  a folder, the client's initialization options, the client's workspace settings. `manageDeps` brings
  folders under module management; `clean` removes what was written and closes the session for good.
-/
import GoAtlas.Module.Manager

namespace GoAtlas

open GoAtlas.Module

structure Session where
  base : Config
  /-- The initialization options as sent. -/
  options : Option Json
  initialization : ConfigLayer
  workspace : ConfigLayer
  folders : List Folder
  cleanup : List Path
  closed : Bool

/-- Where a state `σ` keeps the settings of a project. -/
class ProjectSettings (σ : Type) where
  layer : σ → (folder : Path) → ConfigLayer

namespace Session

def new (base : Config) : Session := ⟨base, none, .empty, .empty, [], [], false⟩

def setInitializationOptions (s : Session) (options : Option Json) : Session :=
  { s with options := options, initialization := options.elim .empty ConfigLayer.ofJson }

/-- The section of the settings that is meant for this server: they may come bare. -/
def ownSection (settings : Json) : Json := (settings.get? "xrepo").getD settings

def setWorkspaceSettings (s : Session) (settings : Json) : Session :=
  { s with workspace := .ofJson (ownSection settings) }

/-- The configuration with a project's layer below those of the client. -/
def configOver (s : Session) (project : ConfigLayer) : Config :=
  ((s.base.merge project).merge s.initialization).merge s.workspace

/-- The effective configuration without any project. -/
def config (s : Session) : Config := s.configOver .empty

def addFolders (s : Session) (added : List Folder) : Session :=
  { s with folders := Folder.addNew s.folders added }

def removeFolders (s : Session) (removed : List Folder) : Session :=
  { s with folders := s.folders.filter fun f => !removed.any fun r => r.uri.same f.uri }

end Session

/-- A session with what it works on: the registry that sessions share, and the machine. -/
structure Workspace (σ : Type) where
  session : Session
  vendor : Registry
  world : σ

namespace Workspace

variable {σ : Type}

/-- The effective configuration for a directory. -/
def configFor [ProjectSettings σ] (w : Workspace σ) (dir : Path) : Config :=
  w.session.configOver (ProjectSettings.layer w.world dir)

/-- The effective configuration for a folder; one that is not local has no project. -/
def folderConfig [ProjectSettings σ] (w : Workspace σ) (folder : Folder) : Config :=
  match folder.uri.toFilePath? with
  | some dir => w.configFor dir
  | none => w.session.config

/-- Brings one folder under module management: the folder with its module folders. -/
def manageFolder [FileSystem σ] [Toolchain σ] [ProjectSettings σ] (w : Workspace σ) (options : Option Json)
    (folder : Folder) : List Folder × Workspace σ :=
  let config := w.folderConfig folder
  let manager := Manager.new ⟨config.installsFor options, config⟩
  let (group, manager, vendor, world) := manager.manage [folder] w.vendor w.world
  (group, ⟨{ w.session with cleanup := w.session.cleanup ++ manager.cleanup }, vendor, world⟩)

/-- Manages the folders in order; `found` are the folders of those before. -/
def manageAll [FileSystem σ] [Toolchain σ] [ProjectSettings σ] (w : Workspace σ) (options : Option Json) :
    (folders found : List Folder) → List Folder × Workspace σ
  | [], found => (found, w)
  | f :: fs, found =>
    let (group, w) := w.manageFolder options f
    manageAll w options fs (Folder.addNew found group)

/-- Brings the folders under module management and tracks the result. A closed session changes
    nothing. -/
def manageDeps [FileSystem σ] [Toolchain σ] [ProjectSettings σ] (w : Workspace σ) (folders : List Folder)
    (options : Option Json) : List Folder × Workspace σ :=
  if w.session.closed then (folders, w)
  else
    let (found, w) := w.manageAll options folders []
    (found, { w with session := w.session.addFolders found })

/-- Removes the module files that the session wrote and closes it. -/
def clean [FileSystem σ] (w : Workspace σ) : Workspace σ :=
  { w with
    session := { w.session with closed := true, cleanup := [] }
    world := cleanupFolders w.session.cleanup w.world }

/-- A change to the session alone. -/
def onSession (w : Workspace σ) (f : Session → Session) : Workspace σ := { w with session := f w.session }

end Workspace

/-- A workbench keeps no settings of projects. -/
instance {φ : Type} : ProjectSettings (Workbench φ) where
  layer _ _ := .empty

end GoAtlas
