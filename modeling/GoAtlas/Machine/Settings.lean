/-
  GoAtlas.Machine.Settings — settings files of a machine.

  A layer is a TOML document. There is one for the account, in its home directory, and one for each
  project, in its folder. A file that is missing or does not fit sets nothing.
-/
import GoAtlas.Config
import GoAtlas.Machine.Basic
import GoAtlas.Session
import GoAtlas.Toml.Reader

namespace GoAtlas

/-- Why a settings file gives no layer. -/
inductive SettingsError where
  | unreadable (file : Path) (cause : Machine.TextError)
  | malformed (file : Path)
  deriving DecidableEq, Repr

def SettingsError.message : SettingsError → String
  | .unreadable file _ => "failed to read config file: " ++ file.shown
  | .malformed file => "failed to parse config file: " ++ file.shown

namespace ConfigLayer

def ofToml? (text : String) : Option ConfigLayer := (Toml.ofText? text).bind ofObject?

def load (m : Machine) (file : Path) : Except SettingsError ConfigLayer :=
  match m.readText file with
  | .error e => .error (.unreadable file e)
  | .ok text =>
    match ofToml? text with
    | some layer => .ok layer
    | none => .error (.malformed file)

def loadOrEmpty (m : Machine) (file : Path) : ConfigLayer :=
  match load m file with
  | .ok layer => layer
  | .error _ => empty

end ConfigLayer

namespace Config

/-- The directory of settings in a home directory or a project. -/
def settingsDir (dir : Path) : Path := dir.join ".xrepo"

def settingsFile (dir : Path) : Path := (settingsDir dir).join "config.toml"

/-- The defaults with the account's layer, if it has a file, and a project's layer over them. -/
def load (m : Machine) (account : Option Path) (project : Path) : Config :=
  let base := account.elim default fun file => default.merge (.loadOrEmpty m file)
  base.merge (.loadOrEmpty m project)

end Config

instance : ProjectSettings Machine where
  layer m folder := .loadOrEmpty m (Config.settingsFile folder)

end GoAtlas
