/-
  GoAtlas.Config — settings.

  A configuration is complete; a layer sets some of its fields. Layers come from a file or from a
  client and are merged in order, the later one winning field by field. A client's value that is no
  object, or has a field that does not fit, is an empty layer as a whole.
-/
import GoAtlas.Json.Record
import GoAtlas.Path

namespace GoAtlas

structure Config where
  /-- Create modules and download dependencies with the go command. -/
  installGoDependency : Bool
  goProxy : String
  /-- Ask hosts without a convention for their announcement. -/
  remoteRepoLookup : Bool
  goBinary : Option Path
  deriving DecidableEq, Repr

structure ConfigLayer where
  installGoDependency : Option Bool
  goProxy : Option String
  remoteRepoLookup : Option Bool
  goBinary : Option Path
  deriving DecidableEq, Repr

def pathOfJson? (j : Json) : Option Path := j.str?.map Path.ofText

/-- Settings come from files and clients, so their paths are texts. -/
def pathToJson (p : Path) : Json := .str p.shown

namespace Config

def installOption : String := "installGoDependency"

def default : Config := ⟨false, "https://proxy.golang.org", true, none⟩

def toJson (c : Config) : Json :=
  .obj
    [ (installOption, .bool c.installGoDependency),
      ("goProxy", .str c.goProxy),
      ("remoteRepoLookup", .bool c.remoteRepoLookup),
      ("goBinary", .ofOption (c.goBinary.map pathToJson)) ]

def ofJson? (j : Json) : Option Config := do
  match ← j.record? [[installOption], ["goProxy"], ["remoteRepoLookup"], ["goBinary"]] with
  | [install, proxy, remote, binary] =>
    return ⟨← install.defaulted Json.bool? default.installGoDependency, ← proxy.defaulted Json.str? default.goProxy,
      ← remote.defaulted Json.bool? default.remoteRepoLookup, ← binary.optionalAtEnd pathOfJson?⟩
  | _ => none

/-- The configuration with the layer's fields in place of its own. -/
def merge (c : Config) (l : ConfigLayer) : Config :=
  { installGoDependency := l.installGoDependency.getD c.installGoDependency
    goProxy := l.goProxy.getD c.goProxy
    remoteRepoLookup := l.remoteRepoLookup.getD c.remoteRepoLookup
    goBinary := l.goBinary.or c.goBinary }

/-- A request's options may switch installation on, never off. -/
def installsFor (c : Config) (options : Option Json) : Bool :=
  c.installGoDependency || (options.bind fun o => (o.get? installOption).bind Json.bool?).getD false

end Config

namespace ConfigLayer

def empty : ConfigLayer := ⟨none, none, none, none⟩

def toJson (l : ConfigLayer) : Json :=
  .obj
    [ (Config.installOption, .ofOption (l.installGoDependency.map Json.bool)),
      ("goProxy", .ofOption (l.goProxy.map Json.str)),
      ("remoteRepoLookup", .ofOption (l.remoteRepoLookup.map Json.bool)),
      ("goBinary", .ofOption (l.goBinary.map pathToJson)) ]

/-- The layer that an object writes, each field under either of its two names. -/
def ofObject? (j : Json) : Option ConfigLayer := do
  match ← j.objectRecord?
      [ [Config.installOption, "install_go_dependency"], ["goProxy", "go_proxy"],
        ["remoteRepoLookup", "remote_repo_lookup"], ["goBinary", "go_binary"] ] with
  | [install, proxy, remote, binary] =>
    return ⟨← install.optional Json.bool?, ← proxy.optional Json.str?, ← remote.optional Json.bool?,
      ← binary.optional pathOfJson?⟩
  | _ => none

/-- A client's layer: what does not fit sets nothing. -/
def ofJson (j : Json) : ConfigLayer := (ofObject? j).getD empty

end ConfigLayer

end GoAtlas
