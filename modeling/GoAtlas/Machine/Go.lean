/-
  GoAtlas.Machine.Go — the go command of a machine.

  It is the binary that the configuration names, else the one below GOROOT, else the first one on the
  search path, else whatever `go` turns out to be. Its environment is asked of it, or read from the
  variables.
-/
import GoAtlas.GoEnv
import GoAtlas.Machine.Process

namespace GoAtlas

namespace Machine

/-- A directory of the search path; one that begins with `~` lies in the home directory, if a variable
    names that. -/
def searchDir (m : Machine) (dir : String) : Path :=
  match (Path.ofText dir).segments, m.var? "HOME" with
  | first :: rest, some home => if first ≠ "~" || home = "" then ⟨dir⟩ else rest.foldl Path.join ⟨home⟩
  | _, _ => ⟨dir⟩

/-- An absolute path for one that is seen from the working directory. -/
def absolute (m : Machine) (p : Path) : Path :=
  if p.isAbsolute then p else (p.segments.dropWhile (· == [Octets.dot])).foldl Path.join (Place.path m.cwd)

/-- The absolute path of the program of that name: by its path if it has more than one segment, else
    on the search path. -/
def findExecutable (m : Machine) (name : String) : Option Path :=
  if 1 < (Path.ofText name).segments.length then some (m.absolute ⟨name⟩) |>.filter m.isExecutable
  else
    (m.var? "PATH").bind fun dirs =>
      ((Text.split ':' dirs).map fun dir => m.absolute ((m.searchDir dir).join name)).find? m.isExecutable

def findGo (m : Machine) : Option Path :=
  let candidate := (m.var? "GOROOT").map fun root => (Path.join ⟨root⟩ "bin").join "go"
  (candidate.filter m.isRegular).or (m.findExecutable "go")

def goBinary (m : Machine) (c : Config) : Path := (c.goBinary.or m.findGo).getD ⟨"go"⟩

end Machine

/-- Why the go command did not tell its environment. -/
inductive DetectError where
  | process (e : ProcessError)
  | unexpected (listing : String)
  deriving DecidableEq, Repr

def DetectError.chain : DetectError → List String
  | .process e => e.chain
  | .unexpected listing => ["unexpected output from `go env`: " ++ Text.trim listing]

namespace GoEnv

def ofMachine (m : Machine) : GoEnv :=
  let value (name : String) : String := (m.var? name).getD ""
  ofValues m.home (value "GOPATH") (value "GOROOT") (value "GOMODCACHE")

/-- The environment that the go command tells. -/
def detect (go : Path) (m : Machine) : Except DetectError GoEnv × Machine :=
  match Command.check { program := go, args := ["env", "GOPATH", "GOROOT", "GOMODCACHE"] } m with
  | (.error e, m) => (.error (.process e), m)
  | (.ok o, m) =>
    let listing := Text.lossy o.stdout
    match ofListing? m.home listing with
    | some env => (.ok env, m)
    | none => (.error (.unexpected listing), m)

end GoEnv

namespace Machine

/-- Runs the go command in a folder for one step of module management. -/
def goStep (action : String) (c : Command) (folder : Path) (m : Machine) : Except GoError Unit × Machine :=
  match Command.check { c with cwd := some folder } m with
  | (.ok _, m) => (.ok (), m)
  | (.error e, m) => (.error (.step action folder e), m)

def modInit (go folder : Path) (modulePath : String) (m : Machine) : Except GoError Unit × Machine :=
  goStep "mod init" { program := go, args := ["mod", "init", modulePath] } folder m

def modDownload (go : Path) (proxy : String) (folder : Path) (m : Machine) : Except GoError Unit × Machine :=
  goStep "mod download" { program := go, args := ["mod", "download"], vars := [("GOPROXY", proxy)] } folder m

instance : Toolchain Machine where
  modInit c folder modulePath m := modInit (m.goBinary c) folder modulePath m
  modDownload c folder m := modDownload (m.goBinary c) c.goProxy folder m

end Machine

end GoAtlas
