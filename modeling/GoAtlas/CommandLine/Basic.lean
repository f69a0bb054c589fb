/-
  GoAtlas.CommandLine.Basic — the commands of the program.

  `Request.parse` reads a command line; what it refuses is misuse. `run` carries out a request on a
  machine: the folders of a scan are listed on standard output and its progress is reported on standard
  error, where also every failure goes.
-/
import GoAtlas.CommandLine.Usage
import GoAtlas.Machine.Go
import GoAtlas.Machine.Settings
import GoAtlas.Repository.Root
import GoAtlas.Version

namespace GoAtlas.CommandLine

def programName : String := "xrepo"

def programVersion : String := "0.1.0"

def programAbout : String := "Cross-repository code intelligence extensions for the Go language server"

/-! ## Usages -/

def verboseSwitch : Switch := ⟨"verbose", some 'v', none, none, "Enable verbose output"⟩

def scanUsage : Usage :=
  { name := programName ++ " scan"
    about := "Find and create module roots in workspace folders"
    switches :=
      [ ⟨"install-deps", none, none, some "XREPO_INSTALL_DEPS",
          "Run `go mod init` and `go mod download` instead of writing module files"⟩,
        verboseSwitch,
        ⟨"keep", none, none, none, "Leave synthesized module files in place"⟩ ]
    operand := some ⟨"FOLDERS", true, true, false, "Workspace folders to scan"⟩ }

def versionUsage : Usage :=
  { name := programName ++ " version"
    about := "Print the version encoded in a module cache path"
    switches :=
      [ ⟨"mod-cache", none, some "MOD_CACHE", some "GOMODCACHE",
          "Module cache directory (defaults to GOMODCACHE or $GOPATH/pkg/mod)"⟩,
        verboseSwitch ]
    operand := some ⟨"FILE", false, true, false, "Source file inside the module cache"⟩ }

def repoRootUsage : Usage :=
  { name := programName ++ " repo-root"
    about := "Print the repository URL hosting an import path"
    switches := [⟨"offline", none, none, none, "Only use the built-in host rules"⟩, verboseSwitch]
    operand := some ⟨"IMPORT_PATH", false, true, true, "Import path, e.g. github.com/pkg/errors"⟩ }

def envUsage : Usage :=
  { name := programName ++ " env"
    about := "Show the Go environment in use"
    switches := [verboseSwitch]
    operand := none }

def commandRows : List (String × String) :=
  [ (bold "scan", scanUsage.about), (bold "version", versionUsage.about), (bold "repo-root", repoRootUsage.about),
    (bold "env", envUsage.about), (bold "help", "Print this message or the help of the given subcommand(s)") ]

def versionRow : String × String := (bold "-V" ++ ", " ++ bold "--version", "Print version")

def programHelp (vars : String → Option String) : String :=
  shown vars (synopsis programAbout programName " [OPTIONS] <COMMAND>" ++ titled "Commands" commandRows ++
    titled "Options" [(verboseSwitch.sign, verboseSwitch.about), helpRow, versionRow])

def helpHelp (vars : String → Option String) : String :=
  shown vars (synopsis "Print this message or the help of the given subcommand(s)" (programName ++ " help") " [COMMAND]..." ++
    titled "Arguments" [("[COMMAND]...", "Print help for the subcommand(s)")])

/-! ## Requests -/

inductive Request where
  /-- A text to print: help, or the program's version. -/
  | tell (text : String)
  | scan (folders : List Path) (install keep : Bool)
  | version (file : Path) (modCache : Option Path)
  | repoRoot (importPath : String) (offline : Bool)
  | env

abbrev Variables := String → Option String

/-- The request of a command whose arguments are read by its usage; none is misuse. -/
def ofUsage (u : Usage) (vars : Variables) (args : List String) (request : Given → Option Request) :
    Option Request :=
  match u.parse args with
  | .ok g => request g
  | .error .help => some (.tell (u.help vars))
  | .error .misuse => none

/-- A switch that may be set by a variable, which has to be `true` or `false`. -/
def switchOr? (g : Given) (vars : Variables) (long name : String) : Option Bool :=
  if g.has long then some true
  else
    match vars name with
    | none => some false
    | some "true" => some true
    | some "false" => some false
    | some _ => none

/-- A path that may be set by a variable, which must not be empty. -/
def pathOr? (g : Given) (vars : Variables) (long name : String) : Option (Option Path) :=
  match (g.value? long).or (vars name) with
  | none => some none
  | some "" => none
  | some p => some (some ⟨p⟩)

def commandRequest (vars : Variables) (name : String) (args : List String) : Option Request :=
  match name with
  | "scan" =>
    ofUsage scanUsage vars args fun g =>
      (switchOr? g vars "install-deps" "XREPO_INSTALL_DEPS").map fun install =>
        .scan (g.operands.map Path.ofText) install (g.has "keep")
  | "version" =>
    ofUsage versionUsage vars args fun g =>
      (pathOr? g vars "mod-cache" "GOMODCACHE").map fun cache => .version ⟨g.operands.headD ""⟩ cache
  | "repo-root" => ofUsage repoRootUsage vars args fun g => some (.repoRoot (g.operands.headD "") (g.has "offline"))
  | "env" => ofUsage envUsage vars args fun _ => some .env
  | _ => none

/-- The request for help on a command. -/
def helpRequest (vars : Variables) : List String → Option Request
  | [] => some (.tell (programHelp vars))
  | ["scan"] => some (.tell (scanUsage.help vars))
  | ["version"] => some (.tell (versionUsage.help vars))
  | ["repo-root"] => some (.tell (repoRootUsage.help vars))
  | ["env"] => some (.tell (envUsage.help vars))
  | ["help"] => some (.tell (helpHelp vars))
  | _ => none

/-- The one-letter switches before the command: an answer, or whether the output is verbose. -/
def leadingShorts (vars : Variables) : (verbose : Bool) → List Char → Except (Option Request) Bool
  | verbose, [] => .ok verbose
  | verbose, c :: cs =>
    if c = 'v' then if verbose then .error none else leadingShorts vars true cs
    else if c = 'h' then .error (some (.tell (programHelp vars)))
    else if c = 'V' then .error (some (.tell (programName ++ " " ++ programVersion ++ "\n")))
    else .error none

/-- The request that a command line makes; none is misuse. -/
def Request.parseFrom (vars : Variables) : (verbose : Bool) → List String → Option Request
  | _, [] => none
  | verbose, arg :: args =>
    if arg = "help" then helpRequest vars args
    else if arg = "--verbose" then if verbose then none else parseFrom vars true args
    else if arg = "--help" then some (.tell (programHelp vars))
    else if arg = "--version" then some (.tell (programName ++ " " ++ programVersion ++ "\n"))
    else
      match arg.toList with
      | '-' :: '-' :: _ => none
      | '-' :: c :: cs =>
        match leadingShorts vars verbose (c :: cs) with
        | .ok verbose => parseFrom vars verbose args
        | .error r => r
      | _ => commandRequest vars arg args

def Request.parse (vars : Variables) (args : List String) : Option Request :=
  Request.parseFrom vars false args

/-! ## Running -/

structure Outcome where
  code : Nat
  stdout : String
  stderr : String
  deriving DecidableEq, Repr

namespace Outcome

def ok (stdout : String) : Outcome := ⟨0, stdout, ""⟩

def failure (message : String) : Outcome := ⟨1, "", "error: " ++ message ++ "\n"⟩

def misuse : Outcome := ⟨2, "", "error: invalid command line\n"⟩

end Outcome

/-- The workspace folder of a path that has to name a directory. -/
def folderAt (m : Machine) (p : Path) : Except String Folder :=
  match m.canonical p with
  | .error e => .error (chainText ["failed to access " ++ p.shown, e.message])
  | .ok dir =>
    if !m.isDirectory dir then .error ("not a directory: " ++ dir.shown)
    else
      match Folder.ofDir? dir with
      | some folder => .ok folder
      | none => .error ("cannot express " ++ dir.shown ++ " as a workspace folder")

def lines (ls : List String) : String := String.join (ls.map (· ++ "\n"))

/-- A managed folder as it is listed; folders in other places than this machine are left out. -/
def folderLine? (vendor : Module.Registry) (folder : Folder) : Option String :=
  folder.uri.toFilePath?.map fun dir => if vendor.contains dir then dir.shown ++ " (vendor)" else dir.shown

def runScan (paths : List Path) (install keep : Bool) (m : Machine) : Outcome × Machine :=
  let config := Config.load m (some (Config.settingsFile m.home)) (Config.settingsFile (Place.path m.cwd))
  let config := { config with installGoDependency := config.installGoDependency || install }
  match paths.mapM (folderAt m) with
  | .error e => (.failure e, m)
  | .ok folders =>
    let start : Workspace Machine := ⟨.new config, .empty, m⟩
    let (managed, w) := start.manageDeps folders none
    let written := w.session.cleanup
    let scanning := folders.map fun f => "    Scanning " ++ f.uri.path
    let listed := lines (managed.filterMap (folderLine? w.vendor))
    if keep then
      let kept := written.map fun dir => "        Kept " ++ (dir.join "go.mod").shown
      (⟨0, listed, lines (scanning ++ kept)⟩, w.world)
    else
      let removed :=
        if written.isEmpty then [] else ["     Removed " ++ toString written.length ++ " synthesized module files"]
      (⟨0, listed, lines (scanning ++ removed)⟩, w.clean.world)

def runVersion (file : Path) (modCache : Option Path) (m : Machine) : Outcome :=
  let cache := modCache.getD (GoEnv.ofMachine m).modCache
  match Version.resolve? cache file with
  | some v => .ok (v ++ "\n")
  | none => .failure ("no version found for " ++ file.shown ++ " under " ++ cache.shown)

def runRepoRoot (importPath : String) (offline : Bool) : Outcome :=
  match Repository.root (.offline (!offline)) importPath with
  | .ok r => .ok (r ++ "\n")
  | .error e => .failure (chainText e.chain)

/-- The environment of the go command, if it tells one, else that of the variables. -/
def goEnvironment (m : Machine) : Option Path × GoEnv × Machine :=
  match m.findGo with
  | none => (none, .ofMachine m, m)
  | some go =>
    match GoEnv.detect go m with
    | (.ok env, m) => (some go, env, m)
    | (.error _, m) => (some go, .ofMachine m, m)

def runEnv (m : Machine) : Outcome × Machine :=
  let (go, env, m) := goEnvironment m
  let shown (p : Option Path) (otherwise : String) : String := (p.map Path.shown).getD otherwise
  (.ok (lines
    [ "Go environment:", "", "  go:         " ++ shown go "not found", "  GOPATH:     " ++ env.gopath.shown,
      "  GOROOT:     " ++ shown env.goroot "not set", "  GOMODCACHE: " ++ env.modCache.shown ]), m)

def Request.run (r : Request) (m : Machine) : Outcome × Machine :=
  match r with
  | .tell text => (.ok text, m)
  | .scan folders install keep => runScan folders install keep m
  | .version file modCache => (runVersion file modCache m, m)
  | .repoRoot importPath offline => (runRepoRoot importPath offline, m)
  | .env => runEnv m

/-- Reads the arguments and carries out what they ask for. -/
def run (args : List String) (m : Machine) : Outcome × Machine :=
  match Request.parse m.var? args with
  | some r => r.run m
  | none => (.misuse, m)

end GoAtlas.CommandLine
