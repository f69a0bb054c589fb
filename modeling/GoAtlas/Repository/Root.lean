/-
  GoAtlas.Repository.Root — the repository of an import path.

  A path has to begin with a host, that is a first segment with a dot. Host conventions come first;
  without one the host is asked for its announcement, if remote lookup is on.
-/
import GoAtlas.Repository.GoImport
import GoAtlas.Repository.HostRule
import GoAtlas.Url.Parser

namespace GoAtlas.Repository

inductive RootError where
  | noHost (importPath : String)
  | noRule (importPath : String)
  | badAddress (importPath : String) (cause : Url.ParseError)
  | unreachable (page : Url)
  | noTag (importPath : String)
  | manyTags (importPath : String)

def RootError.message : RootError → String
  | .noHost p => "import path `" ++ p ++ "` does not begin with hostname"
  | .noRule p => "no static repository rule for `" ++ p ++ "`"
  | .badAddress p _ => "invalid import path `" ++ p ++ "`"
  | .unreachable page => "failed to fetch " ++ page.text
  | .noTag p => "no go-import meta tag for `" ++ p ++ "`"
  | .manyTags p => "multiple go-import meta tags match `" ++ p ++ "`"

/-- The error's text, then that of its cause where it has one. -/
def RootError.chain (e : RootError) : List String :=
  match e with
  | .badAddress _ cause => [e.message, cause.message]
  | _ => [e.message]

def TagError.at (importPath : String) : TagError → RootError
  | .none => .noTag importPath
  | .many => .manyTags importPath

/-- How repositories are looked up: `fetch` answers with a page, or none if there is no answer. -/
structure Lookup where
  remote : Bool
  fetch : Url → Option String

/-- Lookup without any network: hosts may be asked but never answer. -/
def Lookup.offline (remote : Bool) : Lookup := ⟨remote, fun _ => none⟩

/-- The page that announces the repositories of an import path. -/
def announcementPage (importPath : String) : Except Url.ParseError Url :=
  (Url.parse ("https://" ++ importPath)).map (·.addQuery "go-get=1")

def pageRoot (importPath page : String) : Except RootError String :=
  match announced importPath page with
  | .ok repo => .ok repo
  | .error e => .error (e.at importPath)

def remoteRoot (lookup : Lookup) (importPath : String) : Except RootError String :=
  match announcementPage importPath with
  | .error e => .error (.badAddress importPath e)
  | .ok address =>
    match lookup.fetch address with
    | none => .error (.unreachable address)
    | some page => pageRoot importPath page

def root (lookup : Lookup) (importPath : String) : Except RootError String :=
  if !(Text.upTo '/' importPath.toList).contains '.' then .error (.noHost importPath)
  else
    match staticRoot? importPath with
    | some r => .ok r
    | none => if lookup.remote then remoteRoot lookup importPath else .error (.noRule importPath)

end GoAtlas.Repository
