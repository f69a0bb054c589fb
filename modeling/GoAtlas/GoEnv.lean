/-
  GoAtlas.GoEnv — where the Go installation and its module cache are.

  The variables decide: the first non-empty entry of GOPATH, else `go` in the home directory; GOROOT
  and GOMODCACHE if they are not empty. The cache is `pkg/mod` below GOPATH unless it is named.
-/
import GoAtlas.Path
import GoAtlas.Text.Blank

namespace GoAtlas

structure GoEnv where
  gopath : Path
  /-- The root of the standard library, if known. -/
  goroot : Option Path
  modCache : Path
  deriving DecidableEq, Repr

namespace GoEnv

def ofPaths (gopath : Path) (goroot : Option Path) : GoEnv :=
  ⟨gopath, goroot, (gopath.join "pkg").join "mod"⟩

def isStdlib (env : GoEnv) (file : Path) : Bool := env.goroot.any fun root => file.isInside root

/-- The first non-empty entry of a list of paths. -/
def firstPath? (list : String) : Option Path :=
  ((Text.split ':' list).find? (· != "")).map Path.ofText

/-- An empty path counts as not given. -/
def nonEmpty? (s : String) : Option Path := if s = "" then none else some ⟨s⟩

/-- The environment that the three values give; `home` is the directory that holds the default. -/
def ofValues (home : Path) (gopath goroot modCache : String) : GoEnv :=
  let env := ofPaths ((firstPath? gopath).getD (home.join "go")) (nonEmpty? goroot)
  match nonEmpty? modCache with
  | some cache => { env with modCache := cache }
  | none => env

/-- The three values on the first lines of a listing, blanks around them dropped. -/
def ofListing? (home : Path) (listing : String) : Option GoEnv :=
  match (Text.lines listing).map Text.trim with
  | gopath :: goroot :: modCache :: _ => some (ofValues home gopath goroot modCache)
  | _ => none

end GoEnv

end GoAtlas
