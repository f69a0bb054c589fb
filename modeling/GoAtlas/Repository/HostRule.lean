/-
  GoAtlas.Repository.HostRule — repositories by host convention.

  An import path is cut at its slashes. A known host is recognised by its first segments and says how
  many of the further ones belong to the repository, given that all of them are well formed; a path
  of a known host that breaks the host's rule belongs to no repository. On any other host the last
  segment with a version control extension ends the repository.
-/
import GoAtlas.Text.Letter
import GoAtlas.Text.Split

namespace GoAtlas.Repository

abbrev Segment := List Char

def isMark (c : Char) : Bool := c == '_' || c == '.' || c == '-'

/-- Letters, digits, `_`, `.` and `-`, at least one. -/
def isPlain (s : Segment) : Bool := !s.isEmpty && s.all fun c => Text.isAlnum c || isMark c

/-- As `isPlain`, with the letters of all scripts. -/
def isPlainScript (s : Segment) : Bool :=
  !s.isEmpty && s.all fun c => Text.isScriptLetter c || Text.isDigit c || isMark c

/-- As `isPlain`, after a `~` if there is one. -/
def isPersonal : Segment → Bool
  | '~' :: s => isPlain s
  | s => isPlain s

structure HostRule where
  /-- The segments that make the host known. -/
  lead : List Segment
  /-- How many of the segments after `lead` belong to the repository. -/
  depth? : List Segment → Option Nat

def ownerAndRepo (isSub : Segment → Bool) : List Segment → Option Nat
  | owner :: repo :: subs => if isPlain owner && isPlain repo && subs.all isSub then some 2 else none
  | _ => none

def projectOrBranch : List Segment → Option Nat
  | ('~' :: user) :: series :: branch :: subs =>
    if isPlain user && (series == "+junk".toList || isPlain series) && isPlain branch && subs.all isPlain then
      some 3
    else none
  | [project] => if isPlain project then some 1 else none
  | project :: series :: subs =>
    if isPlain project && isPlain series && subs.all isPlain then some 2 else none
  | [] => none

def isLowerAlnum (c : Char) : Bool := Text.isLower c || Text.isDigit c

def lowerOwnerAndRepo : List Segment → Option Nat
  | owner :: repo :: subs =>
    if !owner.isEmpty && owner.all isLowerAlnum && isPlain repo && subs.all isPlain then some 2 else none
  | _ => none

def gitRepo : List Segment → Option Nat
  | repo :: subs =>
    match Text.before? ".git".toList repo with
    | some name =>
      if !name.isEmpty && name.all (fun c => isLowerAlnum c || isMark c) && subs.all isPlain then some 1
      else none
    | none => none
  | [] => none

def knownHosts : List HostRule :=
  [ ⟨["github.com".toList], ownerAndRepo isPlainScript⟩,
    ⟨["bitbucket.org".toList], ownerAndRepo isPlain⟩,
    ⟨["launchpad.net".toList], projectOrBranch⟩,
    ⟨["hub.jazz.net".toList, "git".toList], lowerOwnerAndRepo⟩,
    ⟨["git.apache.org".toList], gitRepo⟩ ]

/-! ## Other hosts -/

def isHostChar (c : Char) : Bool := isLowerAlnum c || c == '.' || c == '-'

/-- Host characters with a dot between two of them. -/
def isDotted (s : List Char) : Bool := s.all isHostChar && (s.drop 1).dropLast.contains '.'

def isDottedHost (s : Segment) : Bool :=
  let name := Text.upTo ':' s
  let port := s.drop name.length
  isDotted name && (port.isEmpty || (1 < port.length && (port.drop 1).all Text.isDigit))

def extensions : List (List Char) :=
  [".bzr".toList, ".fossil".toList, ".git".toList, ".hg".toList, ".svn".toList]

/-- A segment with a name before its version control extension. -/
def hasExtension (s : Segment) : Bool :=
  extensions.any fun e => (Text.before? e s).any isPersonal

/-- The number of segments up to the last with an extension. -/
def extensionDepth? : List Segment → Option Nat
  | [] => none
  | s :: ss =>
    match extensionDepth? ss with
    | some n => some (n + 1)
    | none => if hasExtension s then some 1 else none

def anyHostDepth? : List Segment → Option Nat
  | host :: subs =>
    if isDottedHost host && subs.all isPersonal then (extensionDepth? subs).map (· + 1) else none
  | [] => none

/-! ## Roots -/

/-- The first rule that knows the host; there is something after its lead. -/
def ruleFor? (segments : List Segment) : Option HostRule :=
  knownHosts.find? fun r => r.lead.isPrefixOf segments && decide (r.lead.length < segments.length)

/-- How many of the segments name the repository. -/
def rootDepth? (segments : List Segment) : Option Nat :=
  match ruleFor? segments with
  | some r => (r.depth? (segments.drop r.lead.length)).map (r.lead.length + ·)
  | none => anyHostDepth? segments

/-- The address of the repository that hosts an import path, by convention alone. -/
def staticRoot? (importPath : String) : Option String :=
  let segments := Text.fields '/' importPath.toList
  (rootDepth? segments).map fun n =>
    "https://" ++ String.ofList (Text.joinFields ['/'] (segments.take n))

end GoAtlas.Repository
