/-
  GoAtlas.Version — versions of modules.

  A version is a `v` and a semantic version of three numbers with optional pre-release and build
  parts, or a `v` and one or two numbers. The module cache names a module's directory
  `<module>@<version>`, so the version of a file in it is read off the path: `inPath?` trusts it only
  if exactly one run after an `@` is a version. `normalize` reduces a pseudo-version
  `base-time-hash` to its hash.
-/
import GoAtlas.Path

namespace GoAtlas.Version

/-- What stands before the first `c`, and what after it if there is one. -/
def cutAt (c : Char) : List Char → List Char × Option (List Char)
  | [] => ([], none)
  | d :: ds => if d = c then ([], some ds) else (d :: (cutAt c ds).1, (cutAt c ds).2)

/-- Zero, or digits that do not begin with one. -/
def isNumber (cs : List Char) : Bool :=
  !cs.isEmpty && cs.all Text.isDigit && (cs == ['0'] || cs.head? != some '0')

/-- A number that 64 bits hold. -/
def isNumber64 (cs : List Char) : Bool := isNumber cs && Text.decimal cs ≤ 18446744073709551615

def isIdentifierChar (c : Char) : Bool := Text.isAlnum c || c == '-'

def isIdentifier (cs : List Char) : Bool := !cs.isEmpty && cs.all isIdentifierChar

/-- An identifier of a pre-release: one of digits only is a number. -/
def isPreIdentifier (cs : List Char) : Bool :=
  isIdentifier cs && (!cs.all Text.isDigit || isNumber cs)

def isPreRelease (cs : List Char) : Bool := (Text.fields '.' cs).all isPreIdentifier

def isBuild (cs : List Char) : Bool := (Text.fields '.' cs).all isIdentifier

/-- Three numbers, then a pre-release after `-` and a build after `+`, each if given. -/
def isSemantic (cs : List Char) : Bool :=
  let release := cutAt '+' cs
  let core := cutAt '-' release.1
  match Text.fields '.' core.1 with
  | [a, b, c] =>
    isNumber64 a && isNumber64 b && isNumber64 c && core.2.all isPreRelease && release.2.all isBuild
  | _ => false

/-- One number or two. -/
def isShort (cs : List Char) : Bool :=
  match Text.fields '.' cs with
  | [a] => isNumber a
  | [a, b] => isNumber a && isNumber b
  | _ => false

def isValidChars : List Char → Bool
  | 'v' :: cs => isSemantic cs || isShort cs
  | _ => false

def isValid (s : String) : Bool := isValidChars s.toList

/-- The runs after each `@`, up to the next `@` or slash. -/
def candidates (cs : List Char) : List (List Char) :=
  ((Text.fields '@' cs).drop 1).map (Text.upTo '/')

/-- The version that the path of a file in the module cache shows. -/
def inPath? (cache file : Path) : Option String :=
  let rest := (file.relativeTo? cache).getD file
  match (candidates rest.shown.toList).filter isValidChars with
  | [v] => some (String.ofList v)
  | _ => none

def incompatible : List Char := "+incompatible".toList

def normalizeChars (cs : List Char) : List Char :=
  if cs.count '-' ≠ 2 then cs
  else
    let trimmed := (Text.before? incompatible cs).getD cs
    (Text.afterLast? '-' trimmed).getD trimmed

def normalize (raw : String) : String := String.ofList (normalizeChars raw.toList)

/-- The version of the module that holds the file, as locators show it. -/
def resolve? (cache file : Path) : Option String := (inPath? cache file).map normalize

end GoAtlas.Version
