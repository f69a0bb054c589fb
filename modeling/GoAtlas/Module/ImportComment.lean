/-
  GoAtlas.Module.ImportComment — import paths declared in sources.

  A source may say where it is imported from, on a line `package name // import "path"`. The first
  line of that form counts; the quoted path may go over line ends and is read with its escapes, and if
  it cannot be read the source declares nothing.
-/
import GoAtlas.Json.Reader

namespace GoAtlas.Module

def isTabOrSpace (c : Char) : Bool := c == ' ' || c == '\t'

/-- What follows one or more tabs and spaces. -/
def afterGap? : List Char → Option (List Char)
  | c :: cs => if isTabOrSpace c then some (cs.dropWhile isTabOrSpace) else none
  | [] => none

def isPackageNameChar (c : Char) : Bool := !isTabOrSpace c && c != '\r' && c != '\n' && c != '/'

def afterPackageName? (cs : List Char) : Option (List Char) :=
  if (cs.takeWhile isPackageNameChar).isEmpty then none else some (cs.dropWhile isPackageNameChar)

/-- Tabs and spaces, then a line end. -/
def endsLine (cs : List Char) : Bool :=
  match cs.dropWhile isTabOrSpace with
  | '\n' :: _ => true
  | '\r' :: '\n' :: _ => true
  | _ => false

/-- What stands between the quotes of the import comment that the text begins with. -/
def commentAt? (cs : List Char) : Option (List Char) := do
  let cs ← Text.after? "package".toList cs
  let cs ← afterGap? cs
  let cs ← afterPackageName? cs
  let cs ← afterGap? cs
  let cs ← Text.after? "//".toList cs
  let cs ← afterGap? cs
  let cs ← Text.after? "import".toList cs
  let cs ← afterGap? cs
  let cs ← Text.after? ['"'] cs
  let path := cs.takeWhile (· != '"')
  let rest ← Text.after? ['"'] (cs.dropWhile (· != '"'))
  if !path.isEmpty && endsLine rest then some path else none

/-- The first comment at the start of a line; `atStart` tells whether a line starts here. -/
def firstComment? : (atStart : Bool) → List Char → Option (List Char)
  | _, [] => none
  | atStart, c :: cs =>
    match if atStart then commentAt? (c :: cs) else none with
    | some path => some path
    | none => firstComment? (c == '\n') cs

/-- The import path that a source declares. -/
def importComment? (source : String) : Option String :=
  (firstComment? true source.toList).bind fun quoted => (Json.unquote? quoted).map String.ofList

end GoAtlas.Module
