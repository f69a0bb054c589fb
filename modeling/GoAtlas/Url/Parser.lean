/-
  GoAtlas.Url.Parser — reading addresses.

  Blanks and controls around the text and all tabs and line ends are dropped. A scheme with host rules
  (the web schemes and `file`) takes a backslash for a slash, needs a host (but not for `file`) and has
  a path; in a path, dot segments are resolved and whatever may not stand there is encoded. Any other
  scheme may have a path without structure.

  A segment that is a drive letter, such as `c:` or `c|`, is not removed by the two dots that follow
  it. In a `file` address a path begins with such a segment only if the segment is the first to be
  written: then its second character becomes a colon and the address has no host.
-/
import GoAtlas.Url.Basic
import GoAtlas.Url.Host

namespace GoAtlas.Url

inductive SchemeKind where
  | file
  | web (port : Nat)
  | other
  deriving DecidableEq

def SchemeKind.of (scheme : String) : SchemeKind :=
  if scheme = "file" then .file
  else if scheme = "http" || scheme = "ws" then .web 80
  else if scheme = "https" || scheme = "wss" then .web 443
  else if scheme = "ftp" then .web 21
  else .other

def SchemeKind.hasRules : SchemeKind → Bool
  | .other => false
  | _ => true

def isSlash (kind : SchemeKind) (c : Char) : Bool := c == '/' || (kind.hasRules && c == '\\')

def isDropped (c : Char) : Bool := c == '\t' || c == '\n' || c == '\r'

def isSchemeChar (c : Char) : Bool := Text.isAlnum c || c == '+' || c == '-' || c == '.'

/-- The scheme in lower case and what follows its colon. -/
def scheme? (cs : List Char) : Option (String × List Char) :=
  let name := (cs.takeWhile fun c => isSchemeChar c || isDropped c).filter (!isDropped ·)
  match name, cs.dropWhile fun c => isSchemeChar c || isDropped c with
  | c :: _, ':' :: rest => if Text.isLetter c then some (String.ofList (name.map Text.lower), rest) else none
  | _, _ => none

/-! ## Paths -/

def isOneDot (s : List Char) : Bool := s == ['.'] || s.map Text.lower == ['%', '2', 'e']

def isTwoDots (s : List Char) : Bool :=
  let l := s.map Text.lower
  l == ['.', '.'] || l == ['.', '%', '2', 'e'] || l == ['%', '2', 'e', '.'] || l == ['%', '2', 'e', '%', '2', 'e']

def isDrive : List Char → Bool
  | [l, m] => Text.isLetter l && (m == ':' || m == '|')
  | _ => false

/-- A drive letter, alone or with a slash of either kind behind it. -/
def startsWithDrive (s : List Char) : Bool :=
  isDrive (s.take 2) &&
    match s.drop 2 with
    | [] => true
    | c :: _ => c == '/' || c == '\\'

/-- The path up to its last slash, with it. -/
def throughSlash (path : List Char) : List Char := (path.reverse.dropWhile (· != '/')).reverse

/-- The path without its last segment, given with the slash behind it; a drive letter stays. -/
def parent (path : List Char) : List Char :=
  match Text.afterLast? '/' path.dropLast with
  | none => path
  | some segment => if startsWithDrive segment then path else throughSlash path.dropLast

/-- A path under way: its text, and whether it began with a drive letter. -/
structure PathText where
  text : List Char
  drive : Bool

/-- A drive letter that a tab or a line end cuts off from what follows. -/
def cutDrive? (raw : List Char) : Option (List Char × List Char) :=
  match raw.dropWhile isDropped with
  | l :: rest =>
    match rest.dropWhile isDropped with
    | ':' :: t :: rest =>
      if Text.isLetter l && isDropped t && rest.any (!isDropped ·) then some ([l, ':'], rest.filter (!isDropped ·))
      else none
    | _ => none
  | [] => none

/-- Adds a segment, and the slash behind it if it has one. -/
def PathText.add (kind : SchemeKind) (p : PathText) (raw : List Char) (closed : Bool) : PathText :=
  let close (text : List Char) : List Char := if closed then text ++ ['/'] else text
  match if kind == .file && p.text == ['/'] then cutDrive? raw else none with
  | some (drive, rest) => { p with text := close (p.text ++ drive ++ ['/'] ++ encode pathSet rest) }
  | none =>
    let segment := encode pathSet (raw.filter (!isDropped ·))
    if isTwoDots segment then { p with text := parent p.text }
    else if isOneDot segment then p
    else
      match segment with
      | [l, _] =>
        if kind == .file && p.text == ['/'] && isDrive segment then ⟨close (p.text ++ [l, ':']), true⟩
        else { p with text := close (p.text ++ segment) }
      | _ => { p with text := close (p.text ++ segment) }

def PathText.addAll (kind : SchemeKind) : PathText → List (List Char) → PathText
  | p, [] => p
  | p, [raw] => p.add kind raw false
  | p, raw :: next :: rest => (p.add kind raw true).addAll kind (next :: rest)

/-- The path that begins with `start` and goes on with the characters of an address. -/
def pathFrom (kind : SchemeKind) (start cs : List Char) : PathText :=
  let p := PathText.addAll kind ⟨start, false⟩ (Text.fields '/' (cs.map fun c => if isSlash kind c then '/' else c))
  if kind == .file then { p with text := '/' :: p.text.dropWhile (· == '/') } else p

def PathText.route (p : PathText) : Route :=
  match p.text with
  | [] => .segments []
  | _ :: cs => .segments ((Text.fields '/' cs).map String.ofList)

/-- The path behind an authority: it may lack its first slash if the scheme has rules. -/
def pathAfterHost (kind : SchemeKind) (cs : List Char) : PathText :=
  match cs with
  | [] => if kind.hasRules then pathFrom kind ['/'] [] else ⟨[], false⟩
  | c :: rest => if isSlash kind c then pathFrom kind ['/'] rest else pathFrom kind ['/'] cs

/-! ## Authorities -/

def isEnd (c : Char) : Bool := c == '?' || c == '#'

def endsAuthority (kind : SchemeKind) (c : Char) : Bool := isSlash kind c || isEnd c

/-- The user's name and password before the last `@`, and what follows it. Nothing before it needs a
    host behind it. -/
def readUserinfo (kind : SchemeKind) (cs : List Char) : Except ParseError (String × Option String × List Char) :=
  match Text.beforeLast? '@' (cs.takeWhile (!endsAuthority kind ·)) with
  | none => .ok ("", none, cs)
  | some info =>
    let rest := cs.drop (info.length + 1)
    if info.isEmpty && (rest.head?.any (endsAuthority kind)) then .error .emptyHost
    else
      let user := Text.upTo ':' info
      let password := info.drop (user.length + 1)
      .ok
        (String.ofList (encode userinfoSet user),
          if password.isEmpty then none else some (String.ofList (encode userinfoSet password)), rest)

/-- The text of a host and what follows it: a colon inside brackets belongs to the host. -/
def splitHost (kind : SchemeKind) (bracket : Bool) : List Char → List Char × List Char
  | [] => ([], [])
  | c :: cs =>
    if endsAuthority kind c || (c == ':' && !bracket) then ([], c :: cs)
    else
      let r := splitHost kind (c == '[' || (bracket && c != ']')) cs
      (c :: r.1, r.2)

/-- A port of at most 16 bits and what follows it; the scheme's own port and an empty one are left out. -/
def readPort (kind : SchemeKind) (cs : List Char) : Except ParseError (Option Nat × List Char) :=
  let digits := cs.takeWhile Text.isDigit
  let rest := cs.dropWhile Text.isDigit
  let n := Text.decimal digits
  if 65535 < n || rest.head?.any (fun c => c != '/' && c != '\\' && !isEnd c) then .error .port
  else .ok (if digits.isEmpty || kind == .web n then none else some n, rest)

def readAuthority (kind : SchemeKind) (cs : List Char) : Except ParseError (Authority × List Char) := do
  let (user, password, cs) ← readUserinfo kind cs
  let (hostText, cs) := splitHost kind false cs
  if kind.hasRules && hostText.isEmpty then throw .emptyHost
  let host ← if kind.hasRules then Host.parse hostText else Host.parseOpen hostText
  if host = "" && cs.head? = some ':' then throw .emptyHost
  let (port, cs) ←
    match cs with
    | ':' :: rest => readPort kind rest
    | _ => .ok (none, cs)
  if host = "" && (user != "" || password.isSome) then throw .emptyHost
  return (⟨user, password, host, port⟩, cs)

/-! ## Addresses -/

def withTail (kind : SchemeKind) (scheme : String) (authority : Option Authority) (route : Route)
    (tail : List Char) : Url :=
  let query :=
    match tail with
    | '?' :: cs =>
      some (String.ofList (encode (if kind.hasRules then specialQuerySet else querySet) (Text.upTo '#' cs)))
    | _ => none
  let fragment :=
    match tail.dropWhile (· != '#') with
    | '#' :: cs => some (String.ofList (encode fragmentSet cs))
    | _ => none
  ⟨scheme, authority, route, query, fragment⟩

/-- The host of a `file` address, none for the machine itself. -/
def fileHost (cs : List Char) : Except ParseError String :=
  if cs.isEmpty || isDrive cs then .ok ""
  else
    match Host.parse cs with
    | .ok host => .ok (if host = "localhost" then "" else host)
    | .error e => .error e

/-- A `file` address. Its path follows a host at once; without one its slash comes in addition. -/
def parseFile (cs : List Char) : Except ParseError Url := do
  let body := cs.takeWhile (!isEnd ·)
  let tail := (cs.dropWhile (!isEnd ·)).filter (!isDropped ·)
  let make (host : String) (p : PathText) : Url :=
    withTail .file "file" (some ⟨"", none, if p.drive then "" else host, none⟩) p.route tail
  match body.dropWhile isDropped with
  | [] => return make "" (pathFrom .file ['/'] body)
  | a :: rest =>
    if isSlash .file a then
      match rest.dropWhile isDropped with
      | [] => return make "" (pathFrom .file [] body)
      | b :: rest =>
        if isSlash .file b then
          let hostText := (rest.takeWhile (!isSlash .file ·)).filter (!isDropped ·)
          let host ← fileHost hostText
          if host = "" then
            return make "" (pathFrom .file ['/'] (if isDrive hostText then rest else rest.dropWhile (!isSlash .file ·)))
          else return make host (pathAfterHost .file (rest.dropWhile (!isSlash .file ·)))
        else return make "" (pathFrom .file [] body)
    else return make "" (pathFrom .file ['/'] body)

def parseWithAuthority (kind : SchemeKind) (scheme : String) (cs : List Char) : Except ParseError Url := do
  let (a, cs) ← readAuthority kind cs
  return withTail kind scheme (some a) (pathAfterHost kind (cs.takeWhile (!isEnd ·))).route (cs.dropWhile (!isEnd ·))

def parseScheme (scheme : String) (cs : List Char) : Except ParseError Url :=
  let kind := SchemeKind.of scheme
  let plain := cs.filter (!isDropped ·)
  let body := plain.takeWhile (!isEnd ·)
  let tail := plain.dropWhile (!isEnd ·)
  match kind with
  | .file => parseFile cs
  | .web _ => parseWithAuthority kind scheme (plain.dropWhile (isSlash kind))
  | .other =>
    match plain with
    | '/' :: '/' :: rest => parseWithAuthority kind scheme rest
    | '/' :: _ => .ok (withTail kind scheme none (pathFrom kind ['/'] (body.drop 1)).route tail)
    | _ => .ok (withTail kind scheme none (.bare (String.ofList (encode controlSet body))) tail)

def isEdge (c : Char) : Bool := c.toNat ≤ 0x20

def parse (s : String) : Except ParseError Url :=
  let trimmed := ((s.toList.dropWhile isEdge).reverse.dropWhile isEdge).reverse
  match scheme? trimmed with
  | some (scheme, rest) => parseScheme scheme rest
  | none => .error .noScheme

def parse? (s : String) : Option Url := (parse s).toOption

end GoAtlas.Url
