/-
  GoAtlas.Url.Basic — addresses of documents and folders.

  An address is kept in its parts, each already percent-encoded; `text` writes it out. Two addresses
  are the same when their texts are.
-/
import GoAtlas.Url.Percent
import GoAtlas.Path

namespace GoAtlas

namespace Url

structure Authority where
  user : String
  password : Option String
  host : String
  port : Option Nat
  deriving DecidableEq, Repr

/-- The path of an address: segments, each written after a slash, or text without structure. -/
inductive Route where
  | segments (ss : List String)
  | bare (text : String)
  deriving DecidableEq, Repr

def Route.text : Route → String
  | .segments ss => String.join (ss.map ("/" ++ ·))
  | .bare t => t

def Authority.text (a : Authority) : String :=
  let userinfo :=
    match a.password with
    | some pw => a.user ++ ":" ++ pw ++ "@"
    | none => if a.user = "" then "" else a.user ++ "@"
  let port :=
    match a.port with
    | some n => ":" ++ toString n
    | none => ""
  userinfo ++ a.host ++ port

end Url

structure Url where
  scheme : String
  authority : Option Url.Authority
  route : Url.Route
  query : Option String
  fragment : Option String
  deriving DecidableEq, Repr

namespace Url

/-- The path as written in the address. -/
def path (u : Url) : String := u.route.text

def text (u : Url) : String :=
  let authority :=
    match u.authority with
    | some a => "//" ++ a.text
    | none =>
      match u.route with
      | .segments ("" :: _ :: _) => "/."
      | _ => ""
  u.scheme ++ ":" ++ authority ++ u.path ++ (u.query.elim "" ("?" ++ ·)) ++ (u.fragment.elim "" ("#" ++ ·))

/-- The two addresses are written alike. -/
def same (u v : Url) : Bool := u.text == v.text

/-- The segments of the path, if it has any structure. -/
def segments? (u : Url) : Option (List String) :=
  match u.route with
  | .segments [] => none
  | .segments ss => some ss
  | .bare _ => none

/-- The address with `key=value` added to its query. -/
def addQuery (u : Url) (pair : String) : Url :=
  match u.query with
  | none | some "" => { u with query := some pair }
  | some q => { u with query := some (q ++ "&" ++ pair) }

/-! ## Files -/

/-- The address of an absolute path: its segments below the root, each encoded. -/
def ofFilePath? (p : Path) : Option Url :=
  if p.isAbsolute then
    let segments := (p.segments.drop 1).map fun s => String.ofList (encodeBytes segmentSet s)
    some ⟨"file", some ⟨"", none, "", none⟩, .segments (if segments.isEmpty then [""] else segments), none, none⟩
  else none

/-- A drive letter at the end of a path is followed by a slash. -/
def closeDrive (path : Octets) : Octets :=
  match path.reverse with
  | mark :: letter :: _ :: _ =>
    if (mark == 0x3A || mark == 0x7C) && Text.isLetter (Char.ofNat letter.toNat) then path ++ Path.root else path
  | _ => path

/-- The path that an address names on this machine: one with segments and no other host. -/
def toFilePath? (u : Url) : Option Path :=
  match u.segments? with
  | none => none
  | some ss =>
    let host := u.authority.elim "" (·.host)
    if host = "" || host = "localhost" then
      some ⟨closeDrive (decodeText (String.join (ss.map ("/" ++ ·))))⟩
    else none

end Url

end GoAtlas
