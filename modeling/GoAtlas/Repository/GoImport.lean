/-
  GoAtlas.Repository.GoImport — repositories announced in a page.

  A page announces repositories in tags `<meta name="go-import" content="prefix vcs repo">`, in any
  case, with white space around the equals signs and either quote. Tags are read from left to right
  without overlap; a tag whose content is not three words announces nothing. `announced` picks the
  one repository whose prefix covers an import path.
-/
import GoAtlas.Text.Blank
import GoAtlas.Text.Split

namespace GoAtlas.Repository

def isQuote (c : Char) : Bool := c == '"' || c == Char.ofNat 0x27

/-- What follows a word, read without regard to case. -/
def afterWord? : (word text : List Char) → Option (List Char)
  | [], cs => some cs
  | _ :: _, [] => none
  | w :: ws, c :: cs => if Text.lower c = w then afterWord? ws cs else none

def afterBlanks (cs : List Char) : List Char := cs.dropWhile Text.isBlank

def afterBlanks1? : List Char → Option (List Char)
  | c :: cs => if Text.isBlank c then some (afterBlanks cs) else none
  | [] => none

def afterQuote? : List Char → Option (List Char)
  | c :: cs => if isQuote c then some cs else none
  | [] => none

def afterEquals? (cs : List Char) : Option (List Char) :=
  match afterBlanks cs with
  | '=' :: cs => some (afterBlanks cs)
  | _ => none

/-- The content of the tag that the text begins with, and what follows it. -/
def tag? (cs : List Char) : Option (List Char × List Char) := do
  let cs ← afterWord? "<meta".toList cs
  let cs ← afterBlanks1? cs
  let cs ← afterWord? "name".toList cs
  let cs ← afterEquals? cs
  let cs ← afterQuote? cs
  let cs ← afterWord? "go-import".toList cs
  let cs ← afterQuote? cs
  let cs ← afterBlanks1? cs
  let cs ← afterWord? "content".toList cs
  let cs ← afterEquals? cs
  let cs ← afterQuote? cs
  let content := cs.takeWhile (!isQuote ·)
  let rest ← afterQuote? (cs.dropWhile (!isQuote ·))
  if content.isEmpty then none else some (content, rest)

/-- The contents of the tags of a page; `skip` characters belong to a tag already read. -/
def contents : (skip : Nat) → List Char → List (List Char)
  | _, [] => []
  | skip + 1, _ :: cs => contents skip cs
  | 0, c :: cs =>
    match tag? (c :: cs) with
    | some (content, rest) => content :: contents (cs.length - rest.length) cs
    | none => contents 0 cs

structure Announcement where
  covered : List Char
  vcs : List Char
  repo : List Char
  deriving DecidableEq, Repr

def announcement? (content : List Char) : Option Announcement :=
  match Text.words content with
  | [covered, vcs, repo] => some ⟨covered, vcs, repo⟩
  | _ => none

/-- The import path is the announced one or lies below it. -/
def Announcement.covers (a : Announcement) (importPath : List Char) : Bool :=
  match Text.after? a.covered importPath with
  | some [] => true
  | some (c :: _) => c == '/'
  | none => false

def announcements (page : List Char) : List Announcement :=
  (contents 0 page).filterMap announcement?

inductive TagError where
  | none
  | many
  deriving DecidableEq, Repr

def announced (importPath page : String) : Except TagError String :=
  match (announcements page.toList).filter (·.covers importPath.toList) with
  | [] => .error .none
  | [a] => .ok (String.ofList a.repo)
  | _ => .error .many

end GoAtlas.Repository
