/-
  GoAtlas.Machine.Script — scripts for the shell.

  A script is a list of commands joined by `;`, line ends, `&&` and `||`, with conditionals, choices by
  pattern, loops over words and groups. Words keep what was quoted, since only unquoted parameters are
  split later. Pipes, conditional loops, functions and substituted commands are not part of the
  language: a script with one of them is malformed.
-/
import GoAtlas.Text.Split

namespace GoAtlas.Script

inductive Piece where
  | text (quoted : Bool) (s : String)
  | parameter (quoted : Bool) (name : String)
  deriving DecidableEq, Repr

abbrev Word := List Piece

/-- What a redirection does to a channel. -/
inductive Mode where
  | replace
  | append
  | duplicate
  | input
  deriving DecidableEq, Repr

structure Redirect where
  channel : Nat
  mode : Mode
  target : Word
  deriving DecidableEq, Repr

structure Simple where
  line : Nat
  assignments : List (String × Word)
  words : List Word
  redirects : List Redirect
  deriving DecidableEq, Repr

end Script

inductive Script where
  | skip
  | simple (c : Script.Simple)
  | seq (first second : Script)
  | both (first second : Script)
  | either (first second : Script)
  | negate (body : Script)
  | choose (condition yes no : Script)
  /-- Goes by whether one of the patterns stands for the subject. -/
  | pick (subject : Script.Word) (patterns : List Script.Word) (yes no : Script)
  /-- Runs the body with the variable set to each word in turn. -/
  | each (name : String) (words : List Script.Word) (body : Script)
  | group (body : Script) (redirects : List Script.Redirect)

namespace Script

/-! ## Tokens -/

inductive Token where
  | word (w : Word)
  | redirect (channel : Nat) (mode : Mode)
  | newline
  | semicolon
  | andIf
  | orIf
  | doubleSemicolon
  | bar
  | opening
  | closing
  deriving DecidableEq, Repr

def isNameStart (c : Char) : Bool := Text.isLetter c || c == '_'

def isNameChar (c : Char) : Bool := Text.isAlnum c || c == '_'

def isBlank (c : Char) : Bool := c == ' ' || c == '\t'

/-- A character that ends a word. -/
def endsWord (c : Char) : Bool := isBlank c || c == '\n' || ";&|<>()".toList.contains c

/-- The parameter after a dollar sign. -/
def parameter? : List Char → Option (String × List Char)
  | '\x7b' :: cs =>
    match cs.takeWhile (· != '\x7d'), cs.dropWhile (· != '\x7d') with
    | c :: name, _ :: rest =>
      if (isNameStart c && name.all isNameChar) || (Text.isDigit c && name.all Text.isDigit) then
        some (String.ofList (c :: name), rest)
      else none
    | _, _ => none
  | c :: cs =>
    if isNameStart c then some (String.ofList (c :: cs.takeWhile isNameChar), cs.dropWhile isNameChar)
    else if Text.isDigit c || "*@#?$-".toList.contains c then some (String.singleton c, cs)
    else none
  | [] => none

/-- A dollar sign that begins nothing known is text. A substituted command is malformed. -/
def dollar? (quoted : Bool) (cs : List Char) : Option (Piece × List Char) :=
  match parameter? cs, cs with
  | some (name, rest), _ => some (.parameter quoted name, rest)
  | none, '(' :: _ => none
  | none, '\x7b' :: _ => none
  | none, cs => some (.text quoted "$", cs)

/-- The pieces up to the closing double quote. -/
def quotedPieces? : Nat → List Char → Option (Word × List Char)
  | 0, _ => none
  | _ + 1, [] => none
  | fuel + 1, c :: cs =>
    let put (p : Piece) (rest : List Char) : Option (Word × List Char) :=
      (quotedPieces? fuel rest).map fun r => (p :: r.1, r.2)
    match c, cs with
    | '"', cs => some ([], cs)
    | '`', _ => none
    | '$', cs => (dollar? true cs).bind fun r => put r.1 r.2
    | '\\', '\n' :: cs => quotedPieces? fuel cs
    | '\\', d :: cs =>
      if "$`\"\\".toList.contains d then put (.text true (String.singleton d)) cs
      else put (.text true "\\") (d :: cs)
    | c, cs => put (.text true (String.singleton c)) cs

/-- The pieces of a word. -/
def wordPieces? : Nat → List Char → Option (Word × List Char)
  | 0, _ => none
  | _ + 1, [] => some ([], [])
  | fuel + 1, c :: cs =>
    let put (p : Piece) (rest : List Char) : Option (Word × List Char) :=
      (wordPieces? fuel rest).map fun r => (p :: r.1, r.2)
    if endsWord c then some ([], c :: cs)
    else
      match c, cs with
      | '\'', cs =>
        match cs.dropWhile (· != '\'') with
        | _ :: rest => put (.text true (String.ofList (Text.upTo '\'' cs))) rest
        | [] => none
      | '"', cs =>
        match quotedPieces? fuel cs with
        | none => none
        | some (ps, rest) => (wordPieces? fuel rest).map fun r => (.text true "" :: ps ++ r.1, r.2)
      | '`', _ => none
      | '$', cs => (dollar? false cs).bind fun r => put r.1 r.2
      | '\\', '\n' :: cs => wordPieces? fuel cs
      | '\\', d :: cs => put (.text true (String.singleton d)) cs
      | c, cs => put (.text false (String.singleton c)) cs

/-- A redirection's sign, with the channel it has by itself. -/
def redirect? : List Char → Option (Mode × Nat × List Char)
  | '>' :: '>' :: cs => some (.append, 1, cs)
  | '>' :: '&' :: cs => some (.duplicate, 1, cs)
  | '>' :: cs => some (.replace, 1, cs)
  | '<' :: c :: cs => if c = '<' || c = '&' || c = '>' then none else some (.input, 0, c :: cs)
  | _ => none

/-- The next token and what follows it. -/
def token? (cs : List Char) : Option (Token × List Char) :=
  match cs with
  | '\n' :: cs => some (.newline, cs)
  | ';' :: ';' :: cs => some (.doubleSemicolon, cs)
  | ';' :: cs => some (.semicolon, cs)
  | '&' :: '&' :: cs => some (.andIf, cs)
  | '|' :: '|' :: cs => some (.orIf, cs)
  | '|' :: cs => some (.bar, cs)
  | '(' :: cs => some (.opening, cs)
  | ')' :: cs => some (.closing, cs)
  | cs =>
    match redirect? (cs.dropWhile Text.isDigit), redirect? cs with
    | _, some (mode, channel, rest) => some (.redirect channel mode, rest)
    | some (mode, _, rest), none => some (.redirect (Text.decimal (cs.takeWhile Text.isDigit)) mode, rest)
    | none, none =>
      match wordPieces? (cs.length + 1) cs with
      | some ([], _) => none
      | some (w, rest) => some (.word w, rest)
      | none => none

/-- Past blanks, joined lines and a comment. -/
def skipBlanks : List Char → List Char
  | '\\' :: '\n' :: cs => skipBlanks cs
  | '#' :: cs => cs.dropWhile (· != '\n')
  | c :: cs => if isBlank c then skipBlanks cs else c :: cs
  | [] => []

def newlines (cs : List Char) : Nat := (cs.filter (· == '\n')).length

/-- The tokens with the lines they begin on. -/
def tokens? : (fuel line : Nat) → List Char → Option (List (Nat × Token))
  | 0, _, _ => none
  | fuel + 1, line, cs =>
    match skipBlanks cs with
    | [] => some []
    | ds =>
      let line := line + newlines (cs.take (cs.length - ds.length))
      match token? ds with
      | none => none
      | some (t, rest) =>
        (tokens? fuel (line + newlines (ds.take (ds.length - rest.length))) rest).map ((line, t) :: ·)

/-! ## Commands -/

abbrev Tokens := List (Nat × Token)

/-- The text of a word without quotes and parameters. -/
def Piece.plain? : Piece → Option String
  | .text false s => some s
  | _ => none

def plainText? (w : Word) : Option String := (w.mapM Piece.plain?).map (Text.join "")

/-- The word with which the tokens begin, if it is plain. -/
def keyword? : Tokens → Option String
  | (_, .word w) :: _ => plainText? w
  | _ => none

/-- A word that sets a variable: the name and what stands after the sign. -/
def assignment? (w : Word) : Option (String × Word) :=
  let isPlainName (p : Piece) : Bool := p.plain?.any fun s => s.toList.all isNameChar
  match w.takeWhile isPlainName, w.dropWhile isPlainName with
  | p :: ps, .text false "=" :: value =>
    let name := Text.join "" ((p :: ps).filterMap Piece.plain?)
    if name.toList.head?.any isNameStart then some (name, value) else none
  | _, _ => none

def redirects : Tokens → List Redirect × Tokens
  | (_, .redirect channel mode) :: (_, .word w) :: ts =>
    let r := redirects ts
    (⟨channel, mode, w⟩ :: r.1, r.2)
  | ts => ([], ts)

/-- The words and redirections of a simple command. -/
def simple? : Simple → Tokens → Option (Simple × Tokens)
  | c, (_, .redirect channel mode) :: (_, .word w) :: ts =>
    simple? { c with redirects := c.redirects ++ [⟨channel, mode, w⟩] } ts
  | _, (_, .redirect _ _) :: _ => none
  | c, (_, .word w) :: ts =>
    match assignment? w, c.words with
    | some a, [] => simple? { c with assignments := c.assignments ++ [a] } ts
    | _, _ => simple? { c with words := c.words ++ [w] } ts
  | c, ts => some (c, ts)

/-- Words that cannot begin a command. -/
def closers : List String := ["then", "elif", "else", "fi", "\x7d", "do", "done", "esac"]

/-- Words that begin what is not part of the language. -/
def unsupported : List String := ["while", "until"]

/-- The commands of a list end here. -/
def atEnd : Tokens → Bool
  | [] | (_, .doubleSemicolon) :: _ => true
  | ts => (keyword? ts).any closers.contains

/-- The words up to another token. -/
def words : Tokens → List Word × Tokens
  | (_, .word w) :: ts =>
    let r := words ts
    (w :: r.1, r.2)
  | ts => ([], ts)

/-- Patterns with bars between them, up to a closing parenthesis. -/
def patterns? : Tokens → Option (List Word × Tokens)
  | (_, .word w) :: (_, .bar) :: ts => (patterns? ts).map fun r => (w :: r.1, r.2)
  | (_, .word w) :: (_, .closing) :: ts => some ([w], ts)
  | _ => none

def skipOpening : Tokens → Tokens
  | (_, .opening) :: ts => ts
  | ts => ts

/-- A plain word that may name a variable. -/
def variableName? (w : Word) : Option String :=
  (plainText? w).filter fun n => n.toList.head?.any isNameStart && n.toList.all isNameChar

def skipNewlines (ts : Tokens) : Tokens := ts.dropWhile fun t => t.2 = .newline

/-- All parameters, as a quoted word. -/
def everyParameter : Word := [.text true "", .parameter true "@"]

/-- The variable and the words of a loop, up to its body; without words it goes over the parameters. -/
def loopHead? : Tokens → Option (String × List Word × Tokens)
  | (_, .word w) :: ts =>
    match variableName? w, keyword? (skipNewlines ts) with
    | some name, some "in" =>
      match words ((skipNewlines ts).drop 1) with
      | (ws, (_, .semicolon) :: ts) | (ws, (_, .newline) :: ts) => some (name, ws, skipNewlines ts)
      | _ => none
    | some name, _ =>
      match ts with
      | (_, .semicolon) :: ts => some (name, [everyParameter], skipNewlines ts)
      | ts => some (name, [everyParameter], skipNewlines ts)
    | none, _ => none
  | _ => none

mutual

/-- The commands up to a word that closes them, or up to the end. -/
def list? : Nat → Tokens → Option (Script × Tokens)
  | 0, _ => none
  | fuel + 1, ts =>
    let ts := skipNewlines ts
    if atEnd ts then some (.skip, ts)
    else
      match chain? fuel ts with
      | none => none
      | some (c, (_, .newline) :: ts) => (list? fuel ts).map fun r => (.seq c r.1, r.2)
      | some (c, (_, .semicolon) :: ts) => (list? fuel ts).map fun r => (.seq c r.1, r.2)
      | some (c, ts) => if atEnd ts then some (c, ts) else none

/-- Commands joined by `&&` and `||`. -/
def chain? : Nat → Tokens → Option (Script × Tokens)
  | 0, _ => none
  | fuel + 1, ts =>
    match command? fuel ts with
    | none => none
    | some (c, ts) => chainFrom? fuel c ts

/-- The chain that goes on after its first commands. -/
def chainFrom? : Nat → Script → Tokens → Option (Script × Tokens)
  | 0, _, _ => none
  | fuel + 1, c, (_, .andIf) :: ts =>
    match command? fuel (skipNewlines ts) with
    | none => none
    | some (d, ts) => chainFrom? fuel (.both c d) ts
  | fuel + 1, c, (_, .orIf) :: ts =>
    match command? fuel (skipNewlines ts) with
    | none => none
    | some (d, ts) => chainFrom? fuel (.either c d) ts
  | _ + 1, c, ts => some (c, ts)

def command? : Nat → Tokens → Option (Script × Tokens)
  | 0, _ => none
  | fuel + 1, ts =>
    let grouped (r : Script × Tokens) : Script × Tokens := (.group r.1 (redirects r.2).1, (redirects r.2).2)
    match keyword? ts with
    | some "!" => (command? fuel (ts.drop 1)).map fun r => (.negate r.1, r.2)
    | some "if" => (branches? fuel (ts.drop 1)).map grouped
    | some "case" =>
      match ts.drop 1 with
      | (_, .word subject) :: ts =>
        if keyword? (skipNewlines ts) = some "in" then (arms? fuel subject ((skipNewlines ts).drop 1)).map grouped else none
      | _ => none
    | some "for" =>
      match loopHead? (ts.drop 1) with
      | none => none
      | some (name, ws, ts) =>
        if keyword? ts != some "do" then none
        else
          match list? fuel (ts.drop 1) with
          | some (body, rest) =>
            if keyword? rest = some "done" then some (grouped (.each name ws body, rest.drop 1)) else none
          | none => none
    | some "\x7b" =>
      match list? fuel (ts.drop 1) with
      | some (body, rest) => if keyword? rest = some "\x7d" then some (grouped (body, rest.drop 1)) else none
      | none => none
    | some k => if (closers ++ unsupported).contains k then none else simpleFrom? ts
    | none => simpleFrom? ts
where
  simpleFrom? (ts : Tokens) : Option (Script × Tokens) :=
    let line := (ts.head?.map (·.1)).getD 1
    match simple? ⟨line, [], [], []⟩ ts with
    | some (⟨line, as, ws, rs⟩, rest) =>
      if as.isEmpty && ws.isEmpty && rs.isEmpty then none else some (.simple ⟨line, as, ws, rs⟩, rest)
    | none => none

/-- A conditional after its first word. -/
def branches? : Nat → Tokens → Option (Script × Tokens)
  | 0, _ => none
  | fuel + 1, ts =>
    match list? fuel ts with
    | none => none
    | some (condition, ts) =>
      if keyword? ts != some "then" then none
      else
        match list? fuel (ts.drop 1) with
        | none => none
        | some (yes, ts) =>
          match keyword? ts with
          | some "fi" => some (.choose condition yes .skip, ts.drop 1)
          | some "elif" => (branches? fuel (ts.drop 1)).map fun r => (.choose condition yes r.1, r.2)
          | some "else" =>
            match list? fuel (ts.drop 1) with
            | some (no, ts) => if keyword? ts = some "fi" then some (.choose condition yes no, ts.drop 1) else none
            | none => none
          | _ => none

/-- The arms of a choice by pattern, up to its last word. -/
def arms? : Nat → Word → Tokens → Option (Script × Tokens)
  | 0, _, _ => none
  | fuel + 1, subject, ts =>
    let ts := skipNewlines ts
    if keyword? ts = some "esac" then some (.skip, ts.drop 1)
    else
      match patterns? (skipOpening ts) with
      | none => none
      | some (ps, ts) =>
        match list? fuel ts with
        | none => none
        | some (body, (_, .doubleSemicolon) :: ts) =>
          (arms? fuel subject ts).map fun r => (.pick subject ps body r.1, r.2)
        | some (body, ts) => if keyword? ts = some "esac" then some (.pick subject ps body .skip, ts.drop 1) else none

end

/-- The script that a text writes. -/
def ofText? (s : String) : Option Script :=
  match tokens? (s.length + 1) 1 s.toList with
  | none => none
  | some ts =>
    match list? (8 * ts.length + 8) ts with
    | some (script, []) => some script
    | _ => none

end Script

end GoAtlas
