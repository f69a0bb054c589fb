/-
  GoAtlas.Url.Host — the host of an address.

  A host is kept as its canonical text: a name in ASCII and in lower case, four decimal numbers for an
  address of 32 bits, a bracketed address of 128 bits with its longest run of zero groups left out. A
  name whose last label is a number has to be an address.
-/
import GoAtlas.Url.Percent
import GoAtlas.DomainName.Basic

namespace GoAtlas.Url

/-- Why a text is no address. -/
inductive ParseError where
  | noScheme
  | emptyHost
  | domainName
  | domainCharacter
  | shortAddress
  | longAddress
  | port
  deriving DecidableEq, Repr

def ParseError.message : ParseError → String
  | .noScheme => "relative URL without a base"
  | .emptyHost => "empty host"
  | .domainName => "invalid international domain name"
  | .domainCharacter => "invalid domain character"
  | .shortAddress => "invalid IPv4 address"
  | .longAddress => "invalid IPv6 address"
  | .port => "invalid port number"

namespace Host

/-- Characters that no host of a scheme without host rules contains. -/
def isForbiddenOpen (c : Char) : Bool :=
  c.toNat == 0 || ['\t', '\n', '\r', ' ', '#', '/', ':', '<', '>', '?', '@', '[', '\\', ']', '^', '|'].contains c

/-! ## Addresses of 32 bits -/

def digitsIn? (base : Nat) (cs : List Char) : Option Nat :=
  cs.foldl (fun n c =>
    match n, Text.hexValue? c with
    | some n, some d => if d < base then some (n * base + d) else none
    | _, _ => none) (some 0)

/-- A number of an address: decimal, octal after a zero, of base sixteen after a zero and an x. -/
def number? : List Char → Option Nat
  | [] => none
  | '0' :: 'x' :: cs => digitsIn? 16 cs
  | '0' :: c :: cs => digitsIn? 8 (c :: cs)
  | cs => digitsIn? 10 cs

/-- The labels of a name, without the empty one after a final dot. -/
def addressParts (cs : List Char) : List (List Char) :=
  match (Text.fields '.' cs).reverse with
  | [] :: p :: ps => (p :: ps).reverse
  | ps => ps.reverse

def endsInNumber (cs : List Char) : Bool :=
  match (addressParts cs).getLast? with
  | none => false
  | some p => (!p.isEmpty && p.all Text.isDigit) || (Text.after? ['0', 'x'] p).isSome && (number? p).isSome

def address? (cs : List Char) : Option Nat :=
  let parts := addressParts cs
  if 4 < parts.length then none
  else
    match parts.mapM number? with
    | none => none
    | some ns =>
      match ns.getLast? with
      | none => none
      | some last =>
        if ns.dropLast.any (255 < ·) || Nat.pow 256 (5 - ns.length) ≤ last then none
        else some (ns.dropLast.zipIdx.foldl (fun a n => a + n.1 * Nat.pow 256 (3 - n.2)) last)

def showAddress (n : Nat) : String :=
  Text.join "." ([16777216, 65536, 256, 1].map fun unit => toString (n / unit % 256))

/-! ## Addresses of 128 bits -/

/-- The groups that one side of a double colon writes; the last may be an address of 32 bits. -/
def groups? (lastIsTail : Bool) (cs : List Char) : Option (List Nat) :=
  if cs.isEmpty then some []
  else
    let fs := Text.fields ':' cs
    let group (f : List Char) : Option Nat :=
      if f.isEmpty || 4 < f.length then none else digitsIn? 16 f
    match fs.getLast? with
    | none => some []
    | some last =>
      if lastIsTail && last.contains '.' then
        let parts := Text.fields '.' last
        let octet (p : List Char) : Option Nat :=
          match p with
          | [] => none
          | '0' :: _ :: _ => none
          | p => if p.all Text.isDigit then (digitsIn? 10 p).bind fun n => if n < 256 then some n else none else none
        match fs.dropLast.mapM group, parts.mapM octet with
        | some gs, some [a, b, c, d] => some (gs ++ [a * 256 + b, c * 256 + d])
        | _, _ => none
      else fs.mapM group

def longAddress? (cs : List Char) : Option (List Nat) :=
  match Text.cuts [':', ':'] cs with
  | [all] =>
    match groups? true all with
    | some gs => if gs.length = 8 then some gs else none
    | none => none
  | [left, right] =>
    match groups? false left, groups? true right with
    | some ls, some rs =>
      if ls.length + rs.length < 8 then some (ls ++ List.replicate (8 - ls.length - rs.length) 0 ++ rs) else none
    | _, _ => none
  | _ => none

def hexDigits (n : Nat) : String := String.ofList (Nat.toDigits 16 n)

/-- The length of the run of zeros that a list begins with. -/
def zeroRun (gs : List Nat) : Nat := (gs.takeWhile (· == 0)).length

/-- Where the first longest run of zeros starts, and its length. -/
def longestRun (gs : List Nat) : Nat × Nat :=
  (List.range gs.length).foldl (fun best i =>
    let n := zeroRun (gs.drop i)
    if best.2 < n then (i, n) else best) (0, 0)

def showLong (gs : List Nat) : String :=
  let (start, n) := longestRun gs
  if n < 2 then "[" ++ Text.join ":" (gs.map hexDigits) ++ "]"
  else
    "[" ++ Text.join ":" ((gs.take start).map hexDigits) ++ "::" ++
      Text.join ":" ((gs.drop (start + n)).map hexDigits) ++ "]"

/-! ## Hosts -/

def bracketed (cs : List Char) : Except ParseError String :=
  match (Text.before? [']'] (cs.drop 1)).bind longAddress? with
  | some groups => .ok (showLong groups)
  | none => .error .longAddress

/-- The name that the text stands for once decoded; its bytes have to be text. -/
def name? (cs : List Char) : Option (List Char) :=
  match Text.text? ⟨(decodeBytes (Text.bytesOf (String.ofList cs)).toList).toArray⟩ with
  | some s => DomainName.toAscii? s.toList
  | none => none

/-- The host of a scheme with host rules. -/
def parse (cs : List Char) : Except ParseError String :=
  if cs.head? = some '[' then bracketed cs
  else
    match name? cs with
    | none => .error .domainName
    | some name =>
      if name.isEmpty then .error .emptyHost
      else if endsInNumber name then
        match address? name with
        | some n => .ok (showAddress n)
        | none => .error .shortAddress
      else .ok (String.ofList name)

/-- The host of a scheme without host rules. -/
def parseOpen (cs : List Char) : Except ParseError String :=
  if cs.head? = some '[' then bracketed cs
  else if cs.any isForbiddenOpen then .error .domainCharacter
  else .ok (String.ofList (encode controlSet cs))

end Host

end GoAtlas.Url
