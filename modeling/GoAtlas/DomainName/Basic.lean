/-
  GoAtlas.DomainName.Basic — names of hosts in all scripts.

  A name is brought into one form, its characters folded and composed, and cut into labels at its dots.
  A label outside ASCII is written in ASCII behind the mark `xn--`; one that comes with the mark has to
  be the written form of a label in that one form. `toAscii?` gives the name in ASCII if all its labels
  are well formed.
-/
import GoAtlas.Text.Composition
import GoAtlas.DomainName.Mapping
import GoAtlas.DomainName.Joining
import GoAtlas.DomainName.Direction
import GoAtlas.DomainName.Punycode

namespace GoAtlas.DomainName

def isAscii (c : Char) : Bool := c.toNat < 0x80

/-- ASCII characters that no name contains. -/
def isRefused (c : Char) : Bool :=
  c.toNat ≤ 0x20 || c.toNat == 0x7F ||
    ['#', '%', '/', ':', '<', '>', '?', '@', '[', '\\', ']', '^', '|'].contains c

def mark : List Char := ['x', 'n', '-', '-']

/-- A label outside ASCII begins with no combining mark, has its joiners where they belong, and is not
    too long to be written. -/
def isWellFormed (label : List Char) : Bool :=
  (match label with
    | [] => true
    | c :: _ => !Text.isMark c) &&
    joinersFit [] label && label.length ≤ 1000

/-- The label that a text behind the mark writes. -/
def marked? (cs : List Char) : Option (List Char) :=
  if cs.all isAscii && cs.getLast? != some '-' && !cs.isEmpty && cs.length ≤ 2000 then
    match Punycode.decode? cs with
    | none => none
    | some label =>
      let isProper (c : Char) : Bool := isPlain c && c != '.' && !isRefused c
      if label.all isProper && Text.compose label == label && isWellFormed label then some label else none
  else none

/-- The label that a folded text is, in the script it is meant to be read in. -/
def label? (cs : List Char) : Option (List Char) :=
  if cs.any isRefused then none
  else
    match Text.after? mark cs with
    | some rest => marked? rest
    | none => if cs.all isAscii || isWellFormed cs then some cs else none

def labelToAscii (cs : List Char) : List Char := if cs.all isAscii then cs else mark ++ Punycode.encode cs

def toAscii? (name : List Char) : Option (List Char) :=
  match name.mapM fold? with
  | none => none
  | some folded =>
    let texts := Text.fields '.' (Text.compose folded.flatten)
    match texts.mapM label? with
    | none => none
    | some labels => if directionsFit labels then some (Text.joinFields ['.'] (texts.map labelToAscii)) else none

end GoAtlas.DomainName
