/-
  GoAtlas.Symbol.Range — places in documents.
-/
import GoAtlas.Json.Record
import GoAtlas.Url.Parser

namespace GoAtlas

structure Position where
  line : UInt32
  character : UInt32
  deriving DecidableEq, Repr

structure Range where
  start : Position
  stop : Position
  deriving DecidableEq, Repr

structure Location where
  uri : Url
  range : Range
  deriving DecidableEq, Repr

def Range.zero : Range := ⟨⟨0, 0⟩, ⟨0, 0⟩⟩

def Url.toJson (u : Url) : Json := .str u.text

def Url.ofJson? (j : Json) : Option Url := j.str?.bind Url.parse?

namespace Position

def toJson (p : Position) : Json := .obj [("line", .ofWord32 p.line), ("character", .ofWord32 p.character)]

def ofJson? (j : Json) : Option Position := do
  match ← j.record? [["line"], ["character"]] with
  | [line, character] => return ⟨← line.required Json.word32?, ← character.required Json.word32?⟩
  | _ => none

end Position

namespace Range

def toJson (r : Range) : Json := .obj [("start", r.start.toJson), ("end", r.stop.toJson)]

def ofJson? (j : Json) : Option Range := do
  match ← j.record? [["start"], ["end"]] with
  | [start, stop] => return ⟨← start.required Position.ofJson?, ← stop.required Position.ofJson?⟩
  | _ => none

end Range

namespace Location

def toJson (l : Location) : Json := .obj [("uri", l.uri.toJson), ("range", l.range.toJson)]

def ofJson? (j : Json) : Option Location := do
  match ← j.record? [["uri"], ["range"]] with
  | [uri, range] => return ⟨← uri.required Url.ofJson?, ← range.required Range.ofJson?⟩
  | _ => none

end Location

end GoAtlas
