/-
  GoAtlas.Json.Printer — JSON values to text, without spaces.
-/
import GoAtlas.Json.Basic
import GoAtlas.Text.Split

namespace GoAtlas.Json

def hexLower (n : Nat) : Char := Text.lower (Text.hexUpper n)

def quoteChar (c : Char) : List Char :=
  if c == '"' then ['\\', '"']
  else if c == '\\' then ['\\', '\\']
  else if c == '\n' then ['\\', 'n']
  else if c == '\r' then ['\\', 'r']
  else if c == '\t' then ['\\', 't']
  else if c.toNat < 0x20 then ['\\', 'u', '0', '0', hexLower (c.toNat / 16), hexLower (c.toNat % 16)]
  else [c]

def quote (s : String) : String := String.ofList ('"' :: (s.toList.flatMap quoteChar ++ ['"']))

mutual

def render : Json → String
  | .null => "null"
  | .bool true => "true"
  | .bool false => "false"
  | .int n => toString n
  | .decimal text => text
  | .str s => quote s
  | .arr items => "[" ++ renderItems items ++ "]"
  | .obj members => "\x7b" ++ renderMembers members ++ "\x7d"

def renderItems : List Json → String
  | [] => ""
  | [j] => render j
  | j :: k :: js => render j ++ "," ++ renderItems (k :: js)

def renderMembers : List (String × Json) → String
  | [] => ""
  | [(k, j)] => quote k ++ ":" ++ render j
  | (k, j) :: m :: ms => quote k ++ ":" ++ render j ++ "," ++ renderMembers (m :: ms)

end

end GoAtlas.Json
