import BrickHost.Document.Basic
import BrickHost.Text.Hex

/-! Writing documents as JSON, without blanks. Quotes, backslashes and control characters are
escaped; every other character stands for itself. -/

namespace BrickHost
namespace Json

def escapeChar (c : Char) : List Char :=
  if c = '"' then ['\\', '"']
  else if c = '\\' then ['\\', '\\']
  else if c = '\x08' then ['\\', 'b']
  else if c = '\x0c' then ['\\', 'f']
  else if c = '\n' then ['\\', 'n']
  else if c = '\r' then ['\\', 'r']
  else if c = '\t' then ['\\', 't']
  else if c.toNat < 0x20 then ['\\', 'u'] ++ hexQuad c.toNat
  else [c]

def string (s : String) : String :=
  String.ofList ('"' :: (s.toList.flatMap escapeChar ++ ['"']))

mutual

/-- What cannot be written as itself is written as `null`. -/
def text : Document → String
  | .null | .real | .garbled | .moment => "null"
  | .bool value => if value then "true" else "false"
  | .integer value => toString value
  | .text s => string s
  | .list items => "[" ++ String.intercalate "," (texts items) ++ "]"
  | .table fields => "\x7b" ++ String.intercalate "," (fieldTexts fields) ++ "\x7d"

def texts : List Document → List String
  | [] => []
  | d :: rest => text d :: texts rest

def fieldTexts : List (String × Document) → List String
  | [] => []
  | (name, d) :: rest => (string name ++ ":" ++ text d) :: fieldTexts rest

end

end Json
end BrickHost
