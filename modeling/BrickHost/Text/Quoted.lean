import BrickHost.Text.Hex
import BrickHost.Text.Printable

/-! Text and values as diagnostics show them: a text between quotes with everything invisible
escaped, and a value as its name with the fields behind it. -/

namespace BrickHost

def escapeCode (c : Char) : List Char :=
  ['\\', 'u', '\x7b'] ++ hexNat c.toNat ++ ['\x7d']

def escapeChar (c : Char) : List Char :=
  if c = '\x00' then ['\\', '0']
  else if c = '\t' then ['\\', 't']
  else if c = '\r' then ['\\', 'r']
  else if c = '\n' then ['\\', 'n']
  else if c = '"' then ['\\', '"']
  else if c = '\\' then ['\\', '\\']
  else if isExtending c || isUnprintable c then escapeCode c
  else [c]

def quoted (s : String) : String :=
  String.ofList ('"' :: (s.toList.flatMap escapeChar ++ ['"']))

/-- A value with named fields. -/
def recordText (name : String) (fields : List (String × String)) : String :=
  let shown := fields.map fun (label, value) => label ++ ": " ++ value
  name ++ " \x7b " ++ String.intercalate ", " shown ++ " \x7d"

/-- A value with one unnamed field. -/
def appliedText (name value : String) : String :=
  name ++ "(" ++ value ++ ")"

def listText (items : List String) : String :=
  "[" ++ String.intercalate ", " items ++ "]"

def optionText : Option String → String
  | none => "None"
  | some s => appliedText "Some" s

def boolText (b : Bool) : String :=
  if b then "true" else "false"

end BrickHost
