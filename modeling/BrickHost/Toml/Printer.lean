import BrickHost.Document.Basic
import BrickHost.Text.Hex

/-! Writing settings as TOML. Plain fields come first, then a section for each table and for each
element of a list of tables, with an empty line before every section but the first. -/

namespace BrickHost
namespace Toml

/-- The quotes around a text. A text in long quotes may hold line breaks, and one that does starts
on a line of its own. -/
inductive QuoteStyle where
  | basic
  | literal
  | longBasic
  | longLiteral
  deriving DecidableEq, Repr

namespace QuoteStyle

def isLong : QuoteStyle → Bool
  | longBasic | longLiteral => true
  | basic | literal => false

/-- Backslashes stand for something else. -/
def escapes : QuoteStyle → Bool
  | basic | longBasic => true
  | literal | longLiteral => false

def mark : QuoteStyle → String
  | basic => "\""
  | literal => "'"
  | longBasic => "\"\"\""
  | longLiteral => "'''"

end QuoteStyle

/-- A character that no text shows as it is. -/
def isControl (c : Char) : Bool :=
  (c.toNat < 0x20 && c != '\t' && c != '\n') || c.toNat == 0x7f

def longestRun (mark : Char) (s : List Char) : Nat :=
  let step := fun (best, run) c => if c = mark then (Nat.max best (run + 1), run + 1) else (best, 0)
  (s.foldl step (0, 0)).1

structure TextTraits where
  singleRun : Nat
  doubleRun : Nat
  hasControl : Bool
  hasBackslash : Bool
  hasBreak : Bool
  deriving DecidableEq, Repr

def TextTraits.of (s : List Char) : TextTraits where
  singleRun := longestRun '\'' s
  doubleRun := longestRun '"' s
  hasControl := s.any isControl
  hasBackslash := s.contains '\\'
  hasBreak := s.contains '\n'

/-- The first style in which nothing needs a backslash, in the order basic, literal, long basic,
long literal; if there is none, a basic style that escapes. -/
def TextTraits.style (t : TextTraits) : QuoteStyle :=
  let bare := !t.hasControl && !t.hasBackslash
  if bare && t.doubleRun == 0 && !t.hasBreak then .basic
  else if !t.hasControl && t.singleRun == 0 && !t.hasBreak then .literal
  else if bare && t.doubleRun ≤ 2 then .longBasic
  else if !t.hasControl && t.singleRun ≤ 2 then .longLiteral
  else if t.hasBreak then .longBasic
  else .basic

/-- The longest run of quotes that is counted. -/
def countedRun : Nat := 255

/-- Runs of quotes are counted in one byte; a text with a longer run is not written. -/
def isWritable (s : String) : Bool :=
  let t := TextTraits.of s.toList
  t.singleRun ≤ countedRun && t.doubleRun ≤ countedRun

/-- What stands for a character behind a backslash. -/
def shortened? (long : Bool) (c : Char) : Option (List Char) :=
  if c = '\x08' then some ['\\', 'b']
  else if c = '\t' then some ['\\', 't']
  else if c = '\n' then if long then none else some ['\\', 'n']
  else if c = '\x0c' then some ['\\', 'f']
  else if c = '\r' then some ['\\', 'r']
  else if c = '\\' then some ['\\', '\\']
  else if isControl c then some (['\\', 'u'] ++ (hexQuad c.toNat).map Char.toUpper)
  else none

/-- Writes a text for a basic style. Between short quotes every quote is escaped, between long ones
the third of a run. `run` is the number of quotes written just before, as they are. -/
def escapeFrom (long : Bool) (run : Nat) : List Char → List Char
  | [] => []
  | c :: rest =>
    if c = '"' then
      if run < (if long then 2 else 0) then '"' :: escapeFrom long (run + 1) rest
      else ['\\', '"'] ++ escapeFrom long 0 rest
    else
      match shortened? long c with
      | some shown => shown ++ escapeFrom long 0 rest
      | none => c :: escapeFrom long 0 rest

def quote (s : String) : String :=
  let cs := s.toList
  let traits := TextTraits.of cs
  let style := traits.style
  let break_ := if style.isLong && traits.hasBreak then "\n" else ""
  let body := if style.escapes then escapeFrom style.isLong 0 cs else cs
  style.mark ++ break_ ++ String.ofList body ++ style.mark

example : quote "a\"b" = "'a\"b'" := by decide +kernel
example : quote "'\"" = "\"\"\"'\"\"\"\"" := by decide +kernel
example : quote "\n'\"\"\"" = "'''\n\n'\"\"\"'''" := by decide +kernel

def plain? : Document → Option String
  | .bool value => some (if value then "true" else "false")
  | .integer value => some (toString value)
  | .text s => some (quote s)
  | .list [] => some "[]"
  | _ => none

def fieldLines (fields : List (String × Document)) : String :=
  String.join (fields.filterMap fun (key, d) => (plain? d).map fun shown => s!"{key} = {shown}\n")

def sectionTexts (key : String) : Document → List String
  | .table fields => ["[" ++ key ++ "]\n" ++ fieldLines fields]
  | .list items => items.filterMap fun d =>
    match d with
    | .table fields => some ("[[" ++ key ++ "]]\n" ++ fieldLines fields)
    | _ => none
  | _ => []

def text : Document → String
  | .table fields =>
    let top := fieldLines fields
    let sections := fields.flatMap fun (key, d) => sectionTexts key d
    String.intercalate "\n" (if top.isEmpty then sections else top :: sections)
  | d => (plain? d).getD ""

mutual

def texts : Document → List String
  | .text s => [s]
  | .list items => textsOfItems items
  | .table fields => textsOfFields fields
  | _ => []

def textsOfItems : List Document → List String
  | [] => []
  | d :: rest => texts d ++ textsOfItems rest

def textsOfFields : List (String × Document) → List String
  | [] => []
  | (_, d) :: rest => texts d ++ textsOfFields rest

end

/-- A document as text, `none` if one of its texts is not written. -/
def text? (d : Document) : Option String :=
  if (texts d).all isWritable then some (text d) else none

end Toml
end BrickHost
