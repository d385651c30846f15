import BrickHost.Document.Basic
import BrickHost.Text.Hex

/-! Reading JSON text. A reader takes its value off the front of the text and hands back the rest;
the fuel is never short, since every call but one in two uses up a character. -/

namespace BrickHost
namespace Json

def skipBlanks (s : List Char) : List Char :=
  s.dropWhile fun c => c == ' ' || c == '\n' || c == '\t' || c == '\r'

/-- Half of a pair that stands for one character. -/
def isLead (n : Nat) : Bool := 0xd800 ≤ n && n ≤ 0xdbff

def isTrail (n : Nat) : Bool := 0xdc00 ≤ n && n ≤ 0xdfff

/-- The characters that code units stand for, `none` if half a pair stands alone. -/
def joinUnits? : List Nat → Option (List Char)
  | [] => some []
  | lead :: rest =>
    if isLead lead then
      match rest with
      | trail :: rest =>
        if isTrail trail then
          (joinUnits? rest).map
            (Char.ofNat (0x10000 + (lead - 0xd800) * 0x400 + (trail - 0xdc00)) :: ·)
        else none
      | [] => none
    else if isTrail lead then none
    else (joinUnits? rest).map (Char.ofNat lead :: ·)

def simpleEscape? : Char → Option Nat
  | '"' => some 0x22
  | '\\' => some 0x5c
  | '/' => some 0x2f
  | 'b' => some 0x08
  | 'f' => some 0x0c
  | 'n' => some 0x0a
  | 'r' => some 0x0d
  | 't' => some 0x09
  | _ => none

/-- The code units of a string behind its opening quote. A character above the first plane is kept
as one unit. -/
def units? : List Char → Option (List Nat × List Char)
  | '"' :: rest => some ([], rest)
  | '\\' :: 'u' :: a :: b :: c :: d :: rest => do
    let n ← hexNumber? [a, b, c, d]
    let (units, rest) ← units? rest
    return (n :: units, rest)
  | '\\' :: c :: rest => do
    let n ← simpleEscape? c
    let (units, rest) ← units? rest
    return (n :: units, rest)
  | c :: rest =>
    if c.toNat < 0x20 then none
    else do
      let (units, rest) ← units? rest
      return (c.toNat :: units, rest)
  | [] => none

def string? (s : List Char) : Option (Document × List Char) := do
  let (units, rest) ← units? s
  match joinUnits? units with
  | some cs => return (.text (String.ofList cs), rest)
  | none => return (.garbled, rest)

/-- Digits at the front, at least one. -/
def digits? (s : List Char) : Option (List Char × List Char) :=
  match s.span Char.isDigit with
  | ([], _) => none
  | result => some result

/-- Passes over a fraction; says whether there was one. -/
def skipFraction? : List Char → Option (Bool × List Char)
  | '.' :: rest => (digits? rest).map fun result => (true, result.2)
  | s => some (false, s)

def skipSign : List Char → List Char
  | '+' :: rest => rest
  | '-' :: rest => rest
  | s => s

def skipExponent? : List Char → Option (Bool × List Char)
  | 'e' :: rest => (digits? (skipSign rest)).map fun result => (true, result.2)
  | 'E' :: rest => (digits? (skipSign rest)).map fun result => (true, result.2)
  | s => some (false, s)

def decimalValue (digits : List Char) : Nat :=
  digits.foldl (fun n c => 10 * n + (c.toNat - 48)) 0

/-- A whole number has neither fraction nor exponent, and zero has no sign. -/
def number? (s : List Char) : Option (Document × List Char) := do
  let (negative, s) := match s with
    | '-' :: rest => (true, rest)
    | s => (false, s)
  let (digits, rest) ← digits? s
  if digits.head? = some '0' ∧ 1 < digits.length then none
  else
    let (fraction, rest) ← skipFraction? rest
    let (exponent, rest) ← skipExponent? rest
    let n := decimalValue digits
    if fraction || exponent || (negative && n == 0) then return (.real, rest)
    else return (.integer (if negative then -(n : Int) else n), rest)

def key? : Document → Option (Option String)
  | .text s => some (some s)
  | .garbled => some none
  | _ => none

/-- Fields, if every key stands for characters. -/
def tableOf (fields : List (Option String × Document)) : Document :=
  match fields.mapM fun (key, d) => key.map (·, d) with
  | some fields => .table fields
  | none => .garbled

mutual

def value? : Nat → List Char → Option (Document × List Char)
  | 0, _ => none
  | fuel + 1, s =>
    match skipBlanks s with
    | 'n' :: 'u' :: 'l' :: 'l' :: rest => some (.null, rest)
    | 't' :: 'r' :: 'u' :: 'e' :: rest => some (.bool true, rest)
    | 'f' :: 'a' :: 'l' :: 's' :: 'e' :: rest => some (.bool false, rest)
    | '"' :: rest => string? rest
    | '[' :: rest =>
      match skipBlanks rest with
      | ']' :: rest => some (.list [], rest)
      | rest => (items? fuel rest).map fun (items, rest) => (.list items, rest)
    | '\x7b' :: rest =>
      match skipBlanks rest with
      | '\x7d' :: rest => some (.table [], rest)
      | rest => (fields? fuel rest).map fun (fields, rest) => (tableOf fields, rest)
    | s => number? s

/-- One item or more, and the closing bracket. -/
def items? : Nat → List Char → Option (List Document × List Char)
  | 0, _ => none
  | fuel + 1, s => do
    let (d, rest) ← value? fuel s
    match skipBlanks rest with
    | ']' :: rest => return ([d], rest)
    | ',' :: rest =>
      let (later, rest) ← items? fuel rest
      return (d :: later, rest)
    | _ => none

/-- One field or more, and the closing brace. -/
def fields? : Nat → List Char → Option (List (Option String × Document) × List Char)
  | 0, _ => none
  | fuel + 1, s => do
    match skipBlanks s with
    | '"' :: rest =>
      let (name, rest) ← string? rest
      let key ← key? name
      match skipBlanks rest with
      | ':' :: rest =>
        let (d, rest) ← value? fuel rest
        match skipBlanks rest with
        | '\x7d' :: rest => return ([(key, d)], rest)
        | ',' :: rest =>
          let (later, rest) ← fields? fuel rest
          return ((key, d) :: later, rest)
        | _ => none
      | _ => none
    | _ => none

end

def parse (text : String) : Option Document := do
  let s := text.toList
  let (d, rest) ← value? (2 * s.length + 2) s
  if (skipBlanks rest).isEmpty then return d else none

def leniency : Leniency := ⟨false, false⟩

end Json
end BrickHost
