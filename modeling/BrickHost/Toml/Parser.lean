import BrickHost.Toml.Draft
import BrickHost.Toml.Numbers
import BrickHost.Toml.Strings

/-! Reading TOML. A text is a sequence of lines: blank ones, headers that open a table, and keys
with their values, which belong to the table opened last. -/

namespace BrickHost
namespace Toml

/-- How deep values are nested at most, and how many parts a key has. -/
def depthLimit : Nat := 80

def isBareKey (c : Char) : Bool :=
  c.isAlphanum || c == '-' || c == '_'

def skipSpaces (s : List Char) : List Char :=
  s.dropWhile isSpace

/-- One part of a key: bare, or a string on one line. -/
def keyPart? (s : List Char) : Option (String × List Char) :=
  match s with
  | '"' :: rest =>
    (basicString? (rest.length + 1) rest).map fun (cs, rest) => (String.ofList cs, rest)
  | '\'' :: rest => (literalString? rest).map fun (cs, rest) => (String.ofList cs, rest)
  | s =>
    match s.span isBareKey with
    | ([], _) => none
    | (cs, rest) => some (String.ofList cs, rest)

/-- The parts of a key, with blanks allowed around its dots. -/
def keyParts? : Nat → List Char → Option (List String × List Char)
  | 0, _ => none
  | fuel + 1, s => do
    let (part, rest) ← keyPart? (skipSpaces s)
    match skipSpaces rest with
    | '.' :: rest =>
      let (parts, rest) ← keyParts? fuel rest
      return (part :: parts, rest)
    | rest => return ([part], rest)

def key? (s : List Char) : Option (List String × String × List Char) := do
  let (parts, rest) ← keyParts? (depthLimit - 1) s
  return (parts.dropLast, ← parts.getLast?, rest)

/-- Passes over blanks, line ends and comments between the items of an array. -/
def skipTrivia? (comment : Bool) : List Char → Option (List Char)
  | [] => if comment then none else some []
  | '\n' :: rest => skipTrivia? false rest
  | '\r' :: '\n' :: rest => skipTrivia? false rest
  | c :: rest =>
    if comment then if isPlain c then skipTrivia? true rest else none
    else if isSpace c then skipTrivia? false rest
    else if c = '#' then skipTrivia? true rest
    else some (c :: rest)

mutual

/-- A value, so many arrays and inline tables deep. -/
def value? : Nat → Nat → List Char → Option (Document × List Char)
  | 0, _, _ => none
  | fuel + 1, depth, s =>
    match s with
    | '"' :: _ => (string? s).map fun (text, rest) => (.text text, rest)
    | '\'' :: _ => (string? s).map fun (text, rest) => (.text text, rest)
    | '[' :: rest =>
      if depthLimit ≤ depth + 1 then none
      else (items? fuel (depth + 1) rest).map fun (items, rest) => (.list items, rest)
    | '\x7b' :: rest =>
      if depthLimit ≤ depth + 1 then none
      else
        match skipSpaces rest with
        | '\x7d' :: rest => some (.table [], rest)
        | rest => do
          let (fields, rest) ← fields? fuel (depth + 1) [] rest
          return (.table (fieldDocuments fields), rest)
    | 't' :: 'r' :: 'u' :: 'e' :: rest => some (.bool true, rest)
    | 'f' :: 'a' :: 'l' :: 's' :: 'e' :: rest => some (.bool false, rest)
    | s =>
      match moment? s with
      | some result => some result
      | none => number? s

/-- The items of an array behind its opening bracket, or behind a comma. -/
def items? : Nat → Nat → List Char → Option (List Document × List Char)
  | 0, _, _ => none
  | fuel + 1, depth, s => do
    match ← skipTrivia? false s with
    | ']' :: rest => return ([], rest)
    | s =>
      let (d, rest) ← value? fuel depth s
      match ← skipTrivia? false rest with
      | ']' :: rest => return ([d], rest)
      | ',' :: rest =>
        let (later, rest) ← items? fuel depth rest
        return (d :: later, rest)
      | _ => none

def fields? : Nat → Nat → Fields → List Char → Option (Fields × List Char)
  | 0, _, _, _ => none
  | fuel + 1, depth, fields, s => do
    let (path, key, rest) ← key? s
    let rest ← mark? '=' rest
    let (d, rest) ← value? fuel depth (skipSpaces rest)
    let fields ← assign path key d fields
    match skipSpaces rest with
    | '\x7d' :: rest => return (fields, rest)
    | ',' :: rest => fields? fuel depth fields rest
    | _ => none

end

/-- What may stand at the end of a line: blanks and a comment. -/
def lineEnd? (s : List Char) : Option (List Char) :=
  let rest := match skipSpaces s with
    | '#' :: rest => rest.dropWhile isPlain
    | rest => rest
  if rest.isEmpty then some [] else newline? rest

structure Reading where
  root : Fields := []
  path : List String := []

namespace Reading

def assign (r : Reading) (path : List String) (key : String) (d : Document) : Option Reading := do
  let change := fun _ fields => Toml.assign path key d fields
  return { r with root := ← within .implied change .header r.root r.path }

def openTable (r : Reading) (path : List String) (key : String) : Option Reading := do
  return ⟨← Toml.openTable path key r.root, path ++ [key]⟩

def openElement (r : Reading) (path : List String) (key : String) : Option Reading := do
  return ⟨← Toml.openElement path key r.root, path ++ [key]⟩

end Reading

def line? (r : Reading) (s : List Char) : Option (Reading × List Char) :=
  match s with
  | '[' :: '[' :: rest => do
    let (path, key, rest) ← key? rest
    return (← r.openElement path key, ← mark? ']' (← mark? ']' rest))
  | '[' :: rest => do
    let (path, key, rest) ← key? rest
    return (← r.openTable path key, ← mark? ']' rest)
  | s => do
    let (path, key, rest) ← key? s
    let (d, rest) ← value? (2 * rest.length + 2) 0 (skipSpaces (← mark? '=' rest))
    return (← r.assign path key d, rest)

/-- Every line uses up a character, so the length of the text is enough fuel. -/
def lines? : Nat → Reading → List Char → Option Reading
  | 0, _, _ => none
  | fuel + 1, r, s =>
    match skipSpaces s with
    | [] => some r
    | '#' :: rest => (lineEnd? ('#' :: rest)).bind (lines? fuel r)
    | c :: rest =>
      match newline? (c :: rest) with
      | some rest => lines? fuel r rest
      | none => do
        let (r, rest) ← line? r (c :: rest)
        lines? fuel r (← lineEnd? rest)

/-- A mark of the byte order at the front does not count. -/
def skipMark : List Char → List Char
  | '\ufeff' :: rest => rest
  | s => s

def parse (text : String) : Option Document := do
  let s := skipMark text.toList
  let r ← lines? (s.length + 1) {} s
  return .table (fieldDocuments r.root)

def leniency : Leniency := ⟨true, true⟩

end Toml
end BrickHost
