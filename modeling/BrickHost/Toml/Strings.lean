import BrickHost.Text.Hex

/-! The four kinds of TOML strings: basic ones with escapes and literal ones without, each on one
line or on several. The readers start behind the opening quotes. -/

namespace BrickHost
namespace Toml

def isSpace (c : Char) : Bool := c == ' ' || c == '\t'

/-- The characters of comments and strings: no control characters but the tab. -/
def isPlain (c : Char) : Bool :=
  c == '\t' || (0x20 ≤ c.toNat && c.toNat != 0x7f)

/-- A line ends with a line feed, or with a carriage return before it. -/
def newline? : List Char → Option (List Char)
  | '\n' :: rest => some rest
  | '\r' :: '\n' :: rest => some rest
  | _ => none

def scalar? (digits : List Char) : Option Char := do
  let n ← hexNumber? digits
  if h : n.isValidChar then return Char.ofNatAux n h else none

def escape? : List Char → Option (Char × List Char)
  | 'b' :: rest => some ('\x08', rest)
  | 'f' :: rest => some ('\x0c', rest)
  | 'n' :: rest => some ('\n', rest)
  | 'r' :: rest => some ('\r', rest)
  | 't' :: rest => some ('\t', rest)
  | '\\' :: rest => some ('\\', rest)
  | '"' :: rest => some ('"', rest)
  | 'u' :: rest =>
    if rest.length < 4 then none else (scalar? (rest.take 4)).map (·, rest.drop 4)
  | 'U' :: rest =>
    if rest.length < 8 then none else (scalar? (rest.take 8)).map (·, rest.drop 8)
  | _ => none

def basicString? : Nat → List Char → Option (List Char × List Char)
  | 0, _ => none
  | fuel + 1, s =>
    match s with
    | '"' :: rest => some ([], rest)
    | '\\' :: rest => do
      let (c, rest) ← escape? rest
      let (cs, rest) ← basicString? fuel rest
      return (c :: cs, rest)
    | c :: rest =>
      if isPlain c then (basicString? fuel rest).map fun (cs, rest) => (c :: cs, rest) else none
    | [] => none

def literalString? : List Char → Option (List Char × List Char)
  | '\'' :: rest => some ([], rest)
  | c :: rest =>
    if isPlain c then (literalString? rest).map fun (cs, rest) => (c :: cs, rest) else none
  | [] => none

/-- What follows a backslash at the end of a line: all blanks up to the next character. -/
def folded? (s : List Char) : Option (List Char) := do
  let rest ← newline? (s.dropWhile isSpace)
  return skipFolded rest
where
  skipFolded : List Char → List Char
    | ' ' :: rest => skipFolded rest
    | '\t' :: rest => skipFolded rest
    | '\n' :: rest => skipFolded rest
    | '\r' :: '\n' :: rest => skipFolded rest
    | s => s

/-- The closing quotes of a string on several lines, with up to two quotes before them that still
belong to it. -/
def closing? (quote : Char) (s : List Char) : Option (List Char × List Char) :=
  let run := (s.takeWhile (· == quote)).length
  if run < 3 then none
  else
    let extra := Nat.min (run - 3) 2
    some (List.replicate extra quote, s.drop (extra + 3))

/-- The body of a string on several lines, with escapes if they are on. -/
def longBody? (quote : Char) (escapes : Bool) : Nat → List Char → Option (List Char × List Char)
  | 0, _ => none
  | fuel + 1, s =>
    match closing? quote s with
    | some result => some result
    | none =>
      match newline? s with
      | some rest => (longBody? quote escapes fuel rest).map fun (cs, rest) => ('\n' :: cs, rest)
      | none =>
        match s with
        | [] => none
        | c :: rest =>
          if escapes ∧ c = '\\' then
            match folded? rest with
            | some rest => longBody? quote escapes fuel rest
            | none => do
              let (c, rest) ← escape? rest
              let (cs, rest) ← longBody? quote escapes fuel rest
              return (c :: cs, rest)
          else if isPlain c then
            (longBody? quote escapes fuel rest).map fun (cs, rest) => (c :: cs, rest)
          else none

/-- A line break right behind the opening quotes does not count. -/
def longString? (quote : Char) (escapes : Bool) (s : List Char) :
    Option (List Char × List Char) :=
  longBody? quote escapes (s.length + 1) ((newline? s).getD s)

def string? : List Char → Option (String × List Char)
  | '"' :: '"' :: '"' :: rest => (longString? '"' true rest).map ofChars
  | '"' :: rest => (basicString? (rest.length + 1) rest).map ofChars
  | '\'' :: '\'' :: '\'' :: rest => (longString? '\'' false rest).map ofChars
  | '\'' :: rest => (literalString? rest).map ofChars
  | _ => none
where
  ofChars (result : List Char × List Char) : String × List Char :=
    (String.ofList result.1, result.2)

end Toml
end BrickHost
