import BrickHost.Document.Basic
import BrickHost.Text.Hex

/-! Numbers, dates and times in TOML. Digits may be grouped by single underscores between them. A
whole number fits 64 bits with a sign; of other numbers only the sign of an overflow matters, since
a text with a positive one is refused. -/

namespace BrickHost
namespace Toml

/-- Digits in which every underscore stands between two of them. Gives the digits alone. -/
def grouped? (isDigit : Char → Bool) : List Char → Option (List Char × List Char)
  | [] => none
  | c :: rest =>
    if isDigit c then
      match rest with
      | '_' :: more =>
        (grouped? isDigit more).map fun (digits, rest) => (c :: digits, rest)
      | next :: more =>
        if isDigit next then
          (grouped? isDigit (next :: more)).map fun (digits, rest) => (c :: digits, rest)
        else some ([c], next :: more)
      | [] => some ([c], [])
    else none

def sign? : List Char → Option Bool × List Char
  | '-' :: rest => (some true, rest)
  | '+' :: rest => (some false, rest)
  | s => (none, s)

/-- Digits of a whole part. A leading zero stands alone. -/
def wholeDigits? : List Char → Option (List Char × List Char)
  | '0' :: rest => some (['0'], rest)
  | s => grouped? Char.isDigit s

def ofDigits (base : Nat) (digits : List Char) : Nat :=
  digits.foldl (fun n c => base * n + (hexValue? c).getD 0) 0

def wholeNumber? (n : Int) : Option Document :=
  if Int64.minValue.toInt ≤ n ∧ n ≤ Int64.maxValue.toInt then some (.integer n) else none

def based? (base : Nat) (isDigit : Char → Bool) (s : List Char) :
    Option (Document × List Char) := do
  let (digits, rest) ← grouped? isDigit s
  return (← wholeNumber? (ofDigits base digits), rest)

/-- The least number that is rounded to infinity in 64 bits. -/
def overflowFrom : Nat := Nat.pow 2 1024 - Nat.pow 2 970

/-- Whether `digits`, with the last `places` of them behind the point, times a power of ten is
beyond all 64-bit numbers. -/
def overflows (digits : List Char) (places : Nat) (exponent : Int) : Bool :=
  let mantissa := ofDigits 10 digits
  let size := (Nat.toDigits 10 mantissa).length
  let scale := exponent - places
  if mantissa = 0 then false
  else if 310 < size + scale then true
  else if size + scale < 300 then false
  else if 0 ≤ scale then decide (overflowFrom ≤ mantissa * Nat.pow 10 scale.toNat)
  else decide (overflowFrom * Nat.pow 10 (-scale).toNat ≤ mantissa)

/-- The digits behind a point, none without one. -/
def fraction? : List Char → Option (List Char × List Char)
  | '.' :: rest => grouped? Char.isDigit rest
  | s => some ([], s)

def exponent? (s : List Char) : Option (Option Int × List Char) :=
  let behind (rest : List Char) := do
    let (sign, rest) := sign? rest
    let (digits, rest) ← grouped? Char.isDigit rest
    let n : Int := ofDigits 10 digits
    return (some (if sign = some true then -n else n), rest)
  match s with
  | 'e' :: rest => behind rest
  | 'E' :: rest => behind rest
  | s => some (none, s)

def decimal? (s : List Char) : Option (Document × List Char) := do
  let (sign, s) := sign? s
  let negative := sign = some true
  let (whole, rest) ← wholeDigits? s
  let (fraction, rest) ← fraction? rest
  let (exponent, rest) ← exponent? rest
  if fraction.isEmpty ∧ exponent.isNone then
    let n : Int := ofDigits 10 whole
    return (← wholeNumber? (if negative then -n else n), rest)
  else if ¬ negative ∧ overflows (whole ++ fraction) fraction.length (exponent.getD 0) then none
  else return (.real, rest)

/-- Infinity and what is no number have names, with or without a sign. -/
def named? (s : List Char) : Option (Document × List Char) :=
  match (sign? s).2 with
  | 'i' :: 'n' :: 'f' :: rest => some (.real, rest)
  | 'n' :: 'a' :: 'n' :: rest => some (.real, rest)
  | _ => none

def number? (s : List Char) : Option (Document × List Char) :=
  match s with
  | '0' :: 'x' :: rest => based? 16 (fun c => (hexValue? c).isSome) rest
  | '0' :: 'o' :: rest => based? 8 (fun c => '0' ≤ c && c ≤ '7') rest
  | '0' :: 'b' :: rest => based? 2 (fun c => c == '0' || c == '1') rest
  | s =>
    match named? s with
    | some result => some result
    | none => decimal? s

/-- Exactly so many digits, as a number between bounds. -/
def field? (width least most : Nat) (s : List Char) : Option (Nat × List Char) :=
  let digits := s.take width
  if digits.length = width ∧ digits.all Char.isDigit then
    let n := ofDigits 10 digits
    if least ≤ n ∧ n ≤ most then some (n, s.drop width) else none
  else none

def mark? (mark : Char) : List Char → Option (List Char)
  | c :: rest => if c = mark then some rest else none
  | [] => none

def daysIn (year month : Nat) : Nat :=
  if month = 2 then
    if year % 4 = 0 ∧ (year % 100 ≠ 0 ∨ year % 400 = 0) then 29 else 28
  else if month ∈ [4, 6, 9, 11] then 30
  else 31

def skipDate? (s : List Char) : Option (List Char) := do
  let (year, rest) ← field? 4 0 9999 s
  let (month, rest) ← field? 2 1 12 (← mark? '-' rest)
  let (_, rest) ← field? 2 1 (daysIn year month) (← mark? '-' rest)
  return rest

def skipTime? (s : List Char) : Option (List Char) := do
  let (_, rest) ← field? 2 0 23 s
  let (_, rest) ← field? 2 0 59 (← mark? ':' rest)
  let (_, rest) ← field? 2 0 60 (← mark? ':' rest)
  match rest with
  | '.' :: c :: more => if c.isDigit then return more.dropWhile Char.isDigit else return rest
  | _ => return rest

/-- The distance from universal time; none is written for a local time. -/
def skipOffset (s : List Char) : List Char :=
  let distance (rest : List Char) := do
    let (_, rest) ← field? 2 0 23 rest
    let (_, rest) ← field? 2 0 59 (← mark? ':' rest)
    return rest
  match s with
  | 'Z' :: rest => rest
  | 'z' :: rest => rest
  | '+' :: rest => (distance rest).getD s
  | '-' :: rest => (distance rest).getD s
  | _ => s

def moment? (s : List Char) : Option (Document × List Char) :=
  match skipDate? s with
  | some rest =>
    match rest with
    | c :: more =>
      if c = 'T' ∨ c = 't' ∨ c = ' ' then
        match skipTime? more with
        | some behind => some (.moment, skipOffset behind)
        | none => some (.moment, rest)
      else some (.moment, rest)
    | [] => some (.moment, [])
  | none => (skipTime? s).map (.moment, ·)

end Toml
end BrickHost
