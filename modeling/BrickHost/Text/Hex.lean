/-! Numbers and bytes in hexadecimal, always with lowercase digits. -/

namespace BrickHost

def hexDigit (n : Nat) : Char :=
  if n < 10 then Char.ofNat (48 + n) else Char.ofNat (87 + n)

def hexByte (b : UInt8) : List Char :=
  [hexDigit (b.toNat / 16), hexDigit (b.toNat % 16)]

def hexBytes (bytes : List UInt8) : String :=
  String.ofList (bytes.flatMap hexByte)

def hexNat (n : Nat) : List Char :=
  Nat.toDigits 16 n

/-- The digits of a number, at least four of them. -/
def hexQuad (n : Nat) : List Char :=
  let digits := hexNat n
  List.replicate (4 - digits.length) '0' ++ digits

/-- A byte the way messages name it, as in `0x9d`. -/
def byteName (b : UInt8) : String :=
  "0x" ++ String.ofList (hexByte b)

def hexValue? (c : Char) : Option Nat :=
  if '0' ≤ c ∧ c ≤ '9' then some (c.toNat - 48)
  else if 'a' ≤ c ∧ c ≤ 'f' then some (c.toNat - 87)
  else if 'A' ≤ c ∧ c ≤ 'F' then some (c.toNat - 55)
  else none

/-- The number that a run of digits stands for, `none` if one is no digit. -/
def hexNumber? (digits : List Char) : Option Nat :=
  digits.foldlM (fun n c => (hexValue? c).map (16 * n + ·)) 0

def unhexBytes? : List Char → Option (List UInt8)
  | [] => some []
  | [_] => none
  | hi :: lo :: rest => do
    let h ← hexValue? hi
    let l ← hexValue? lo
    return UInt8.ofNat (16 * h + l) :: (← unhexBytes? rest)

end BrickHost
