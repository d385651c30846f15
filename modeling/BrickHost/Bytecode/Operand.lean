import BrickHost.Wire.Error
import BrickHost.Wire.Packet

/-! Operands of the brick's virtual machine. A short one is a single byte: two tag bits, then six
bits of constant, or one bit that tells global from local and five of offset. A long one is a tag
byte followed by one, two or four bytes, or by a text up to its closing zero byte. -/

namespace BrickHost

/-- What an operand stands for, whatever its encoding. -/
inductive OperandMeaning where
  | const (value : Int)
  | text (value : String)
  | localAt (offset : Nat)
  | globalAt (offset : Nat)
  deriving DecidableEq, Repr

/-- A value with the encoding chosen for it. The names are those of the machine's assembler; an
`x` leaves the choice among the sizes to the encoder. -/
inductive Operand where
  | lc0 (value : Int8)
  | lc1 (value : Int8)
  | lc2 (value : Int16)
  | lc4 (value : Int32)
  | lcx (value : Int32)
  | lcs (value : String)
  | lv0 (offset : UInt8)
  | lvx (offset : UInt16)
  | gv0 (offset : UInt8)
  | gv1 (offset : UInt8)
  | gv2 (offset : UInt16)
  | gvx (offset : UInt16)
  deriving DecidableEq

namespace Operand

def meaning : Operand → OperandMeaning
  | lc0 v | lc1 v => .const v.toInt
  | lc2 v => .const v.toInt
  | lc4 v | lcx v => .const v.toInt
  | lcs s => .text s
  | lv0 o => .localAt o.toNat
  | lvx o => .localAt o.toNat
  | gv0 o | gv1 o => .globalAt o.toNat
  | gv2 o | gvx o => .globalAt o.toNat

def quadBytes (w : UInt32) : List UInt8 :=
  [w.toUInt8, (w >>> 8).toUInt8, (w >>> 16).toUInt8, (w >>> 24).toUInt8]

def isShort (value : Int) : Bool :=
  -31 ≤ value && value ≤ 31

def constant (value : Int32) : List UInt8 :=
  let v := value.toInt
  if isShort v then [value.toUInt32.toUInt8 &&& 0x3f]
  else if -128 ≤ v ∧ v ≤ 127 then [0x81, value.toUInt32.toUInt8]
  else if -32768 ≤ v ∧ v ≤ 32767 then 0x82 :: wordBytes value.toUInt32.toUInt16
  else 0x83 :: quadBytes value.toUInt32

def shortVariable (tag : UInt8) (name : String) (offset : UInt8) :
    Except EncodeError (List UInt8) :=
  if 31 < offset.toNat then .error (.operandOutOfRange name offset.toNat)
  else .ok [tag ||| offset]

def variableAt (shortTag longTag : UInt8) (offset : UInt16) : List UInt8 :=
  if offset.toNat ≤ 31 then [shortTag ||| offset.toUInt8]
  else if offset.toNat ≤ 255 then [longTag ||| 1, offset.toUInt8]
  else (longTag ||| 2) :: wordBytes offset

def encode : Operand → Except EncodeError (List UInt8)
  | lc0 v =>
    if isShort v.toInt then .ok [v.toUInt8 &&& 0x3f]
    else .error (.operandOutOfRange "LC0" v.toInt)
  | lc1 v => .ok [0x81, v.toUInt8]
  | lc2 v => .ok (0x82 :: wordBytes v.toUInt16)
  | lc4 v => .ok (0x83 :: quadBytes v.toUInt32)
  | lcx v => .ok (constant v)
  | lcs s =>
    let bytes := s.toUTF8.toList
    if 0 ∈ bytes then .error .interiorNul else .ok (0x84 :: (bytes ++ [0]))
  | lv0 o => shortVariable 0x40 "LV0" o
  | lvx o => .ok (variableAt 0x40 0xc0 o)
  | gv0 o => shortVariable 0x60 "GV0" o
  | gv1 o => .ok [0xe1, o]
  | gv2 o => .ok (0xe2 :: wordBytes o)
  | gvx o => .ok (variableAt 0x60 0xe0 o)

end Operand
end BrickHost
