import BrickHost.Text.Quoted

/-! Why bytes could not be produced or understood. -/

namespace BrickHost

inductive EncodeError where
  /-- The packet does not fit the largest frame of the link. -/
  | frameTooLarge (size max : Nat)
  /-- The value does not fit the named encoding. -/
  | operandOutOfRange (encoding : String) (value : Int)
  /-- Text constants end with a zero byte and hold none. -/
  | interiorNul
  deriving DecidableEq, Repr

inductive DecodeError where
  | truncated (length least : Nat)
  | unknownKind (byte : UInt8)
  /-- A length prefix above the limit: the stream cannot be followed any further. -/
  | frameTooLarge (size max : Nat)
  deriving DecidableEq, Repr

namespace EncodeError

def message : EncodeError → String
  | frameTooLarge size max => s!"frame too large: {size} bytes (max {max})"
  | operandOutOfRange encoding value => s!"operand out of range for {encoding}: {value}"
  | interiorNul => "string constant contains an interior NUL byte"

def diagnostic : EncodeError → String
  | frameTooLarge size max =>
    recordText "FrameTooLarge" [("size", toString size), ("max", toString max)]
  | operandOutOfRange encoding value =>
    recordText "OperandOutOfRange" [("encoding", quoted encoding), ("value", toString value)]
  | interiorNul => "InteriorNul"

end EncodeError

namespace DecodeError

def message : DecodeError → String
  | truncated length least => s!"truncated reply: {length} bytes (need at least {least})"
  | unknownKind b => s!"unknown reply kind: {byteName b}"
  | frameTooLarge size max => s!"inbound frame too large: {size} bytes (max {max})"

def diagnostic : DecodeError → String
  | truncated length least =>
    recordText "Truncated" [("len", toString length), ("min", toString least)]
  | unknownKind b => appliedText "UnknownKind" (toString b.toNat)
  | frameTooLarge size max =>
    recordText "FrameTooLarge" [("size", toString size), ("max", toString max)]

end DecodeError
end BrickHost
