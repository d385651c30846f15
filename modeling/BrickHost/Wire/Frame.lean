import BrickHost.Wire.Error

/-! Frames on a byte stream. Each body follows its length, two bytes with the low byte first. A
body that makes no sense costs one frame; a length above the limit costs the stream, because
nothing tells any more where the next frame starts. -/

namespace BrickHost

/-- What the front of a stream holds. -/
inductive FrameScan where
  | frame (body rest : List UInt8)
  /-- The bytes so far are the beginning of a frame. -/
  | short
  | oversized (size : Nat)
  deriving DecidableEq, Repr

/-- The frames of a stretch of the stream, the error that ended it, and what was not consumed. -/
structure FrameSplit where
  frames : List (List UInt8)
  error : Option DecodeError
  rest : List UInt8
  deriving DecidableEq, Repr

namespace Frame

/-- A stream carries no body longer than its two length bytes can say. -/
def limit (max : Nat) : Nat :=
  Nat.min max 65535

def encode (body : List UInt8) : List UInt8 :=
  [UInt8.ofNat body.length, UInt8.ofNat (body.length / 256)] ++ body

def encode? (max : Nat) (body : List UInt8) : Except EncodeError (List UInt8) :=
  if limit max < body.length then .error (.frameTooLarge body.length (limit max))
  else .ok (encode body)

def scan (max : Nat) : List UInt8 → FrameScan
  | lo :: hi :: rest =>
    let size := lo.toNat + 256 * hi.toNat
    let body := rest.take size
    if limit max < size then .oversized size
    else if body.length < size then .short
    else .frame body (rest.drop size)
  | _ => .short

def splitWith (max : Nat) : Nat → List UInt8 → FrameSplit
  | 0, bytes => ⟨[], none, bytes⟩
  | fuel + 1, bytes =>
    match scan max bytes with
    | .short => ⟨[], none, bytes⟩
    | .oversized size => ⟨[], some (.frameTooLarge size (limit max)), bytes⟩
    | .frame body rest =>
      let later := splitWith max fuel rest
      ⟨body :: later.frames, later.error, later.rest⟩

/-- Takes frames until no whole one is left. Each is at least as long as its prefix, so the length
of the stretch bounds their number. -/
def split (max : Nat) (bytes : List UInt8) : FrameSplit :=
  splitWith max (bytes.length + 1) bytes

end Frame
end BrickHost
