import BrickHost.Wire.Error
import BrickHost.Wire.Kind
import BrickHost.Wire.System

/-! Packets. A frame body is a counter of two bytes, low byte first, a kind byte, and the payload.
The counter is chosen by the host and echoed by the brick; a reply carries nothing else that ties
it to its command. -/

namespace BrickHost

def wordBytes (w : UInt16) : List UInt8 :=
  [w.toUInt8, (w >>> 8).toUInt8]

def wordOfBytes (lo hi : UInt8) : UInt16 :=
  lo.toUInt16 ||| (hi.toUInt16 <<< 8)

/-- What stands before every payload. -/
structure Header where
  counter : UInt16
  kind : UInt8
  deriving DecidableEq, Repr

namespace Header

def size : Nat := 3

def encode (h : Header) : List UInt8 :=
  wordBytes h.counter ++ [h.kind]

def decode : List UInt8 → Except DecodeError Header
  | lo :: hi :: kind :: _ => .ok ⟨wordOfBytes lo hi, kind⟩
  | bytes => .error (.truncated bytes.length size)

end Header

inductive PacketKind where
  | command (k : CommandKind)
  | reply (k : ReplyKind)
  deriving DecidableEq, Repr

namespace PacketKind

def byte : PacketKind → UInt8
  | command k => k.byte
  | reply k => k.byte

def title : PacketKind → String
  | command k => k.title
  | reply k => k.title

def diagnostic : PacketKind → String
  | command k => appliedText "Command" k.name
  | reply k => appliedText "Reply" k.name

end PacketKind

structure Packet where
  counter : UInt16
  kind : PacketKind
  payload : List UInt8
  deriving DecidableEq, Repr

namespace Packet

/-- The largest frame body unless a link says otherwise. -/
def defaultLimit : Nat := 1024

def defaultPayload : Nat := defaultLimit - Header.size

def command (counter : UInt16) (kind : CommandKind) (payload : List UInt8) : Packet :=
  ⟨counter, .command kind, payload⟩

def reply (counter : UInt16) (kind : ReplyKind) (payload : List UInt8) : Packet :=
  ⟨counter, .reply kind, payload⟩

def size (p : Packet) : Nat :=
  Header.size + p.payload.length

def body (p : Packet) : List UInt8 :=
  Header.encode ⟨p.counter, p.kind.byte⟩ ++ p.payload

def toBytes (p : Packet) (limit : Nat) : Except EncodeError (List UInt8) :=
  if limit < p.size then .error (.frameTooLarge p.size limit) else .ok p.body

def decodeReply (bytes : List UInt8) : Except DecodeError Packet :=
  match Header.decode bytes with
  | .error e => .error e
  | .ok h =>
    match ReplyKind.ofByte? h.kind with
    | none => .error (.unknownKind h.kind)
    | some k => .ok (reply h.counter k (bytes.drop Header.size))

def decodeCommand (bytes : List UInt8) : Except DecodeError Packet :=
  match Header.decode bytes with
  | .error e => .error e
  | .ok h =>
    match CommandKind.ofByte? h.kind with
    | none => .error (.unknownKind h.kind)
    | some k => .ok (command h.counter k (bytes.drop Header.size))

/-- The kind of a reply, `none` for a command. -/
def replyKind? (p : Packet) : Option ReplyKind :=
  match p.kind with
  | .command _ => none
  | .reply k => some k

def isError (p : Packet) : Bool :=
  p.replyKind?.any (·.isError)

/-- The echoed command and its status, in a system reply long enough to hold both. -/
def systemStatus? (p : Packet) : Option (UInt8 × ReplyStatus) :=
  if p.replyKind?.any (·.isSystem) then
    match p.payload with
    | echo :: status :: _ => some (echo, ReplyStatus.ofByte status)
    | _ => none
  else none

def diagnostic (p : Packet) : String :=
  recordText "Packet" [("message_counter", toString p.counter.toNat), ("kind", p.kind.diagnostic),
    ("payload_len", toString p.payload.length)]

theorem length_body (p : Packet) : p.body.length = p.size := by
  simp [body, size, Header.encode, Header.size, wordBytes]
  omega

end Packet
end BrickHost
