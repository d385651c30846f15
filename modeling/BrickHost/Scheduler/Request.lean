import BrickHost.Error
import BrickHost.Wire.Packet

/-! What callers hand to a scheduler and what they get back. -/

namespace BrickHost

inductive Lane where
  | normal
  /-- Served before anything on the normal lane. -/
  | high
  deriving DecidableEq, Repr

def Lane.title : Lane → String
  | normal => "normal"
  | high => "high"

def Lane.ofTitle? (s : String) : Option Lane :=
  [Lane.normal, .high].find? (·.title == s)

structure Request where
  id : String
  lane : Lane := .normal
  /-- Doing it twice is harmless, so an unknown outcome needs no recovery. -/
  idempotent : Bool := false
  /-- `none` stands for the default of the scheduler. -/
  timeout : Option Duration := none
  kind : CommandKind
  payload : List UInt8
  deriving DecidableEq, Repr

namespace Request

/-- A request whose id is made from a running number. -/
def numbered (n : Nat) (kind : CommandKind) (payload : List UInt8) : Request where
  id := s!"cmd-{n}"
  kind := kind
  payload := payload

def packet (r : Request) (counter : UInt16) : Packet :=
  Packet.command counter r.kind r.payload

end Request

/-- A request together with the reply that answered it, accepted or rejected by the brick. -/
structure CommandResult where
  request : String
  counter : UInt16
  reply : Packet
  enqueuedAt : Duration
  startedAt : Duration
  finishedAt : Duration
  duration : Duration
  deriving DecidableEq, Repr

namespace CommandResult

/-- Whole milliseconds, in 64 bits. -/
def durationMillis (r : CommandResult) : UInt64 :=
  UInt64.ofNat r.duration.millis

def queueWait (r : CommandResult) : Duration :=
  r.startedAt.sub r.enqueuedAt

def rejectionDetail (r : CommandResult) : String :=
  match r.reply.systemStatus? with
  | some (echo, status) => s!"command {byteName echo} status {status.name}"
  | none => "request " ++ r.request

/-- Refuses a reply in which the brick rejected the command. -/
def ensureSuccess (r : CommandResult) : Except LinkError CommandResult :=
  match r.reply.replyKind? with
  | none => .error (.other "result carries a command packet")
  | some kind =>
    if kind.isError then .error (.protocol kind r.rejectionDetail) else .ok r

end CommandResult

abbrev Outcome := Except LinkError CommandResult

/-- What recovery is told about the request it follows up. -/
structure OrphanContext where
  request : String
  lane : Lane
  reason : OrphanReason
  deriving DecidableEq, Repr

end BrickHost
