import BrickHost.Identity
import BrickHost.Scheduler.State

/-! Copies of the records of bricks for readers, and the order in which they are listed. -/

namespace BrickHost

inductive BrickStatus where
  | connecting
  | ready
  | unavailable
  | error
  deriving DecidableEq, Repr

namespace BrickStatus

def title : BrickStatus → String
  | connecting => "CONNECTING"
  | ready => "READY"
  | unavailable => "UNAVAILABLE"
  | error => "ERROR"

/-- A session is expected to exist. -/
def isLive : BrickStatus → Bool
  | connecting | ready => true
  | unavailable | error => false

end BrickStatus

structure BrickSnapshot where
  identity : BrickIdentity
  status : BrickStatus
  isActive : Bool
  lastSeen : Option String
  lastError : Option String
  lastOperation : Option String
  lastOperationAt : Option String
  busy : Nat
  schedulerState : Option SchedulerState
  deriving DecidableEq, Repr

/-- How the reason of an unavailable brick begins when its link dropped on its own. -/
def linkLossStart : String := "Connection lost:"

/-- The reason of a brick that the user disconnected. -/
def userDisconnectReason : String := "Disconnected by user."

def isLinkLoss (reason : String) : Bool :=
  linkLossStart.toList.isPrefixOf reason.toList

namespace BrickSnapshot

def id (s : BrickSnapshot) : String := s.identity.id

/-- Only such a brick is reconnected without being asked for. -/
def lostLink (s : BrickSnapshot) : Bool :=
  s.status == .unavailable && s.lastError.any isLinkLoss

/-- The active brick first, then by display name and id. -/
def le (a b : BrickSnapshot) : Bool :=
  match a.isActive, b.isActive with
  | true, false => true
  | false, true => false
  | _, _ =>
    decide (a.identity.displayName < b.identity.displayName) ||
      (a.identity.displayName == b.identity.displayName && decide (a.id ≤ b.id))

def toDocument (s : BrickSnapshot) : Document :=
  .table [("brickId", .text s.id), ("displayName", .text s.identity.displayName),
    ("role", s.identity.role.toDocument), ("transport", s.identity.transport.toDocument),
    ("rootPath", .text s.identity.rootPath), ("status", .text s.status.title),
    ("isActive", .bool s.isActive), ("lastSeenAtIso", .ofOption s.lastSeen),
    ("lastError", .ofOption s.lastError), ("lastOperation", .ofOption s.lastOperation),
    ("lastOperationAtIso", .ofOption s.lastOperationAt), ("busyCommandCount", .integer s.busy),
    ("schedulerState", .ofOption (s.schedulerState.map (·.title)))]

end BrickSnapshot
end BrickHost
