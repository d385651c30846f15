/-! What a scheduler shows of itself. -/

namespace BrickHost

/-- Idle and running alternate; disposed is final. -/
inductive SchedulerState where
  | idle
  | running
  | disposed
  deriving DecidableEq, Repr

namespace SchedulerState

def title : SchedulerState → String
  | idle => "idle"
  | running => "running"
  | disposed => "disposed"

def ofTitle? (s : String) : Option SchedulerState :=
  [idle, running, disposed].find? (·.title == s)

def isDisposed : SchedulerState → Bool
  | disposed => true
  | _ => false

/-- Takes up another state unless disposed. -/
def moveTo (s target : SchedulerState) : SchedulerState :=
  match s with
  | disposed => disposed
  | _ => target

end SchedulerState

structure RuntimeSnapshot where
  state : SchedulerState
  queued : Nat
  deriving DecidableEq, Repr

/-- The queued requests, and the one under way while the scheduler is running. -/
def RuntimeSnapshot.busy (s : RuntimeSnapshot) : Nat :=
  if s.state = .running then s.queued + 1 else s.queued

/-- The count fits 64 bits. -/
def RuntimeSnapshot.isCountable (s : RuntimeSnapshot) : Bool :=
  decide (s.busy < UInt64.size)

end BrickHost
