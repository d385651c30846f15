import BrickHost.Scheduler.Request
import BrickHost.Scheduler.State
import BrickHost.Wire.Stream

/-! The scheduler of one link, as plain data, and what others can do to it. Requests are posted to
a mailbox; the dispatcher moves them into two lanes and serves one at a time. -/

namespace BrickHost

structure SchedulerConfig where
  /-- Usually the id of the brick. -/
  label : String := "brick"
  defaultTimeout : Duration := .ofMillis 2000
  maxFrame : Nat := Packet.defaultLimit
  /-- The longest that one recovery may take. -/
  recoveryTimeout : Duration := .ofMillis 2000
  deriving DecidableEq, Repr

/-- An accepted request. The ticket names it to whoever waits for its outcome. -/
structure Submission where
  ticket : Nat
  request : Request
  enqueuedAt : Nat
  deriving DecidableEq, Repr

structure Job where
  submission : Submission
  counter : UInt16
  startedAt : Nat
  deadline : Nat
  deriving DecidableEq, Repr

inductive Phase where
  | ready
  | waiting
  | writing (job : Job) (rest : List UInt8)
  | awaiting (job : Job)
  /-- A recovery is running; afterwards the link closes if there is a reason for it. -/
  | recovering (job : Job) (reason : OrphanReason) (closure : Option String)
  | closing (deadline : Nat)
  | terminated
  deriving DecidableEq, Repr

structure Scheduler where
  config : SchedulerConfig
  line : Line
  state : SchedulerState := .idle
  /-- Disposal was asked for. -/
  cancelled : Bool := false
  /-- Accepted and not yet taken by the dispatcher. -/
  queued : Nat := 0
  /-- How many can still post requests. -/
  handles : Nat := 1
  /-- The mailbox has not been found empty and without handles. -/
  receiving : Bool := true
  mailbox : List Submission := []
  high : List Submission := []
  normal : List Submission := []
  nextTicket : Nat := 0
  nextCounter : UInt16 := 0
  inbox : Inbox := {}
  phase : Phase := .ready
  /-- The running recovery has ended. -/
  recovered : Bool := false
  deriving DecidableEq, Repr

namespace Scheduler

def snapshot (s : Scheduler) : RuntimeSnapshot :=
  ⟨s.state, s.queued⟩

def isTerminated (s : Scheduler) : Bool :=
  match s.phase with
  | .terminated => true
  | _ => false

/-- Requests and bytes are welcome. -/
def waitsForInput (s : Scheduler) : Bool :=
  match s.phase with
  | .waiting | .awaiting _ => true
  | _ => false

/-- Posts a request and gives its ticket; a disposed scheduler takes none. -/
def submit (s : Scheduler) (now : Nat) (r : Request) : Option (Scheduler × Nat) :=
  if s.state.isDisposed then none
  else
    let post : Submission := ⟨s.nextTicket, r, now⟩
    some ({ s with
      queued := s.queued + 1
      mailbox := s.mailbox ++ [post]
      nextTicket := s.nextTicket + 1 }, s.nextTicket)

def dispose (s : Scheduler) : Scheduler :=
  { s with state := .disposed, cancelled := true }

def retain (s : Scheduler) : Scheduler :=
  { s with handles := s.handles + 1 }

def release (s : Scheduler) : Scheduler :=
  { s with handles := s.handles - 1 }

/-- Tells the dispatcher that the recovery it waits for has ended. -/
def endRecovery (s : Scheduler) : Scheduler :=
  { s with recovered := true }

end Scheduler
end BrickHost
