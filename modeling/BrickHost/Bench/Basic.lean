import BrickHost.Bench.Brick
import BrickHost.Bench.Event
import BrickHost.Monitor
import BrickHost.Poller.Step
import BrickHost.Registry.Call
import BrickHost.Scheduler.Recovery

/-! A bench: a fleet whose links end at simulated bricks, with everyone who works on it, in virtual
time. Everyone who has something to do stands in one queue and is served in turn; the clock moves
only when nobody has. -/

namespace BrickHost

/-- How the unknown outcomes of a link are followed up. -/
structure RecoveryPlan where
  delay : Nat := 0
  silent : Bool := true
  deriving DecidableEq, Repr

/-- How a plan of one's own is shown. -/
def RecoveryPlan.diagnostic : String :=
  "FnRecovery \x7b .. \x7d"

def RecoveryPlan.conduct (p : RecoveryPlan) : Conduct :=
  .returns p.delay (.ok ())

inductive FarEnd where
  | scripted (brick : Brick)
  /-- Worked by hand; reads everything after each step, unless told not to. -/
  | manual (reads endSeen : Bool)
  /-- A brick with a script that was told to stop, and does so when it is its turn. -/
  | leaving
  | gone
  deriving DecidableEq, Repr

/-- What a dispatcher has asked to be told of. It is told once, and asks again when it next waits
for the same thing; what it asked for before a request is under way stays asked for meanwhile. -/
structure Attention where
  posts : Bool := false
  arrivals : Bool := false
  deriving DecidableEq, Repr

/-- What belongs to a link besides its scheduler. -/
structure Port where
  name : String
  farEnd : FarEnd
  attention : Attention := {}
  held : Bool := true
  plan : RecoveryPlan := {}
  recovery : Option Recovery := none
  deriving DecidableEq, Repr

inductive CallerPhase where
  | fresh
  | waiting (ticket : Nat)
  | answered (outcome : Outcome)
  | done

/-- Sends one request and records the outcome. -/
structure Caller where
  name : String
  link : LinkId
  request : Request
  phase : CallerPhase := .fresh
  aborted : Bool := false

inductive ReconnectAct where
  | fails
  | nothing
  /-- Notes another loss, then fails. -/
  | remarks
  | opens (script : List Reaction)
  | neverEnds
  deriving DecidableEq, Repr

structure ReconnectPlan where
  delay : Nat := 0
  act : ReconnectAct
  deriving DecidableEq, Repr

inductive Reconnector where
  | absent
  /-- By a script, which each brick goes through on its own. -/
  | scripted (plans : List ReconnectPlan)
  | dialing
  deriving DecidableEq, Repr

structure Watch where
  poller : Poller
  reconnector : Reconnector
  /-- What is left of the script for the bricks that have begun it. -/
  progress : List (String × List ReconnectPlan) := []

inductive AttemptPhase where
  | fresh
  | pausing (until_ : Nat)
  | stuck
  | done
  deriving DecidableEq, Repr

structure Attempt where
  watch : Nat
  brick : String
  /-- `none` for a dial. -/
  plan : Option ReconnectPlan
  phase : AttemptPhase := .fresh
  deriving DecidableEq, Repr

inductive Task where
  | dispatcher (link : LinkId)
  | brick (link : LinkId)
  | recovery (link : LinkId)
  | caller (index : Nat)
  | watch (index : Nat)
  | attempt (index : Nat)
  | overseer (index : Nat)
  deriving DecidableEq, Repr

/-- A task has to be looked at when the moment comes. The key tells the appointment from others of
the same task. -/
structure Alarm where
  task : Task
  moment : Nat
  key : Nat
  deriving DecidableEq, Repr

inductive DialPurpose where
  | connect
  | reconnect
  | supervised (index : Nat)
  | attempt (index : Nat)
  deriving DecidableEq, Repr

structure Dial where
  brick : String
  purpose : DialPurpose
  failure : LinkError
  deriving DecidableEq, Repr

/-- Runs the monitor once, with a poller of its own. -/
structure Overseer where
  supervision : Supervision
  /-- The watch of the poller that was started. -/
  watch : Option Nat := none
  deriving DecidableEq, Repr

/-- What happens when the status of a brick has changed. -/
inductive RefreshSink where
  | records
  | prints
  | ignores
  deriving DecidableEq, Repr

structure Bench where
  stamp : String
  settings : Settings := {}
  sink : RefreshSink := .records
  now : Nat := 0
  fleet : Fleet Handle := {}
  ports : List Port := []
  callers : List Caller := []
  watches : List Watch := []
  attempts : List Attempt := []
  overseers : List Overseer := []
  stopAsked : Bool := false
  dials : List Dial := []
  /-- The poller that the operator holds. -/
  heldWatch : Option Nat := none
  /-- The request that the operator waits for, and its outcome. -/
  expected : Option (LinkId × Nat) := none
  received : Option Outcome := none
  ready : List Task := []
  alarms : List Alarm := []
  /-- The latest first. -/
  records : List BenchRecord := []

namespace Bench

def record (b : Bench) (e : BenchEvent) : Bench :=
  { b with records := ⟨b.now, e⟩ :: b.records }

def port? (b : Bench) (link : LinkId) : Option Port :=
  b.ports[link]?

def farEnd? (b : Bench) (link : LinkId) : Option FarEnd :=
  (b.port? link).map (·.farEnd)

def portName (b : Bench) (link : LinkId) : String :=
  ((b.port? link).map (·.name)).getD ""

def setPort (b : Bench) (link : LinkId) (p : Port) : Bench :=
  { b with ports := b.ports.set link p }

def setFarEnd (b : Bench) (link : LinkId) (farEnd : FarEnd) : Bench :=
  { b with ports := b.ports.modify link fun p => { p with farEnd := farEnd } }

def updateScheduler (b : Bench) (link : LinkId) (change : Scheduler → Scheduler) : Bench :=
  { b with fleet := b.fleet.update link change }

def setCaller (b : Bench) (index : Nat) (c : Caller) : Bench :=
  { b with callers := b.callers.set index c }

def setAttempt (b : Bench) (index : Nat) (a : Attempt) : Bench :=
  { b with attempts := b.attempts.set index a }

def setWatch (b : Bench) (index : Nat) (w : Watch) : Bench :=
  { b with watches := b.watches.set index w }

def withRegistry (b : Bench) (change : Registry Handle → Registry Handle) : Bench :=
  { b with fleet := b.fleet.withRegistry change }

def refresh (b : Bench) (id : String) : Bench :=
  match b.sink with
  | .records => b.record (.refreshed id)
  | .prints => (b.fleet.registry.report id).foldl (fun b line => b.record (.printed line)) b
  | .ignores => b

/-- The dispatcher of a link, and the brick at its far end, if it has one with a script. -/
def scripted? (b : Bench) (link : LinkId) : Option (Scheduler × Brick) := do
  let s ← b.fleet.scheduler? link
  match b.farEnd? link with
  | some (.scripted brick) => return (s, brick)
  | _ => none

def watchEnded (b : Bench) (index : Nat) : Bool :=
  b.watches[index]?.all (·.poller.hasEnded)

def superviseStep (b : Bench) (o : Overseer) :
    Option (Supervision × Fleet Handle × List SupervisionSignal) :=
  o.supervision.step b.fleet b.stopAsked (o.watch.all b.watchEnded)

/-- Whether a task that hears of something could move on. -/
def canMove (b : Bench) : Task → Bool
  | .dispatcher link => (b.fleet.scheduler? link).any fun s => (s.step b.now).isSome
  | .brick link =>
    b.farEnd? link == some .leaving ||
      (b.scripted? link).any fun (s, brick) => (brick.step s.line b.now).isSome
  | .overseer index => b.overseers[index]?.any fun o => (b.superviseStep o).isSome
  | _ => true

def call (b : Bench) (t : Task) : Bench :=
  if t ∈ b.ready then b else { b with ready := b.ready ++ [t] }

def wake (b : Bench) (t : Task) : Bench :=
  if b.canMove t then b.call t else b

def wakeOverseers (b : Bench) : Bench :=
  (List.range b.overseers.length).foldl (fun b i => b.wake (.overseer i)) b

/-- Calls the dispatcher of a link if it has asked for what has happened. -/
def tell (b : Bench) (link : LinkId) (asked : Attention → Bool) (told : Attention → Attention) :
    Bench :=
  match b.port? link with
  | some p =>
    if asked p.attention then
      (b.setPort link { p with attention := told p.attention }).call (.dispatcher link)
    else b
  | none => b

/-- A request was posted to a link, or nobody can post one any more. -/
def tellPost (b : Bench) (link : LinkId) : Bench :=
  b.tell link (·.posts) fun a => { a with posts := false }

def tellArrival (b : Bench) (link : LinkId) : Bench :=
  b.tell link (·.arrivals) fun a => { a with arrivals := false }

/-- The far end of a link has changed its line. Room and the end of the line concern a dispatcher
that cannot go on without them, bytes one that has asked for them. -/
def replaceLine (b : Bench) (link : LinkId) (line : Line) : Bench :=
  match b.fleet.scheduler? link with
  | none => b
  | some s =>
    let grown := s.line.incoming.bytes.length < line.incoming.bytes.length
    let freed := s.line.outgoing.room < line.outgoing.room
    let ended := line.incoming.closed && !s.line.incoming.closed
    let b := b.updateScheduler link fun s => { s with line := line }
    let b := if grown then b.tellArrival link else b
    if freed || ended then b.wake (.dispatcher link) else b

def release (b : Bench) (link : LinkId) : Bench :=
  let b := b.updateScheduler link (·.release)
  if (b.fleet.scheduler? link).any (·.handles == 0) then b.tellPost link else b

/-- A dispatcher that waits for input asks for all that it waits for. -/
def listen (b : Bench) : Task → Bench
  | .dispatcher link =>
    if (b.fleet.scheduler? link).any (·.waitsForInput) then
      { b with ports := b.ports.modify link fun p => { p with attention := ⟨true, true⟩ } }
    else b
  | _ => b

def link? (b : Bench) (name : String) : Option LinkId :=
  ((List.range b.ports.length).filter fun i => b.ports[i]?.any (·.name == name)).getLast?

def dropHandle (b : Bench) (link : LinkId) : Bench :=
  match b.port? link with
  | some p =>
    if p.held then (b.setPort link { p with held := false }).release link else b
  | none => b

def cutOff (b : Bench) (link : LinkId) : Bench :=
  ((b.setFarEnd link .gone).updateScheduler link fun s => { s with line := s.line.close }).wake
    (.dispatcher link)

/-- Takes the far end of a link away; a brick with a script goes when it is its turn. -/
def hangUp (b : Bench) (link : LinkId) : Bench :=
  match b.farEnd? link with
  | some (.scripted _) => (b.setFarEnd link .leaving).wake (.brick link)
  | some (.manual _ _) => b.cutOff link
  | _ => b

def isManual (b : Bench) (link : LinkId) : Bool :=
  match b.farEnd? link with
  | some (.manual _ _) => true
  | _ => false

def isScripted (b : Bench) (link : LinkId) : Bool :=
  match b.farEnd? link with
  | some (.scripted _) => true
  | _ => false

/-- Lets go of an older link of the same name, and of its far end if that is worked by hand. -/
def forgetLink (b : Bench) (link : LinkId) : Bench :=
  let b := if b.isManual link then b.cutOff link else b
  b.dropHandle link

def openLink (b : Bench) (config : SchedulerConfig) (line : Line) (p : Port) : Bench × LinkId :=
  let older := b.link? p.name
  let (fleet, link) := b.fleet.start { config := config, line := line }
  let b := { b with fleet := fleet, ports := b.ports ++ [p] }
  let b := b.call (.dispatcher link)
  let b := if b.isScripted link then b.call (.brick link) else b
  ((older.map b.forgetLink).getD b, link)

def insertSession (b : Bench) (id : String) (link : LinkId) : Bench :=
  let (fleet, replaced) := b.fleet.insertSession id link
  let b := { b with fleet := fleet }
  match replaced with
  | some old => b.wake (.dispatcher old)
  | none => b

/-- Makes a brick the user of a new link: its session, its record, its handles. -/
def attach (b : Bench) (identity : BrickIdentity) (link : LinkId) (handle : Handle) : Bench :=
  let (fleet, replaced) := Monitor.attach b.fleet identity link handle b.stamp
  let b := { b with fleet := fleet }
  match replaced with
  | some old => b.wake (.dispatcher old)
  | none => b

def defaultCapacity : Nat := 4096

def startDial (b : Bench) (entry : BrickEntry) (purpose : DialPurpose) : Bench :=
  { b with dials := b.dials ++ [⟨entry.id, purpose, entry.endpoint.dial⟩] }

end Bench
end BrickHost
