import BrickHost.Fleet

/-! The health poller, as plain data. It probes all idle sessions at once, declares those that do
not answer well lost, and asks for a reconnect of every lost brick, never twice at a time and never
twice within the interval. -/

namespace BrickHost

/-- How often the poller looks at the bricks, and how it paces reconnects. -/
structure PollerOptions where
  /-- The time between ticks while a brick is connecting or ready. -/
  active : Duration := .ofMillis 500
  /-- The time between ticks otherwise. -/
  idle : Duration := .ofMillis 2000
  probeTimeout : Duration := .ofMillis 700
  /-- Derived from the active interval unless given. -/
  reconnect : Option Duration := none
  /-- Losses are reported to a hook. -/
  reportsLoss : Bool := false
  /-- A hook reconnects lost bricks. -/
  reconnects : Bool := false
  deriving DecidableEq, Repr

namespace PollerOptions

def leastReconnect : Duration := .ofMillis 1000

/-- The least time between two reconnects of a brick; `none` if it is too long to be counted. -/
def reconnectInterval? (o : PollerOptions) : Option Duration :=
  match o.reconnect with
  | some given => some given
  | none => o.active.double?.map leastReconnect.max

def diagnostic (o : PollerOptions) (interval : Duration) : String :=
  recordText "PollerOptions" [("active_interval", o.active.text), ("idle_interval", o.idle.text),
    ("probe_timeout", o.probeTimeout.text), ("reconnect_interval", interval.text),
    ("on_disconnected", boolText o.reportsLoss),
    ("on_reconnect_requested", boolText o.reconnects)]

end PollerOptions

/-- A system command without side effects, sent to find out whether a link is alive. -/
def probeRequest (brick : String) (timeout : Duration) : Request where
  id := "probe:" ++ brick
  lane := .high
  idempotent := true
  timeout := some timeout
  kind := .system
  payload := SystemCommand.probe.payload []

namespace CommandResult

/-- Why a reply does not show that the brick is well. -/
def probeFault? (r : CommandResult) : Option LinkError :=
  match r.reply.replyKind? with
  | some .system =>
    match r.reply.systemStatus? with
    | none => some (.protocol .system "probe reply too short")
    | some (echo, status) =>
      if echo = SystemCommand.probe.byte ∧ status.isSuccess then none
      else
        some (.protocol .system
          s!"probe answered with command {byteName echo} status {status.name}")
  | kind => some (.protocol (kind.getD .systemError) "probe rejected")

end CommandResult

/-- Why a probe failed, `none` if the brick is well. -/
def Outcome.probeFault? : Outcome → Option LinkError
  | .ok result => result.probeFault?
  | .error e => some e

structure Probe where
  brick : String
  link : LinkId
  /-- `none` if the link refused the probe. -/
  ticket : Option Nat
  outcome : Option Outcome := none

inductive PollerPhase where
  /-- About to tick. -/
  | waking
  | probing (probes : List Probe)
  /-- Going through the verdicts of the probes. -/
  | judging (verdicts : List (String × Option LinkError))
  /-- A session that failed its probe is being closed. -/
  | closing (brick reason : String) (link : LinkId) (verdicts : List (String × Option LinkError))
  | sleeping (until_ : Nat)
  | ended

structure Poller where
  options : PollerOptions
  /-- The least time between two reconnects of a brick. -/
  interval : Duration
  /-- The hook that is told of losses breaks down, and the poller with it. -/
  fragile : Bool := false
  cancelled : Bool := false
  phase : PollerPhase := .waking
  /-- Bricks with a reconnect under way. -/
  reconnecting : List String := []
  /-- When bricks that are still lost were last asked to be reconnected. -/
  requested : List (String × Nat) := []

inductive PollerSignal where
  | ticked
  | posted (link : LinkId)
  | closing (brick : String)
  | disposed (link : LinkId)
  | refreshed (brick : String)
  | lost (brick reason : String)
  | reconnect (brick : String)
  deriving DecidableEq, Repr

namespace Poller

def start (options : PollerOptions) (interval : Duration) : Poller :=
  { options := options, interval := interval }

def dispose (p : Poller) : Poller :=
  { p with cancelled := true }

def hasEnded (p : Poller) : Bool :=
  match p.phase with
  | .ended => true
  | _ => false

/-- A reconnect has ended, well or not. -/
def endReconnect (p : Poller) (brick : String) : Poller :=
  { p with reconnecting := p.reconnecting.filter (· != brick) }

/-- Whether a probe under way waits for the request with this ticket. -/
def awaits (p : Poller) (link : LinkId) (ticket : Nat) : Bool :=
  match p.phase with
  | .probing probes => probes.any fun x => x.link == link && x.ticket == some ticket
  | _ => false

/-- Hands a probe its outcome. -/
def resolve (p : Poller) (link : LinkId) (ticket : Nat) (outcome : Outcome) : Poller :=
  match p.phase with
  | .probing probes =>
    { p with phase := .probing (probes.map fun x =>
        if x.link = link ∧ x.ticket = some ticket then { x with outcome := some outcome }
        else x) }
  | _ => p

end Poller
end BrickHost
