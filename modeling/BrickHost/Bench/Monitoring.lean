import BrickHost.Bench.Scenario

/-! A monitor on a bench: its settings name the bricks that can be dialed, and bricks attached by
hand stand for dials that succeed. Every step takes one millisecond. -/

namespace BrickHost

inductive MonitorStep where
  | connect (id : String)
  | reconnect (id : String)
  | connectAll
  | disconnect (id : String)
  | lossHook
  | registry (call : RegistryCall)
  /-- A dial that has succeeded, to a brick with a script. -/
  | attach (identity : BrickIdentity) (script : List Reaction)
  | linkHandle (id : String)
  /-- The byte may name no kind of command. -/
  | send (id : String) (kind : UInt8) (payload : List UInt8)
  | hangUp (id : String)
  | run
  | stop
  | stopped
  | advance (ms : Nat)
  | options

inductive MonitorAnswer where
  | nothing
  | flag (value : Bool)
  | text (value : String)
  | failed (e : LinkError)
  | registry (answer : RegistryAnswer)
  /-- The brick of a link, the label of its scheduler, and its state. -/
  | link (found : Option (String × String × SchedulerState))
  | reply (outcome : Outcome)
  | undecodable (e : DecodeError)

structure MonitorView where
  answer : MonitorAnswer
  now : Nat
  records : List BenchRecord
  active : Option String
  registry : List BrickSnapshot
  pool : List String
  /-- Whether the last run goes on, `none` before there is one. -/
  running : Option Bool

namespace BenchEvent

def printedLine? : BenchEvent → Option String
  | printed line => some line
  | _ => none

end BenchEvent

namespace Bench

def beginConnect (b : Bench) (purpose : DialPurpose) (entry : BrickEntry) : Bench :=
  ({ b with fleet := Monitor.beginConnect b.fleet entry }.refresh entry.id).startDial entry purpose

/-- Waits for the dial that was started, and gives how it failed. -/
def awaitDial (b : Bench) : Bench × MonitorAnswer :=
  let b := { b with received := none }.awaitUntil (·.received.isSome)
  match b.received with
  | some (.error e) => ({ b with received := none }, .failed e)
  | _ => (b, .nothing)

def onEntry (b : Bench) (id : String) (act : BrickEntry → Bench × MonitorAnswer) :
    Bench × MonitorAnswer :=
  match b.settings.entry? id with
  | some entry => act entry
  | none => (b, .failed (Monitor.unknownBrick id))

def isConnect (d : Dial) : Bool :=
  d.purpose == .connect

def beginAll (b : Bench) (purpose : DialPurpose) : Bench :=
  b.settings.bricks.foldl (beginConnect · purpose) b

def attachScripted (b : Bench) (identity : BrickIdentity) (script : List Reaction) : Bench :=
  let (b, link) := b.openLink { label := identity.id } (Line.ofCapacity defaultCapacity)
    { name := identity.id, farEnd := .scripted { script := script } }
  b.attach identity link (.link identity.id link)

def linkHandle? (b : Bench) (id : String) : Option (String × String × SchedulerState) := do
  let (brick, link) ← b.fleet.registry.resolveControl Handle.link? id
  let s ← b.fleet.scheduler? link
  return (brick, s.config.label, s.state)

def isRunning : Supervision → Bool
  | .done => false
  | _ => true

def hasFarEnd (b : Bench) (link : LinkId) : Bool :=
  match b.farEnd? link with
  | some (.manual _ _) | some (.scripted _) => true
  | _ => false

/-- The id of requests that are sent by hand. -/
def requestName : String := "r"

def startOverseer (b : Bench) : Bench :=
  let index := b.overseers.length
  let o : Overseer := { supervision := .dialing b.settings.bricks.length }
  ({ b with overseers := b.overseers ++ [o] }.beginAll (.supervised index)).call (.overseer index)

def performMonitor (b : Bench) : MonitorStep → Bench × MonitorAnswer
  | .connect id => b.onEntry id fun entry => (b.beginConnect .connect entry).awaitDial
  | .reconnect id => b.onEntry id fun entry => (b.startDial entry .reconnect).awaitDial
  | .connectAll =>
    let b := (b.beginAll .connect).awaitUntil fun b => !b.dials.any isConnect
    ({ b with received := none }, .nothing)
  | .disconnect id =>
    let b := b.closeSession id
    ({ b with fleet := Monitor.endDisconnect b.fleet id }.refresh id, .nothing)
  | .lossHook => (b, .nothing)
  | .registry call =>
    let (registry, answer) := b.fleet.registry.perform b.stamp call
    ({ b with fleet := { b.fleet with registry := registry } }, .registry answer)
  | .attach identity script =>
    let b := b.attachScripted identity script
    (b, .registry (.snapshot (b.fleet.registry.snapshot? identity.id)))
  | .linkHandle id => (b, .link (b.linkHandle? id))
  | .send id kind payload =>
    match b.fleet.pool.find? id with
    | none => (b, .text "no session")
    | some link =>
      match CommandKind.ofByte? kind with
      | none => (b, .undecodable (.unknownKind kind))
      | some kind =>
        let (b, outcome) := b.sendNow link { id := requestName, kind := kind, payload := payload }
        (b, .reply outcome)
  | .hangUp id =>
    match b.link? id with
    | some link => (b.hangUp link, .flag (b.hasFarEnd link))
    | none => (b, .flag false)
  | .run => (b.startOverseer, .nothing)
  | .stop => ({ b with stopAsked := true }.wakeOverseers, .nothing)
  | .stopped => (b, .flag b.stopAsked)
  | .advance ms => (b.advance ms, .nothing)
  | .options => (b, .text (b.monitorOptions.diagnostic b.monitorInterval))

/-- What shows one millisecond after a step. What falls due at that very moment is done later. -/
def lookMonitor (b : Bench) (answer : MonitorAnswer) : Bench × MonitorView :=
  let b := b.advance 1
  let view := {
    answer := answer
    now := b.now
    records := b.records.reverse
    active := b.fleet.registry.active
    registry := b.fleet.registry.list
    pool := b.fleet.pool.ids
    running := b.overseers.getLast?.map fun o => isRunning o.supervision }
  ({ b with records := [] }, view)

def performMonitorScenario (b : Bench) : List MonitorStep → List MonitorView
  | [] => []
  | step :: rest =>
    let (b, answer) := b.performMonitor step
    let (b, view) := b.lookMonitor answer
    view :: performMonitorScenario b rest

/-- A bench with a monitor on it that prints what changes, or keeps quiet. -/
def ofSettings (stamp : String) (settings : Settings) (prints : Bool) : Bench :=
  { stamp := stamp, settings := settings, sink := if prints then .prints else .ignores }

/-- The lines that a monitor prints until its first dials have ended and it is stopped. -/
def firstLines (stamp : String) (settings : Settings) : List String :=
  let b := (ofSettings stamp settings true).performMonitor .run
  b.1.run.records.reverse.filterMap (·.event.printedLine?)

end Bench
end BrickHost
