import BrickHost.Bench.Clock

/-! What an operator does on a bench, step by step. A step that waits lets everyone else work; after
any other step they work until all has come to rest. -/

namespace BrickHost

structure LinkSpec where
  id : String
  config : SchedulerConfig
  capacity : Nat
  closing : Closing := .clean
  plan : RecoveryPlan := {}
  farEnd : FarEnd
  pooled : Bool := true
  /-- The brick that is ready from then on. -/
  ready : Option BrickIdentity := none
  deriving DecidableEq, Repr

structure PollerSpec where
  options : PollerOptions
  fragile : Bool := false
  sink : RefreshSink := .records
  reconnector : Reconnector := .absent
  deriving DecidableEq, Repr

inductive BenchStep where
  | openLink (spec : LinkSpec)
  | send (link : String) (request : Request)
  /-- Sends so many commands of zero bytes, each after the one before it has ended. -/
  | burn (link : String) (count size : Nat)
  /-- Refused if the byte names no kind of reply, or the payload is too long for one. -/
  | reply (link : String) (counter : UInt16) (kind : UInt8) (payload : List UInt8)
  | frame (link : String) (body : List UInt8)
  | bytes (link : String) (data : List UInt8)
  | read (link : String) (count : Nat)
  | autoRead (link : String)
  | hangUp (link : String)
  | failWrite (link : String) (fault : WriteFault)
  | failRead (link : String) (text : String)
  | dispose (link : String)
  | closed (link : String) (within_ : Nat)
  | drop (link : String)
  | cancel (request : String)
  | advance (ms : Nat)
  | label (link : String)
  | poolInsert (id link : String)
  | poolClose (id : String)
  | poolCloseAll
  | poolGet (id : String)
  | poolSize
  /-- Lists a brick that has no session. -/
  | rumour (id : String)
  | registry (call : RegistryCall)
  | poller (spec : PollerSpec)
  | pollerDispose
  | pollerDrop
  | pollerShutdown
  /-- A step that was to send a command of a kind there is none of. -/
  | unknownKind (byte : UInt8)

/-- What the pool shows of an id. -/
structure PoolView where
  id : String
  contains : Bool
  label : Option String
  runtime : Option RuntimeSnapshot
  diagnostic : String
  deriving DecidableEq, Repr

inductive BenchAnswer where
  | nothing
  | flag (value : Bool)
  | text (value : String)
  | bytes (data : List UInt8)
  | refused (text : String)
  | undecodable (e : DecodeError)
  | unencodable (e : EncodeError)
  | counts (each : List (String × Nat))
  | registry (answer : RegistryAnswer)
  | pool (view : PoolView)
  | size (count : Nat)

namespace Bench

/-- Writes at a far end worked by hand as much as the pipe has room for. To write nothing succeeds
even where the pipe takes nothing. -/
def brickWrite (b : Bench) (link : LinkId) (data : List UInt8) : Bench × BenchAnswer :=
  match b.isManual link, b.fleet.scheduler? link with
  | true, some s =>
    if data.isEmpty then (b, .nothing)
    else if s.line.incoming.closed then (b, .refused Line.brokenText)
    else
      (b.replaceLine link { s.line with incoming := s.line.incoming.push data },
        if s.line.incoming.room < data.length then .text "blocked" else .nothing)
  | _, _ => (b, .text "no brick")

def brickRead (b : Bench) (link : LinkId) (count : Nat) : Bench × List UInt8 :=
  match b.fleet.scheduler? link with
  | none => (b, [])
  | some s =>
    (b.replaceLine link { s.line with outgoing := s.line.outgoing.drop count },
      s.line.outgoing.bytes.take count)

/-- The far end reads past the end of its stream if it asks for more than there is. -/
def readsEnd (b : Bench) (link : LinkId) (count : Nat) : Bool :=
  (b.fleet.scheduler? link).any fun s =>
    s.line.outgoing.closed && decide (s.line.outgoing.bytes.length < count)

/-- Reads for the operator. Without a brick worked by hand there is nothing to read. -/
def readNow (b : Bench) (link : LinkId) (count : Nat) : Bench × List UInt8 :=
  match b.farEnd? link with
  | some (.manual reads endSeen) =>
    (b.setFarEnd link (.manual reads (endSeen || b.readsEnd link count))).brickRead link count
  | _ => (b, [])

/-- From now on the far end reads all that comes. -/
def startReading (b : Bench) (link : LinkId) : Bench :=
  match b.farEnd? link with
  | some (.manual _ endSeen) => b.setFarEnd link (.manual true endSeen)
  | _ => b

def sendNow (b : Bench) (link : LinkId) (r : Request) : Bench × Outcome :=
  match b.fleet.submit link b.now r with
  | none => (b, .error .disposed)
  | some (fleet, ticket) =>
    let b := { b with fleet := fleet, expected := some (link, ticket), received := none }
    let b := (b.tellPost link).awaitUntil (·.received.isSome)
    ({ b with expected := none, received := none }, b.received.getD (.error .disposed))

def outcomeText : Outcome → String
  | .ok _ => "ok"
  | .error e => e.message

def tally (text : String) : List (String × Nat) → List (String × Nat)
  | [] => [(text, 1)]
  | (other, n) :: rest =>
    if other = text then (other, n + 1) :: rest else (other, n) :: tally text rest

/-- Sends a request so many times, one after another, and counts each outcome. -/
def burn (link : LinkId) (r : Request) :
    Nat → Bench × List (String × Nat) → Bench × List (String × Nat)
  | 0, result => result
  | count + 1, (b, each) =>
    let (b, outcome) := b.sendNow link r
    burn link r count (b, tally (outcomeText outcome) each)

def openSpec (b : Bench) (spec : LinkSpec) : Bench :=
  let line := { Line.ofCapacity spec.capacity with closing := spec.closing }
  let (b, link) := b.openLink spec.config line
    { name := spec.id, farEnd := spec.farEnd, plan := spec.plan }
  let b := if spec.pooled then b.insertSession spec.id link else b
  match spec.ready with
  | some identity => b.withRegistry fun r => r.ready identity .bare .bare b.stamp
  | none => b

/-- Starts a caller, who holds a handle of the link. -/
def spawnCaller (b : Bench) (link : LinkId) (r : Request) : Bench :=
  let c : Caller := { name := r.id, link := link, request := r }
  ({ b with callers := b.callers ++ [c] }.updateScheduler link (·.retain)).wake
    (.caller b.callers.length)

def caller? (b : Bench) (name : String) : Option Nat :=
  ((List.range b.callers.length).filter fun i => b.callers[i]?.any (·.name == name)).getLast?

def abort (b : Bench) (name : String) : Bench :=
  match b.caller? name with
  | some i =>
    { b with callers := b.callers.modify i fun c => { c with aborted := true } }.call (.caller i)
  | none => b

def closeSession (b : Bench) (id : String) : Bench :=
  match b.fleet.removeSession id with
  | (_, none) => b
  | (fleet, some link) =>
    ({ b with fleet := fleet }.wake (.dispatcher link)).awaitUntil (·.fleet.isTerminated link)

def closeSessions (b : Bench) : Bench :=
  let (fleet, links) := b.fleet.removeSessions
  let b := links.foldl (fun b link => b.wake (.dispatcher link)) { b with fleet := fleet }
  b.awaitUntil fun b => links.all b.fleet.isTerminated

def poolView (b : Bench) (id : String) : PoolView where
  id := id
  contains := b.fleet.pool.contains id
  label := (b.fleet.session? id).map (·.2.config.label)
  runtime := b.fleet.runtime? id
  diagnostic := b.fleet.pool.diagnostic

def dropPoller (b : Bench) : Bench :=
  match b.heldWatch with
  | some index => { b.disposePoller index with heldWatch := none }
  | none => b

def startPoller (b : Bench) (spec : PollerSpec) : Bench :=
  let interval := spec.options.reconnectInterval?.getD .longest
  let poller := { Poller.start spec.options interval with fragile := spec.fragile }
  let started := { b with sink := spec.sink }.startWatch poller spec.reconnector
  { started.dropPoller with heldWatch := some b.watches.length }

def onLink (b : Bench) (name : String) (act : LinkId → Bench × BenchAnswer) : Bench × BenchAnswer :=
  match b.link? name with
  | some link => act link
  | none => (b, .nothing)

/-- Puts a write failure in store; nobody hears of it. -/
def failWrite (b : Bench) (link : LinkId) (fault : WriteFault) : Bench :=
  b.updateScheduler link fun s => { s with line := s.line.plant fault }

/-- Makes the next read fail, and calls the dispatcher to it. -/
def failRead (b : Bench) (link : LinkId) (text : String) : Bench :=
  (b.updateScheduler link fun s => { s with line := { s.line with readFault := some text } }).call
    (.dispatcher link)

/-- A reply that a brick worked by hand writes, if there is such a reply. -/
def brickReply (b : Bench) (link : LinkId) (counter : UInt16) (kind : UInt8)
    (payload : List UInt8) : Bench × BenchAnswer :=
  match ReplyKind.ofByte? kind with
  | none => (b, .undecodable (.unknownKind kind))
  | some k =>
    match (Packet.reply counter k payload).toBytes Packet.defaultLimit with
    | .ok body => b.brickWrite link (Frame.encode body)
    | .error e => (b, .unencodable e)

def perform (b : Bench) : BenchStep → Bench × BenchAnswer
  | .openLink spec => (b.openSpec spec, .nothing)
  | .send name r => b.onLink name fun link => (b.spawnCaller link r, .nothing)
  | .burn name count size => b.onLink name fun link =>
    let r : Request := { id := "burn", kind := .direct, payload := List.replicate size 0 }
    let (b, each) := burn link r count (b, [])
    (b, .counts each)
  | .reply name counter kind payload => b.onLink name fun link =>
    b.brickReply link counter kind payload
  | .frame name body => b.onLink name fun link => b.brickWrite link (Frame.encode body)
  | .bytes name data => b.onLink name fun link => b.brickWrite link data
  | .read name count => b.onLink name fun link =>
    let (b, data) := b.readNow link count
    (b, .bytes data)
  | .autoRead name => b.onLink name fun link => (b.startReading link, .nothing)
  | .hangUp name => b.onLink name fun link => (b.hangUp link, .nothing)
  | .failWrite name fault => b.onLink name fun link => (b.failWrite link fault, .nothing)
  | .failRead name text => b.onLink name fun link => (b.failRead link text, .nothing)
  | .dispose name => b.onLink name fun link =>
    ({ b with fleet := b.fleet.dispose link }.wake (.dispatcher link), .nothing)
  | .closed name within_ => b.onLink name fun link =>
    let (b, met) := await ample (some (b.now + within_)) (·.fleet.isTerminated link) ample b
    (b, .flag met)
  | .drop name => b.onLink name fun link => (b.dropHandle link, .nothing)
  | .cancel name => (b.abort name, .nothing)
  | .advance ms => (b.advance ms, .nothing)
  | .label name => b.onLink name fun link =>
    (b, .text (((b.fleet.scheduler? link).map (·.config.label)).getD ""))
  | .poolInsert id name => b.onLink name fun link => (b.insertSession id link, .nothing)
  | .poolClose id => (b.closeSession id, .nothing)
  | .poolCloseAll => (b.closeSessions, .nothing)
  | .poolGet id => (b, .pool (b.poolView id))
  | .poolSize => (b, .size b.fleet.pool.size)
  | .rumour id =>
    ({ b with fleet := { b.fleet with rumoured := b.fleet.rumoured ++ [id] } }, .nothing)
  | .registry call =>
    let (registry, answer) := b.fleet.registry.perform b.stamp call
    ({ b with fleet := { b.fleet with registry := registry } }, .registry answer)
  | .poller spec => (b.startPoller spec, .nothing)
  | .pollerDispose =>
    match b.heldWatch with
    | some index => (b.disposePoller index, .flag true)
    | none => (b, .nothing)
  | .pollerDrop => (b.dropPoller, .nothing)
  | .pollerShutdown =>
    match b.heldWatch with
    | some index => (b.dropPoller.awaitUntil (·.watchEnded index), .nothing)
    | none => (b, .nothing)
  | .unknownKind byte => (b, .undecodable (.unknownKind byte))

/-- Carries out steps with nothing in between but what they themselves wait for. -/
def performAll (b : Bench) : List BenchStep → Bench × List BenchAnswer
  | [] => (b, [])
  | step :: rest =>
    let (b, answer) := b.perform step
    let (b, later) := performAll b rest
    (b, answer :: later)

end Bench
end BrickHost
