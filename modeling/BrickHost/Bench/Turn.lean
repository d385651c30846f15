import BrickHost.Bench.Basic

/-! What everyone on a bench does when it is their turn, one move at a time, and who hears of it. -/

namespace BrickHost
namespace Bench

/-- Hands an outcome to whoever waits for it. Nobody does if the caller has given up. -/
def deliver (b : Bench) (link : LinkId) (ticket : Nat) (outcome : Outcome) : Bench :=
  if b.expected = some (link, ticket) then { b with expected := none, received := some outcome }
  else
    let waits := fun c : Caller =>
      match c.phase with
      | .waiting t => c.link == link && t == ticket
      | _ => false
    match b.callers.findIdx? waits with
    | some index =>
      let callers := b.callers.modify index fun c => { c with phase := .answered outcome }
      { b with callers := callers }.wake (.caller index)
    | none =>
      match b.watches.findIdx? fun w => w.poller.awaits link ticket with
      | some index =>
        let watches := b.watches.modify index fun w =>
          { w with poller := w.poller.resolve link ticket outcome }
        { b with watches := watches }.wake (.watch index)
      | none => b

/-- Wakes the pollers that close a session over the link. -/
def wakeClosers (b : Bench) (link : LinkId) : Bench :=
  let closes := fun w : Watch =>
    match w.poller.phase with
    | .closing _ _ closing _ => closing == link
    | _ => false
  ((List.range b.watches.length).filter fun i => b.watches[i]?.any closes).foldl
    (fun b i => b.wake (.watch i)) b

def signal (link : LinkId) (b : Bench) : Signal → Bench
  | .taken _ | .sent _ => b
  | .recover context =>
    { b with ports := b.ports.modify link fun p =>
        { p with recovery := some { context := context } } }.wake (.recovery link)
  | .resolved post outcome => b.deliver link post.ticket outcome
  | .terminated => (b.wakeClosers link).wakeOverseers

def moveDispatcher (b : Bench) (link : LinkId) : Option Bench := do
  let s ← b.fleet.scheduler? link
  let (s, signals) ← s.step b.now
  let b := signals.foldl (signal link) (b.updateScheduler link fun _ => s)
  return b.wake (.brick link)

def brickSignal (name : String) (b : Bench) : BrickSignal → Bench
  | .command body => b.record (.command name body)
  | .streamEnd => b.record (.streamEnd name)

def moveBrick (b : Bench) (link : LinkId) : Option Bench := do
  if b.farEnd? link = some .leaving then return b.cutOff link
  let (s, brick) ← b.scripted? link
  let (brick, line, signals) ← brick.step s.line b.now
  let b := b.setFarEnd link (.scripted brick)
  return (signals.foldl (brickSignal (b.portName link)) b).replaceLine link line

def endRecovery (b : Bench) (link : LinkId) (p : Port) : Bench :=
  ((b.setPort link { p with recovery := none }).updateScheduler link (·.endRecovery)).wake
    (.dispatcher link)

def recoveryRecord (b : Bench) (p : Port) (e : BenchEvent) : Bench :=
  if p.plan.silent then b else b.record e

def moveRecovery (b : Bench) (link : LinkId) : Option Bench := do
  let p ← b.port? link
  let r ← p.recovery
  let limit := ((b.fleet.scheduler? link).map (·.config.recoveryTimeout)).getD ⟨0⟩
  match ← r.step p.plan.conduct limit b.now with
  | .began begun =>
    return (b.recoveryRecord p (.recoveryBegan p.name r.context)).setPort link
      { p with recovery := some begun }
  | .ended =>
    return (b.recoveryRecord p (.recoveryEnded p.name r.context.request)).endRecovery link p
  | .abandoned => return b.endRecovery link p

def endCaller (b : Bench) (index : Nat) (c : Caller) : Bench :=
  (b.setCaller index { c with phase := .done }).release c.link

def moveCaller (b : Bench) (index : Nat) : Option Bench := do
  let c ← b.callers[index]?
  match c.phase, c.aborted with
  | .done, _ => none
  | _, true => return b.endCaller index c
  | .fresh, false =>
    match b.fleet.submit c.link b.now c.request with
    | some (fleet, ticket) =>
      let b := { b with fleet := fleet }.setCaller index { c with phase := .waiting ticket }
      return b.tellPost c.link
    | none =>
      return (b.record (.resolved (b.portName c.link) c.name (.error .disposed))).endCaller index c
  | .waiting _, false => none
  | .answered outcome, false =>
    return (b.record (.resolved (b.portName c.link) c.name outcome)).endCaller index c

/-- The next entry of a script, and the script behind it. The last entry is for all further
attempts. -/
def nextPlan : List ReconnectPlan → ReconnectPlan × List ReconnectPlan
  | [] => ({ act := .fails }, [])
  | [last] => (last, [last])
  | first :: rest => (first, rest)

def spawnAttempt (b : Bench) (a : Attempt) : Bench :=
  { b with attempts := b.attempts ++ [a] }.wake (.attempt b.attempts.length)

def startAttempt (b : Bench) (index : Nat) (w : Watch) (brick : String) : Bench :=
  let b := b.record (.reconnect brick)
  match w.reconnector with
  | .absent => b
  | .dialing => b.spawnAttempt { watch := index, brick := brick, plan := none }
  | .scripted plans =>
    let (plan, left) := nextPlan ((w.progress.lookup brick).getD plans)
    let progress := w.progress.filter (·.1 != brick) ++ [(brick, left)]
    (b.setWatch index { w with progress := progress }).spawnAttempt
      { watch := index, brick := brick, plan := some plan }

def pollerSignal (index : Nat) (b : Bench) : PollerSignal → Bench
  | .ticked => b.record .ticked
  | .posted link => b.tellPost link
  | .disposed link => b.wake (.dispatcher link)
  | .closing brick => b.record (.closing brick)
  | .refreshed brick => b.refresh brick
  | .lost brick reason => b.record (.lost brick reason)
  | .reconnect brick =>
    match b.watches[index]? with
    | some w => b.startAttempt index w brick
    | none => b

def moveWatch (b : Bench) (index : Nat) : Option Bench := do
  let w ← b.watches[index]?
  let (poller, fleet, signals) ← w.poller.step b.fleet b.now b.stamp
  let b := { b with fleet := fleet }.setWatch index { w with poller := poller }
  return (signals.foldl (pollerSignal index) b).wakeOverseers

def endAttempt (b : Bench) (index : Nat) (a : Attempt) : Bench :=
  let b := b.setAttempt index { a with phase := .done }
  { b with watches := b.watches.modify a.watch fun w =>
      { w with poller := w.poller.endReconnect a.brick } }

/-- The reason noted by an attempt that notes another loss. -/
def againReason : String := linkLossStart ++ " again"

def openScripted (b : Bench) (id : String) (script : List Reaction) : Bench :=
  let (b, link) := b.openLink { label := id } (Line.ofCapacity defaultCapacity)
    { name := id, farEnd := .scripted { script := script } }
  let b := b.insertSession id link
  let identity : BrickIdentity := { id := id, displayName := id, transport := .mock }
  b.withRegistry fun r => r.ready identity .bare .bare b.stamp

def act (b : Bench) (index : Nat) (a : Attempt) : ReconnectAct → Bench
  | .fails | .nothing => b.endAttempt index a
  | .remarks => (b.withRegistry (·.markUnavailable a.brick againReason)).endAttempt index a
  | .opens script => (b.openScripted a.brick script).endAttempt index a
  | .neverEnds => b.setAttempt index { a with phase := .stuck }

/-- Dials a brick of the monitor. One that is not configured cannot be dialed. -/
def dialAgain (b : Bench) (index : Nat) (a : Attempt) : Bench :=
  match b.settings.entry? a.brick with
  | some entry => (b.setAttempt index { a with phase := .stuck }).startDial entry (.attempt index)
  | none => b.endAttempt index a

def moveAttempt (b : Bench) (index : Nat) : Option Bench := do
  let a ← b.attempts[index]?
  match a.phase, a.plan with
  | .fresh, none => return b.dialAgain index a
  | .fresh, some plan =>
    if plan.delay = 0 then return b.act index a plan.act
    else return b.setAttempt index { a with phase := .pausing (b.now + plan.delay) }
  | .pausing until_, some plan => if until_ ≤ b.now then return b.act index a plan.act else none
  | _, _ => none

def startWatch (b : Bench) (p : Poller) (r : Reconnector) : Bench :=
  let w : Watch := { poller := p, reconnector := r }
  { b with watches := b.watches ++ [w] }.wake (.watch b.watches.length)

def disposePoller (b : Bench) (index : Nat) : Bench :=
  { b with watches := b.watches.modify index fun w => { w with poller := w.poller.dispose } }.wake
    (.watch index)

def monitorOptions (b : Bench) : PollerOptions :=
  { b.settings.pollerOptions with reportsLoss := true, reconnects := true }

/-- The interval of these options can always be counted. -/
def monitorInterval (b : Bench) : Duration :=
  b.monitorOptions.reconnectInterval?.getD .longest

def setOverseer (b : Bench) (index : Nat) (o : Overseer) : Bench :=
  { b with overseers := b.overseers.set index o }

def supervisionSignal (index : Nat) (o : Overseer) (b : Bench) : SupervisionSignal → Bench
  | .startPoller =>
    (b.setOverseer index { o with watch := some b.watches.length }).startWatch
      (.start b.monitorOptions b.monitorInterval) .dialing
  | .stopPoller => (o.watch.map b.disposePoller).getD b
  | .disposed link => b.wake (.dispatcher link)
  | .finished => b

def moveOverseer (b : Bench) (index : Nat) : Option Bench := do
  let o ← b.overseers[index]?
  let (s, fleet, signals) ← b.superviseStep o
  let o := { o with supervision := s }
  return signals.foldl (supervisionSignal index o) ({ b with fleet := fleet }.setOverseer index o)

/-- One move of a task, `none` if it has to wait or is done. -/
def move (b : Bench) : Task → Option Bench
  | .dispatcher link => b.moveDispatcher link
  | .brick link => b.moveBrick link
  | .recovery link => b.moveRecovery link
  | .caller index => b.moveCaller index
  | .watch index => b.moveWatch index
  | .attempt index => b.moveAttempt index
  | .overseer index => b.moveOverseer index

/-- The moment and the key of the next appointment of a task. -/
def alarm? (b : Bench) : Task → Option (Nat × Nat)
  | .dispatcher link => (b.fleet.scheduler? link).bind (·.alarm?)
  | .brick link => (b.scripted? link).bind fun (_, brick) => brick.alarm?.map (·, 0)
  | .recovery link => do
    return (← (← (← b.port? link).recovery).alarm?, 0)
  | .watch index => b.watches[index]?.bind fun w => w.poller.alarm?.map (·, 0)
  | .attempt index => do
    match (← b.attempts[index]?).phase with
    | .pausing until_ => return (until_, 0)
    | _ => none
  | .caller _ | .overseer _ => none

end Bench
end BrickHost
