import BrickHost.Poller.Basic

/-! The poller, one move at a time. Nothing is probed that is busy or not expected to be live. -/

namespace BrickHost
namespace Poller

variable {κ : Type}

/-- The session of a brick if it is to be probed. The readings of its scheduler go to the registry
in any case. -/
def candidate (f : Fleet κ) (brick : String) : Fleet κ × Option LinkId :=
  match f.registry.snapshot? brick with
  | none => (f, none)
  | some shown =>
    if shown.status.isLive then
      match f.session? brick with
      | none => (f, none)
      | some (link, s) =>
        let reading := s.snapshot
        let f := f.withRegistry fun r => r.measure brick
          { busy := some reading.busy, schedulerState := some reading.state }
        if 0 < reading.busy then (f, none) else (f, some link)
    else (f, none)

def candidates (f : Fleet κ) : List String → Fleet κ × List (String × LinkId)
  | [] => (f, [])
  | brick :: rest =>
    let (f, link) := candidate f brick
    let (f, later) := candidates f rest
    (f, (link.map (brick, ·)).toList ++ later)

/-- Posts the probes, all before the first is answered. -/
def launch (o : PollerOptions) (now : Nat) (f : Fleet κ) :
    List (String × LinkId) → Fleet κ × List Probe
  | [] => (f, [])
  | (brick, link) :: rest =>
    match f.submit link now (probeRequest brick o.probeTimeout) with
    | some (f, ticket) =>
      let (f, later) := launch o now f rest
      (f, { brick := brick, link := link, ticket := some ticket } :: later)
    | none =>
      let (f, later) := launch o now f rest
      (f, { brick := brick, link := link, ticket := none, outcome := some (.error .disposed) } ::
        later)

def tick (p : Poller) (f : Fleet κ) (now : Nat) : Poller × Fleet κ × List PollerSignal :=
  let (f, chosen) := candidates f f.listedIds
  let (f, probes) := launch p.options now f chosen
  let posted := probes.filterMap fun x => x.ticket.map fun _ => PollerSignal.posted x.link
  ({ p with phase := .probing probes }, f, .ticked :: posted)

/-- The verdicts, once every probe has its outcome. -/
def verdicts? : List Probe → Option (List (String × Option LinkError))
  | [] => some []
  | x :: rest =>
    match x.outcome, verdicts? rest with
    | some outcome, some later => some ((x.brick, outcome.probeFault?) :: later)
    | _, _ => none

/-- The interval since the last request for the brick is over. -/
def isDue (p : Poller) (now : Nat) (brick : String) : Bool :=
  match p.requested.lookup brick with
  | none => true
  | some last => decide (p.interval.nanos ≤ (Duration.ofMillis (now - last)).nanos)

def requestOne (now : Nat) (acc : Poller × List PollerSignal) (brick : String) :
    Poller × List PollerSignal :=
  let (p, signals) := acc
  if p.isDue now brick ∧ brick ∉ p.reconnecting then
    ({ p with
        reconnecting := p.reconnecting ++ [brick]
        requested := p.requested.filter (·.1 != brick) ++ [(brick, now)] },
      signals ++ [.reconnect brick])
  else acc

def isLost (f : Fleet κ) (brick : String) : Bool :=
  (f.registry.snapshot? brick).any (·.lostLink)

/-- Asks for reconnects, and forgets the bricks that are not lost any more. -/
def requestReconnects (p : Poller) (f : Fleet κ) (now : Nat) : Poller × List PollerSignal :=
  if p.options.reconnects then
    let lost := (f.registry.list.filter (·.lostLink)).map (·.id)
    let (p, signals) := lost.foldl (requestOne now) (p, [])
    ({ p with requested := p.requested.filter fun entry => isLost f entry.1 }, signals)
  else (p, [])

def rest (p : Poller) (f : Fleet κ) (now : Nat) : Poller × Fleet κ × List PollerSignal :=
  let (p, signals) := p.requestReconnects f now
  let pause := if f.registry.hasLive then p.options.active else p.options.idle
  ({ p with phase := .sleeping (now + pause.ceilMillis) }, f, signals)

def lossReason (e : LinkError) : String :=
  linkLossStart ++ " " ++ e.message

/-- Goes on with the verdicts after a lost session was closed. -/
def lose (p : Poller) (f : Fleet κ) (brick reason : String)
    (later : List (String × Option LinkError)) : Poller × Fleet κ × List PollerSignal :=
  let told := if p.options.reportsLoss then [PollerSignal.lost brick reason] else []
  let phase := if p.options.reportsLoss && p.fragile then PollerPhase.ended else .judging later
  ({ p with phase := phase }, f.withRegistry (·.markUnavailable brick reason),
    .refreshed brick :: told)

/-- `stamp` is what the clock shows. -/
def judge (p : Poller) (f : Fleet κ) (now : Nat) (stamp : String) :
    List (String × Option LinkError) → Poller × Fleet κ × List PollerSignal
  | [] => p.rest f now
  | (brick, none) :: later =>
    ({ p with phase := .judging later },
      f.withRegistry (·.measure brick { lastSeen := some stamp }), [])
  | (brick, some e) :: later =>
    match f.removeSession brick with
    | (f, some link) =>
      ({ p with phase := .closing brick (lossReason e) link later }, f,
        [.closing brick, .disposed link])
    | (f, none) =>
      let (p, f, signals) := p.lose f brick (lossReason e) later
      (p, f, .closing brick :: signals)

/-- One move of the poller, `none` while it has to wait. -/
def step (p : Poller) (f : Fleet κ) (now : Nat) (stamp : String) :
    Option (Poller × Fleet κ × List PollerSignal) :=
  match p.phase with
  | .ended => none
  | phase =>
    if p.cancelled then some ({ p with phase := .ended }, f, [])
    else
      match phase with
      | .waking => some (p.tick f now)
      | .probing probes =>
        (verdicts? probes).map fun verdicts => ({ p with phase := .judging verdicts }, f, [])
      | .judging verdicts => some (p.judge f now stamp verdicts)
      | .closing brick reason link later =>
        if f.isTerminated link then some (p.lose f brick reason later) else none
      | .sleeping until_ =>
        if until_ ≤ now then some ({ p with phase := .waking }, f, []) else none
      | .ended => none

/-- When a sleeping poller has to be looked at again. -/
def alarm? (p : Poller) : Option Nat :=
  match p.phase with
  | .sleeping until_ => some until_
  | _ => none

end Poller
end BrickHost
