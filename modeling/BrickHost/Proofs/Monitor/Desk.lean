import BrickHost.Monitor
import BrickHost.Proofs.Poller.Patrol

/-! Courses of a monitor with its poller. Dials and disconnects take their time, so that anything
may happen between their beginning and their end, and in any order. -/

namespace BrickHost

theorem Settings.id_of_entry? {s : Settings} {id : String} {entry : BrickEntry}
    (h : s.entry? id = some entry) : entry.identity.id = id := by
  have hb : entry.id = id := by simpa using List.find?_some h
  exact hb

/-- A dial under way: the first one of a brick, or one that the poller has asked for. -/
structure PendingDial where
  brick : String
  again : Bool
  deriving DecidableEq

inductive DeskAct (κ : Type) where
  | poll (stamp : String)
  | drive (link : LinkId) (act : Act)
  | startPoller (options : PollerOptions) (interval : Duration)
  | stopPoller
  | connect (id : String)
  /-- A session opens over a link that was made by hand. -/
  | attach (identity : BrickIdentity) (config : SchedulerConfig) (line : Line) (handle : κ)
      (stamp : String)
  | dialed (index : Nat) (config : SchedulerConfig) (line : Line) (handle : κ) (stamp : String)
  | undialed (index : Nat) (e : LinkError)
  /-- A dial is given up, and nobody notices. -/
  | abandon (index : Nat)
  | disconnect (id : String)
  /-- A disconnect returns, if the session has ended. -/
  | disconnected (index : Nat)
  | closeAll
  | endShutdown
  | forget (id : String)
  | activate (id : String)
  | measure (id : String) (metrics : RuntimeMetrics)
  | note (id operation stamp : String)

structure Desk (κ : Type) where
  settings : Settings
  fleet : Fleet κ := {}
  poller : Poller
  now : Nat := 0
  dials : List PendingDial := []
  /-- The disconnects that have not returned, with the links of their sessions. -/
  closings : List (String × Option LinkId) := []
  log : List PollerSignal := []

def Fleet.open {κ : Type} (f : Fleet κ) (identity : BrickIdentity) (config : SchedulerConfig)
    (line : Line) (handle : κ) (stamp : String) : Fleet κ :=
  let (f, link) := f.start { config := config, line := line }
  (Monitor.attach f identity link handle stamp).1

def PollerSignal.redial? : PollerSignal → Option PendingDial
  | .reconnect brick => some ⟨brick, true⟩
  | _ => none

namespace Desk

variable {κ : Type}

def start (settings : Settings) : Desk κ where
  settings := settings
  poller := { Poller.start {} (.ofMillis 0) with phase := .ended }

/-- A dial under way and the brick it goes to. A brick without entry cannot be dialed. -/
def dial? (c : Desk κ) (index : Nat) : Option (PendingDial × BrickEntry) := do
  let dial ← c.dials[index]?
  return (dial, ← c.settings.entry? dial.brick)

def endDial (c : Desk κ) (index : Nat) : Desk κ :=
  { c with
    dials := c.dials.eraseIdx index
    poller := match c.dials[index]? with
      | some ⟨brick, true⟩ => c.poller.endReconnect brick
      | _ => c.poller }

/-- The brick whose disconnect may return. -/
def returning (c : Desk κ) (index : Nat) : Option String :=
  match c.closings[index]? with
  | some (id, link) => if link.all c.fleet.isTerminated then some id else none
  | none => none

def act (c : Desk κ) : DeskAct κ → Desk κ
  | .poll stamp =>
    match c.poller.step c.fleet c.now stamp with
    | none => c
    | some (p, f, signals) =>
      { c with
        fleet := f
        poller := p
        dials := c.dials ++ signals.filterMap PollerSignal.redial?
        log := c.log ++ signals }
  | .drive link act =>
    let (f, p) := c.fleet.drive c.poller c.now link act
    { c with fleet := f, poller := p }
  | .startPoller options interval =>
    if c.poller.hasEnded then { c with poller := .start options interval } else c
  | .stopPoller => { c with poller := c.poller.dispose }
  | .connect id =>
    match c.settings.entry? id with
    | none => c
    | some entry =>
      { c with fleet := Monitor.beginConnect c.fleet entry, dials := c.dials ++ [⟨id, false⟩] }
  | .attach identity config line handle stamp =>
    { c with fleet := c.fleet.open identity config line handle stamp }
  | .dialed index config line handle stamp =>
    match c.dial? index with
    | none => c
    | some (_, entry) =>
      { c.endDial index with fleet := c.fleet.open entry.identity config line handle stamp }
  | .undialed index e =>
    match c.dial? index with
    | none => c
    | some (dial, _) =>
      { c.endDial index with
        fleet := if dial.again then Monitor.failReconnect c.fleet dial.brick e
          else Monitor.failConnect c.fleet dial.brick e }
  | .abandon index => c.endDial index
  | .disconnect id =>
    let (f, link) := c.fleet.removeSession id
    { c with fleet := f, closings := c.closings ++ [(id, link)] }
  | .disconnected index =>
    match c.returning index with
    | none => c
    | some id =>
      { c with
        fleet := Monitor.endDisconnect c.fleet id
        closings := c.closings.eraseIdx index }
  | .closeAll => { c with fleet := c.fleet.removeSessions.1 }
  | .endShutdown => { c with fleet := Monitor.endShutdown c.fleet }
  | .forget id => { c with fleet := c.fleet.withRegistry (·.remove id) }
  | .activate id => { c with fleet := c.fleet.withRegistry (·.setActive id) }
  | .measure id metrics => { c with fleet := c.fleet.withRegistry (·.measure id metrics) }
  | .note id operation stamp =>
    { c with fleet := c.fleet.withRegistry (·.note id operation stamp) }

def wait (c : Desk κ) (ms : Nat) : Desk κ :=
  { c with now := c.now + ms }

def after (c : Desk κ) (ms : Nat) (act : DeskAct κ) : Desk κ :=
  (c.wait ms).act act

def run (c : Desk κ) (acts : List (Nat × DeskAct κ)) : Desk κ :=
  acts.foldl (fun c timed => c.after timed.1 timed.2) c

theorem run_append (c : Desk κ) (early late : List (Nat × DeskAct κ)) :
    c.run (early ++ late) = (c.run early).run late :=
  List.foldl_append

theorem run_snoc (c : Desk κ) (acts : List (Nat × DeskAct κ)) (timed : Nat × DeskAct κ) :
    c.run (acts ++ [timed]) = ((c.run acts).wait timed.1).act timed.2 := by
  simp [run, after]

theorem open_registry (f : Fleet κ) (identity : BrickIdentity) (config : SchedulerConfig)
    (line : Line) (handle : κ) (stamp : String) :
    (f.open identity config line handle stamp).registry =
      f.registry.ready identity handle handle stamp := by
  simp [Fleet.open, Fleet.start, Monitor.attach]

theorem open_pool (f : Fleet κ) (identity : BrickIdentity) (config : SchedulerConfig)
    (line : Line) (handle : κ) (stamp id : String) :
    (f.open identity config line handle stamp).pool.find? id =
      if id = identity.id then some f.schedulers.length else f.pool.find? id := by
  simp [Fleet.open, Fleet.start, Monitor.attach]

/-- Opening a session leaves every link alone but the new one, which the pool retains, and that of a
session it replaces. -/
theorem open_scheduler? (f : Fleet κ) (identity : BrickIdentity) (config : SchedulerConfig)
    (line : Line) (handle : κ) (stamp : String) {link : LinkId}
    (hp : f.pool.find? identity.id ≠ some link) :
    (f.open identity config line handle stamp).scheduler? link =
      if link = f.schedulers.length then some (Scheduler.retain { config := config, line := line })
      else f.scheduler? link := by
  have hstarted :
      (f.start { config := config, line := line }).1.pool.find? identity.id ≠ some link := hp
  show ((f.start { config := config, line := line }).1.insertSession identity.id
    f.schedulers.length).1.scheduler? link = _
  rw [Fleet.insertSession_scheduler? hstarted, Fleet.start_scheduler?]
  by_cases hl : link = f.schedulers.length
  · simp [hl]
  · simp [hl, Ne.symm hl]

end Desk
end BrickHost
