import BrickHost.Bench.Turn

/-! Time on a bench. It stands still while anyone has something to do, then jumps to the next
appointment. Runs are bounded by fuel, one unit for each move. -/

namespace BrickHost
namespace Bench

/-- Enters the next appointment of a task. One that was entered before keeps its place. -/
def appoint (b : Bench) (t : Task) : Bench :=
  match b.alarm? t with
  | none => { b with alarms := b.alarms.filter (·.task != t) }
  | some (moment, key) =>
    if ⟨t, moment, key⟩ ∈ b.alarms then b
    else { b with alarms := b.alarms.filter (·.task != t) ++ [⟨t, moment, key⟩] }

/-- Wakes everyone whose appointment has come, in the order of the entries. -/
def ring (b : Bench) : Bench :=
  let (due, later) := b.alarms.partition (·.moment ≤ b.now)
  due.foldl (fun b a => b.wake a.task) { b with alarms := later }

def isDue (b : Bench) : Bool :=
  b.alarms.any (·.moment ≤ b.now)

def endDial (b : Bench) (d : Dial) : Bench :=
  match d.purpose with
  | .connect =>
    let b := { b with fleet := Monitor.failConnect b.fleet d.brick d.failure }.refresh d.brick
    { b with received := some (.error d.failure) }
  | .supervised index =>
    let b := { b with fleet := Monitor.failConnect b.fleet d.brick d.failure }.refresh d.brick
    let overseers := b.overseers.modify index fun o =>
      { o with supervision := o.supervision.dialEnded }
    { b with overseers := overseers }.wake (.overseer index)
  | .reconnect =>
    let b := { b with fleet := Monitor.failReconnect b.fleet d.brick d.failure }.refresh d.brick
    { b with received := some (.error d.failure) }
  | .attempt index =>
    let b := { b with fleet := Monitor.failReconnect b.fleet d.brick d.failure }.refresh d.brick
    match b.attempts[index]? with
    | some a => b.endAttempt index a
    | none => b

/-- Goes on at this moment until nobody has anything to do. Dials end one by one, each when all
else has come to rest. -/
def settle : Nat → Bench → Bench
  | 0, b => b
  | fuel + 1, b =>
    match b.ready with
    | t :: rest =>
      match b.move t with
      | some b => settle fuel b
      | none => settle fuel (({ b with ready := rest }.appoint t).listen t)
    | [] =>
      match b.dials with
      | d :: rest => settle fuel ({ b with dials := rest }.endDial d)
      | [] => if b.isDue then settle fuel b.ring else b

def nextMoment? (b : Bench) : Option Nat :=
  (b.alarms.map (·.moment)).min?

def moveTo (b : Bench) (moment : Nat) : Bench :=
  { b with now := moment }.ring

/-- Waits for something, at most until a moment, which itself comes too late for it: who waits goes
on before anyone who was woken at the same moment. -/
def await (moves : Nat) (until_ : Option Nat) (met : Bench → Bool) : Nat → Bench → Bench × Bool
  | 0, b => (b, false)
  | fuel + 1, b =>
    if met b then (b, true)
    else if until_.any (· ≤ b.now) then (b, false)
    else
      let b := settle moves b
      if met b then (b, true)
      else
        match b.nextMoment?, until_ with
        | none, none => (b, false)
        | some moment, none => await moves until_ met fuel (b.moveTo moment)
        | none, some last => (b.moveTo last, false)
        | some moment, some last =>
          if last ≤ moment then (b.moveTo last, false)
          else await moves until_ met fuel (b.moveTo moment)

/-- The fuel of every run. Nothing that comes to rest makes so many moves. -/
def ample : Nat := 1000000000000

def run (b : Bench) : Bench :=
  settle ample b

/-- Lets time pass. What is due at the last moment is still to be done. -/
def advance (b : Bench) (ms : Nat) : Bench :=
  (await ample (some (b.now + ms)) (fun _ => false) ample b).1

def awaitUntil (b : Bench) (met : Bench → Bool) : Bench :=
  (await ample none met ample b).1

end Bench
end BrickHost
