import BrickHost.Scheduler.Request

/-! What a bench records while it runs, and the moment of each record in milliseconds. -/

namespace BrickHost

inductive BenchEvent where
  | resolved (link request : String) (outcome : Outcome)
  | recoveryBegan (link : String) (context : OrphanContext)
  | recoveryEnded (link request : String)
  | command (link : String) (body : List UInt8)
  | streamEnd (link : String)
  /-- What a brick without a script read, and whether the stream has ended since. -/
  | bytes (link : String) (data : List UInt8) (ended : Bool)
  | ticked
  | closing (brick : String)
  | refreshed (brick : String)
  | lost (brick reason : String)
  | reconnect (brick : String)
  | printed (line : String)

inductive BenchChannel where
  | resolved
  | recovery
  | wire
  | tick
  | closing
  | refresh
  | loss
  | reconnect
  | print
  deriving DecidableEq, Repr

structure BenchRecord where
  moment : Nat
  event : BenchEvent

namespace BenchEvent

def link : BenchEvent → String
  | resolved link _ _ => link
  | recoveryBegan link _ => link
  | recoveryEnded link _ => link
  | command link _ => link
  | streamEnd link => link
  | bytes link _ _ => link
  | _ => ""

def channel : BenchEvent → BenchChannel
  | resolved _ _ _ => .resolved
  | recoveryBegan _ _ | recoveryEnded _ _ => .recovery
  | command _ _ | streamEnd _ | bytes _ _ _ => .wire
  | ticked => .tick
  | closing _ => .closing
  | refreshed _ => .refresh
  | lost _ _ => .loss
  | reconnect _ => .reconnect
  | printed _ => .print

end BenchEvent

/-- The records of one sort, by moment and link; the order within a link is kept. -/
def BenchChannel.records (c : BenchChannel) (all : List BenchRecord) : List BenchRecord :=
  (all.filter (·.event.channel == c)).mergeSort fun a b =>
    decide (a.moment < b.moment) || (a.moment == b.moment && decide (a.event.link ≤ b.event.link))

end BrickHost
