import BrickHost.Scheduler.Request
import BrickHost.Text.Duration

/-! How the unknown outcome of a request is followed up. The dispatcher waits until the recovery is
done or has taken too long; what it came to makes no difference. -/

namespace BrickHost

/-- What a recovery does once it is asked, and after how many milliseconds. -/
inductive Conduct where
  | returns (after : Nat) (result : Except LinkError Unit)
  | panics (after : Nat)
  | hangs

def Conduct.duration? : Conduct → Option Nat
  | returns after _ | panics after => some after
  | hangs => none

/-- A recovery, and once it has begun, the moments at which it is done, if ever, and given up. -/
structure Recovery where
  context : OrphanContext
  bounds : Option (Option Nat × Nat) := none
  deriving DecidableEq, Repr

inductive RecoveryMove where
  | began (r : Recovery)
  | ended
  | abandoned
  deriving DecidableEq, Repr

namespace Recovery

/-- One move, `none` while it goes on. A recovery that is done at the very moment it is to be given
up counts as done. -/
def step (r : Recovery) (conduct : Conduct) (limit : Duration) (now : Nat) : Option RecoveryMove :=
  match r.bounds with
  | none =>
    some (.began
      { r with bounds := some (conduct.duration?.map (now + ·), now + limit.ceilMillis) })
  | some (finish, last) =>
    if finish.any (· ≤ now) then some .ended
    else if last ≤ now then some .abandoned
    else none

/-- When a recovery that has begun has to be looked at again. -/
def alarm? (r : Recovery) : Option Nat :=
  r.bounds.map fun (finish, last) => finish.elim last (Nat.min · last)

end Recovery
end BrickHost
