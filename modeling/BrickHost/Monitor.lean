import BrickHost.Fleet
import BrickHost.Settings

/-! The monitor: what it does to a fleet when it dials bricks, loses them, and stops. Anything may
happen between the beginning and the end of a dial or a disconnect. -/

namespace BrickHost
namespace Monitor

variable {κ : Type}

def unknownBrick (id : String) : LinkError :=
  .other ("unknown brick " ++ quoted id)

def beginConnect (f : Fleet κ) (entry : BrickEntry) : Fleet κ :=
  f.withRegistry (·.connecting entry.identity)

def failConnect (f : Fleet κ) (id : String) (e : LinkError) : Fleet κ :=
  f.withRegistry (·.markError id e.message)

/-- A later dial has failed. The brick stays lost, so that it is dialed again. -/
def failReconnect (f : Fleet κ) (id : String) (e : LinkError) : Fleet κ :=
  f.withRegistry (·.markUnavailable id (linkLossStart ++ " " ++ e.message))

/-- A dial has succeeded: a session opens over the new link, and the brick is ready. Gives the link
of a session that was replaced. -/
def attach (f : Fleet κ) (identity : BrickIdentity) (link : LinkId) (handle : κ) (stamp : String) :
    Fleet κ × Option LinkId :=
  let (f, replaced) := f.insertSession identity.id link
  (f.withRegistry (·.ready identity handle handle stamp), replaced)

/-- Ends a disconnect by the user, once the session has ended. -/
def endDisconnect (f : Fleet κ) (id : String) : Fleet κ :=
  f.withRegistry (·.markUnavailable id userDisconnectReason)

def stopReason : String := "Monitor stopped."

/-- Ends a shutdown, once all sessions have ended. -/
def endShutdown (f : Fleet κ) : Fleet κ :=
  f.withRegistry (·.markAllUnavailable stopReason)

end Monitor

/-- Where the supervision of a fleet stands. -/
inductive Supervision where
  /-- So many first dials have not ended. -/
  | dialing (left : Nat)
  | watching
  /-- The poller was told to stop. -/
  | stopping
  /-- The sessions over these links are closing. -/
  | closing (links : List LinkId)
  | done
  deriving DecidableEq, Repr

/-- What a move of the supervision asks for. -/
inductive SupervisionSignal where
  | startPoller
  | stopPoller
  | disposed (link : LinkId)
  | finished
  deriving DecidableEq, Repr

namespace Supervision

variable {κ : Type}

/-- A first dial has ended. -/
def dialEnded : Supervision → Supervision
  | dialing left => dialing (left - 1)
  | s => s

/-- One move, `none` while there is something to wait for: the dials, the request to stop, the end
of the poller, the end of every session. -/
def step (s : Supervision) (f : Fleet κ) (stopAsked pollerEnded : Bool) :
    Option (Supervision × Fleet κ × List SupervisionSignal) :=
  match s with
  | dialing 0 => some (watching, f, [.startPoller])
  | dialing _ => none
  | watching => if stopAsked then some (stopping, f, [.stopPoller]) else none
  | stopping =>
    if pollerEnded then
      let (f, links) := f.removeSessions
      some (closing links, f, links.map .disposed)
    else none
  | closing links =>
    if links.all f.isTerminated then some (done, Monitor.endShutdown f, [.finished]) else none
  | done => none

end Supervision
end BrickHost
