import BrickHost.Registry.Snapshot
import BrickHost.Text.Quoted

/-! The registry: one record per brick, and at most one active brick. A record is unavailable or in
error until the brick is connected again. Handles to what a brick can do are held only while it is
ready. Times are texts, read off the caller's clock. -/

namespace BrickHost

/-- A record; `κ` is the type of handles to what a brick can do. -/
structure BrickRecord (κ : Type) where
  identity : BrickIdentity
  status : BrickStatus
  lastSeen : Option String := none
  lastError : Option String := none
  lastOperation : Option String := none
  lastOperationAt : Option String := none
  busy : Nat := 0
  schedulerState : Option SchedulerState := none
  files : Option κ := none
  control : Option κ := none

/-- Readings of a scheduler; what is absent leaves the record alone. -/
structure RuntimeMetrics where
  busy : Option Nat := none
  schedulerState : Option SchedulerState := none
  lastSeen : Option String := none
  deriving DecidableEq, Repr

structure Registry (κ : Type) where
  records : List (String × BrickRecord κ) := []
  active : Option String := none

namespace BrickRecord

variable {κ : Type}

def snapshot (r : BrickRecord κ) (isActive : Bool) : BrickSnapshot where
  identity := r.identity
  status := r.status
  isActive := isActive
  lastSeen := r.lastSeen
  lastError := r.lastError
  lastOperation := r.lastOperation
  lastOperationAt := r.lastOperationAt
  busy := r.busy
  schedulerState := r.schedulerState

/-- The link is gone, and with it the handles and the readings. -/
def lose (r : BrickRecord κ) (reason : String) : BrickRecord κ :=
  { r with
    status := .unavailable
    lastError := some reason
    busy := 0
    schedulerState := none
    files := none
    control := none }

def fail (r : BrickRecord κ) (reason : String) : BrickRecord κ :=
  { r with status := .error, lastError := some reason, files := none, control := none }

def measure (r : BrickRecord κ) (m : RuntimeMetrics) : BrickRecord κ :=
  { r with
    busy := m.busy.getD r.busy
    schedulerState := m.schedulerState.or r.schedulerState
    lastSeen := m.lastSeen.or r.lastSeen }

def note (r : BrickRecord κ) (operation now : String) : BrickRecord κ :=
  { r with lastOperation := some operation, lastOperationAt := some now, lastSeen := some now }

end BrickRecord

namespace Registry

variable {κ : Type}

def find? (r : Registry κ) (id : String) : Option (BrickRecord κ) :=
  r.records.lookup id

/-- Puts a record in the place of the one with this id, or behind the others. -/
def putIn (id : String) (record : BrickRecord κ) :
    List (String × BrickRecord κ) → List (String × BrickRecord κ)
  | [] => [(id, record)]
  | (other, old) :: rest =>
    if other = id then (id, record) :: rest else (other, old) :: putIn id record rest

def put (r : Registry κ) (id : String) (record : BrickRecord κ) : Registry κ :=
  { r with records := putIn id record r.records }

def isActive (r : Registry κ) (id : String) : Bool :=
  r.active == some id

/-- No brick is active any more if this one was. -/
def deactivate (r : Registry κ) (id : String) : Registry κ :=
  if r.isActive id then { r with active := none } else r

/-- Enters a brick as connecting and makes it active. -/
def connecting (r : Registry κ) (identity : BrickIdentity) : Registry κ :=
  let old := r.find? identity.id
  let record : BrickRecord κ := {
    identity := identity
    status := .connecting
    lastSeen := old.bind (·.lastSeen)
    lastOperation := old.bind (·.lastOperation)
    lastOperationAt := old.bind (·.lastOperationAt) }
  { r.put identity.id record with active := some identity.id }

/-- Enters a brick as ready, with its handles, and makes it active. -/
def ready (r : Registry κ) (identity : BrickIdentity) (files control : κ) (now : String) :
    Registry κ :=
  let old := r.find? identity.id
  let record : BrickRecord κ := {
    identity := identity
    status := .ready
    lastSeen := some now
    lastOperation := old.bind (·.lastOperation)
    lastOperationAt := old.bind (·.lastOperationAt)
    files := some files
    control := some control }
  { r.put identity.id record with active := some identity.id }

def markUnavailable (r : Registry κ) (id reason : String) : Registry κ :=
  match r.find? id with
  | none => r
  | some record => (r.put id (record.lose reason)).deactivate id

/-- An unknown brick gets a record of its own. -/
def markError (r : Registry κ) (id reason : String) : Registry κ :=
  let record := (r.find? id).getD
    { identity := { id := id, displayName := id, transport := .mock }, status := .error }
  r.put id (record.fail reason)

/-- Every brick that is connecting or ready becomes unavailable. -/
def markAllUnavailable (r : Registry κ) (reason : String) : Registry κ :=
  let live := r.records.filter fun entry => entry.2.status.isLive
  (live.map (·.2.identity.id)).foldl (fun r id => r.markUnavailable id reason) r

def contains (r : Registry κ) (id : String) : Bool :=
  (r.find? id).isSome

def remove (r : Registry κ) (id : String) : Registry κ :=
  if r.contains id then
    { r with records := r.records.filter (·.1 != id) }.deactivate id
  else r

def setActive (r : Registry κ) (id : String) : Registry κ :=
  if r.contains id then { r with active := some id } else r

def measure (r : Registry κ) (id : String) (m : RuntimeMetrics) : Registry κ :=
  match r.find? id with
  | none => r
  | some record => r.put id (record.measure m)

def note (r : Registry κ) (id operation now : String) : Registry κ :=
  match r.find? id with
  | none => r
  | some record => r.put id (record.note operation now)

def snapshot? (r : Registry κ) (id : String) : Option BrickSnapshot :=
  (r.find? id).map (·.snapshot (r.isActive id))

def snapshots (r : Registry κ) : List BrickSnapshot :=
  r.records.map fun entry => entry.2.snapshot (r.isActive entry.2.identity.id)

def list (r : Registry κ) : List BrickSnapshot :=
  r.snapshots.mergeSort BrickSnapshot.le

/-- The file handle of a brick, if it is of the kind asked for. -/
def resolveFiles {α : Type} (r : Registry κ) (kind : κ → Option α) (id : String) : Option α :=
  ((r.find? id).bind (·.files)).bind kind

/-- The control handle of a brick, if it is of the kind asked for. -/
def resolveControl {α : Type} (r : Registry κ) (kind : κ → Option α) (id : String) : Option α :=
  ((r.find? id).bind (·.control)).bind kind

def hasLive (r : Registry κ) : Bool :=
  r.records.any fun entry => entry.2.status.isLive

def size (r : Registry κ) : Nat :=
  r.records.length

def isEmpty (r : Registry κ) : Bool :=
  r.records.isEmpty

def diagnostic (r : Registry κ) : String :=
  recordText "BrickRegistry" [("records", toString r.size),
    ("active", optionText (r.active.map quoted))]

end Registry
end BrickHost
