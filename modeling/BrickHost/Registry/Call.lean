import BrickHost.Json.Printer
import BrickHost.Registry.Basic

/-! Everything a registry can be asked or told, as data, and its answers. Among them are handles to
what a brick can do, of several kinds: who asks for one names the kind and gets nothing if the brick
offers another. -/

namespace BrickHost

inductive HandleKind where
  | primary
  | secondary
  | numbered
  deriving DecidableEq, Repr

inductive Handle where
  /-- Fits no kind. -/
  | bare
  | primary (tag : String)
  | secondary (tag : String)
  | numbered (tag : Int)
  /-- The brick itself, over its link. -/
  | link (brick : String) (number : Nat)
  deriving DecidableEq, Repr

def Handle.as? (kind : HandleKind) (h : Handle) : Option Handle :=
  match kind, h with
  | .primary, .primary _ => some h
  | .secondary, .secondary _ => some h
  | .numbered, .numbered _ => some h
  | _, _ => none

/-- The brick and the number of its link, for a handle of that kind. -/
def Handle.link? : Handle → Option (String × Nat)
  | .link brick number => some (brick, number)
  | _ => none

inductive RegistryCall where
  | connecting (identity : BrickIdentity)
  | ready (identity : BrickIdentity) (files control : Handle)
  | unavailable (id reason : String)
  | error (id reason : String)
  | allUnavailable (reason : String)
  | remove (id : String)
  | activate (id : String)
  | measure (id : String) (metrics : RuntimeMetrics)
  | note (id operation : String)
  | get (id : String)
  | files (id : String) (kind : HandleKind)
  | control (id : String) (kind : HandleKind)
  | live
  | size
  | diagnostic
  | report (id : String) (quiet : Bool)
  deriving DecidableEq, Repr

inductive RegistryAnswer where
  | nothing
  | snapshot (shown : Option BrickSnapshot)
  | flag (value : Bool)
  | handle (found : Option Handle)
  | size (count : Nat)
  | text (value : String)
  | lines (all : List String)
  deriving DecidableEq, Repr

def BrickSnapshot.line (s : BrickSnapshot) : String :=
  Json.text s.toDocument

namespace Registry

/-- A brick that is not known has nothing to report. -/
def report {κ : Type} (r : Registry κ) (id : String) : List String :=
  ((r.snapshot? id).map (·.line)).toList

/-- Carries a call out. `stamp` is what the clock shows. -/
def perform (r : Registry Handle) (stamp : String) : RegistryCall → Registry Handle × RegistryAnswer
  | .connecting identity =>
    let r := r.connecting identity
    (r, .snapshot (r.snapshot? identity.id))
  | .ready identity files control =>
    let r := r.ready identity files control stamp
    (r, .snapshot (r.snapshot? identity.id))
  | .unavailable id reason => (r.markUnavailable id reason, .nothing)
  | .error id reason => (r.markError id reason, .nothing)
  | .allUnavailable reason => (r.markAllUnavailable reason, .nothing)
  | .remove id => (r.remove id, .flag (r.contains id))
  | .activate id => (r.setActive id, .flag (r.contains id))
  | .measure id metrics => (r.measure id metrics, .nothing)
  | .note id operation => (r.note id operation stamp, .nothing)
  | .get id => (r, .snapshot (r.snapshot? id))
  | .files id kind => (r, .handle (r.resolveFiles (Handle.as? kind) id))
  | .control id kind => (r, .handle (r.resolveControl (Handle.as? kind) id))
  | .live => (r, .flag r.hasLive)
  | .size => (r, .size r.size)
  | .diagnostic => (r, .text r.diagnostic)
  | .report id quiet => (r, .lines (if quiet then [] else r.report id))

end Registry
end BrickHost
