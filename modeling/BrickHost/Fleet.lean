import BrickHost.Pool
import BrickHost.Registry.Basic
import BrickHost.Scheduler.Step

/-! A fleet of bricks: what the poller, the monitor and their callers share. It is made of the
registry, the pool of sessions, and every scheduler that was ever started, each named by a number
for good. -/

namespace BrickHost

abbrev LinkId := Nat

structure Fleet (κ : Type) where
  registry : Registry κ := {}
  pool : Pool LinkId := {}
  schedulers : List Scheduler := []
  /-- Bricks listed behind those in the pool, though nothing is known about their sessions. -/
  rumoured : List String := []

namespace Fleet

variable {κ : Type}

def scheduler? (f : Fleet κ) (link : LinkId) : Option Scheduler :=
  f.schedulers[link]?

def update (f : Fleet κ) (link : LinkId) (change : Scheduler → Scheduler) : Fleet κ :=
  { f with schedulers := f.schedulers.modify link change }

def start (f : Fleet κ) (s : Scheduler) : Fleet κ × LinkId :=
  ({ f with schedulers := f.schedulers ++ [s] }, f.schedulers.length)

def isTerminated (f : Fleet κ) (link : LinkId) : Bool :=
  (f.scheduler? link).all (·.isTerminated)

/-- The bricks that may have a session. -/
def listedIds (f : Fleet κ) : List String :=
  f.pool.ids ++ f.rumoured

def session? (f : Fleet κ) (id : String) : Option (LinkId × Scheduler) := do
  let link ← f.pool.find? id
  return (link, ← f.scheduler? link)

def runtime? (f : Fleet κ) (id : String) : Option RuntimeSnapshot :=
  (f.session? id).map (·.2.snapshot)

/-- Posts a request to a link and gives its ticket, `none` if the link refuses it. -/
def submit (f : Fleet κ) (link : LinkId) (now : Nat) (r : Request) : Option (Fleet κ × Nat) := do
  let s ← f.scheduler? link
  let (s, ticket) ← s.submit now r
  return (f.update link fun _ => s, ticket)

def dispose (f : Fleet κ) (link : LinkId) : Fleet κ :=
  f.update link (·.dispose)

/-- Opens a session over a link. The session it replaces is disposed of. -/
def insertSession (f : Fleet κ) (id : String) (link : LinkId) : Fleet κ × Option LinkId :=
  let old := f.pool.find? id
  let f := { f with pool := f.pool.insert id link }.update link (·.retain)
  match old with
  | none => (f, none)
  | some replaced => (f.update replaced fun s => s.dispose.release, some replaced)

/-- Takes a session out of the pool and disposes of it. It has ended when its link terminates. -/
def removeSession (f : Fleet κ) (id : String) : Fleet κ × Option LinkId :=
  match f.pool.find? id with
  | none => (f, none)
  | some link =>
    ({ f with pool := f.pool.erase id }.update link fun s => s.dispose.release, some link)

/-- Takes all sessions out of the pool and disposes of them. -/
def removeSessions (f : Fleet κ) : Fleet κ × List LinkId :=
  let links := f.pool.sessions.map (·.2)
  (links.foldl (fun f link => f.update link fun s => s.dispose.release) { f with pool := {} },
    links)

def withRegistry (f : Fleet κ) (change : Registry κ → Registry κ) : Fleet κ :=
  { f with registry := change f.registry }

end Fleet
end BrickHost
