import BrickHost.Scheduler.Basic

/-! The dispatcher, one move at a time. It serves the high lane before the normal one, gives each
command a fresh counter and a deadline that covers writing it, and lets nothing else onto the wire
until the command is resolved and, where its outcome is unknown, followed up by a recovery. -/

namespace BrickHost

inductive Signal where
  | taken (post : Submission)
  /-- Accepted by the transport. -/
  | sent (bytes : List UInt8)
  | recover (context : OrphanContext)
  | resolved (post : Submission) (outcome : Outcome)
  | terminated

inductive Exit where
  | disposed
  | abandoned
  | linkClosed (why : String)
  deriving DecidableEq, Repr

/-- What requests that never got onto the wire are told. -/
def Exit.error : Exit → LinkError
  | disposed | abandoned => .disposed
  | linkClosed why => .transport ("link closed: " ++ why)

namespace Scheduler

/-- The most time, in milliseconds, that closing the transport may take. -/
def closeLimit : Nat := 500

def stallText : String := "write stalled"

def enqueue (s : Scheduler) (post : Submission) : Scheduler :=
  match post.request.lane with
  | .high => { s with high := s.high ++ [post] }
  | .normal => { s with normal := s.normal ++ [post] }

def drain (s : Scheduler) : Scheduler :=
  s.mailbox.foldl enqueue { s with mailbox := [] }

/-- The first of the high lane, else the first of the normal one. -/
def takeNext (s : Scheduler) : Option (Submission × Scheduler) :=
  match s.high, s.normal with
  | post :: rest, _ => some (post, { s with high := rest, queued := s.queued - 1 })
  | [], post :: rest => some (post, { s with normal := rest, queued := s.queued - 1 })
  | [], [] => none

/-- Fails all that is queued and begins to close the transport. -/
def stop (s : Scheduler) (now : Nat) (why : Exit) : Scheduler × List Signal :=
  let s := s.drain
  let pending := s.high ++ s.normal
  ({ s with
      state := .disposed
      cancelled := true
      queued := s.queued - pending.length
      high := []
      normal := []
      phase := .closing (now + closeLimit) },
    pending.map (.resolved · (.error why.error)))

/-- Resolves a request and stops. -/
def resolveAndStop (s : Scheduler) (now : Nat) (post : Submission) (e : LinkError) (why : Exit) :
    Scheduler × List Signal :=
  let (s', signals) := s.stop now why
  (s', .resolved post (.error e) :: signals)

def resolve (s : Scheduler) (post : Submission) (outcome : Outcome) : Scheduler × List Signal :=
  ({ s with state := s.state.moveTo .idle, phase := .ready }, [.resolved post outcome])

def deadlineOf (s : Scheduler) (now : Nat) (r : Request) : Nat :=
  now + (r.timeout.getD s.config.defaultTimeout).ceilMillis

/-- Begins with a request that has just left its lane. The counter is used up even if the packet
cannot be encoded. -/
def dispatch (s : Scheduler) (now : Nat) (post : Submission) : Scheduler × List Signal :=
  if s.state.isDisposed then s.resolveAndStop now post .disposed .disposed
  else
    let counter := s.nextCounter
    let s := { s with state := .running, nextCounter := s.nextCounter + 1 }
    match (post.request.packet counter).toBytes s.config.maxFrame with
    | .error e => s.resolve post (.error (.encode e))
    | .ok body =>
      match Frame.encode? s.config.maxFrame body with
      | .error e => s.resolve post (.error (.transport (LinkError.encode e).message))
      | .ok frame =>
        let job : Job := ⟨post, counter, now, s.deadlineOf now post.request⟩
        ({ s with phase := .writing job frame }, [])

/-- Takes the next request, or settles down to wait. -/
def begin (s : Scheduler) (now : Nat) : Scheduler × List Signal :=
  match s.drain.takeNext with
  | some (post, s) =>
    let (s', signals) := s.dispatch now post
    (s', .taken post :: signals)
  | none =>
    if s.receiving then ({ s.drain with phase := .waiting }, [])
    else s.stop now .abandoned

/-- Ends an orphaned request, after its recovery if it had one. -/
def endOrphan (s : Scheduler) (now : Nat) (job : Job) (reason : OrphanReason)
    (closure : Option String) : Scheduler × List Signal :=
  let s := if reason = .timeout then { s with state := s.state.moveTo .idle } else s
  let error := LinkError.orphaned job.submission.request.id reason
  match closure with
  | some why => s.resolveAndStop now job.submission error (.linkClosed why)
  | none => ({ s with phase := .ready }, [.resolved job.submission (.error error)])

def orphan (s : Scheduler) (now : Nat) (job : Job) (reason : OrphanReason)
    (closure : Option String) : Scheduler × List Signal :=
  let r := job.submission.request
  if r.idempotent then s.endOrphan now job reason closure
  else
    ({ s with phase := .recovering job reason closure, recovered := false },
      [.recover ⟨r.id, r.lane, reason⟩])

/-- What waiting for input finds in the mailbox. -/
def fetch (s : Scheduler) : Option Scheduler :=
  match s.mailbox with
  | post :: rest => some ({ s with mailbox := rest }.enqueue post)
  | [] => if s.handles = 0 ∧ s.receiving then some { s with receiving := false } else none

def stepWaiting (s : Scheduler) (now : Nat) : Option (Scheduler × List Signal) :=
  if s.cancelled then some (s.stop now .disposed)
  else
    match s.fetch with
    | some s' => some ({ s' with phase := .ready }, [])
    | none =>
      match s.inbox.receive s.config.maxFrame s.line with
      | (_, _, .nothing) => none
      | (inbox, line, .progress) => some ({ s with inbox := inbox, line := line }, [])
      | (inbox, line, .frame _) =>
        some ({ s with inbox := inbox, line := line, phase := .ready }, [])
      | (inbox, line, .closed why) =>
        some ({ s with inbox := inbox, line := line }.stop now (.linkClosed why))

def stepWriting (s : Scheduler) (now : Nat) (job : Job) (rest : List UInt8) :
    Option (Scheduler × List Signal) :=
  if s.cancelled then some (s.resolveAndStop now job.submission .disposed .disposed)
  else
    match s.line.write rest with
    | (line, .accepted count) =>
      let left := rest.drop count
      let phase := if left.isEmpty then Phase.awaiting job else .writing job left
      some ({ s with line := line, phase := phase }, [.sent (rest.take count)])
    | (line, .failed text) =>
      some ({ s with line := line }.resolve job.submission (.error (.transport text)))
    | (_, .full) =>
      if job.deadline ≤ now then some (s.orphan now job .timeout (some stallText)) else none

/-- The answer to a job, if a frame is one. Other replies are late, and what cannot be decoded is
noise. -/
def answer? (now : Nat) (job : Job) (body : List UInt8) : Option CommandResult :=
  match Packet.decodeReply body with
  | .error _ => none
  | .ok reply =>
    if reply.counter = job.counter then
      some {
        request := job.submission.request.id
        counter := job.counter
        reply := reply
        enqueuedAt := .ofMillis job.submission.enqueuedAt
        startedAt := .ofMillis job.startedAt
        finishedAt := .ofMillis now
        duration := .ofMillis (now - job.startedAt) }
    else none

def stepAwaiting (s : Scheduler) (now : Nat) (job : Job) : Option (Scheduler × List Signal) :=
  if s.cancelled then some (s.resolveAndStop now job.submission .disposed .disposed)
  else
    match s.inbox.receive s.config.maxFrame s.line with
    | (inbox, line, .progress) => some ({ s with inbox := inbox, line := line }, [])
    | (inbox, line, .frame body) =>
      let s := { s with inbox := inbox, line := line }
      match answer? now job body with
      | some result => some (s.resolve job.submission (.ok result))
      | none => some (s, [])
    | (inbox, line, .closed why) =>
      some ({ s with inbox := inbox, line := line }.orphan now job .transportClosed (some why))
    | (_, _, .nothing) =>
      if job.deadline ≤ now then some (s.orphan now job .timeout none)
      else s.fetch.map (·, [])

def terminate (s : Scheduler) : Scheduler × List Signal :=
  ({ s with line := s.line.close, phase := .terminated }, [.terminated])

/-- One move of the dispatcher, `none` while it has to wait. -/
def step (s : Scheduler) (now : Nat) : Option (Scheduler × List Signal) :=
  match s.phase with
  | .ready => some (s.begin now)
  | .waiting => s.stepWaiting now
  | .writing job rest => s.stepWriting now job rest
  | .awaiting job => s.stepAwaiting now job
  | .recovering job reason closure =>
    if s.recovered then some (s.endOrphan now job reason closure) else none
  | .closing deadline =>
    if s.line.closing = .stalls ∧ now < deadline then none else some s.terminate
  | .terminated => none

/-- When the dispatcher has to be looked at again though nothing happens to it, and a key that
tells one such appointment from another. -/
def alarm? (s : Scheduler) : Option (Nat × Nat) :=
  match s.phase with
  | .writing job _ | .awaiting job => some (job.deadline, job.submission.ticket)
  | .closing deadline => if s.line.closing = .stalls then some (deadline, s.nextTicket) else none
  | _ => none

end Scheduler
end BrickHost
