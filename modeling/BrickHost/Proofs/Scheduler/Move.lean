import BrickHost.Proofs.Scheduler.Lanes

/-! Everything that one move of a dispatcher can be. What a run of a scheduler keeps is shown move
by move along this list. -/

namespace BrickHost

theorem Packet.eq_body_of_toBytes {p : Packet} {limit : Nat} {bytes : List UInt8}
    (h : p.toBytes limit = .ok bytes) : bytes = p.body := by
  unfold toBytes at h
  split at h <;> cases h
  rfl

theorem Frame.eq_encode_of_encode? {max : Nat} {body frame : List UInt8}
    (h : Frame.encode? max body = .ok frame) : frame = Frame.encode body := by
  unfold encode? at h
  split at h <;> cases h
  rfl

namespace SchedulerState

variable {state : SchedulerState}

theorem isDisposed_iff : state.isDisposed = true ↔ state = .disposed := by
  cases state <;> simp [isDisposed]

theorem moveTo_idle_iff : state.moveTo .idle = .disposed ↔ state = .disposed := by
  cases state <;> simp [moveTo]

end SchedulerState

namespace Scheduler

/-- The request that has left its lane and is not resolved. -/
def inHand (s : Scheduler) : List Submission :=
  match s.phase with
  | .writing job _ | .awaiting job | .recovering job _ _ => [job.submission]
  | _ => []

/-- The dispatcher serves nobody any more. -/
def isStopped (s : Scheduler) : Bool :=
  match s.phase with
  | .closing _ | .terminated => true
  | _ => false

/-- The move with a request and then nothing else: it is resolved, and so is all that waits. -/
def lastSignals (s : Scheduler) (post : Submission) (e : LinkError) (why : Exit) : List Signal :=
  .resolved post (.error e) ::
    (s.waitingIn .high ++ s.waitingIn .normal).map (.resolved · (.error why.error))

def stopped (s : Scheduler) (now : Nat) : Scheduler :=
  { s with
    mailbox := []
    high := []
    normal := []
    state := .disposed
    cancelled := true
    queued := s.queued - (s.waitingIn .high ++ s.waitingIn .normal).length
    phase := .closing (now + closeLimit) }

theorem stop_eq (s : Scheduler) (now : Nat) (why : Exit) :
    s.stop now why = (s.stopped now,
      (s.waitingIn .high ++ s.waitingIn .normal).map (.resolved · (.error why.error))) := by
  simp [stop, drain_eq, stopped]

theorem resolveAndStop_eq (s : Scheduler) (now : Nat) (post : Submission) (e : LinkError)
    (why : Exit) : s.resolveAndStop now post e why = (s.stopped now, s.lastSignals post e why) := by
  simp [resolveAndStop, stop_eq, lastSignals]

def nextFrame (s : Scheduler) (post : Submission) : List UInt8 :=
  Frame.encode (post.request.packet s.nextCounter).body

def nextJob (s : Scheduler) (now : Nat) (post : Submission) : Job :=
  ⟨post, s.nextCounter, now, s.deadlineOf now post.request⟩

/-- The end of an orphaned request: the link closes if there is a reason for it. -/
def orphaned (s : Scheduler) (now : Nat) (job : Job) (reason : OrphanReason) :
    Option String → Scheduler × List Signal
  | some why =>
    (s.stopped now,
      s.lastSignals job.submission (.orphaned job.submission.request.id reason) (.linkClosed why))
  | none =>
    ({ s with
        state := if reason = OrphanReason.timeout then s.state.moveTo .idle else s.state
        phase := .ready },
      [.resolved job.submission (.error (.orphaned job.submission.request.id reason))])

theorem endOrphan_eq (s : Scheduler) (now : Nat) (job : Job) (reason : OrphanReason)
    (closure : Option String) :
    s.endOrphan now job reason closure = s.orphaned now job reason closure := by
  cases closure <;> cases reason <;>
    simp [endOrphan, orphaned, resolveAndStop_eq, stopped, lastSignals, waitingIn, lane]

theorem orphan_eq (s : Scheduler) (now : Nat) (job : Job) (reason : OrphanReason)
    (closure : Option String) :
    s.orphan now job reason closure =
      if job.submission.request.idempotent then s.orphaned now job reason closure
      else
        ({ s with phase := .recovering job reason closure, recovered := false },
          [.recover ⟨job.submission.request.id, job.submission.request.lane, reason⟩]) := by
  simp [orphan, endOrphan_eq]

/-- The moves of a dispatcher, each with what must hold for it, the state it leads to and what
others can see of it. -/
inductive Move (s : Scheduler) (now : Nat) : Scheduler → List Signal → Prop
  | refuse {post : Submission} {t : Scheduler} (hp : s.phase = .ready)
      (ht : s.drain.takeNext = some (post, t)) (hd : s.state = .disposed) :
      Move s now (t.stopped now) (.taken post :: t.lastSignals post .disposed .disposed)
  | unencodable {post : Submission} {t : Scheduler} {e : EncodeError} (hp : s.phase = .ready)
      (ht : s.drain.takeNext = some (post, t)) (hd : s.state ≠ .disposed)
      (he : (post.request.packet s.nextCounter).toBytes s.config.maxFrame = .error e) :
      Move s now { t with state := .idle, nextCounter := s.nextCounter + 1, phase := .ready }
        [.taken post, .resolved post (.error (.encode e))]
  | unframeable {post : Submission} {t : Scheduler} {body : List UInt8} {e : EncodeError}
      (hp : s.phase = .ready) (ht : s.drain.takeNext = some (post, t)) (hd : s.state ≠ .disposed)
      (hb : (post.request.packet s.nextCounter).toBytes s.config.maxFrame = .ok body)
      (he : Frame.encode? s.config.maxFrame body = .error e) :
      Move s now { t with state := .idle, nextCounter := s.nextCounter + 1, phase := .ready }
        [.taken post, .resolved post (.error (.transport (LinkError.encode e).message))]
  | begin {post : Submission} {t : Scheduler} (hp : s.phase = .ready)
      (ht : s.drain.takeNext = some (post, t)) (hd : s.state ≠ .disposed)
      (hb : (post.request.packet s.nextCounter).toBytes s.config.maxFrame =
        .ok (post.request.packet s.nextCounter).body)
      (hf : Frame.encode? s.config.maxFrame (post.request.packet s.nextCounter).body =
        .ok (s.nextFrame post)) :
      Move s now
        { t with
          state := .running
          nextCounter := s.nextCounter + 1
          phase := .writing (s.nextJob now post) (s.nextFrame post) }
        [.taken post]
  | settle (hp : s.phase = .ready) (ht : s.drain.takeNext = none) (hr : s.receiving = true) :
      Move s now { s.drain with phase := .waiting } []
  | abandon (hp : s.phase = .ready) (ht : s.drain.takeNext = none) (hr : s.receiving = false) :
      Move s now (s.stopped now) []
  | cancelWaiting (hp : s.phase = .waiting) (hc : s.cancelled = true) :
      Move s now (s.stopped now)
        ((s.waitingIn .high ++ s.waitingIn .normal).map (.resolved · (.error .disposed)))
  | fetchWaiting {t : Scheduler} (hp : s.phase = .waiting) (hc : s.cancelled = false)
      (hf : s.fetch = some t) : Move s now { t with phase := .ready } []
  | readWaiting {inbox : Inbox} {line : Line} (hp : s.phase = .waiting) (hc : s.cancelled = false)
      (hf : s.fetch = none)
      (hi : s.inbox.receive s.config.maxFrame s.line = (inbox, line, .progress)) :
      Move s now { s with inbox := inbox, line := line } []
  | unsolicited {inbox : Inbox} {line : Line} {body : List UInt8} (hp : s.phase = .waiting)
      (hc : s.cancelled = false) (hf : s.fetch = none)
      (hi : s.inbox.receive s.config.maxFrame s.line = (inbox, line, .frame body)) :
      Move s now { s with inbox := inbox, line := line, phase := .ready } []
  | endWaiting {inbox : Inbox} {line : Line} {why : String} (hp : s.phase = .waiting)
      (hc : s.cancelled = false) (hf : s.fetch = none)
      (hi : s.inbox.receive s.config.maxFrame s.line = (inbox, line, .closed why)) :
      Move s now ({ s with inbox := inbox, line := line }.stopped now)
        ((s.waitingIn .high ++ s.waitingIn .normal).map
          (.resolved · (.error (Exit.linkClosed why).error)))
  | cancelWriting {job : Job} {rest : List UInt8} (hp : s.phase = .writing job rest)
      (hc : s.cancelled = true) :
      Move s now (s.stopped now) (s.lastSignals job.submission .disposed .disposed)
  | write {job : Job} {rest : List UInt8} {line : Line} {count : Nat}
      (hp : s.phase = .writing job rest) (hc : s.cancelled = false)
      (hw : s.line.write rest = (line, .accepted count)) :
      Move s now
        { s with
          line := line
          phase := if (rest.drop count).isEmpty then .awaiting job
            else .writing job (rest.drop count) }
        [.sent (rest.take count)]
  | failWriting {job : Job} {rest : List UInt8} {line : Line} {text : String}
      (hp : s.phase = .writing job rest) (hc : s.cancelled = false)
      (hw : s.line.write rest = (line, .failed text)) :
      Move s now { s with line := line, state := s.state.moveTo .idle, phase := .ready }
        [.resolved job.submission (.error (.transport text))]
  | stall {job : Job} {rest : List UInt8} {line : Line} (hp : s.phase = .writing job rest)
      (hc : s.cancelled = false) (hw : s.line.write rest = (line, .full))
      (hd : job.deadline ≤ now) :
      Move s now (s.orphan now job .timeout (some stallText)).1
        (s.orphan now job .timeout (some stallText)).2
  | cancelAwaiting {job : Job} (hp : s.phase = .awaiting job) (hc : s.cancelled = true) :
      Move s now (s.stopped now) (s.lastSignals job.submission .disposed .disposed)
  | readAwaiting {job : Job} {inbox : Inbox} {line : Line} (hp : s.phase = .awaiting job)
      (hc : s.cancelled = false)
      (hi : s.inbox.receive s.config.maxFrame s.line = (inbox, line, .progress)) :
      Move s now { s with inbox := inbox, line := line } []
  | answered {job : Job} {inbox : Inbox} {line : Line} {body : List UInt8} {result : CommandResult}
      (hp : s.phase = .awaiting job) (hc : s.cancelled = false)
      (hi : s.inbox.receive s.config.maxFrame s.line = (inbox, line, .frame body))
      (ha : answer? now job body = some result) :
      Move s now
        { s with
          inbox := inbox
          line := line
          state := s.state.moveTo .idle
          phase := .ready }
        [.resolved job.submission (.ok result)]
  | discard {job : Job} {inbox : Inbox} {line : Line} {body : List UInt8}
      (hp : s.phase = .awaiting job) (hc : s.cancelled = false)
      (hi : s.inbox.receive s.config.maxFrame s.line = (inbox, line, .frame body))
      (ha : answer? now job body = none) :
      Move s now { s with inbox := inbox, line := line } []
  | endAwaiting {job : Job} {inbox : Inbox} {line : Line} {why : String}
      (hp : s.phase = .awaiting job) (hc : s.cancelled = false)
      (hi : s.inbox.receive s.config.maxFrame s.line = (inbox, line, .closed why)) :
      Move s now
        ({ s with inbox := inbox, line := line }.orphan now job .transportClosed (some why)).1
        ({ s with inbox := inbox, line := line }.orphan now job .transportClosed (some why)).2
  | expire {job : Job} {inbox : Inbox} {line : Line} (hp : s.phase = .awaiting job)
      (hc : s.cancelled = false)
      (hi : s.inbox.receive s.config.maxFrame s.line = (inbox, line, .nothing))
      (hd : job.deadline ≤ now) :
      Move s now (s.orphan now job .timeout none).1 (s.orphan now job .timeout none).2
  | fetchAwaiting {job : Job} {inbox : Inbox} {line : Line} {t : Scheduler}
      (hp : s.phase = .awaiting job) (hc : s.cancelled = false)
      (hi : s.inbox.receive s.config.maxFrame s.line = (inbox, line, .nothing))
      (hd : now < job.deadline) (hf : s.fetch = some t) : Move s now t []
  | recover {job : Job} {reason : OrphanReason} {closure : Option String}
      (hp : s.phase = .recovering job reason closure) (hr : s.recovered = true) :
      Move s now (s.orphaned now job reason closure).1 (s.orphaned now job reason closure).2
  | terminate {deadline : Nat} (hp : s.phase = .closing deadline)
      (hc : s.line.closing ≠ .stalls ∨ deadline ≤ now) :
      Move s now { s with line := s.line.close, phase := .terminated } [.terminated]

theorem begin_move {s t : Scheduler} {now : Nat} {signals : List Signal} (hp : s.phase = .ready)
    (h : s.begin now = (t, signals)) : Move s now t signals := by
  cases ht : s.drain.takeNext with
  | none =>
    by_cases hr : s.receiving = true
    · simp only [begin, ht, hr, if_true] at h
      cases h
      exact .settle hp ht hr
    · simp only [begin, ht, hr, stop_eq] at h
      obtain ⟨hh, hn⟩ := takeNext_eq_none ht
      simp only [drain_eq] at hh hn
      cases h
      simpa [hh, hn] using Move.abandon hp ht (by simpa using hr)
  | some taken =>
    obtain ⟨post, u⟩ := taken
    have hu : u.state = s.state ∧ u.config = s.config ∧ u.nextCounter = s.nextCounter := by
      rcases takeNext_cases ht with ⟨_, _, rfl⟩ | ⟨_, _, _, rfl⟩ <;> simp [drain_eq]
    simp only [begin, ht] at h
    cases h
    by_cases hd : s.state = .disposed
    · have he : u.dispatch now post = u.resolveAndStop now post .disposed .disposed := by
        simp [dispatch, hu.1, hd, SchedulerState.isDisposed]
      rw [he, resolveAndStop_eq]
      exact .refuse hp ht hd
    · have hd' : u.state.isDisposed = false := by
        rw [hu.1, ← Bool.not_eq_true, SchedulerState.isDisposed_iff]
        exact hd
      cases hb : (post.request.packet s.nextCounter).toBytes s.config.maxFrame with
      | error e =>
        have he : u.dispatch now post =
            ({ u with state := .idle, nextCounter := s.nextCounter + 1, phase := .ready },
              [.resolved post (.error (.encode e))]) := by
          simp [dispatch, hd', hu.2.1, hu.2.2, hb, resolve, SchedulerState.moveTo]
        rw [he]
        exact .unencodable hp ht hd hb
      | ok body =>
        cases hf : Frame.encode? s.config.maxFrame body with
        | error e =>
          have he : u.dispatch now post =
              ({ u with state := .idle, nextCounter := s.nextCounter + 1, phase := .ready },
                [.resolved post (.error (.transport (LinkError.encode e).message))]) := by
            simp [dispatch, hd', hu.2.1, hu.2.2, hb, hf, resolve, SchedulerState.moveTo]
          rw [he]
          exact .unframeable hp ht hd hb hf
        | ok frame =>
          obtain rfl := Packet.eq_body_of_toBytes hb
          obtain rfl := Frame.eq_encode_of_encode? hf
          have he : u.dispatch now post =
              ({ u with
                  state := .running
                  nextCounter := s.nextCounter + 1
                  phase := .writing (s.nextJob now post) (s.nextFrame post) }, []) := by
            simp [dispatch, hd', hu.2.1, hu.2.2, hb, hf, nextJob, nextFrame, deadlineOf]
          rw [he]
          exact .begin hp ht hd hb hf

theorem waiting_move {s t : Scheduler} {now : Nat} {signals : List Signal} (hp : s.phase = .waiting)
    (h : s.stepWaiting now = some (t, signals)) : Move s now t signals := by
  by_cases hc : s.cancelled = true
  · simp only [stepWaiting, if_pos hc, stop_eq, Option.some.injEq] at h
    cases h
    exact .cancelWaiting hp hc
  · have hc' : s.cancelled = false := by simpa using hc
    cases hf : s.fetch with
    | some u =>
      simp only [stepWaiting, if_neg hc, hf, Option.some.injEq] at h
      cases h
      exact .fetchWaiting hp hc' hf
    | none =>
      rcases hi : s.inbox.receive s.config.maxFrame s.line with ⟨inbox, line, intake⟩
      cases intake with
      | nothing => simp [stepWaiting, hc, hf, hi] at h
      | progress =>
        simp only [stepWaiting, if_neg hc, hf, hi, Option.some.injEq] at h
        cases h
        exact .readWaiting hp hc' hf hi
      | frame body =>
        simp only [stepWaiting, if_neg hc, hf, hi, Option.some.injEq] at h
        cases h
        exact .unsolicited hp hc' hf hi
      | closed why =>
        simp only [stepWaiting, if_neg hc, hf, hi, stop_eq, Option.some.injEq] at h
        cases h
        exact .endWaiting hp hc' hf hi

theorem writing_move {s t : Scheduler} {now : Nat} {job : Job} {rest : List UInt8}
    {signals : List Signal} (hp : s.phase = .writing job rest)
    (h : s.stepWriting now job rest = some (t, signals)) : Move s now t signals := by
  by_cases hc : s.cancelled = true
  · simp only [stepWriting, if_pos hc, resolveAndStop_eq, Option.some.injEq] at h
    cases h
    exact .cancelWriting hp hc
  · have hc' : s.cancelled = false := by simpa using hc
    rcases hw : s.line.write rest with ⟨line, written⟩
    cases written with
    | accepted count =>
      simp only [stepWriting, if_neg hc, hw, Option.some.injEq] at h
      cases h
      exact .write hp hc' hw
    | failed text =>
      simp only [stepWriting, if_neg hc, hw, resolve, Option.some.injEq] at h
      cases h
      exact .failWriting hp hc' hw
    | full =>
      by_cases hd : job.deadline ≤ now
      · simp only [stepWriting, if_neg hc, hw, if_pos hd, Option.some.injEq] at h
        have hm := Move.stall hp hc' hw hd
        rwa [h] at hm
      · simp [stepWriting, hc, hw, hd] at h

theorem awaiting_move {s t : Scheduler} {now : Nat} {job : Job} {signals : List Signal}
    (hp : s.phase = .awaiting job) (h : s.stepAwaiting now job = some (t, signals)) :
    Move s now t signals := by
  by_cases hc : s.cancelled = true
  · simp only [stepAwaiting, if_pos hc, resolveAndStop_eq, Option.some.injEq] at h
    cases h
    exact .cancelAwaiting hp hc
  · have hc' : s.cancelled = false := by simpa using hc
    rcases hi : s.inbox.receive s.config.maxFrame s.line with ⟨inbox, line, intake⟩
    cases intake with
    | nothing =>
      by_cases hd : job.deadline ≤ now
      · simp only [stepAwaiting, if_neg hc, hi, if_pos hd, Option.some.injEq] at h
        have hm := Move.expire hp hc' hi hd
        rwa [h] at hm
      · simp only [stepAwaiting, if_neg hc, hi, if_neg hd, Option.map_eq_some_iff] at h
        obtain ⟨u, hf, hu⟩ := h
        cases hu
        exact .fetchAwaiting hp hc' hi (by omega) hf
    | progress =>
      simp only [stepAwaiting, if_neg hc, hi, Option.some.injEq] at h
      cases h
      exact .readAwaiting hp hc' hi
    | frame body =>
      cases ha : answer? now job body with
      | some result =>
        simp only [stepAwaiting, if_neg hc, hi, ha, resolve, Option.some.injEq] at h
        cases h
        exact .answered hp hc' hi ha
      | none =>
        simp only [stepAwaiting, if_neg hc, hi, ha, Option.some.injEq] at h
        cases h
        exact .discard hp hc' hi ha
    | closed why =>
      simp only [stepAwaiting, if_neg hc, hi, Option.some.injEq] at h
      have hm : Move s now _ _ := .endAwaiting hp hc' hi
      rwa [h] at hm

/-- Nothing but these moves is made. -/
theorem move_of_step {s t : Scheduler} {now : Nat} {signals : List Signal}
    (h : s.step now = some (t, signals)) : Move s now t signals := by
  cases hp : s.phase with
  | ready =>
    simp only [step, hp, Option.some.injEq] at h
    exact begin_move hp h
  | waiting =>
    simp only [step, hp] at h
    exact waiting_move hp h
  | writing job rest =>
    simp only [step, hp] at h
    exact writing_move hp h
  | awaiting job =>
    simp only [step, hp] at h
    exact awaiting_move hp h
  | recovering job reason closure =>
    cases hr : s.recovered with
    | false => simp [step, hp, hr] at h
    | true =>
      simp only [step, hp, hr, if_true, endOrphan_eq, Option.some.injEq] at h
      have hm : Move s now _ _ := .recover hp hr
      rwa [h] at hm
  | closing deadline =>
    by_cases hc : s.line.closing = .stalls ∧ now < deadline
    · simp [step, hp, hc] at h
    · simp only [step, hp, hc, if_false, terminate, Option.some.injEq] at h
      cases h
      exact .terminate hp (by by_cases hs : s.line.closing = .stalls <;> simp_all)
  | terminated => simp [step, hp] at h

end Scheduler
end BrickHost
