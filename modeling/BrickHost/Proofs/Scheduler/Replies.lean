import BrickHost.Proofs.Scheduler.Deadlines
import BrickHost.Proofs.Scheduler.Dialogue
import BrickHost.Proofs.Scheduler.Occupancy

/-! What becomes of a request that is on the wire and awaits its reply. The bytes that come in until
its deadline decide, whatever pieces they come in: the first frame that is its reply resolves it,
whatever stands before or after; without one, the end of the stream or a length that no frame may
have makes it an orphan. -/

namespace BrickHost

/-- The reply that a frame is, if it bears the counter. -/
def replyTo? (counter : UInt16) (body : List UInt8) : Option Packet :=
  match Packet.decodeReply body with
  | .error _ => none
  | .ok reply => if reply.counter = counter then some reply else none

/-- What a stretch of the stream comes to for a request that awaits its reply. -/
inductive Verdict where
  | answered (reply : Packet)
  | lost
  | pending
  deriving DecidableEq

/-- The first frame counts that is a reply with the counter. The stretch is cut into frames up to a
length above the limit or to its end, which may be that of the stream. -/
def Verdict.of (max : Nat) (counter : UInt16) (stretch : List UInt8) (ended : Bool) : Verdict :=
  match (Frame.split max stretch).frames.findSome? (replyTo? counter) with
  | some reply => .answered reply
  | none => if (Frame.split max stretch).error.isSome || ended then .lost else .pending

namespace Frame

variable {max : Nat} {bytes : List UInt8}

theorem oversized_of_error (h : (split max bytes).error.isSome = true) :
    ∃ size, scan max (split max bytes).rest = .oversized size := by
  induction hn : bytes.length using Nat.strongRecOn generalizing bytes with
  | ind n ih =>
    cases hs : scan max bytes with
    | short => simp [split_of_short hs] at h
    | oversized size =>
      rw [split_of_oversized hs]
      exact ⟨size, hs⟩
    | frame body rest =>
      rw [split_of_frame hs] at h ⊢
      exact ih rest.length (hn ▸ length_rest_of_scan hs) h rfl

/-- Nothing is read behind a length above the limit. -/
theorem frames_append_of_error (h : (split max bytes).error.isSome = true) (more : List UInt8) :
    (split max (bytes ++ more)).frames = (split max bytes).frames := by
  obtain ⟨size, hs⟩ := oversized_of_error h
  rw [split_append_eq, split_of_oversized (scan_append_of_oversized hs more)]
  exact List.append_nil _

end Frame

namespace Verdict

variable {max : Nat} {counter : UInt16} {stretch : List UInt8} {ended : Bool}

theorem of_encodes_append {passed : List (List UInt8)}
    (h : ∀ body ∈ passed, body.length ≤ Frame.limit max ∧ replyTo? counter body = none)
    (rest : List UInt8) (ended : Bool) :
    of max counter (passed.flatMap Frame.encode ++ rest) ended = of max counter rest ended := by
  have hn : passed.findSome? (replyTo? counter) = none :=
    List.findSome?_eq_none_iff.mpr (fun body hm => (h body hm).2)
  simp only [of, Frame.split_encodes_append (fun body hm => (h body hm).1), List.findSome?_append,
    hn, Option.none_or]

theorem of_frame {body rest : List UInt8} {reply : Packet}
    (hs : Frame.scan max stretch = .frame body rest) (hr : replyTo? counter body = some reply) :
    of max counter stretch ended = .answered reply := by
  simp [of, Frame.split_of_frame hs, hr]

theorem of_short (hs : Frame.scan max stretch = .short) :
    of max counter stretch ended = if ended then .lost else .pending := by
  simp [of, Frame.split_of_short hs]

theorem of_oversized {size : Nat} (hs : Frame.scan max stretch = .oversized size) :
    of max counter stretch ended = .lost := by
  simp [of, Frame.split_of_oversized hs]

/-- What is decided stays so, whatever more comes in. -/
theorem of_append (h : of max counter stretch false ≠ .pending) (more : List UInt8) (ended : Bool) :
    of max counter (stretch ++ more) ended = of max counter stretch false := by
  obtain ⟨later, hf⟩ := (Frame.split_append max stretch more).1
  cases hr : (Frame.split max stretch).frames.findSome? (replyTo? counter) with
  | some reply => simp [of, hr, ← hf, List.findSome?_append]
  | none =>
    have he : (Frame.split max stretch).error.isSome = true := by
      by_contra hn
      simp [of, hr, hn] at h
    have hl := (Frame.split_append max stretch more).2 he
    simp [of, Frame.frames_append_of_error he, hr, he, hl]

end Verdict

namespace Inbox

/-- All that will be taken from a pipe in its present state and was not handed out. -/
def unread (i : Inbox) (p : Pipe) : List UInt8 :=
  i.buffer ++ if i.ended then [] else p.bytes

def isOver (i : Inbox) (p : Pipe) : Bool :=
  i.ended || p.closed

/-- A buffer that was looked through holds no whole frame, and one at the end of the stream is looked
through again and again. -/
structure IsAware (limit : Nat) (i : Inbox) : Prop where
  seen : i.unscanned = false → Frame.scan limit i.buffer = .short
  ended : i.ended = true → i.unscanned = true

end Inbox

/-- What one move of the inbox says about the bytes that were unread before it and after it. -/
def Intake.Tells (limit : Nat) (before after : List UInt8) (ended : Bool) : Intake → Prop
  | .nothing => Frame.scan limit before = .short ∧ ended = false
  | .progress => after = before
  | .frame body => Frame.scan limit before = .frame body after
  | .closed _ =>
    Frame.scan limit before = .short ∧ ended = true ∨
      ∃ size, Frame.scan limit before = .oversized size

section Inboxes

variable {limit : Nat} {i i' : Inbox} {l l' : Line} {p p' : Pipe} {intake : Intake}

theorem Inbox.IsAware.scan (h : i.IsAware limit) (hr : i.scan limit = (i', intake)) (p : Pipe) :
    i'.IsAware limit ∧ i'.isOver p = i.isOver p ∧
      intake.Tells limit (i.unread p) (i'.unread p) (i.isOver p) := by
  unfold Inbox.scan at hr
  cases hs : Frame.scan limit i.buffer with
  | frame body rest =>
    rw [hs] at hr
    cases hr
    obtain ⟨hb, hl⟩ := Frame.eq_encode_append_of_scan hs
    refine ⟨⟨fun hu => ?_, h.ended⟩, rfl, ?_⟩
    · rw [h.seen hu] at hs
      cases hs
    · simp only [Intake.Tells, unread, hb, List.append_assoc]
      exact Frame.scan_encode_append hl _
  | oversized size =>
    rw [hs] at hr
    cases hr
    exact ⟨h, rfl, .inr ⟨size, Frame.scan_append_of_oversized hs _⟩⟩
  | short =>
    cases he : i.ended with
    | true =>
      have hw : Frame.scan limit (i.unread p) = .short ∧ i.isOver p = true := by
        simp [unread, isOver, he, hs]
      simp only [hs, he, if_true] at hr
      split at hr <;> cases hr <;> exact ⟨h, rfl, .inl hw⟩
    | false =>
      simp only [hs, he, Bool.false_eq_true, if_false] at hr
      cases hr
      refine ⟨⟨fun _ => hs, fun ht => by cases ht⟩, ?_, ?_⟩ <;> simp [isOver, unread, he, Intake.Tells]

theorem Inbox.IsAware.read (h : i.IsAware limit) (hu : i.unscanned = false)
    (hr : i.read p = (i', p', intake)) :
    i'.IsAware limit ∧ i'.isOver p' = i.isOver p ∧
      intake.Tells limit (i.unread p) (i'.unread p') (i.isOver p) := by
  have he : i.ended = false := by
    by_contra hn
    have ht := h.ended (by simpa using hn)
    simp [hu] at ht
  unfold Inbox.read at hr
  by_cases hb : p.bytes = []
  · rw [if_pos (by simp [hb])] at hr
    cases hc : p.closed with
    | true =>
      rw [if_pos hc] at hr
      cases hr
      refine ⟨⟨fun hs => (Bool.noConfusion hs), fun _ => rfl⟩, ?_, ?_⟩
      · simp [isOver, hc]
      · simp [Intake.Tells, unread, hb]
    | false =>
      simp only [hc, Bool.false_eq_true, if_false] at hr
      cases hr
      refine ⟨h, rfl, ?_⟩
      simp [Intake.Tells, unread, isOver, hb, hc, he, h.seen hu]
  · rw [if_neg (by simp [hb])] at hr
    cases hr
    refine ⟨⟨fun hs => (Bool.noConfusion hs), fun _ => rfl⟩, rfl, ?_⟩
    simp [Intake.Tells, unread, Pipe.drop, he]

theorem Inbox.IsAware.receive (h : i.IsAware limit) (hr : i.receive limit l = (i', l', intake)) :
    i'.IsAware limit ∧ (l.readFault = none → l'.readFault = none ∧
      i'.isOver l'.incoming = i.isOver l.incoming ∧
      intake.Tells limit (i.unread l.incoming) (i'.unread l'.incoming) (i.isOver l.incoming)) := by
  unfold Inbox.receive at hr
  split at hr
  · next text hu hf =>
    cases hr
    exact ⟨h, fun hn => absurd (hf.symm.trans hn) (by simp)⟩
  · cases hu : i.unscanned with
    | true =>
      rcases hs : i.scan limit with ⟨i'', intake'⟩
      simp only [next, hu, if_true, hs] at hr
      cases hr
      obtain ⟨ht, ho, hi⟩ := h.scan hs l.incoming
      exact ⟨ht, fun hn => ⟨hn, ho, hi⟩⟩
    | false =>
      rcases hs : i.read l.incoming with ⟨i'', p, intake'⟩
      simp only [next, hu, hs] at hr
      cases hr
      obtain ⟨ht, ho, hi⟩ := h.read hu hs
      exact ⟨ht, fun hn => ⟨hn, ho, hi⟩⟩

end Inboxes

namespace Course

theorem after_isAware {c : Course} {config : SchedulerConfig} (hc : c.scheduler.config = config)
    (h : c.scheduler.inbox.IsAware config.maxFrame) (ms : Nat) (act : Act) :
    (c.after ms act).scheduler.inbox.IsAware config.maxFrame := by
  subst hc
  rcases (c.moment ms act).cases with ⟨signals, -, hs, -⟩ | hq
  · have hm := Scheduler.move_of_step hs
    cases hl : (c.moment ms act).scheduler.listens with
    | true =>
      obtain ⟨line, intake, hr, -, -⟩ := hm.listening hl
      exact (h.receive hr).1
    | false =>
      have hi := (hm.deaf hl).1
      exact hi.symm ▸ h
  · have hi := hq.inbox
    exact hi.symm ▸ h

theorem run_isAware (config : SchedulerConfig) (line : Line) (acts : List (Nat × Act)) :
    ((start config line).run acts).scheduler.inbox.IsAware config.maxFrame := by
  refine reach_induction (P := fun c => c.scheduler.inbox.IsAware config.maxFrame)
    ⟨fun _ => rfl, fun h => by cases h⟩ (fun acts ms act h => ?_) acts
  exact after_isAware (run_config config line acts) h ms act

end Course

namespace Scheduler

def unread (s : Scheduler) : List UInt8 :=
  s.inbox.unread s.line.incoming

def isOver (s : Scheduler) : Bool :=
  s.inbox.isOver s.line.incoming

end Scheduler

/-- The end of the stream, as the brick brings it about. -/
def Line.hangUp (l : Line) : Line :=
  { l with incoming := l.incoming.close }

/-- The surroundings may do anything but dispose and change what comes in. -/
def Act.aside : Act → Act
  | .dispose => .rewire id
  | .rewire change =>
    .rewire (fun l => { change l with incoming := l.incoming, readFault := l.readFault })
  | act => act

def Shift.aside : Shift → Shift
  | .act ms other => .act ms other.aside
  | .attend conduct => .attend conduct

/-- A request that awaits its reply, and all that came in for it. -/
structure Hearing where
  attended : Attended
  job : Job
  /-- What was unread when it began, and what came in since then. -/
  stretch : List UInt8
  ended : Bool

inductive Occurrence where
  | shift (shift : Shift)
  | arrive (ms : Nat) (bytes : List UInt8)
  | hangUp (ms : Nat)

namespace Hearing

def of (a : Attended) (job : Job) : Hearing :=
  ⟨a, job, a.course.scheduler.unread, a.course.scheduler.isOver⟩

/-- More may still come in, which is so until the deadline and the end of the stream. -/
def isOpen (h : Hearing) (ms : Nat) : Bool :=
  !h.ended && decide (h.attended.course.now + ms < h.job.deadline)

def occur (h : Hearing) : Occurrence → Hearing
  | .shift shift => { h with attended := h.attended.shift shift.aside }
  | .arrive ms bytes =>
    if h.isOpen ms then
      { h with
        attended := h.attended.act ms (.rewire (·.deliver bytes))
        stretch := h.stretch ++ bytes }
    else h
  | .hangUp ms =>
    if h.isOpen ms then
      { h with attended := h.attended.act ms (.rewire Line.hangUp), ended := true }
    else h

def run (h : Hearing) (occurrences : List Occurrence) : Hearing :=
  occurrences.foldl occur h

def verdict (h : Hearing) (config : SchedulerConfig) : Verdict :=
  .of config.maxFrame h.job.counter h.stretch h.ended

end Hearing

/-- The request has this outcome and no other. -/
def Course.Resolves (c : Course) (post : Submission) (outcome : Outcome) : Prop :=
  ∀ other, (post, other) ∈ outcomes c.log ↔ other = outcome

def Job.result (job : Job) (now : Nat) (reply : Packet) : CommandResult where
  request := job.submission.request.id
  counter := job.counter
  reply := reply
  enqueuedAt := .ofMillis job.submission.enqueuedAt
  startedAt := .ofMillis job.startedAt
  finishedAt := .ofMillis now
  duration := .ofMillis (now - job.startedAt)

def Job.orphan (job : Job) (reason : OrphanReason) : Outcome :=
  .error (.orphaned job.submission.request.id reason)

namespace Scheduler

/-- Where a request stands of which all this came in. -/
inductive Stage (s : Scheduler) (job : Job) (log : List Event) (now limit : Nat)
    (stretch : List UInt8) (ended : Bool) : Prop
  | listening {passed : List (List UInt8)} (hp : s.phase = .awaiting job)
      (hc : s.cancelled = false) (hf : s.line.readFault = none)
      (hs : stretch = passed.flatMap Frame.encode ++ s.unread) (ho : ended = s.isOver)
      (hn : ∀ body ∈ passed, body.length ≤ Frame.limit limit ∧
        replyTo? job.counter body = none)
  | answered {result : CommandResult}
      (hv : Verdict.of limit job.counter stretch ended = .answered result.reply)
      (hr : result.request = job.submission.request.id ∧ result.counter = job.counter)
      (hl : (job.submission, .ok result) ∈ outcomes log)
  | followed {why : String} (hp : s.phase = .recovering job .transportClosed (some why))
      (hv : Verdict.of limit job.counter stretch ended = .lost)
      (hq : job.submission.request.idempotent = false)
  | orphaned (hv : Verdict.of limit job.counter stretch ended = .lost)
      (hl : (job.submission, job.orphan .transportClosed) ∈ outcomes log)
  | expired (hv : Verdict.of limit job.counter stretch ended = .pending)
      (hd : job.deadline ≤ now)

section Stage

variable {s t : Scheduler} {job : Job} {log : List Event} {now moment limit : Nat}
  {stretch : List UInt8} {ended : Bool} {signals : List Signal}

theorem answer?_eq (now : Nat) (job : Job) (body : List UInt8) :
    answer? now job body = (replyTo? job.counter body).map (job.result now) := by
  unfold answer? replyTo?
  cases Packet.decodeReply body with
  | error e => rfl
  | ok reply =>
    by_cases hc : reply.counter = job.counter
    · simp only [if_pos hc]
      rfl
    · simp only [if_neg hc]
      rfl

/-- An orphan is followed up first, unless repeating it does no harm. -/
theorem orphan_outcome (s : Scheduler) (now : Nat) (job : Job) (reason : OrphanReason)
    (closure : Option String) :
    (job.submission, job.orphan reason) ∈
        outcomes ((s.orphan now job reason closure).2.map .did) ∨
      job.submission.request.idempotent = false ∧
        (s.orphan now job reason closure).1.phase = .recovering job reason closure := by
  rw [orphan_eq]
  cases hq : job.submission.request.idempotent with
  | true => cases closure <;> simp [orphaned, Job.orphan]
  | false => simp

theorem Stage.aside (h : s.Stage job log now limit stretch ended) (events : List Event)
    (hp : t.phase = s.phase) (hc : t.cancelled = s.cancelled)
    (hf : t.line.readFault = s.line.readFault) (hu : t.unread = s.unread)
    (ho : t.isOver = s.isOver) (hn : now ≤ moment) :
    t.Stage job (log ++ events) moment limit stretch ended := by
  cases h with
  | listening hp' hc' hf' hs ho' hn' =>
    exact .listening (hp.trans hp') (hc.trans hc') (hf.trans hf') (hu ▸ hs) (ho'.trans ho.symm) hn'
  | answered hv hr hl => exact .answered hv hr (by simp [hl])
  | followed hp' hv hq => exact .followed (hp.trans hp') hv hq
  | orphaned hv hl => exact .orphaned hv (by simp [hl])
  | expired hv hd => exact .expired hv (hd.trans hn)

/-- More comes in, or the stream ends, in time. -/
theorem Stage.grow (h : s.Stage job log now limit stretch false) {bytes : List UInt8}
    (hp : t.phase = s.phase) (hc : t.cancelled = s.cancelled)
    (hf : t.line.readFault = s.line.readFault)
    (hu : s.isOver = false → t.unread = s.unread ++ bytes)
    (ho : s.isOver = false → t.isOver = ended) (hd : now < job.deadline) :
    t.Stage job log now limit (stretch ++ bytes) ended := by
  cases h with
  | @listening passed hp' hc' hf' hs ho' hn =>
    refine .listening (hp.trans hp') (hc.trans hc') (hf.trans hf') ?_ (ho ho'.symm).symm hn
    rw [hu ho'.symm, hs, List.append_assoc]
  | answered hv hr hl => exact .answered (by rw [Verdict.of_append (by simp [hv]), hv]) hr hl
  | followed hp' hv hq =>
    exact .followed (hp.trans hp') (by rw [Verdict.of_append (by simp [hv]), hv]) hq
  | orphaned hv hl => exact .orphaned (by rw [Verdict.of_append (by simp [hv]), hv]) hl
  | expired hv hd' => omega

/-- What a look at the line says about a request of whose stretch a part was passed over. -/
theorem look_listening {passed : List (List UInt8)} {inbox : Inbox} {line : Line} {intake : Intake}
    (hi : s.inbox.IsAware limit) (hf : s.line.readFault = none)
    (hs : stretch = passed.flatMap Frame.encode ++ s.unread)
    (hn : ∀ body ∈ passed, body.length ≤ Frame.limit limit ∧ replyTo? job.counter body = none)
    (hr : s.inbox.receive limit s.line = (inbox, line, intake)) :
    Verdict.of limit job.counter stretch s.isOver =
        Verdict.of limit job.counter s.unread s.isOver ∧
      line.readFault = none ∧ inbox.isOver line.incoming = s.isOver ∧
      intake.Tells limit s.unread (inbox.unread line.incoming) s.isOver := by
  obtain ⟨hl, ho, ht⟩ := (hi.receive hr).2 hf
  exact ⟨hs ▸ Verdict.of_encodes_append hn _ _, hl, ho, ht⟩

/-- The move that hears the reply, or that the stream is lost, is the one that decides. -/
theorem Stage.move (h : s.Stage job log now limit stretch ended) (hi : s.inbox.IsAware limit)
    (hg : s.config.maxFrame = limit) (hm : s.Move now t signals) :
    t.Stage job (log ++ signals.map .did) now limit stretch ended := by
  cases h with
  | @listening passed hp hc hf hs ho hn =>
    subst ho hg
    cases hm with
    | @readAwaiting _ inbox line _ _ hr =>
      obtain ⟨-, hl, ho, ht⟩ := look_listening hi hf hs hn hr
      refine .listening hp hc hl ?_ ho.symm hn
      exact hs.trans (congrArg _ (Eq.symm ht))
    | @answered other inbox line body result hp' _ hr ha =>
      obtain rfl : job = other := Phase.awaiting.inj (hp.symm.trans hp')
      obtain ⟨hv, -, -, ht⟩ := look_listening hi hf hs hn hr
      rw [answer?_eq, Option.map_eq_some_iff] at ha
      obtain ⟨reply, hreply, rfl⟩ := ha
      have hanswer : Verdict.of s.config.maxFrame job.counter stretch s.isOver =
          .answered (job.result now reply).reply := hv.trans (Verdict.of_frame ht hreply)
      exact .answered hanswer ⟨rfl, rfl⟩ (by simp)
    | @discard other inbox line body hp' _ hr ha =>
      obtain rfl : job = other := Phase.awaiting.inj (hp.symm.trans hp')
      obtain ⟨-, hl, ho, ht⟩ := look_listening hi hf hs hn hr
      obtain ⟨hb, hfits⟩ := Frame.eq_encode_append_of_scan ht
      rw [answer?_eq, Option.map_eq_none_iff] at ha
      have hpassed : stretch = (passed ++ [body]).flatMap Frame.encode ++
          inbox.unread line.incoming := by
        rw [hs, hb]
        simp
      refine .listening hp hc hl hpassed ho.symm (fun other hmem => ?_)
      rcases List.mem_append.mp hmem with hmem | hmem
      · exact hn other hmem
      · obtain rfl := List.mem_singleton.mp hmem
        exact ⟨hfits, ha⟩
    | @endAwaiting other inbox line why hp' _ hr =>
      obtain rfl : job = other := Phase.awaiting.inj (hp.symm.trans hp')
      obtain ⟨hv, -, -, ht⟩ := look_listening hi hf hs hn hr
      have hlost : Verdict.of s.config.maxFrame job.counter stretch s.isOver = .lost := by
        rcases ht with ⟨hshort, hended⟩ | ⟨size, hsize⟩
        · rw [hv, Verdict.of_short hshort, hended]
          rfl
        · rw [hv, Verdict.of_oversized hsize]
      rcases orphan_outcome { s with inbox := inbox, line := line } now job .transportClosed
        (some why) with ho | ⟨hq, hp⟩
      · exact .orphaned hlost (by simp [ho])
      · exact .followed hp hlost hq
    | @expire other inbox line hp' _ hr hd =>
      obtain rfl : job = other := Phase.awaiting.inj (hp.symm.trans hp')
      obtain ⟨hv, -, -, hshort, hended⟩ := look_listening hi hf hs hn hr
      refine .expired ?_ hd
      rw [hv, Verdict.of_short hshort, hended]
      rfl
    | fetchAwaiting _ _ _ _ hu =>
      obtain ⟨hinbox, hline, -⟩ := fetch_rest hu
      obtain ⟨hphase, -, hcancelled⟩ := fetch_phase hu
      refine .listening (hphase.trans hp) (hcancelled.trans hc) (hline ▸ hf) ?_ ?_ hn
      · rw [unread, hinbox, hline]
        exact hs
      · rw [isOver, isOver, hinbox, hline]
    | cancelAwaiting _ hc' => simp [hc] at hc'
    | _ => simp_all
  | answered hv hr hl => exact .answered hv hr (by simp [hl])
  | @followed why hp hv hq =>
    obtain ⟨-, -, rfl⟩ := hm.of_recovering hp
    refine .orphaned hv ?_
    simp [Scheduler.orphaned, Job.orphan]
  | orphaned hv hl => exact .orphaned hv (by simp [hl])
  | expired hv hd => exact .expired hv hd

/-- Where the dispatcher waits, all that came in was heard. -/
theorem Stage.pending_of_still (h : s.Stage job log now limit stretch ended)
    (hi : s.inbox.IsAware limit) (hg : s.config.maxFrame = limit) (hs : s.step now = none)
    (hp : s.phase = .awaiting job) (hn : ∀ outcome, (job.submission, outcome) ∉ outcomes log) :
    Verdict.of limit job.counter stretch ended = .pending := by
  cases h with
  | @listening passed hp' hc hf hs' ho hn =>
    subst ho hg
    rcases hr : s.inbox.receive s.config.maxFrame s.line with ⟨inbox, line, intake⟩
    obtain ⟨hv, -, -, ht⟩ := look_listening hi hf hs' hn hr
    cases intake with
    | nothing =>
      obtain ⟨hshort, hended⟩ := ht
      rw [hv, Verdict.of_short hshort, hended]
      rfl
    | progress | closed why => simp [step, hp, stepAwaiting, hc, hr] at hs
    | frame body =>
      cases ha : answer? now job body <;> simp [step, hp, stepAwaiting, hc, hr, ha] at hs
  | answered hv hr hl | orphaned hv hl => exact absurd hl (hn _)
  | followed hp' => simp [hp] at hp'
  | expired hv hd => exact hv

end Stage

theorem deliver_unread {s : Scheduler} (ho : s.isOver = false) (bytes : List UInt8) :
    unread { s with line := s.line.deliver bytes } = s.unread ++ bytes ∧
      isOver { s with line := s.line.deliver bytes } = false := by
  obtain ⟨he, hc⟩ : s.inbox.ended = false ∧ s.line.incoming.closed = false := by
    simpa [isOver, Inbox.isOver] using ho
  simp [unread, isOver, Inbox.unread, Inbox.isOver, Line.deliver, he, hc]

theorem hangUp_unread (s : Scheduler) :
    unread { s with line := s.line.hangUp } = s.unread ∧
      isOver { s with line := s.line.hangUp } = true := by
  simp [unread, isOver, Inbox.unread, Inbox.isOver, Line.hangUp, Pipe.close]

theorem react_aside (s : Scheduler) (now : Nat) {act : Act} (ha : act ≠ .move) :
    let t := (s.react now act.aside).1
    t.phase = s.phase ∧ t.cancelled = s.cancelled ∧ t.line.readFault = s.line.readFault ∧
      t.unread = s.unread ∧ t.isOver = s.isOver := by
  cases act with
  | move => exact absurd rfl ha
  | submit r =>
    by_cases hd : s.state.isDisposed = true <;>
      simp [Act.aside, react, submit, hd, unread, isOver]
  | _ => exact ⟨rfl, rfl, rfl, rfl, rfl⟩

end Scheduler

namespace Hearing

structure Follows (config : SchedulerConfig) (line : Line) (h : Hearing) : Prop where
  reached : ∃ shifts, h.attended = (Attended.start config line).run shifts
  stage : h.attended.course.scheduler.Stage h.job h.attended.course.log h.attended.course.now
    config.maxFrame h.stretch h.ended

section Follows

variable {config : SchedulerConfig} {line : Line} {h : Hearing}

theorem Follows.course (hf : h.Follows config line) :
    ∃ acts, h.attended.course = (Course.start config line).run acts := by
  obtain ⟨shifts, hs⟩ := hf.reached
  rw [hs]
  exact (Attended.run_orderly config line shifts).course

theorem Follows.aware (hf : h.Follows config line) :
    h.attended.course.scheduler.inbox.IsAware config.maxFrame ∧
      h.attended.course.scheduler.config = config := by
  obtain ⟨acts, hc⟩ := hf.course
  rw [hc]
  exact ⟨Course.run_isAware config line acts, Course.run_config config line acts⟩

theorem reached_shift (hr : ∃ shifts, h.attended = (Attended.start config line).run shifts)
    (shift : Shift) :
    ∃ shifts, h.attended.shift shift = (Attended.start config line).run shifts := by
  obtain ⟨shifts, hs⟩ := hr
  exact ⟨shifts ++ [shift], by rw [hs, Attended.run, Attended.run, List.foldl_append]; rfl⟩

theorem Follows.after (hf : h.Follows config line) (ms : Nat) (act : Act) :
    let c := h.attended.course.after ms act.aside
    c.scheduler.Stage h.job c.log c.now config.maxFrame h.stretch h.ended := by
  intro c
  obtain ⟨hi, hg⟩ := hf.aware
  have hn : h.attended.course.now ≤ h.attended.course.now + ms := Nat.le_add_right _ _
  by_cases ha : act = .move
  · subst ha
    have hl := hf.stage.aside [] rfl rfl rfl rfl rfl hn
    rw [List.append_nil] at hl
    cases hs : h.attended.course.scheduler.step (h.attended.course.now + ms) with
    | none =>
      have hc : c = _ := Course.after_move_of_still hs
      rw [hc]
      exact hl
    | some result =>
      have hc : c = _ := Course.after_move_of_step hs
      rw [hc]
      exact hl.move hi (congrArg _ hg) (Scheduler.move_of_step hs)
  · obtain ⟨hp, hc, hr, hu, ho⟩ :=
      h.attended.course.scheduler.react_aside (h.attended.course.now + ms) ha
    exact hf.stage.aside _ hp hc hr hu ho hn

theorem Follows.shift (hf : h.Follows config line) (shift : Shift) :
    (h.occur (.shift shift)).Follows config line := by
  refine ⟨reached_shift hf.reached shift.aside, ?_⟩
  cases shift with
  | act ms act =>
    have ha := hf.after ms act
    by_cases he : act.aside = .endRecovery
    · have hsame : (h.occur (.shift (.act ms act))).attended = h.attended := by
        change h.attended.act ms act.aside = h.attended
        rw [he]
        rfl
      rw [hsame]
      exact hf.stage
    · have hcourse : (h.occur (.shift (.act ms act))).attended.course =
          h.attended.course.after ms act.aside :=
        h.attended.act_course ms he
      rw [hcourse]
      exact ha
  | attend conduct =>
    change Scheduler.Stage (h.attended.attend conduct).course.scheduler h.job
      (h.attended.attend conduct).course.log (h.attended.attend conduct).course.now _ _ _
    rcases h.attended.attend_course conduct with he | he
    · rw [he]
      exact hf.stage
    · rw [he]
      exact hf.after 0 .endRecovery

theorem Follows.grow (hf : h.Follows config line) {ms : Nat} (hopen : h.isOpen ms = true)
    {change : Line → Line} {bytes : List UInt8} {ended : Bool}
    (hr : (change h.attended.course.scheduler.line).readFault =
      h.attended.course.scheduler.line.readFault)
    (hs : h.attended.course.scheduler.isOver = false →
      let t : Scheduler :=
        { h.attended.course.scheduler with line := change h.attended.course.scheduler.line }
      t.unread = h.attended.course.scheduler.unread ++ bytes ∧ t.isOver = ended) :
    Follows config line
      { h with
        attended := h.attended.act ms (.rewire change)
        stretch := h.stretch ++ bytes
        ended := ended } := by
  obtain ⟨hended, hd⟩ : h.ended = false ∧ h.attended.course.now + ms < h.job.deadline := by
    simpa [isOpen] using hopen
  have hl := hf.stage.aside [] rfl rfl rfl rfl rfl (Nat.le_add_right _ ms)
  rw [hended] at hl
  exact ⟨reached_shift hf.reached (.act ms (.rewire change)),
    hl.grow rfl rfl hr (fun ho => (hs ho).1) (fun ho => (hs ho).2) hd⟩

theorem Follows.occur (hf : h.Follows config line) (o : Occurrence) :
    (h.occur o).Follows config line := by
  cases o with
  | shift shift => exact hf.shift shift
  | arrive ms bytes =>
    by_cases hopen : h.isOpen ms = true
    · have hended : h.ended = false := by
        simp only [isOpen, Bool.and_eq_true, Bool.not_eq_true'] at hopen
        exact hopen.1
      have hg : Follows config line
          { h with
            attended := h.attended.act ms (.rewire (·.deliver bytes))
            stretch := h.stretch ++ bytes } :=
        hf.grow hopen rfl (fun ho => by rw [hended]; exact Scheduler.deliver_unread ho bytes)
      simpa only [Hearing.occur, if_pos hopen] using hg
    · simpa only [Hearing.occur, if_neg hopen] using hf
  | hangUp ms =>
    by_cases hopen : h.isOpen ms = true
    · have hg : Follows config line
          { h with
            attended := h.attended.act ms (.rewire Line.hangUp)
            stretch := h.stretch ++ []
            ended := true } :=
        hf.grow hopen rfl (fun _ => by rw [List.append_nil]; exact Scheduler.hangUp_unread _)
      simpa only [Hearing.occur, if_pos hopen, List.append_nil] using hg
    · simpa only [Hearing.occur, if_neg hopen] using hf

theorem Follows.run (hf : h.Follows config line) (occurrences : List Occurrence) :
    (h.run occurrences).Follows config line := by
  induction occurrences generalizing h with
  | nil => exact hf
  | cons first rest ih => exact ih (hf.occur first)

theorem of_follows {shifts : List Shift} {job : Job}
    (hp : ((Attended.start config line).run shifts).course.scheduler.phase = .awaiting job)
    (hc : ((Attended.start config line).run shifts).course.scheduler.cancelled = false)
    (hr : ((Attended.start config line).run shifts).course.scheduler.line.readFault = none) :
    (of ((Attended.start config line).run shifts) job).Follows config line where
  reached := ⟨shifts, rfl⟩
  stage := by
    have hs : (of ((Attended.start config line).run shifts) job).stretch =
        ([] : List (List UInt8)).flatMap Frame.encode ++
          ((Attended.start config line).run shifts).course.scheduler.unread := rfl
    exact .listening hp hc hr hs rfl (by simp)

/-- What has an outcome has no other. -/
theorem Follows.resolves (hf : h.Follows config line) {post : Submission} {outcome : Outcome}
    (hm : (post, outcome) ∈ outcomes h.attended.course.log) :
    h.attended.course.Resolves post outcome := by
  obtain ⟨acts, hc⟩ := hf.course
  obtain ⟨-, hnd, -⟩ := Course.run_accepted config line acts
  rw [← hc] at hnd
  intro other
  constructor
  · intro ho
    have he := List.inj_on_of_nodup_map hnd ho hm rfl
    exact congrArg (·.2) he
  · rintro rfl
    exact hm

theorem Follows.unresolved (hf : h.Follows config line)
    (hp : h.attended.course.scheduler.phase = .awaiting h.job) (outcome : Outcome) :
    (h.job.submission, outcome) ∉ outcomes h.attended.course.log := by
  obtain ⟨acts, hc⟩ := hf.course
  obtain ⟨left, ha⟩ := Course.run_accounts config line acts
  rw [← hc] at ha
  have hnd := ha.split_nodup
  intro hm
  have hr : h.job.submission ∈ resolved h.attended.course.log := List.mem_map_of_mem hm
  exact List.disjoint_of_nodup_append hnd hr (by simp [Scheduler.inHand, hp])

theorem Follows.verdict_of_awaiting (hf : h.Follows config line) (hs : h.attended.IsStill)
    (hp : h.attended.course.scheduler.phase = .awaiting h.job) : h.verdict config = .pending := by
  obtain ⟨hi, hg⟩ := hf.aware
  exact hf.stage.pending_of_still hi (congrArg _ hg) hs.1 hp (hf.unresolved hp)

theorem Follows.answered (hf : h.Follows config line) (hs : h.attended.IsStill) {reply : Packet}
    (hv : h.verdict config = .answered reply) :
    ∃ result : CommandResult, result.reply = reply ∧
      result.request = h.job.submission.request.id ∧ result.counter = h.job.counter ∧
      h.attended.course.Resolves h.job.submission (.ok result) := by
  have hstage := hf.stage
  cases hstage with
  | listening hp => cases hv.symm.trans (hf.verdict_of_awaiting hs hp)
  | @answered result hv' hr hl =>
    have he : Verdict.answered reply = .answered result.reply := hv.symm.trans hv'
    exact ⟨result, (Verdict.answered.inj he).symm, hr.1, hr.2, hf.resolves hl⟩
  | followed _ hv' | orphaned hv' | expired hv' => cases hv.symm.trans hv'

theorem Follows.lost (hf : h.Follows config line) (hs : h.attended.IsStill)
    (hv : h.verdict config = .lost) :
    h.attended.course.Resolves h.job.submission (h.job.orphan .transportClosed) ∨
      h.job.submission.request.idempotent = false ∧
      ∃ why, h.attended.course.scheduler.phase =
        .recovering h.job .transportClosed (some why) := by
  have hstage := hf.stage
  cases hstage with
  | listening hp => cases hv.symm.trans (hf.verdict_of_awaiting hs hp)
  | followed hp _ hq => exact .inr ⟨hq, _, hp⟩
  | orphaned _ hl => exact .inl (hf.resolves hl)
  | answered hv' | expired hv' => cases hv.symm.trans hv'

theorem Follows.pending (hf : h.Follows config line) (hv : h.verdict config = .pending)
    (hd : h.attended.course.now < h.job.deadline) :
    h.attended.course.scheduler.phase = .awaiting h.job ∧
      ∀ outcome, (h.job.submission, outcome) ∉ outcomes h.attended.course.log := by
  have hstage := hf.stage
  cases hstage with
  | listening hp => exact ⟨hp, hf.unresolved hp⟩
  | answered hv' | followed _ hv' | orphaned hv' => cases hv.symm.trans hv'
  | expired _ hd' => omega

theorem run_shifts {shifts : List Shift} (ha : ∀ shift ∈ shifts, shift.aside = shift)
    (h : Hearing) :
    h.run (shifts.map .shift) = { h with attended := h.attended.run shifts } := by
  induction shifts generalizing h with
  | nil => rfl
  | cons first rest ih =>
    have hfirst : h.occur (.shift first) = { h with attended := h.attended.shift first } := by
      rw [occur, ha first List.mem_cons_self]
    have hi := ih (fun shift hm => ha shift (List.mem_cons_of_mem first hm))
      (h.occur (.shift first))
    rw [hfirst] at hi
    rw [List.map_cons, run, List.foldl_cons, hfirst]
    exact hi

/-- The recovery of an orphan ends, and then the orphan is resolved. -/
theorem Follows.recovers (hf : h.Follows config line) {why : String}
    (hp : h.attended.course.scheduler.phase = .recovering h.job .transportClosed (some why))
    (first second : Conduct) {ms : Nat} (hms : config.recoveryTimeout.ceilMillis ≤ ms) :
    (h.attended.run
      [.attend first, .act ms (.rewire id), .attend second, .act 0 .move]).course.Resolves
        h.job.submission (h.job.orphan .transportClosed) := by
  have horderly : h.attended.Orderly config line := by
    obtain ⟨shifts, hs⟩ := hf.reached
    rw [hs]
    exact Attended.run_orderly config line shifts
  obtain ⟨hphase, hended⟩ := horderly.recovers hp first second hms
  let b := h.attended.run [.attend first, .act ms (.rewire id), .attend second]
  have hstep : b.course.scheduler.step (b.course.now + 0) = some
      (b.course.scheduler.orphaned (b.course.now + 0) h.job .transportClosed (some why)) := by
    simp only [Scheduler.step, b, hphase, hended, if_true, Scheduler.endOrphan_eq]
  have hcourse := (b.act_course 0 (show Act.move ≠ .endRecovery by simp)).trans
    (Course.after_move_of_step hstep)
  let shifts : List Shift := [.attend first, .act ms (.rewire id), .attend second, .act 0 .move]
  have haside : ∀ shift ∈ shifts, shift.aside = shift := by
    intro shift hm
    simp only [shifts, List.mem_cons, List.not_mem_nil, or_false] at hm
    rcases hm with rfl | rfl | rfl | rfl <;> rfl
  let h' := h.run (shifts.map .shift)
  have hsame : h'.attended = b.act 0 .move := congrArg attended (run_shifts haside h)
  have hf' : h'.Follows config line := hf.run _
  have hm : (h.job.submission, h.job.orphan .transportClosed) ∈
      outcomes h'.attended.course.log := by
    rw [hsame, hcourse]
    simp [Job.orphan]
  have hresolves := hf'.resolves hm
  rw [hsame] at hresolves
  exact hresolves

theorem occur_job (h : Hearing) (o : Occurrence) : (h.occur o).job = h.job := by
  cases o with
  | shift shift => rfl
  | arrive ms bytes => simp only [occur]; split <;> rfl
  | hangUp ms => simp only [occur]; split <;> rfl

theorem run_job (h : Hearing) (occurrences : List Occurrence) :
    (h.run occurrences).job = h.job := by
  induction occurrences generalizing h with
  | nil => rfl
  | cons first rest ih => exact (ih (h.occur first)).trans (h.occur_job first)

end Follows

end Hearing

/-- All that comes in for a request on the wire until its deadline decides about it, in whatever
pieces it comes: once all that could move has moved, the request is resolved with the first frame
that is a reply with its counter, whatever frames precede it and whatever follows; if there is none
and a length above the limit or the end of the stream has come, it is an orphan of the closed
transport, at the latest when the time for its recovery is over; and otherwise it still waits. -/
theorem first_reply_decides (config : SchedulerConfig) (line : Line) (shifts : List Shift)
    (job : Job) :
    let a := (Attended.start config line).run shifts
    a.course.scheduler.phase = .awaiting job → a.course.scheduler.cancelled = false →
    a.course.scheduler.line.readFault = none →
    ∀ occurrences,
      let h := (Hearing.of a job).run occurrences
      let verdict := Verdict.of config.maxFrame job.counter h.stretch h.ended
      (h.attended.IsStill → ∀ reply, verdict = .answered reply →
        ∃ result : CommandResult, result.reply = reply ∧
          result.request = job.submission.request.id ∧ result.counter = job.counter ∧
          h.attended.course.Resolves job.submission (.ok result)) ∧
      (h.attended.IsStill → verdict = .lost →
        h.attended.course.Resolves job.submission (job.orphan .transportClosed) ∨
          job.submission.request.idempotent = false ∧
          (∃ why, h.attended.course.scheduler.phase =
            .recovering job .transportClosed (some why)) ∧
          ∀ first second ms, config.recoveryTimeout.ceilMillis ≤ ms →
            let b := h.attended.run
              [.attend first, .act ms (.rewire id), .attend second, .act 0 .move]
            b.course.Resolves job.submission (job.orphan .transportClosed)) ∧
      (verdict = .pending → h.attended.course.now < job.deadline →
        h.attended.course.scheduler.phase = .awaiting job ∧
          ∀ outcome, (job.submission, outcome) ∉ outcomes h.attended.course.log) ∧
      ∀ conduct, ∃ more,
        (∀ o ∈ more, o = .shift (.act 0 .move) ∨ o = .shift (.attend conduct)) ∧
        (h.run more).stretch = h.stretch ∧ (h.run more).ended = h.ended ∧
        (h.run more).attended.course.now = h.attended.course.now ∧
        (h.run more).attended.IsStill := by
  intro a hp hc hr occurrences h
  have hf : h.Follows config line := (Hearing.of_follows hp hc hr).run occurrences
  have hj : h.job = job := (Hearing.of a job).run_job occurrences
  clear_value h
  subst hj
  intro verdict
  refine ⟨fun hs reply hv => hf.answered hs hv, fun hs hv => ?_, fun hv hd => hf.pending hv hd,
    fun conduct => ?_⟩
  · rcases hf.lost hs hv with hl | ⟨hq, why, hphase⟩
    · exact .inl hl
    · exact .inr ⟨hq, ⟨why, hphase⟩, fun first second ms hms => hf.recovers hphase first second hms⟩
  · obtain ⟨more, hm, hnow, hstill⟩ := h.attended.comes_to_rest conduct
    have haside : ∀ shift ∈ more, shift.aside = shift := by
      intro shift hs
      rcases hm shift hs with rfl | rfl <;> rfl
    have hrun := Hearing.run_shifts haside h
    refine ⟨more.map .shift, fun o ho => ?_, ?_⟩
    · obtain ⟨shift, hs, rfl⟩ := List.mem_map.mp ho
      rcases hm shift hs with rfl | rfl
      · exact .inl rfl
      · exact .inr rfl
    · rw [hrun]
      exact ⟨rfl, rfl, hnow, hstill⟩

/-- A frame that is nothing, the reply to another request, then the reply, then a length that no
frame may have and the end of the stream, in two pieces. -/
theorem reply_between_noise_and_end :
    ∃ shifts job occurrences, let h :=
        (Hearing.of ((Attended.start {} (.ofCapacity 64)).run shifts) job).run occurrences
      h.stretch = [1, 0, 9, 3, 0, 1, 0, 2, 4, 0, 0, 0, 2, 7, 255, 255] ∧ h.ended = true ∧
        ∃ result : CommandResult, result.reply = .reply 0 .direct [7] ∧
          result.request = job.submission.request.id ∧ result.counter = job.counter ∧
          h.attended.course.Resolves job.submission (.ok result) := by
  let r : Request := { id := "", kind := .direct, payload := [] }
  let job : Job := ⟨⟨0, r, 0⟩, 0, 0, 2000⟩
  let moves := fun n => List.replicate n (Shift.act 0 .move)
  let shifts := .act 0 (.submit r) :: moves 2
  let occurrences : List Occurrence := .arrive 5 [1, 0, 9, 3, 0, 1] :: (moves 3).map .shift ++
    .arrive 5 [0, 2, 4, 0, 0, 0, 2, 7, 255, 255] :: .hangUp 0 :: (moves 7).map .shift
  let h := (Hearing.of ((Attended.start {} (.ofCapacity 64)).run shifts) job).run occurrences
  have hp : ((Attended.start {} (.ofCapacity 64)).run shifts).course.scheduler.phase =
      .awaiting job := by decide
  have hstep : (h.attended.course.scheduler.step h.attended.course.now).isNone = true := by decide
  have hn : h.attended.recovery = none := by decide
  have hstill : h.attended.IsStill := by
    refine ⟨Option.isNone_iff_eq_none.mp hstep, fun r conduct hr => ?_⟩
    simp [hn] at hr
  have hs : h.stretch = [1, 0, 9, 3, 0, 1, 0, 2, 4, 0, 0, 0, 2, 7, 255, 255] := by decide
  have ho : h.ended = true := by decide
  have hv : Verdict.of 1024 0 h.stretch h.ended = .answered (.reply 0 .direct [7]) := by
    rw [hs, ho]
    decide
  have hd := first_reply_decides {} (.ofCapacity 64) shifts job hp (by decide) (by decide)
    occurrences
  exact ⟨shifts, job, occurrences, hs, ho, hd.1 hstill _ hv⟩

end BrickHost
