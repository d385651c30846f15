import BrickHost.Proofs.Scheduler.Course
import BrickHost.Proofs.Wire.Frame

/-! What a scheduler has read from its line. The bytes it has taken so far are the frames that it
has looked at, one after another, and what is left in its inbox. -/

namespace BrickHost

def Intake.frame? : Intake → Option (List UInt8)
  | frame body => some body
  | _ => none

def Event.signal? : Event → Option Signal
  | .did signal => some signal
  | .accepted _ => none

namespace Scheduler

/-- The next move looks for input. -/
def listens (s : Scheduler) : Bool :=
  !s.cancelled &&
    match s.phase with
    | .waiting => s.fetch.isNone
    | .awaiting _ => true
    | _ => false

/-- The frame that the next move takes from the stream. -/
def hears? (s : Scheduler) : Option (List UInt8) :=
  if s.listens then (s.inbox.receive s.config.maxFrame s.line).2.2.frame? else none

end Scheduler

/-- What a scheduler was before an act, and when the act took place. -/
structure Moment where
  scheduler : Scheduler
  now : Nat
  act : Act

namespace Moment

def after (m : Moment) : Scheduler :=
  (m.scheduler.react m.now m.act).1

def events (m : Moment) : List Event :=
  (m.scheduler.react m.now m.act).2

/-- The bytes that the dispatcher takes from the line. -/
def intake (m : Moment) : List UInt8 :=
  match m.act with
  | .move =>
    m.scheduler.line.incoming.bytes.take
      (m.scheduler.line.incoming.bytes.length - m.after.line.incoming.bytes.length)
  | _ => []

def frame? (m : Moment) : Option (List UInt8) :=
  match m.act with
  | .move => m.scheduler.hears?
  | _ => none

/-- The dispatcher moves while the incoming direction is closed and holds nothing more, or its read
fails. -/
def EndsStream (m : Moment) : Prop :=
  match m.act with
  | .move =>
    m.scheduler.line.incoming.closed = true ∧ m.scheduler.line.incoming.bytes = [] ∨
      m.scheduler.line.readFault ≠ none ∧ m.after.line.readFault = none
  | _ => False

end Moment

def received (past : List Moment) : List UInt8 :=
  past.flatMap (·.intake)

def heard (past : List Moment) : List (List UInt8) :=
  past.filterMap (·.frame?)

theorem received_snoc (past : List Moment) (m : Moment) :
    received (past ++ [m]) = received past ++ m.intake := by
  simp [received]

theorem heard_snoc (past : List Moment) (m : Moment) :
    heard (past ++ [m]) = heard past ++ m.frame?.toList := by
  cases hf : m.frame? <;> simp [heard, hf]

namespace Course

variable (c : Course)

def moment (ms : Nat) (act : Act) : Moment :=
  ⟨c.scheduler, c.now + ms, act⟩

def moments : Course → List (Nat × Act) → List Moment
  | _, [] => []
  | c, timed :: rest => c.moment timed.1 timed.2 :: (c.after timed.1 timed.2).moments rest

theorem after_eq (ms : Nat) (act : Act) :
    c.after ms act = ⟨(c.moment ms act).after, c.now + ms, c.log ++ (c.moment ms act).events⟩ :=
  rfl

theorem moments_snoc (acts : List (Nat × Act)) (timed : Nat × Act) :
    c.moments (acts ++ [timed]) = c.moments acts ++ [(c.run acts).moment timed.1 timed.2] := by
  induction acts generalizing c with
  | nil => rfl
  | cons first rest ih => exact congrArg _ (ih (c.after first.1 first.2))

theorem moments_induction {P : Course → List Moment → Prop} {c : Course} (h : P c [])
    (hs : ∀ acts ms act, P (c.run acts) (c.moments acts) →
      P ((c.run acts).after ms act) (c.moments acts ++ [(c.run acts).moment ms act]))
    (acts : List (Nat × Act)) : P (c.run acts) (c.moments acts) := by
  induction acts using List.reverseRecOn with
  | nil => exact h
  | append_singleton acts timed ih =>
    rw [run_snoc, moments_snoc]
    exact hs acts timed.1 timed.2 ih

end Course

theorem Line.pushOut_rest {l l' : Line} {bytes : List UInt8} {w : Written}
    (h : l.pushOut bytes = (l', w)) : l'.incoming = l.incoming ∧ l'.readFault = l.readFault := by
  unfold pushOut at h
  repeat' split at h
  all_goals
    cases h
    exact ⟨rfl, rfl⟩

theorem Line.write_rest {l l' : Line} {bytes : List UInt8} {w : Written}
    (h : l.write bytes = (l', w)) : l'.incoming = l.incoming ∧ l'.readFault = l.readFault := by
  unfold write at h
  split at h
  · cases h
    exact ⟨rfl, rfl⟩
  · unfold writeWithin at h
    split at h
    · exact pushOut_rest h
    · cases h
      exact ⟨rfl, rfl⟩
    · next left text hl =>
      rcases hq : l.pushOut (bytes.take (left + 1)) with ⟨l'', w'⟩
      have hp := pushOut_rest hq
      rw [hq] at h
      cases w' <;> cases h <;> exact hp

/-- What one move of the inbox does to its buffer and to the pipe. -/
def Inbox.Brings (limit : Nat) (i i' : Inbox) (p p' : Pipe) : Intake → Prop
  | .nothing => i' = i ∧ p' = p
  | .frame body => Frame.scan limit i.buffer = .frame body i'.buffer ∧ i'.ended = i.ended ∧ p' = p
  | .closed _ => i' = i ∧ p' = p ∧
      (i.ended = true ∨ ∃ size, Frame.scan limit i.buffer = .oversized size)
  | .progress =>
      i'.buffer = i.buffer ++ p.bytes ∧ p'.bytes = [] ∧
        (i'.ended = i.ended ∨ p.closed = true ∧ p.bytes = []) ∨
      i'.buffer = i.buffer ∧ p' = p ∧ i'.ended = i.ended

theorem Inbox.scan_brings {limit : Nat} {i i' : Inbox} {intake : Intake} (p : Pipe)
    (h : i.scan limit = (i', intake)) : Brings limit i i' p p intake := by
  unfold scan at h
  cases hs : Frame.scan limit i.buffer with
  | frame body rest =>
    rw [hs] at h
    cases h
    exact ⟨hs, rfl, rfl⟩
  | oversized size =>
    rw [hs] at h
    cases h
    exact ⟨rfl, rfl, .inr ⟨size, hs⟩⟩
  | short =>
    simp only [hs] at h
    by_cases he : i.ended = true
    · rw [if_pos he] at h
      split at h <;> cases h <;> exact ⟨rfl, rfl, .inl he⟩
    · rw [if_neg he] at h
      cases h
      exact .inr ⟨rfl, rfl, rfl⟩

theorem Inbox.read_brings {i i' : Inbox} {p p' : Pipe} {intake : Intake} (limit : Nat)
    (h : i.read p = (i', p', intake)) : Brings limit i i' p p' intake := by
  unfold read at h
  by_cases hb : p.bytes = []
  · rw [if_pos (by simp [hb])] at h
    by_cases hc : p.closed = true
    · rw [if_pos hc] at h
      cases h
      exact .inl ⟨by simp [hb], hb, .inr ⟨hc, hb⟩⟩
    · rw [if_neg hc] at h
      cases h
      exact ⟨rfl, rfl⟩
  · rw [if_neg (by simp [hb])] at h
    cases h
    exact .inl ⟨rfl, by simp [Pipe.drop], .inl rfl⟩

/-- A look at the line is a move of the inbox, unless the read fails. -/
theorem Inbox.receive_cases {limit : Nat} {i i' : Inbox} {l l' : Line} {intake : Intake}
    (h : i.receive limit l = (i', l', intake)) :
    Brings limit i i' l.incoming l'.incoming intake ∧ l'.readFault = l.readFault ∨
    i' = i ∧ l'.incoming = l.incoming ∧ (∃ why, intake = .closed why) ∧
      l.readFault ≠ none ∧ l'.readFault = none := by
  unfold receive at h
  split at h
  · next text hu hf =>
    cases h
    exact .inr ⟨rfl, rfl, ⟨_, rfl⟩, by simp [hf], rfl⟩
  · cases hu : i.unscanned with
    | true =>
      rcases hs : i.scan limit with ⟨i'', intake'⟩
      simp only [next, hu, if_true, hs] at h
      cases h
      exact .inl ⟨scan_brings _ hs, rfl⟩
    | false =>
      rcases hr : i.read l.incoming with ⟨i'', p, intake'⟩
      simp only [next, hu, hr] at h
      cases h
      exact .inl ⟨read_brings _ hr, rfl⟩

theorem Inbox.receive_nothing {limit : Nat} {i i' : Inbox} {l l' : Line}
    (h : i.receive limit l = (i', l', .nothing)) :
    i' = i ∧ l'.incoming = l.incoming ∧ l'.readFault = l.readFault := by
  rcases receive_cases h with ⟨⟨hi, hp⟩, hf⟩ | ⟨-, -, ⟨why, hw⟩, -⟩
  · exact ⟨hi, hp, hf⟩
  · cases hw

namespace Scheduler

section Moves

variable {s t : Scheduler} {now : Nat} {signals : List Signal}

theorem fetch_rest (h : s.fetch = some t) :
    t.inbox = s.inbox ∧ t.line = s.line ∧ t.config = s.config := by
  rcases fetch_cases h with ⟨_, _, _, rfl⟩ | ⟨_, _, _, rfl⟩ <;> simp [enqueue_eq]

theorem takeNext_rest {post : Submission} (h : s.drain.takeNext = some (post, t)) :
    t.inbox = s.inbox ∧ t.line = s.line ∧ t.config = s.config := by
  rcases takeNext_cases h with ⟨_, _, rfl⟩ | ⟨_, _, _, rfl⟩ <;> simp [drain_eq]

theorem orphan_rest (s : Scheduler) (now : Nat) (job : Job) (reason : OrphanReason)
    (closure : Option String) : (s.orphan now job reason closure).1.inbox = s.inbox ∧
      (s.orphan now job reason closure).1.line = s.line ∧
      (s.orphan now job reason closure).1.config = s.config := by
  rw [orphan_eq]
  split
  · cases closure <;> exact ⟨rfl, rfl, rfl⟩
  · exact ⟨rfl, rfl, rfl⟩

theorem Move.config (hm : s.Move now t signals) : t.config = s.config := by
  cases hm with
  | refuse hp ht hd | unencodable hp ht hd he | unframeable hp ht hd hb he | begin hp ht hd hb hf =>
    exact (takeNext_rest ht).2.2
  | settle hp ht hr => simp [drain_eq]
  | fetchWaiting hp hc hf | fetchAwaiting hp hc hi hd hf => exact (fetch_rest hf).2.2
  | stall hp hc hw hd | expire hp hc hi hd => exact (s.orphan_rest ..).2.2
  | endAwaiting hp hc hi => exact (orphan_rest ..).2.2
  | @recover job reason closure hp hr => cases closure <;> rfl
  | _ => rfl

theorem look_of_nothing {inbox : Inbox} {line : Line} (hj : t.inbox = s.inbox)
    (hq : t.line = s.line)
    (hi : s.inbox.receive s.config.maxFrame s.line = (inbox, line, .nothing)) :
    ∃ line intake, s.inbox.receive s.config.maxFrame s.line = (t.inbox, line, intake) ∧
      t.line.incoming = line.incoming ∧ t.line.readFault = line.readFault := by
  obtain ⟨rfl, hb, hf⟩ := Inbox.receive_nothing hi
  refine ⟨line, .nothing, ?_, ?_, ?_⟩
  · rw [hj]
    exact hi
  · rw [hq, hb]
  · rw [hq, hf]

theorem Move.deaf (hm : s.Move now t signals) (hl : s.listens = false) :
    t.inbox = s.inbox ∧ t.line.incoming.bytes = s.line.incoming.bytes := by
  cases hm with
  | refuse hp ht hd | unencodable hp ht hd he | unframeable hp ht hd hb he | begin hp ht hd hb hf =>
    obtain ⟨hi, hq, -⟩ := takeNext_rest ht
    exact ⟨hi, congrArg (·.incoming.bytes) hq⟩
  | settle hp ht hr => simp [drain_eq]
  | fetchWaiting hp hc hf =>
    obtain ⟨hi, hq, -⟩ := fetch_rest hf
    exact ⟨hi, congrArg (·.incoming.bytes) hq⟩
  | stall hp hc hw hd =>
    obtain ⟨hi, hq, -⟩ := s.orphan_rest now _ _ _
    exact ⟨hi, congrArg (·.incoming.bytes) hq⟩
  | write hp hc hw => exact ⟨rfl, congrArg (·.bytes) (Line.write_rest hw).1⟩
  | failWriting hp hc hw => exact ⟨rfl, congrArg (·.bytes) (Line.write_rest hw).1⟩
  | @recover job reason closure hp hr => cases closure <;> exact ⟨rfl, rfl⟩
  | readWaiting hp hc hf hi | unsolicited hp hc hf hi | endWaiting hp hc hf hi =>
    simp [listens, hp, hc, hf] at hl
  | readAwaiting hp hc hi | answered hp hc hi ha | discard hp hc hi ha | endAwaiting hp hc hi
  | expire hp hc hi hd | fetchAwaiting hp hc hi hd hf =>
    simp [listens, hp, hc] at hl
  | _ => exact ⟨rfl, rfl⟩

theorem Move.listening (hm : s.Move now t signals) (hl : s.listens = true) :
    ∃ line intake, s.inbox.receive s.config.maxFrame s.line = (t.inbox, line, intake) ∧
      t.line.incoming = line.incoming ∧ t.line.readFault = line.readFault := by
  cases hm with
  | readWaiting hp hc hf hi | unsolicited hp hc hf hi | endWaiting hp hc hf hi =>
    exact ⟨_, _, hi, rfl, rfl⟩
  | readAwaiting hp hc hi | answered hp hc hi ha | discard hp hc hi ha =>
    exact ⟨_, _, hi, rfl, rfl⟩
  | @endAwaiting job inbox line why hp hc hi =>
    obtain ⟨hj, hq, -⟩ := orphan_rest { s with inbox := inbox, line := line } now job
      .transportClosed (some why)
    refine ⟨line, .closed why, ?_, congrArg (·.incoming) hq, congrArg (·.readFault) hq⟩
    rw [hj]
    exact hi
  | expire hp hc hi hd =>
    obtain ⟨hj, hq, -⟩ := s.orphan_rest now _ .timeout none
    exact look_of_nothing hj hq hi
  | fetchAwaiting hp hc hi hd hu =>
    obtain ⟨hj, hq, -⟩ := fetch_rest hu
    exact look_of_nothing hj hq hi
  | refuse hp | unencodable hp | unframeable hp | begin hp | settle hp | abandon hp
  | cancelWriting hp | write hp | failWriting hp | stall hp | recover hp | terminate hp =>
    simp [listens, hp] at hl
  | cancelWaiting hp hc | cancelAwaiting hp hc => simp [listens, hc] at hl
  | fetchWaiting hp hc hf => simp [listens, hp, hf] at hl

/-- A move takes nothing that comes in, or all of it. -/
theorem Move.incoming (hm : s.Move now t signals) :
    t.line.incoming.bytes = s.line.incoming.bytes ∨ t.line.incoming.bytes = [] := by
  by_cases hl : s.listens = true
  · obtain ⟨line, intake, hr, hi, -⟩ := hm.listening hl
    rw [hi]
    rcases Inbox.receive_cases hr with ⟨hb, -⟩ | ⟨-, hp, -⟩
    · cases intake with
      | nothing => exact .inl (by rw [hb.2])
      | frame body => exact .inl (by rw [hb.2.2])
      | closed why => exact .inl (by rw [hb.2.1])
      | progress =>
        rcases hb with ⟨-, hp, -⟩ | ⟨-, hp, -⟩
        · exact .inr hp
        · exact .inl (by rw [hp])
    · exact .inl (by rw [hp])
  · exact .inl (hm.deaf (by simpa using hl)).2

end Moves

/-- How the inbox of a scheduler accounts for the bytes that it has received. -/
structure Inbound (s : Scheduler) (past : List Moment) : Prop where
  stream : received past = (heard past).flatMap Frame.encode ++ s.inbox.buffer
  fits : ∀ body ∈ heard past, body.length ≤ Frame.limit s.config.maxFrame
  ended : s.inbox.ended = true → ∃ m ∈ past, m.EndsStream

section Inbound

variable {s t : Scheduler} {now : Nat} {past : List Moment} {m : Moment}

theorem Inbound.quiet (h : s.Inbound past) (hc : t.config = s.config) (hi : t.inbox = s.inbox)
    (hm : m.intake = []) (hf : m.frame? = none) : t.Inbound (past ++ [m]) := by
  refine ⟨?_, ?_, fun he => ?_⟩
  · rw [received_snoc, heard_snoc, hm, hf, hi, List.append_nil, h.stream]
    simp
  · rw [heard_snoc, hf, hc]
    simpa using h.fits
  · obtain ⟨e, hp, hs⟩ := h.ended (hi ▸ he)
    exact ⟨e, List.mem_append_left _ hp, hs⟩

theorem Inbound.framed (h : s.Inbound past) {body : List UInt8} (hc : t.config = s.config)
    (hs : Frame.scan s.config.maxFrame s.inbox.buffer = .frame body t.inbox.buffer)
    (he : t.inbox.ended = s.inbox.ended) (hm : m.intake = []) (hf : m.frame? = some body) :
    t.Inbound (past ++ [m]) := by
  obtain ⟨hb, hl⟩ := Frame.eq_encode_append_of_scan hs
  refine ⟨?_, fun b hm => ?_, fun ho => ?_⟩
  · rw [received_snoc, heard_snoc, hm, hf, List.append_nil, h.stream, hb]
    simp
  · rw [heard_snoc, hf, Option.toList_some, List.mem_append, List.mem_singleton] at hm
    rw [hc]
    rcases hm with hp | rfl
    · exact h.fits b hp
    · exact hl
  · obtain ⟨e, hp, hs⟩ := h.ended (he ▸ ho)
    exact ⟨e, List.mem_append_left _ hp, hs⟩

theorem Inbound.filled (h : s.Inbound past) (hc : t.config = s.config)
    (hb : t.inbox.buffer = s.inbox.buffer ++ m.intake) (hf : m.frame? = none)
    (he : t.inbox.ended = s.inbox.ended ∨ m.EndsStream) : t.Inbound (past ++ [m]) := by
  refine ⟨?_, ?_, fun ho => ?_⟩
  · rw [received_snoc, heard_snoc, hf, h.stream, hb]
    simp
  · rw [heard_snoc, hf, hc]
    simpa using h.fits
  · rcases he with hs | hs
    · obtain ⟨e, hp, hs⟩ := h.ended (hs ▸ ho)
      exact ⟨e, List.mem_append_left _ hp, hs⟩
    · exact ⟨m, by simp, hs⟩

theorem Inbound.move {signals : List Signal} (h : s.Inbound past)
    (hs : s.step now = some (t, signals)) : t.Inbound (past ++ [⟨s, now, .move⟩]) := by
  have hm := move_of_step hs
  have ha : (⟨s, now, .move⟩ : Moment).after = t := by simp [Moment.after, react, hs]
  by_cases hl : s.listens = true
  · obtain ⟨line, intake, hr, hi, -⟩ := hm.listening hl
    have hq : (⟨s, now, .move⟩ : Moment).frame? = intake.frame? := by
      simp only [Moment.frame?, hears?, hl, hr, if_true]
    have hk : (⟨s, now, .move⟩ : Moment).intake = s.line.incoming.bytes.take
        (s.line.incoming.bytes.length - line.incoming.bytes.length) := by
      simp only [Moment.intake, ha, hi]
    have hkeep : line.incoming = s.line.incoming → (⟨s, now, .move⟩ : Moment).intake = [] := by
      intro he
      rw [hk, he, Nat.sub_self, List.take_zero]
    rcases Inbox.receive_cases hr with ⟨hb, -⟩ | ⟨he, hp, ⟨why, rfl⟩, -⟩
    · cases intake with
      | nothing => exact h.quiet hm.config hb.1 (hkeep hb.2) hq
      | frame body => exact h.framed hm.config hb.1 hb.2.1 (hkeep hb.2.2) hq
      | closed why => exact h.quiet hm.config hb.1 (hkeep hb.2.1) hq
      | progress =>
        rcases hb with ⟨hbuf, hp, he⟩ | ⟨hbuf, hp, he⟩
        · have hall : (⟨s, now, .move⟩ : Moment).intake = s.line.incoming.bytes := by
            rw [hk, hp, List.length_nil, Nat.sub_zero, List.take_length]
          exact h.filled hm.config (hall ▸ hbuf) hq (he.imp_right .inl)
        · exact h.filled hm.config (by rw [hbuf, hkeep hp, List.append_nil]) hq (.inl he)
    · exact h.quiet hm.config he (hkeep hp) hq
  · have hl' : s.listens = false := by simpa using hl
    obtain ⟨hi, hb⟩ := hm.deaf hl'
    refine h.quiet hm.config hi ?_ ?_
    · simp [Moment.intake, ha, hb]
    · simp [Moment.frame?, hears?, hl']

theorem hears?_of_step_eq_none (hs : s.step now = none) : s.hears? = none := by
  by_cases hl : s.listens = true
  · rw [hears?, if_pos hl]
    cases hp : s.phase with
    | waiting =>
      have hc : s.cancelled = false ∧ s.fetch = none := by simpa [listens, hp] using hl
      rcases hr : s.inbox.receive s.config.maxFrame s.line with ⟨inbox, line, intake⟩
      cases intake with
      | frame body => simp [step, hp, stepWaiting, hc, hr] at hs
      | _ => rfl
    | awaiting job =>
      have hc : s.cancelled = false := by simpa [listens, hp] using hl
      rcases hr : s.inbox.receive s.config.maxFrame s.line with ⟨inbox, line, intake⟩
      cases intake with
      | frame body =>
        cases ha : answer? now job body <;> simp [step, hp, stepAwaiting, hc, hr, ha] at hs
      | _ => rfl
    | _ => simp [listens, hp] at hl
  · rw [hears?, if_neg hl]

end Inbound

end Scheduler

/-- Nothing was taken, read or resolved, and the dispatcher does what it did. -/
structure Moment.IsQuiet (m : Moment) : Prop where
  config : m.after.config = m.scheduler.config
  inbox : m.after.inbox = m.scheduler.inbox
  phase : m.after.phase = m.scheduler.phase
  intake : m.intake = []
  frame : m.frame? = none
  recovered : m.act ≠ .endRecovery → m.after.recovered = m.scheduler.recovered
  signals : m.events.filterMap Event.signal? = []
  taken : taken m.events = []
  sent : sent m.events = []
  outcomes : outcomes m.events = []

theorem Moment.cases (m : Moment) :
    (∃ signals, m.act = .move ∧ m.scheduler.step m.now = some (m.after, signals) ∧
      m.events = signals.map .did) ∨ m.IsQuiet := by
  obtain ⟨s, now, act⟩ := m
  cases act with
  | move =>
    cases hs : s.step now with
    | none =>
      have hr : s.react now .move = (s, []) := by simp [Scheduler.react, hs]
      right
      constructor <;>
        simp [after, events, intake, frame?, hr, Scheduler.hears?_of_step_eq_none hs]
    | some result =>
      have hr : s.react now .move = (result.1, result.2.map .did) := by
        simp [Scheduler.react, hs]
      exact .inl ⟨result.2, rfl, by simp [after, hr], by simp [events, hr]⟩
  | submit r =>
    right
    by_cases hd : s.state.isDisposed = true <;> constructor <;>
      simp [after, events, intake, frame?, Scheduler.react, Scheduler.submit, hd, Event.signal?]
  | endRecovery => exact .inr ⟨rfl, rfl, rfl, rfl, rfl, fun h => absurd rfl h, rfl, rfl, rfl, rfl⟩
  | _ => exact .inr ⟨rfl, rfl, rfl, rfl, rfl, fun _ => rfl, rfl, rfl, rfl, rfl⟩

theorem Moment.config (m : Moment) : m.after.config = m.scheduler.config := by
  rcases m.cases with ⟨_, -, hs, -⟩ | hq
  · exact (Scheduler.move_of_step hs).config
  · exact hq.config

theorem Moment.intake_append (m : Moment) (h : ∀ change, m.act = .rewire change →
      (change m.scheduler.line).incoming.bytes = m.scheduler.line.incoming.bytes) :
    m.intake ++ m.after.line.incoming.bytes = m.scheduler.line.incoming.bytes := by
  obtain ⟨s, now, act⟩ := m
  cases act with
  | move =>
    have ht : (⟨s, now, .move⟩ : Moment).after.line.incoming.bytes = s.line.incoming.bytes ∨
        (⟨s, now, .move⟩ : Moment).after.line.incoming.bytes = [] := by
      cases hs : s.step now with
      | none => simp [after, Scheduler.react, hs]
      | some result => simpa [after, Scheduler.react, hs] using (Scheduler.move_of_step hs).incoming
    rcases ht with ht | ht <;> simp [intake, ht]
  | rewire change => exact h change rfl
  | submit r =>
    by_cases hd : s.state.isDisposed = true <;>
      simp [intake, after, Scheduler.react, Scheduler.submit, hd]
  | _ => rfl

theorem Moment.frame?_of_awaiting {m : Moment} {job : Job} {inbox : Inbox} {line : Line}
    {body : List UInt8} (ha : m.act = .move) (hp : m.scheduler.phase = .awaiting job)
    (hc : m.scheduler.cancelled = false)
    (hi : m.scheduler.inbox.receive m.scheduler.config.maxFrame m.scheduler.line =
      (inbox, line, .frame body)) : m.frame? = some body := by
  simp [frame?, ha, Scheduler.hears?, Scheduler.listens, hp, hc, hi, Intake.frame?]

theorem Scheduler.Inbound.moment {m : Moment} {past : List Moment} (h : m.scheduler.Inbound past) :
    m.after.Inbound (past ++ [m]) := by
  rcases m.cases with ⟨signals, ha, hs, -⟩ | hq
  · obtain ⟨s, now, act⟩ := m
    subst ha
    exact h.move hs
  · exact h.quiet hq.config hq.inbox hq.intake hq.frame

theorem Course.run_config (config : SchedulerConfig) (line : Line) (acts : List (Nat × Act)) :
    ((start config line).run acts).scheduler.config = config :=
  run_induction (P := fun c => c.scheduler.config = config) rfl
    (fun c ms act h => (c.moment ms act).config.trans h) acts

theorem Course.run_inbound (config : SchedulerConfig) (line : Line) (acts : List (Nat × Act)) :
    ((start config line).run acts).scheduler.Inbound ((start config line).moments acts) := by
  refine moments_induction (P := fun c past => c.scheduler.Inbound past) ⟨rfl, ?_, ?_⟩ ?_ acts
  · intro body hb
    cases hb
  · intro he
    cases he
  · exact fun acts ms act h => h.moment (m := (run _ acts).moment ms act)

end BrickHost
