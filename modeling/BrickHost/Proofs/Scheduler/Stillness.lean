import BrickHost.Proofs.Scheduler.Intake

/-! When a dispatcher makes no move. It then waits for its surroundings or for a moment that is
still to come; and each move that it makes uses up a part of what it can still do. -/

namespace BrickHost

namespace Scheduler

/-- What a dispatcher waits for. -/
inductive Pause (s : Scheduler) (now : Nat) : Prop
  | waiting (hp : s.phase = .waiting) (hc : s.cancelled = false) (hf : s.fetch = none)
  | writing {job : Job} {rest : List UInt8} (hp : s.phase = .writing job rest)
      (hc : s.cancelled = false) (hd : now < job.deadline)
  | awaiting {job : Job} (hp : s.phase = .awaiting job) (hc : s.cancelled = false)
      (hd : now < job.deadline) (hf : s.fetch = none)
  | recovering {job : Job} {reason : OrphanReason} {closure : Option String}
      (hp : s.phase = .recovering job reason closure) (hr : s.recovered = false)
  | closing {deadline : Nat} (hp : s.phase = .closing deadline) (hd : now < deadline)
  | terminated (hp : s.phase = .terminated)

theorem pause_of_step_eq_none {s : Scheduler} {now : Nat} (h : s.step now = none) :
    s.Pause now := by
  cases hp : s.phase with
  | ready => simp [step, hp] at h
  | waiting =>
    simp only [step, hp, stepWaiting] at h
    by_cases hc : s.cancelled = true
    · simp [hc] at h
    · cases hf : s.fetch with
      | some t => simp [hc, hf] at h
      | none => exact .waiting hp (by simpa using hc) hf
  | writing job rest =>
    simp only [step, hp, stepWriting] at h
    by_cases hc : s.cancelled = true
    · simp [hc] at h
    · rcases hw : s.line.write rest with ⟨line, written⟩
      have hd : ¬ job.deadline ≤ now := by
        intro hd
        cases written <;> simp [hc, hw, hd] at h
      exact .writing hp (by simpa using hc) (by omega)
  | awaiting job =>
    simp only [step, hp, stepAwaiting] at h
    by_cases hc : s.cancelled = true
    · simp [hc] at h
    · rcases hi : s.inbox.receive s.config.maxFrame s.line with ⟨inbox, line, intake⟩
      cases intake with
      | nothing =>
        by_cases hd : job.deadline ≤ now
        · simp [hc, hi, hd] at h
        · have hf : s.fetch = none := by simpa [hc, hi, hd] using h
          exact .awaiting hp (by simpa using hc) (by omega) hf
      | progress => simp [hc, hi] at h
      | frame body => cases ha : answer? now job body <;> simp [hc, hi, ha] at h
      | closed why => simp [hc, hi] at h
  | recovering job reason closure =>
    cases hr : s.recovered with
    | false => exact .recovering hp hr
    | true => simp [step, hp, hr] at h
  | closing deadline =>
    by_cases hd : now < deadline
    · exact .closing hp hd
    · simp [step, hp, hd] at h
  | terminated => exact .terminated hp

end Scheduler

/-- Grows with the moves that an inbox can still make over what the pipe holds. -/
def Inbox.weight (i : Inbox) (p : Pipe) : Nat :=
  3 * p.bytes.length + i.buffer.length +
    match i.ended, i.unscanned with
    | false, true => 3
    | false, false => 2
    | true, false => 1
    | true, true => 0

/-- What one move of the inbox takes from its weight. -/
def Intake.worth : Intake → Nat
  | progress => 1
  | frame _ => 2
  | nothing | closed _ => 0

section Inbox

variable {i i' : Inbox} {limit : Nat} {intake : Intake}

theorem Inbox.scan_weight (hu : i.unscanned = true) (h : i.scan limit = (i', intake)) (p : Pipe) :
    i'.weight p + intake.worth ≤ i.weight p := by
  unfold scan at h
  cases hs : Frame.scan limit i.buffer with
  | frame body rest =>
    rw [hs] at h
    cases h
    have hl := congrArg List.length (Frame.eq_encode_append_of_scan hs).1
    simp only [Frame.encode, List.length_append, List.length_cons] at hl
    simp only [weight, Intake.worth]
    omega
  | oversized size =>
    rw [hs] at h
    cases h
    exact Nat.le_refl _
  | short =>
    simp only [hs] at h
    cases he : i.ended with
    | true =>
      simp only [he, if_true] at h
      split at h <;> cases h <;> exact Nat.le_refl _
    | false =>
      simp only [he] at h
      cases h
      simp [weight, Intake.worth, he, hu]

theorem Inbox.read_weight {p p' : Pipe} (hu : i.unscanned = false)
    (h : i.read p = (i', p', intake)) : i'.weight p' + intake.worth ≤ i.weight p := by
  unfold read at h
  by_cases hb : p.bytes = []
  · rw [if_pos (by simp [hb])] at h
    by_cases hc : p.closed = true
    · rw [if_pos hc] at h
      cases h
      cases he : i.ended <;> simp [weight, Intake.worth, he, hu]
    · rw [if_neg hc] at h
      cases h
      exact Nat.le_refl _
  · rw [if_neg (by simp [hb])] at h
    cases h
    have hl := List.length_pos_iff.mpr hb
    cases he : i.ended <;> simp [weight, Intake.worth, Pipe.drop, he, hu] <;> omega

theorem Inbox.receive_weight {l l' : Line} (h : i.receive limit l = (i', l', intake)) :
    i'.weight l'.incoming + intake.worth ≤ i.weight l.incoming := by
  unfold receive at h
  split at h
  · cases h
    exact Nat.le_refl _
  · cases hu : i.unscanned with
    | true =>
      rcases hs : i.scan limit with ⟨i'', intake'⟩
      simp only [next, hu, if_true, hs] at h
      cases h
      exact scan_weight hu hs l.incoming
    | false =>
      rcases hr : i.read l.incoming with ⟨i'', p, intake'⟩
      simp only [next, hu, hr] at h
      cases h
      exact read_weight hu hr

end Inbox

theorem Line.pushOut_pos {l l' : Line} {bytes : List UInt8} {count : Nat} (hb : bytes ≠ [])
    (h : l.pushOut bytes = (l', .accepted count)) : 0 < count := by
  unfold pushOut at h
  by_cases hc : l.outgoing.closed = true
  · simp [hc] at h
  · by_cases hr : l.outgoing.room = 0
    · simp [hc, hr] at h
    · simp only [if_neg hc, if_neg hr, Prod.mk.injEq, Written.accepted.injEq] at h
      have hl := List.length_pos_iff.mpr hb
      rw [← h.2]
      exact Nat.lt_min.mpr ⟨Nat.pos_of_ne_zero hr, hl⟩

/-- A transport that accepts anything of a frame accepts at least one byte. -/
theorem Line.write_pos {l l' : Line} {bytes : List UInt8} {count : Nat} (hb : bytes ≠ [])
    (h : l.write bytes = (l', .accepted count)) : 0 < count := by
  unfold write at h
  split at h
  · cases h
  · unfold writeWithin at h
    split at h
    · exact pushOut_pos hb h
    · cases h
    · next left text hl =>
      rcases hq : l.pushOut (bytes.take (left + 1)) with ⟨l'', w⟩
      rw [hq] at h
      cases w with
      | accepted n =>
        cases h
        exact pushOut_pos (by simpa using hb) hq
      | full | failed _ => cases h

def Phase.weight : Phase → Nat
  | .terminated => 0
  | .closing _ => 1
  | .waiting => 2
  | .ready => 3
  | .recovering _ _ _ => 4
  | .awaiting _ => 5
  | .writing _ rest => rest.length + 6

/-- More than the moves between leaving a lane and having its frame written. -/
def Submission.weight (post : Submission) : Nat :=
  post.request.payload.length + 9

def load : List Submission → Nat
  | [] => 0
  | post :: rest => post.weight + load rest

@[simp] theorem load_nil : load [] = 0 := rfl

theorem load_cons (post : Submission) (p : List Submission) :
    load (post :: p) = post.weight + load p := rfl

theorem load_append (p q : List Submission) : load (p ++ q) = load p + load q := by
  induction p with
  | nil => simp
  | cons post p ih =>
    rw [List.cons_append, load_cons, load_cons, ih]
    omega

theorem load_lanes (p : List Submission) :
    load (inLane .high p) + load (inLane .normal p) = load p := by
  induction p with
  | nil => rfl
  | cons post p ih =>
    simp only [inLane_cons]
    cases hl : post.request.lane <;> simp [load_cons] <;> omega

namespace Scheduler

/-- What the dispatcher still has to move through its queues. -/
def backlog (s : Scheduler) : Nat :=
  load s.mailbox + 2 * s.mailbox.length + load s.high + load s.normal + 2 * s.receiving.toNat

def weight (s : Scheduler) : Nat :=
  s.phase.weight + s.inbox.weight s.line.incoming + s.backlog

section Weight

variable {s t : Scheduler} {now : Nat} {signals : List Signal}

theorem weight_eq {p : Phase} (hp : s.phase = p) :
    s.weight = p.weight + s.inbox.weight s.line.incoming + s.backlog := by
  rw [weight, hp]

theorem drain_backlog_le (s : Scheduler) : s.drain.backlog ≤ s.backlog := by
  have hl := load_lanes s.mailbox
  simp only [backlog, drain_eq, waitingIn, lane, load_append, load_nil, List.length_nil]
  omega

theorem takeNext_backlog {post : Submission} (h : s.drain.takeNext = some (post, t)) :
    t.backlog + post.weight ≤ s.backlog := by
  have hd := s.drain_backlog_le
  rcases takeNext_cases h with ⟨rest, hh, rfl⟩ | ⟨rest, hh, hn, rfl⟩
  · simp only [backlog, hh, load_cons] at hd ⊢
    omega
  · simp only [backlog, hh, hn, load_cons] at hd ⊢
    omega

theorem fetch_backlog (h : s.fetch = some t) : t.backlog + 2 ≤ s.backlog := by
  rcases fetch_cases h with ⟨post, rest, hm, rfl⟩ | ⟨-, -, hr, rfl⟩
  · have hl := load_lanes [post]
    simp only [load_cons, load_nil] at hl
    simp only [backlog, enqueue_eq, hm, load_append, load_cons, List.length_cons]
    omega
  · simp [backlog, hr]

theorem stopped_weight_le (s : Scheduler) (now : Nat) :
    (s.stopped now).weight ≤ 1 + s.inbox.weight s.line.incoming + s.backlog := by
  have hb : (s.stopped now).backlog ≤ s.backlog := by
    simp only [backlog, stopped, load_nil, List.length_nil]
    omega
  have hw : (s.stopped now).weight =
      1 + s.inbox.weight s.line.incoming + (s.stopped now).backlog := rfl
  omega

theorem orphaned_weight_le (s : Scheduler) (now : Nat) (job : Job) (reason : OrphanReason)
    (closure : Option String) : (s.orphaned now job reason closure).1.weight ≤
      3 + s.inbox.weight s.line.incoming + s.backlog := by
  cases closure with
  | some why =>
    have hs := s.stopped_weight_le now
    simp only [orphaned]
    omega
  | none => exact Nat.le_refl _

theorem orphan_weight_le (s : Scheduler) (now : Nat) (job : Job) (reason : OrphanReason)
    (closure : Option String) : (s.orphan now job reason closure).1.weight ≤
      4 + s.inbox.weight s.line.incoming + s.backlog := by
  have ho := s.orphaned_weight_le now job reason closure
  rw [orphan_eq]
  split
  · omega
  · exact Nat.le_refl _

theorem length_nextFrame (s : Scheduler) (post : Submission) :
    (s.nextFrame post).length + 4 = post.weight := by
  have hb := (post.request.packet s.nextCounter).length_body
  have hs : (post.request.packet s.nextCounter).size = 3 + post.request.payload.length := rfl
  simp only [nextFrame, Frame.encode, List.length_append, List.length_cons, List.length_nil,
    Submission.weight]
  omega

/-- Every move uses something up: a request, bytes that came in, bytes to be written, or a stage on
the way to the end. -/
theorem Move.weight_lt (hm : s.Move now t signals) : t.weight < s.weight := by
  cases hm with
  | @refuse post u hp ht hd =>
    have hb := takeNext_backlog ht
    have hu := u.stopped_weight_le now
    obtain ⟨hi, hl, -⟩ := takeNext_rest ht
    rw [hi, hl] at hu
    rw [weight_eq hp, Phase.weight]
    omega
  | @unencodable post u e hp ht hd he | @unframeable post u body e hp ht hd hb he =>
    have hb := takeNext_backlog ht
    have hw : 0 < post.weight := Nat.succ_pos _
    obtain ⟨hi, hl, -⟩ := takeNext_rest ht
    change 3 + u.inbox.weight u.line.incoming + u.backlog < s.weight
    rw [weight_eq hp, Phase.weight, hi, hl]
    omega
  | @begin post u hp ht hd hb hf =>
    have hb := takeNext_backlog ht
    have hn := s.length_nextFrame post
    obtain ⟨hi, hl, -⟩ := takeNext_rest ht
    change (s.nextFrame post).length + 6 + u.inbox.weight u.line.incoming + u.backlog < s.weight
    rw [weight_eq hp, Phase.weight, hi, hl]
    omega
  | settle hp ht hr =>
    have hd := s.drain_backlog_le
    have hi : s.drain.inbox.weight s.drain.line.incoming = s.inbox.weight s.line.incoming := by
      simp [drain_eq]
    change 2 + s.drain.inbox.weight s.drain.line.incoming + s.drain.backlog < s.weight
    rw [weight_eq hp, Phase.weight, hi]
    omega
  | abandon hp ht hr | cancelWaiting hp hc | cancelWriting hp hc | cancelAwaiting hp hc =>
    have hu := s.stopped_weight_le now
    rw [weight_eq hp, Phase.weight]
    omega
  | @fetchWaiting u hp hc hf =>
    have hb := fetch_backlog hf
    obtain ⟨hi, hl, -⟩ := fetch_rest hf
    change 3 + u.inbox.weight u.line.incoming + u.backlog < s.weight
    rw [weight_eq hp, Phase.weight, hi, hl]
    omega
  | @readWaiting inbox line hp hc hf hi | @readAwaiting _ inbox line hp hc hi
  | @discard _ inbox line _ hp hc hi ha =>
    have hw := Inbox.receive_weight hi
    change s.phase.weight + inbox.weight line.incoming + s.backlog < s.weight
    simp only [Intake.worth] at hw
    rw [weight]
    omega
  | @unsolicited inbox line body hp hc hf hi =>
    have hw := Inbox.receive_weight hi
    change 3 + inbox.weight line.incoming + s.backlog < s.weight
    simp only [Intake.worth] at hw
    rw [weight_eq hp, Phase.weight]
    omega
  | @endWaiting inbox line why hp hc hf hi =>
    have hw := Inbox.receive_weight hi
    have hu := ({ s with inbox := inbox, line := line } : Scheduler).stopped_weight_le now
    change _ ≤ 1 + inbox.weight line.incoming + s.backlog at hu
    rw [weight_eq hp, Phase.weight]
    omega
  | @write job rest line count hp hc hw =>
    have hi := congrArg s.inbox.weight (Line.write_rest hw).1
    by_cases hr : rest.drop count = []
    · simp only [hr, List.isEmpty_nil, if_true]
      change 5 + s.inbox.weight line.incoming + s.backlog < s.weight
      rw [weight_eq hp, Phase.weight]
      omega
    · have hne : rest ≠ [] := by
        rintro rfl
        exact hr List.drop_nil
      have hcount := Line.write_pos hne hw
      have hlen := List.length_pos_iff.mpr hne
      have hd : (rest.drop count).isEmpty = false := by simpa using hr
      simp only [hd, Bool.false_eq_true, if_false]
      change (rest.drop count).length + 6 + s.inbox.weight line.incoming + s.backlog < s.weight
      rw [weight_eq hp, Phase.weight, List.length_drop]
      omega
  | @failWriting job rest line text hp hc hw =>
    have hi := congrArg s.inbox.weight (Line.write_rest hw).1
    change 3 + s.inbox.weight line.incoming + s.backlog < s.weight
    rw [weight_eq hp, Phase.weight]
    omega
  | @stall job rest line hp hc hw hd =>
    have hu := s.orphan_weight_le now job .timeout (some stallText)
    rw [weight_eq hp, Phase.weight]
    omega
  | @answered job inbox line body result hp hc hi ha =>
    have hw := Inbox.receive_weight hi
    change 3 + inbox.weight line.incoming + s.backlog < s.weight
    rw [weight_eq hp, Phase.weight]
    omega
  | @endAwaiting job inbox line why hp hc hi =>
    have hw := Inbox.receive_weight hi
    have hu := ({ s with inbox := inbox, line := line } : Scheduler).orphan_weight_le now job
      .transportClosed (some why)
    change _ ≤ 4 + inbox.weight line.incoming + s.backlog at hu
    rw [weight_eq hp, Phase.weight]
    omega
  | @expire job inbox line hp hc hi hd =>
    have hu := s.orphan_weight_le now job .timeout none
    rw [weight_eq hp, Phase.weight]
    omega
  | fetchAwaiting hp hc hi hd hf =>
    have hb := fetch_backlog hf
    obtain ⟨hi, hl, -⟩ := fetch_rest hf
    have ht := (fetch_phase hf).1
    rw [weight, weight, ht, hi, hl]
    omega
  | @recover job reason closure hp hr =>
    have hu := s.orphaned_weight_le now job reason closure
    rw [weight_eq hp, Phase.weight]
    omega
  | terminate hp hc =>
    change 0 + s.inbox.weight s.line.incoming + s.backlog < s.weight
    rw [weight_eq hp, Phase.weight]
    omega

end Weight

end Scheduler

end BrickHost
