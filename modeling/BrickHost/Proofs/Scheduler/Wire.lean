import Mathlib.Data.List.Induction
import BrickHost.Proofs.Scheduler.Course

/-! What a scheduler puts on the wire. Bytes are told apart by the request that was under way when
the transport accepted them. A frame that is cut short is the last one if the link closes over it;
a write that fails does not close the link. -/

namespace BrickHost

/-- A request that left its lane, the counter it was given, and what the transport accepted while
it was under way. -/
structure Stretch where
  post : Submission
  counter : UInt16
  bytes : List UInt8
  deriving DecidableEq

namespace Stretch

def frame (x : Stretch) : List UInt8 :=
  Frame.encode (x.post.request.packet x.counter).body

def add (x : Stretch) (bytes : List UInt8) : Stretch :=
  { x with bytes := x.bytes ++ bytes }

@[simp] theorem add_nil (x : Stretch) : x.add [] = x := by
  simp [add]

def IsWhole (x : Stretch) : Prop :=
  x.bytes = [] ∨ x.bytes = x.frame

instance (x : Stretch) : Decidable x.IsWhole :=
  inferInstanceAs (Decidable (_ ∨ _))

def HasFailed (log : List Event) (x : Stretch) : Prop :=
  ∃ text, (x.post, .error (.transport text)) ∈ outcomes log

/-- A write failed when only a part of the frame had been accepted. -/
def IsTorn (log : List Event) (x : Stretch) : Prop :=
  x.HasFailed log ∧ ¬ x.IsWhole

def IsSettled (log : List Event) (x : Stretch) : Prop :=
  x.IsWhole ∨ x.HasFailed log

theorem IsSettled.mono {log : List Event} {x : Stretch} (h : x.IsSettled log)
    (events : List Event) : x.IsSettled (log ++ events) := by
  rcases h with h | ⟨text, h⟩
  · exact .inl h
  · exact .inr ⟨text, by simp [h]⟩

end Stretch

/-- A request that leaves its lane begins a stretch, accepted bytes go to the last one. -/
def noteStretch (parts : List Stretch) : Event → List Stretch
  | .did (.taken post) => parts ++ [⟨post, UInt16.ofNat parts.length, []⟩]
  | .did (.sent bytes) => parts.dropLast ++ parts.getLast?.toList.map (·.add bytes)
  | _ => parts

def stretches (log : List Event) : List Stretch :=
  log.foldl noteStretch []

/-- Whole frames, or nothing, for each request in the order of dispatch; then one frame that may be
cut short; then not another byte. -/
def FramedWire (log : List Event) : Prop :=
  ∃ whole rest, stretches log = whole ++ rest ∧ (∀ x ∈ whole, x.IsWhole) ∧
    ∀ x ∈ rest.tail, x.bytes = []

/-- The accepted bytes are whole frames of requests in the order of dispatch, and behind them at
most a strict part of the frame of a later one. -/
def FramedBytes (log : List Event) : Prop :=
  ∃ frames part, frames.Sublist (stretches log) ∧
    sent log = frames.flatMap (·.frame) ++ part ∧
    (part = [] ∨ ∃ x, (frames ++ [x]).Sublist (stretches log) ∧ part <+: x.frame ∧ part ≠ x.frame)

section Stretches

variable {log events : List Event}

theorem stretches_append : stretches (log ++ events) = events.foldl noteStretch (stretches log) :=
  List.foldl_append

theorem foldl_noteStretch_quiet (ht : taken events = []) (hs : sent events = [])
    (parts : List Stretch) : events.foldl noteStretch parts = parts := by
  induction events with
  | nil => rfl
  | cons e rest ih =>
    simp only [taken_cons, List.append_eq_nil_iff] at ht
    simp only [sent_cons, List.append_eq_nil_iff] at hs
    have he : noteStretch parts e = parts := by
      cases e with
      | accepted post => rfl
      | did signal =>
        cases signal with
        | taken post => simp at ht
        | sent bytes =>
          obtain rfl : bytes = [] := hs.1
          cases parts using List.reverseRecOn <;> simp [noteStretch]
        | _ => rfl
    rw [List.foldl_cons, he]
    exact ih ht.2 hs.2

theorem stretches_quiet (ht : taken events = []) (hs : sent events = []) :
    stretches (log ++ events) = stretches log := by
  rw [stretches_append, foldl_noteStretch_quiet ht hs]

theorem stretches_taken (post : Submission) (ht : taken events = []) (hs : sent events = []) :
    stretches (log ++ .did (.taken post) :: events) =
      stretches log ++ [⟨post, UInt16.ofNat (stretches log).length, []⟩] := by
  rw [stretches_append, List.foldl_cons, foldl_noteStretch_quiet ht hs]
  rfl

theorem stretches_sent {parts : List Stretch} {x : Stretch} (h : stretches log = parts ++ [x])
    (bytes : List UInt8) :
    stretches (log ++ [.did (.sent bytes)]) = parts ++ [x.add bytes] := by
  rw [stretches_append, h]
  simp [noteStretch]

end Stretches

namespace Line

theorem pushOut_outgoing {l l' : Line} {bytes : List UInt8} {w : Written}
    (h : l.pushOut bytes = (l', w)) :
    (∀ count, w = .accepted count →
      l'.outgoing.bytes = l.outgoing.bytes ++ bytes.take count ∧ count ≤ bytes.length) ∧
    ((∀ count, w ≠ .accepted count) → l' = l) := by
  unfold pushOut at h
  split at h
  · cases h
    exact ⟨fun _ hw => (by cases hw), fun _ => rfl⟩
  · split at h
    · cases h
      exact ⟨fun _ hw => (by cases hw), fun _ => rfl⟩
    · cases h
      refine ⟨fun count hw => ?_, fun hw => absurd rfl (hw _)⟩
      cases hw
      refine ⟨?_, Nat.min_le_right _ _⟩
      simp [Pipe.push, List.take_eq_take_iff]

theorem write_outgoing {l l' : Line} {bytes : List UInt8} {w : Written}
    (h : l.write bytes = (l', w)) :
    (∀ count, w = .accepted count →
      l'.outgoing.bytes = l.outgoing.bytes ++ bytes.take count) ∧
    ((∀ count, w ≠ .accepted count) → l'.outgoing = l.outgoing) := by
  unfold write at h
  split at h
  · cases h
    exact ⟨fun _ hw => (by cases hw), fun _ => rfl⟩
  · unfold writeWithin at h
    split at h
    · have hp := pushOut_outgoing h
      exact ⟨fun count hw => (hp.1 count hw).1, fun hw => by rw [hp.2 hw]⟩
    · cases h
      exact ⟨fun _ hw => (by cases hw), fun _ => rfl⟩
    · next left text hl =>
      rcases hq : l.pushOut (bytes.take (left + 1)) with ⟨l'', w'⟩
      have hp := pushOut_outgoing hq
      rw [hq] at h
      cases w' with
      | accepted count =>
        cases h
        obtain ⟨hb, hlen⟩ := hp.1 count rfl
        refine ⟨fun n hw => ?_, fun hw => absurd rfl (hw _)⟩
        cases hw
        have hmin : min count (left + 1) = count := by
          rw [List.length_take] at hlen
          omega
        simpa [List.take_take, hmin] using hb
      | full | failed _ =>
        cases h
        exact ⟨fun _ hw => (by cases hw), fun hw => by rw [hp.2 (by simp)]⟩

end Line

theorem Inbox.receive_outgoing {i i' : Inbox} {limit : Nat} {l l' : Line} {intake : Intake}
    (h : i.receive limit l = (i', l', intake)) : l'.outgoing = l.outgoing := by
  unfold receive at h
  split at h <;> cases h <;> rfl

namespace Scheduler

theorem orphan_line (s : Scheduler) (now : Nat) (job : Job) (reason : OrphanReason)
    (closure : Option String) : (s.orphan now job reason closure).1.line = s.line := by
  rw [orphan_eq]
  split
  · cases closure <;> rfl
  · rfl

theorem sent_orphaned (s : Scheduler) (now : Nat) (job : Job) (reason : OrphanReason)
    (closure : Option String) :
    sent ((s.orphaned now job reason closure).2.map .did) = [] := by
  cases closure <;> simp [orphaned, lastSignals]

theorem sent_orphan (s : Scheduler) (now : Nat) (job : Job) (reason : OrphanReason)
    (closure : Option String) : sent ((s.orphan now job reason closure).2.map .did) = [] := by
  rw [orphan_eq]
  split
  · exact s.sent_orphaned now job reason closure
  · simp

theorem Move.outgoing {s t : Scheduler} {now : Nat} {signals : List Signal}
    (hm : s.Move now t signals) :
    t.line.outgoing.bytes = s.line.outgoing.bytes ++ sent (signals.map .did) := by
  have hl : ∀ {post u}, s.drain.takeNext = some (post, u) → u.line = s.line := by
    intro post u ht
    rcases takeNext_cases ht with ⟨_, _, rfl⟩ | ⟨_, _, _, rfl⟩ <;> simp [drain_eq]
  have hf : ∀ {u}, s.fetch = some u → u.line = s.line := by
    intro u hu
    rcases fetch_cases hu with ⟨_, _, _, rfl⟩ | ⟨_, _, _, rfl⟩ <;> simp [enqueue_eq]
  cases hm with
  | refuse hp ht hd => simp [stopped, lastSignals, hl ht]
  | unencodable hp ht hd he | unframeable hp ht hd _ he | begin hp ht hd _ he => simp [hl ht]
  | settle hp ht hr => simp [drain_eq]
  | abandon hp ht hr | cancelWaiting hp hc => simp [stopped]
  | fetchWaiting hp hc hu => simp [hf hu]
  | readWaiting hp hc hu hi | unsolicited hp hc hu hi => simp [Inbox.receive_outgoing hi]
  | endWaiting hp hc hu hi => simp [stopped, Inbox.receive_outgoing hi]
  | cancelWriting hp hc | cancelAwaiting hp hc => simp [stopped, lastSignals]
  | write hp hc hw => simp [(Line.write_outgoing hw).1 _ rfl]
  | failWriting hp hc hw => simp [(Line.write_outgoing hw).2 (by simp)]
  | stall hp hc hw hd => simp [orphan_line, sent_orphan]
  | readAwaiting hp hc hi | discard hp hc hi ha | answered hp hc hi ha =>
    simp [Inbox.receive_outgoing hi]
  | endAwaiting hp hc hi => simp [orphan_line, sent_orphan, Inbox.receive_outgoing hi]
  | expire hp hc hi hd => simp [orphan_line, sent_orphan]
  | fetchAwaiting hp hc hi hd hu => simp [hf hu]
  | @recover job reason closure hp hr =>
    cases closure <;> simp [orphaned, stopped, lastSignals]
  | terminate hp hc => simp [Line.close, Pipe.close]

/-- Where the last stretch stands, by what the dispatcher is doing. -/
def StandsAt (s : Scheduler) (log : List Event) (last : Option Stretch) : Prop :=
  match s.phase with
  | .ready | .waiting | .recovering _ _ none => ∀ x ∈ last, x.IsSettled log
  | .writing job rest =>
    rest ≠ [] ∧ ∃ x ∈ last, x.post = job.submission ∧ x.bytes ++ rest = x.frame
  | .awaiting _ => ∀ x ∈ last, x.bytes = x.frame
  | .recovering _ _ (some _) | .closing _ | .terminated => True

/-- How a scheduler and its log account for the accepted bytes. Only the last stretch can be part of
a frame whose write did not fail. -/
structure Written (s : Scheduler) (log : List Event) : Prop where
  posts : (stretches log).map (·.post) = taken log
  total : (stretches log).flatMap (·.bytes) = sent log
  within : ∀ x ∈ stretches log, x.bytes <+: x.frame
  counted : s.isStopped = false → s.nextCounter = UInt16.ofNat (stretches log).length
  settled : ∀ x ∈ (stretches log).dropLast, x.IsSettled log
  last : s.StandsAt log (stretches log).getLast?

section Written

variable {s t : Scheduler} {now : Nat} {log events : List Event} {signals : List Signal}

theorem StandsAt.mono {last : Option Stretch} (h : s.StandsAt log last) (hp : t.phase = s.phase)
    (events : List Event) : t.StandsAt (log ++ events) last := by
  unfold StandsAt at h ⊢
  rw [hp]
  split at h
  · exact fun x hx => (h x hx).mono events
  · exact fun x hx => (h x hx).mono events
  · exact fun x hx => (h x hx).mono events
  · exact h
  · exact h
  · trivial
  · trivial
  · trivial

theorem Written.quiet (h : s.Written log) (ht : taken events = []) (hs : sent events = [])
    (hn : t.isStopped = false → s.isStopped = false ∧ t.nextCounter = s.nextCounter)
    (hl : t.StandsAt (log ++ events) (stretches log).getLast?) : t.Written (log ++ events) := by
  refine ⟨?_, ?_, ?_, fun ho => ?_, ?_, ?_⟩ <;> rw [stretches_quiet ht hs]
  · simpa [ht] using h.posts
  · simpa [hs] using h.total
  · exact h.within
  · rw [(hn ho).2, h.counted (hn ho).1]
  · exact fun x hx => (h.settled x hx).mono events
  · exact hl

theorem Written.all_settled (h : s.Written log)
    (hl : ∀ x ∈ (stretches log).getLast?, x.IsSettled log) : ∀ x ∈ stretches log, x.IsSettled log := by
  intro x hx
  rcases List.eq_nil_or_concat (stretches log) with he | ⟨parts, last, he⟩
  · simp [he] at hx
  · have hs := h.settled x
    have hl' := hl x
    simp only [he, List.concat_eq_append, List.dropLast_concat, List.getLast?_concat,
      Option.mem_some_iff, List.mem_append, List.mem_singleton] at hs hl' hx
    rcases hx with hx | hx
    · exact hs hx
    · exact hl' hx.symm

theorem Written.taken {post : Submission} (h : s.Written log)
    (hr : ∀ x ∈ (stretches log).getLast?, x.IsSettled log) (ht : BrickHost.taken events = [])
    (hs : sent events = [])
    (hn : t.isStopped = false → s.isStopped = false ∧ t.nextCounter = s.nextCounter + 1)
    (hl : t.StandsAt (log ++ .did (.taken post) :: events)
      (some ⟨post, UInt16.ofNat (stretches log).length, []⟩)) :
    t.Written (log ++ .did (.taken post) :: events) := by
  refine ⟨?_, ?_, ?_, fun ho => ?_, ?_, ?_⟩ <;> rw [stretches_taken post ht hs]
  · simp [ht, h.posts]
  · simp [hs, h.total]
  · intro x hx
    rcases List.mem_append.mp hx with hx | hx
    · exact h.within x hx
    · obtain rfl := List.mem_singleton.mp hx
      exact List.nil_prefix
  · rw [(hn ho).2, h.counted (hn ho).1, List.length_append]
    simp
  · rw [List.dropLast_concat]
    exact fun x hx => (h.all_settled hr x hx).mono _
  · simpa using hl

theorem Written.sent {parts : List Stretch} {x : Stretch} {bytes : List UInt8} (h : s.Written log)
    (he : stretches log = parts ++ [x]) (hb : x.bytes ++ bytes <+: x.frame)
    (hn : t.isStopped = false → s.isStopped = false ∧ t.nextCounter = s.nextCounter)
    (hl : t.StandsAt (log ++ [.did (.sent bytes)]) (some (x.add bytes))) :
    t.Written (log ++ [.did (.sent bytes)]) := by
  have hp := h.posts
  have ht := h.total
  have hw := h.within
  have hc := h.counted
  have hs := h.settled
  rw [he] at hp ht hw hc hs
  rw [List.dropLast_concat] at hs
  refine ⟨?_, ?_, ?_, fun ho => ?_, ?_, ?_⟩ <;> rw [stretches_sent he]
  · simpa [Stretch.add] using hp
  · simpa [Stretch.add, ← List.append_assoc] using ht
  · intro y hy
    rcases List.mem_append.mp hy with hy | hy
    · exact hw y (List.mem_append_left _ hy)
    · obtain rfl := List.mem_singleton.mp hy
      exact hb
  · simpa [(hn ho).2] using hc (hn ho).1
  · rw [List.dropLast_concat]
    exact fun y hy => (hs y hy).mono _
  · simpa using hl

theorem Written.stopped (h : s.Written log) (ht : BrickHost.taken events = [])
    (hs : BrickHost.sent events = []) {u : Scheduler} : (u.stopped now).Written (log ++ events) :=
  h.quiet ht hs (fun ho => (by cases ho)) True.intro

theorem Written.orphaned {job : Job} {reason : OrphanReason} {closure : Option String}
    (h : s.Written log) (hs : s.isStopped = false) {u : Scheduler}
    (hu : u.nextCounter = s.nextCounter)
    (hl : closure = none → ∀ x ∈ (stretches log).getLast?, x.IsSettled log) :
    (u.orphaned now job reason closure).1.Written
      (log ++ (u.orphaned now job reason closure).2.map .did) := by
  cases closure with
  | some why => exact h.stopped (by simp [Scheduler.orphaned, lastSignals]) (sent_orphaned ..)
  | none =>
    refine h.quiet (by simp [Scheduler.orphaned]) (sent_orphaned ..) (fun _ => ⟨hs, hu⟩) ?_
    exact fun x hx => (hl rfl x hx).mono _

theorem Written.orphan {job : Job} {reason : OrphanReason} {closure : Option String}
    (h : s.Written log) (hs : s.isStopped = false) {u : Scheduler}
    (hu : u.nextCounter = s.nextCounter)
    (hl : closure = none → ∀ x ∈ (stretches log).getLast?, x.IsSettled log) :
    (u.orphan now job reason closure).1.Written
      (log ++ (u.orphan now job reason closure).2.map .did) := by
  rw [orphan_eq]
  split
  · exact h.orphaned hs hu hl
  · refine h.quiet (by simp) (by simp) (fun _ => ⟨hs, hu⟩) ?_
    cases closure with
    | none => exact fun x hx => (hl rfl x hx).mono _
    | some why => exact True.intro

theorem Move.written (hm : s.Move now t signals) (h : s.Written log) :
    t.Written (log ++ signals.map .did) := by
  have hlast := h.last
  have hn : ∀ {post u}, s.drain.takeNext = some (post, u) → u.nextCounter = s.nextCounter := by
    intro post u ht
    rcases takeNext_cases ht with ⟨_, _, rfl⟩ | ⟨_, _, _, rfl⟩ <;> simp [drain_eq]
  cases hm with
  | refuse hp ht hd =>
    simp only [StandsAt, hp] at hlast
    refine h.taken hlast (by simp [lastSignals]) (by simp [lastSignals]) ?_ True.intro
    intro ho
    cases ho
  | unencodable hp ht hd he | unframeable hp ht hd hb he =>
    simp only [StandsAt, hp] at hlast
    refine h.taken hlast (by simp) (by simp) (fun _ => ⟨by simp [isStopped, hp], rfl⟩) ?_
    intro x hx
    cases hx
    exact .inl (.inl rfl)
  | @begin post u hp ht hd hb hf =>
    simp only [StandsAt, hp] at hlast
    have hs : s.isStopped = false := by simp [isStopped, hp]
    refine h.taken hlast (by simp) (by simp) (fun _ => ⟨hs, rfl⟩) ⟨?_, ?_⟩
    · simp [nextFrame, Frame.encode]
    · refine ⟨_, rfl, rfl, ?_⟩
      simp [Stretch.frame, nextFrame, h.counted hs]
  | settle hp ht hr =>
    refine h.quiet (by simp) (by simp) (fun _ => ⟨by simp [isStopped, hp], ?_⟩) ?_
    · simp [drain_eq]
    · simp only [StandsAt, hp] at hlast
      exact fun x hx => (hlast x hx).mono _
  | abandon hp ht hr | cancelWaiting hp hc | endWaiting hp hc hf hi =>
    exact h.stopped (by simp) (by simp)
  | @fetchWaiting u hp hc hf =>
    refine h.quiet (by simp) (by simp) (fun _ => ⟨by simp [isStopped, hp], ?_⟩) ?_
    · rcases fetch_cases hf with ⟨_, _, _, rfl⟩ | ⟨_, _, _, rfl⟩ <;> simp [enqueue_eq]
    · simp only [StandsAt, hp] at hlast
      exact fun x hx => (hlast x hx).mono _
  | readWaiting hp hc hf hi =>
    exact h.quiet (by simp) (by simp) (fun ho => ⟨ho, rfl⟩) (hlast.mono rfl _)
  | unsolicited hp hc hf hi =>
    refine h.quiet (by simp) (by simp) (fun _ => ⟨by simp [isStopped, hp], rfl⟩) ?_
    simp only [StandsAt, hp] at hlast
    exact fun x hx => (hlast x hx).mono _
  | cancelWriting hp hc | cancelAwaiting hp hc =>
    exact h.stopped (by simp [lastSignals]) (by simp [lastSignals])
  | @write job rest line count hp hc hw =>
    simp only [StandsAt, hp] at hlast
    obtain ⟨-, x, hx, hj, hframe⟩ := hlast
    obtain ⟨parts, he⟩ := List.getLast?_eq_some_iff.mp hx
    have hsplit : x.bytes ++ rest.take count ++ rest.drop count = x.frame := by
      rw [List.append_assoc, List.take_append_drop, hframe]
    refine h.sent he ⟨_, hsplit⟩ (fun _ => ⟨by simp [isStopped, hp], rfl⟩) ?_
    by_cases hrest : rest.drop count = []
    · simp only [hrest, List.append_nil] at hsplit
      simp only [StandsAt, hrest, List.isEmpty_nil, if_true]
      intro y hy
      cases hy
      exact hsplit
    · have hne : (rest.drop count).isEmpty = false := by simpa using hrest
      simp only [StandsAt, hne, Bool.false_eq_true, if_false]
      exact ⟨hrest, _, rfl, hj, hsplit⟩
  | @failWriting job rest line text hp hc hw =>
    simp only [StandsAt, hp] at hlast
    obtain ⟨-, x, hx, hj, -⟩ := hlast
    refine h.quiet (by simp) (by simp) (fun _ => ⟨by simp [isStopped, hp], rfl⟩) ?_
    intro y hy
    obtain rfl : x = y := Option.some.inj (hx.symm.trans hy)
    exact .inr ⟨text, by simp [hj]⟩
  | stall hp hc hw hd =>
    exact h.orphan (by simp [isStopped, hp]) rfl (fun hn => by cases hn)
  | readAwaiting hp hc hi | discard hp hc hi ha =>
    exact h.quiet (by simp) (by simp) (fun ho => ⟨ho, rfl⟩) (hlast.mono rfl _)
  | answered hp hc hi ha =>
    refine h.quiet (by simp) (by simp) (fun _ => ⟨by simp [isStopped, hp], rfl⟩) ?_
    simp only [StandsAt, hp] at hlast
    exact fun x hx => .inl (.inr (hlast x hx))
  | endAwaiting hp hc hi =>
    exact h.orphan (by simp [isStopped, hp]) rfl (fun hn => by cases hn)
  | expire hp hc hi hd =>
    simp only [StandsAt, hp] at hlast
    exact h.orphan (by simp [isStopped, hp]) rfl (fun _ x hx => .inl (.inr (hlast x hx)))
  | fetchAwaiting hp hc hi hd hf =>
    have ht : t.nextCounter = s.nextCounter ∧ t.phase = s.phase := by
      rcases fetch_cases hf with ⟨_, _, _, rfl⟩ | ⟨_, _, _, rfl⟩ <;> simp [enqueue_eq]
    exact h.quiet (by simp) (by simp) (fun _ => ⟨by simp [isStopped, hp], ht.1⟩)
      (hlast.mono ht.2 _)
  | @recover job reason closure hp hr =>
    apply h.orphaned (by simp [isStopped, hp]) rfl
    intro hn
    subst hn
    simpa only [StandsAt, hp] using hlast
  | terminate hp hc =>
    exact h.quiet (by simp) (by simp) (fun ho => (by cases ho)) True.intro

theorem Written.react {act : Act} (h : s.Written log) (hr : s.react now act = (t, events)) :
    t.Written (log ++ events) := by
  rcases react_cases hr with ⟨signals, hm, rfl⟩ | ⟨post, hn, hd, rfl, rfl⟩ |
    ⟨line, state, cancelled, handles, recovered, hd, rfl, rfl⟩
  · exact hm.written h
  · exact h.quiet (by simp) (by simp) (fun ho => ⟨ho, rfl⟩) (h.last.mono rfl _)
  · exact h.quiet rfl rfl (fun ho => ⟨ho, rfl⟩) (h.last.mono rfl _)

end Written

end Scheduler

theorem Course.run_written (config : SchedulerConfig) (line : Line) (acts : List (Nat × Act)) :
    (((start config line).run acts).scheduler).Written ((start config line).run acts).log := by
  refine run_induction (P := fun c => c.scheduler.Written c.log) ?_ ?_ acts
  · refine ⟨rfl, rfl, ?_, fun _ => rfl, ?_, ?_⟩
    · intro x hx
      cases hx
    · intro x hx
      cases hx
    · intro x hx
      cases hx
  · exact fun c ms act h => h.react rfl

/-- After a frame whose write failed halfway nothing more was accepted. -/
def EndsAtTear (log : List Event) : Prop :=
  ∀ early x later, stretches log = early ++ x :: later → x.IsTorn log → ∀ y ∈ later, y.bytes = []

section Framing

variable {log : List Event}

theorem framedWire_iff :
    FramedWire log ↔ ∀ early x later, stretches log = early ++ x :: later → ¬ x.IsWhole →
      ∀ y ∈ later, y.bytes = [] := by
  unfold FramedWire
  constructor
  · rintro ⟨whole, rest, he, hw, hr⟩ early x later hx hn y hy
    rw [he] at hx
    rcases List.append_eq_append_iff.mp hx with ⟨mid, rfl, hm⟩ | ⟨mid, rfl, hm⟩
    · apply hr y
      cases mid with
      | nil =>
        rw [hm]
        exact hy
      | cons a mid =>
        rw [hm]
        exact List.mem_append_right mid (List.mem_cons_of_mem x hy)
    · cases mid with
      | nil =>
        rw [List.nil_append] at hm
        rw [← hm] at hr
        exact hr y hy
      | cons a mid =>
        obtain ⟨rfl, -⟩ := List.cons.inj hm
        exact absurd (hw x (by simp)) hn
  · intro h
    generalize stretches log = parts at h ⊢
    induction parts with
    | nil => exact ⟨[], [], rfl, by simp, by simp⟩
    | cons a parts ih =>
      by_cases ha : a.IsWhole
      · obtain ⟨whole, rest, rfl, hw, hr⟩ :=
          ih (fun early x later he => h (a :: early) x later (by rw [he]; rfl))
        exact ⟨a :: whole, rest, rfl, by simpa using ⟨ha, hw⟩, hr⟩
      · exact ⟨[], a :: parts, rfl, by simp, h [] a parts rfl ha⟩

theorem flatMap_whole {whole : List Stretch} (hw : ∀ x ∈ whole, x.IsWhole) :
    whole.flatMap (·.bytes) = (whole.filter (·.bytes ≠ [])).flatMap (·.frame) := by
  induction whole with
  | nil => rfl
  | cons x whole ih =>
    have hrest := ih (fun y hy => hw y (List.mem_cons_of_mem x hy))
    by_cases hb : x.bytes = []
    · simpa [hb] using hrest
    · have hx : x.bytes = x.frame := (hw x List.mem_cons_self).resolve_left hb
      rw [List.flatMap_cons, hrest, hx, List.filter_cons_of_pos (by simpa using hb),
        List.flatMap_cons]

theorem Scheduler.Written.framedBytes {s : Scheduler} (h : s.Written log) (hf : FramedWire log) :
    FramedBytes log := by
  obtain ⟨whole, rest, he, hw, hr⟩ := hf
  have hsub : (whole.filter (·.bytes ≠ [])).Sublist whole := List.filter_sublist
  have ht := h.total
  rw [he, List.flatMap_append, flatMap_whole hw] at ht
  cases rest with
  | nil =>
    refine ⟨_, [], ?_, by rw [← ht]; rfl, .inl rfl⟩
    rw [he, List.append_nil]
    exact hsub
  | cons x later =>
    have hl : later.flatMap (·.bytes) = [] := List.flatMap_eq_nil_iff.mpr hr
    rw [List.flatMap_cons, hl, List.append_nil] at ht
    have hx : (whole.filter (·.bytes ≠ []) ++ [x]).Sublist (stretches log) := by
      rw [he]
      exact hsub.append (List.singleton_sublist.mpr List.mem_cons_self)
    by_cases hc : x.bytes = x.frame
    · exact ⟨_, [], hx, by simp [← ht, hc], .inl rfl⟩
    · refine ⟨_, x.bytes, (List.sublist_append_left _ _).trans hx, ht.symm, .inr ⟨x, hx, ?_, hc⟩⟩
      exact h.within x (by simp [he])

end Framing

/-- In every course the accepted bytes fall into one stretch for each request that left its lane, in
that order, each the beginning of the frame of its request. They are whole frames with at most one
cut frame at the end exactly if nothing was accepted after a write that failed halfway. -/
theorem wire_framed_iff_endsAtTear (config : SchedulerConfig) (line : Line)
    (acts : List (Nat × Act)) :
    let c := (Course.start config line).run acts
    (∀ now t signals, c.scheduler.step now = some (t, signals) →
      t.line.outgoing.bytes = c.scheduler.line.outgoing.bytes ++ sent (signals.map .did)) ∧
    (stretches c.log).map (·.post) = taken c.log ∧
    (stretches c.log).flatMap (·.bytes) = sent c.log ∧
    (∀ x ∈ stretches c.log, x.bytes <+: x.frame) ∧
    (FramedWire c.log → FramedBytes c.log) ∧
    (FramedWire c.log ↔ EndsAtTear c.log) := by
  intro c
  have h := Course.run_written config line acts
  refine ⟨?_, h.posts, h.total, h.within, h.framedBytes, ?_, ?_⟩
  · intro now t signals hs
    exact (Scheduler.move_of_step hs).outgoing
  · intro hf early x later he ht
    exact framedWire_iff.mp hf early x later he ht.2
  · intro he
    apply framedWire_iff.mpr
    intro early x later hx hw y hy
    have hs : x ∈ (stretches c.log).dropLast := by
      rw [hx, List.dropLast_append_of_ne_nil (List.cons_ne_nil _ _),
        List.dropLast_cons_of_ne_nil (List.ne_nil_of_mem hy)]
      simp
    have hfail := (h.settled x hs).resolve_left hw
    exact he early x later hx ⟨hfail, hw⟩ y hy

/-- A write fails after three bytes, and the next request goes onto the wire all the same. -/
theorem next_frame_follows_torn_frame :
    ∃ config line acts, let log := ((Course.start config line).run acts).log
      ¬ FramedBytes log ∧ ¬ FramedWire log := by
  let first : Request := { id := "first", kind := .direct, payload := [0xaa, 0xbb] }
  let second : Request := { id := "second", kind := .direct, payload := [0xcc, 0xdd] }
  let line := (Line.ofCapacity 64).plant (.failsAfter 3 "unplugged")
  let acts := [Act.submit first, .submit second, .move, .move, .move, .move, .move].map ((0, ·))
  let torn : Stretch := ⟨⟨0, first, 0⟩, 0, [5, 0, 0]⟩
  let next : Stretch := ⟨⟨1, second, 0⟩, 1, [5, 0, 1, 0, 0, 0xcc, 0xdd]⟩
  have hs : stretches ((Course.start {} line).run acts).log = [torn, next] := by decide
  have hb : sent ((Course.start {} line).run acts).log = torn.bytes ++ next.bytes := by decide
  refine ⟨{}, line, acts, ?_, ?_⟩
  · rintro ⟨frames, part, hf, he, hp⟩
    rw [hs] at hf hp
    rw [hb] at he
    cases frames with
    | nil =>
      obtain rfl : part = torn.bytes ++ next.bytes := he.symm
      rcases hp with hp | ⟨x, hx, hp, -⟩
      · cases hp
      · have hx' : x ∈ [torn, next] := hx.subset (List.mem_singleton_self x)
        have hlen : ∀ y ∈ [torn, next], y.frame.length = 7 := by decide
        have hle := hp.length_le
        rw [hlen x hx'] at hle
        exact absurd hle (by decide)
    | cons x frames =>
      have hx : x ∈ [torn, next] := hf.subset List.mem_cons_self
      have hx' : x.frame <+: torn.bytes ++ next.bytes := by
        rw [he, List.flatMap_cons, List.append_assoc]
        exact List.prefix_append _ _
      have hno : ∀ y ∈ [torn, next], ¬ y.frame <+: torn.bytes ++ next.bytes := by decide
      exact hno x hx hx'
  · intro hf
    have hn := framedWire_iff.mp hf [] torn [next] hs (by decide) next (by simp)
    cases hn

end BrickHost
