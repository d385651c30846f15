import Mathlib.Data.List.Infix
import Mathlib.Data.List.Nodup
import Mathlib.Data.List.Perm.Subperm
import BrickHost.Proofs.Scheduler.Course

/-! What becomes of accepted requests. Each is resolved once, one at a time is under way, and they
are resolved in the order in which they left their lanes; those that never did come last. -/

namespace BrickHost

/-- The requests that left their lane and are not resolved. -/
def underWay (log : List Event) : List Submission :=
  (taken log).filter (· ∉ resolved log)

/-- The requests of a lane that never left it, in the order in which they were accepted. -/
def neverTaken (l : Lane) (log : List Event) : List Submission :=
  (inLane l (accepted log)).filter (· ∉ taken log)

namespace Scheduler

theorem inHand_length_le (s : Scheduler) : s.inHand.length ≤ 1 := by
  unfold inHand
  split <;> simp

/-- The request that is taken stood first in its lane; the others wait on. -/
theorem takeNext_drain {s t : Scheduler} {post : Submission} (h : s.Sorted)
    (ht : s.drain.takeNext = some (post, t)) :
    (∀ l, s.waitingIn l = inLane l [post] ++ t.waitingIn l) ∧ t.Sorted ∧
      t.nextTicket = s.nextTicket := by
  have hs := h.drain
  rcases takeNext_cases ht with ⟨rest, hh, rfl⟩ | ⟨rest, hh, hn, rfl⟩
  · have hl : post.request.lane = .high := hs .high post (by simp [lane, hh])
    refine ⟨fun l => ?_, fun l p hp => ?_, by simp [drain_eq]⟩
    · rw [← drain_waitingIn]
      cases l <;> simp [waitingIn, lane, hh, inLane_cons, hl]
    · cases l with
      | high => exact hs .high p (by simpa [lane, hh] using .inr hp)
      | normal => exact hs .normal p hp
  · have hl : post.request.lane = .normal := hs .normal post (by simp [lane, hn])
    refine ⟨fun l => ?_, fun l p hp => ?_, by simp [drain_eq]⟩
    · rw [← drain_waitingIn]
      cases l <;> simp [waitingIn, lane, hn, inLane_cons, hl]
    · cases l with
      | high => exact hs .high p hp
      | normal => exact hs .normal p (by simpa [lane, hn] using .inr hp)

theorem fetch_waitingIn {s t : Scheduler} (h : s.Sorted) (hf : s.fetch = some t) :
    (∀ l, t.waitingIn l = s.waitingIn l) ∧ t.Sorted ∧ t.nextTicket = s.nextTicket ∧
      t.phase = s.phase := by
  rcases fetch_cases hf with ⟨post, rest, hm, rfl⟩ | ⟨-, -, -, rfl⟩
  · refine ⟨fun l => ?_, fun l p hp => ?_, by simp [enqueue_eq], by simp [enqueue_eq]⟩
    · have hc := inLane_append l [post] rest
      cases l <;> simp_all [enqueue_eq, waitingIn, lane]
    · have hp' : p ∈ s.lane l ++ inLane l [post] := by cases l <;> simpa [enqueue_eq, lane] using hp
      rcases List.mem_append.mp hp' with hl | hl
      · exact h l p hl
      · exact lane_of_mem_inLane hl
  · exact ⟨fun _ => rfl, h, rfl, rfl⟩

/-- What one move does to the requests in a scheduler that serves: `left` are those that still wait
after it, or that it resolves though they were never taken. -/
structure Conserves (s t : Scheduler) (events : List Event) (left : Lane → List Submission) :
    Prop where
  lanes : ∀ l, s.waitingIn l = inLane l (taken events) ++ left l
  single : s.inHand.length + (taken events).length ≤ 1
  serving : t.isStopped = false →
    left = t.waitingIn ∧ s.inHand ++ taken events = resolved events ++ t.inHand
  stopped : t.isStopped = true → t.state = .disposed ∧ (∀ l, t.waitingIn l = []) ∧
    resolved events = s.inHand ++ taken events ++ left .high ++ left .normal

theorem Conserves.of_line {s t : Scheduler} {inbox : Inbox} {line : Line} {events : List Event}
    {left : Lane → List Submission}
    (h : ({ s with inbox := inbox, line := line } : Scheduler).Conserves t events left) :
    s.Conserves t events left :=
  ⟨h.lanes, h.single, h.serving, h.stopped⟩

section Conserves

variable {s t : Scheduler} {now : Nat} {post : Submission} {outcome : Outcome}
  {signals : List Signal}

theorem conserves_quiet (hw : t.waitingIn = s.waitingIn) (hh : t.inHand = s.inHand)
    (ho : t.isStopped = false) (ht : taken (signals.map Event.did) = [])
    (hr : resolved (signals.map Event.did) = []) :
    s.Conserves t (signals.map .did) s.waitingIn where
  lanes l := by simp [ht]
  single := by simpa [ht] using s.inHand_length_le
  serving _ := ⟨hw.symm, by simp [ht, hr, hh]⟩
  stopped h := by simp [ho] at h

theorem conserves_taken (hs : s.inHand = [])
    (hw : ∀ l, s.waitingIn l = inLane l [post] ++ t.waitingIn l) (ht : t.inHand = [post])
    (ho : t.isStopped = false) : s.Conserves t ([.taken post].map .did) t.waitingIn where
  lanes := hw
  single := by simp [hs]
  serving _ := ⟨rfl, by simp [hs, ht]⟩
  stopped h := by simp [ho] at h

theorem conserves_taken_resolved (hs : s.inHand = [])
    (hw : ∀ l, s.waitingIn l = inLane l [post] ++ t.waitingIn l) (ht : t.inHand = [])
    (ho : t.isStopped = false) :
    s.Conserves t ([.taken post, .resolved post outcome].map .did) t.waitingIn where
  lanes := hw
  single := by simp [hs]
  serving _ := ⟨rfl, by simp [hs, ht]⟩
  stopped h := by simp [ho] at h

theorem conserves_resolved (hs : s.inHand = [post]) (hw : t.waitingIn = s.waitingIn)
    (ht : t.inHand = []) (ho : t.isStopped = false) :
    s.Conserves t ([.resolved post outcome].map .did) s.waitingIn where
  lanes _ := rfl
  single := by simp [hs]
  serving _ := ⟨hw.symm, by simp [hs, ht]⟩
  stopped h := by simp [ho] at h

theorem stopped_waitingIn (s : Scheduler) (now : Nat) (l : Lane) :
    (s.stopped now).waitingIn l = [] := by
  cases l <;> rfl

theorem conserves_stopped (hs : s.inHand = []) :
    s.Conserves (s.stopped now)
      (((s.waitingIn .high ++ s.waitingIn .normal).map (.resolved · outcome)).map .did)
      s.waitingIn where
  lanes l := by simp
  single := by simp [hs]
  serving h := by cases h
  stopped _ := ⟨rfl, s.stopped_waitingIn now, by simp [hs]⟩

@[simp] theorem taken_lastSignals (s : Scheduler) (post : Submission) (e : LinkError)
    (why : Exit) : taken ((s.lastSignals post e why).map .did) = [] := by
  simp [lastSignals]

@[simp] theorem resolved_lastSignals (s : Scheduler) (post : Submission) (e : LinkError)
    (why : Exit) : resolved ((s.lastSignals post e why).map .did) =
      post :: (s.waitingIn .high ++ s.waitingIn .normal) := by
  simp [lastSignals]

theorem conserves_last {e : LinkError} {why : Exit} (hs : s.inHand = [post]) :
    s.Conserves (s.stopped now) ((s.lastSignals post e why).map .did) s.waitingIn where
  lanes l := by simp
  single := by simp [hs]
  serving h := by cases h
  stopped _ := ⟨rfl, s.stopped_waitingIn now, by simp [hs]⟩

theorem conserves_refused {e : LinkError} {why : Exit} (hs : s.inHand = [])
    (hw : ∀ l, s.waitingIn l = inLane l [post] ++ t.waitingIn l) :
    s.Conserves (t.stopped now) ((.taken post :: t.lastSignals post e why).map .did)
      t.waitingIn where
  lanes l := by simpa using hw l
  single := by simp [hs]
  serving h := by cases h
  stopped _ := ⟨rfl, t.stopped_waitingIn now, by simp [hs]⟩

theorem sorted_stopped (s : Scheduler) (now : Nat) : (s.stopped now).Sorted := by
  intro l post hp
  cases l <;> cases hp

theorem orphaned_conserves {job : Job} {reason : OrphanReason} (closure : Option String)
    (h : s.Sorted) (hs : s.inHand = [job.submission]) :
    s.Conserves (s.orphaned now job reason closure).1
        ((s.orphaned now job reason closure).2.map .did) s.waitingIn ∧
      (s.orphaned now job reason closure).1.Sorted ∧
      (s.orphaned now job reason closure).1.nextTicket = s.nextTicket := by
  cases closure with
  | some why => exact ⟨conserves_last hs, s.sorted_stopped now, rfl⟩
  | none => exact ⟨conserves_resolved hs rfl rfl rfl, h, rfl⟩

theorem orphan_conserves {job : Job} {reason : OrphanReason} (closure : Option String)
    (h : s.Sorted) (hs : s.inHand = [job.submission]) :
    s.Conserves (s.orphan now job reason closure).1
        ((s.orphan now job reason closure).2.map .did) s.waitingIn ∧
      (s.orphan now job reason closure).1.Sorted ∧
      (s.orphan now job reason closure).1.nextTicket = s.nextTicket := by
  rw [orphan_eq]
  split
  · exact orphaned_conserves closure h hs
  · exact ⟨conserves_quiet rfl hs.symm rfl (by simp) (by simp), h, rfl⟩

theorem Move.conserves (hm : s.Move now t signals) (h : s.Sorted) (hs : s.isStopped = false) :
    ∃ left, s.Conserves t (signals.map .did) left ∧ t.Sorted ∧ t.nextTicket = s.nextTicket := by
  cases hm with
  | refuse hp ht hd =>
    obtain ⟨hw, -, hn⟩ := takeNext_drain h ht
    exact ⟨_, conserves_refused (by simp [inHand, hp]) hw, sorted_stopped _ now, hn⟩
  | unencodable hp ht hd he =>
    obtain ⟨hw, hu, hn⟩ := takeNext_drain h ht
    exact ⟨_, conserves_taken_resolved (by simp [inHand, hp]) hw rfl rfl, hu, hn⟩
  | unframeable hp ht hd hb he =>
    obtain ⟨hw, hu, hn⟩ := takeNext_drain h ht
    exact ⟨_, conserves_taken_resolved (by simp [inHand, hp]) hw rfl rfl, hu, hn⟩
  | begin hp ht hd hb hf =>
    obtain ⟨hw, hu, hn⟩ := takeNext_drain h ht
    exact ⟨_, conserves_taken (by simp [inHand, hp]) hw rfl rfl, hu, hn⟩
  | settle hp ht hr =>
    refine ⟨_, conserves_quiet (funext s.drain_waitingIn) ?_ rfl (by simp) (by simp), h.drain, ?_⟩
    · simp [inHand, hp]
    · simp [drain_eq]
  | abandon hp ht hr =>
    obtain ⟨hh, hn⟩ := takeNext_eq_none ht
    simp only [drain_eq] at hh hn
    have hw : s.waitingIn .high ++ s.waitingIn .normal = [] := by simp [hh, hn]
    have hc : s.Conserves (s.stopped now)
        (((s.waitingIn .high ++ s.waitingIn .normal).map (.resolved · (.error .disposed))).map .did)
        s.waitingIn := conserves_stopped (by simp [inHand, hp])
    rw [hw] at hc
    exact ⟨_, hc, sorted_stopped s now, rfl⟩
  | cancelWaiting hp hc =>
    exact ⟨_, conserves_stopped (by simp [inHand, hp]), sorted_stopped s now, rfl⟩
  | fetchWaiting hp hc hf =>
    obtain ⟨hw, hu, hn, hq⟩ := fetch_waitingIn h hf
    exact ⟨_, conserves_quiet (funext hw) (by simp [inHand, hp]) rfl (by simp) (by simp), hu, hn⟩
  | readWaiting hp hc hf hi =>
    exact ⟨_, conserves_quiet rfl rfl hs (by simp) (by simp), h, rfl⟩
  | unsolicited hp hc hf hi =>
    exact ⟨_, conserves_quiet rfl (by simp [inHand, hp]) rfl (by simp) (by simp), h, rfl⟩
  | @endWaiting inbox line why hp hc hf hi =>
    have hh : ({ s with inbox := inbox, line := line } : Scheduler).inHand = [] := by
      simp [inHand, hp]
    exact ⟨_, (conserves_stopped hh).of_line, sorted_stopped _ now, rfl⟩
  | cancelWriting hp hc =>
    exact ⟨_, conserves_last (by simp [inHand, hp]), sorted_stopped s now, rfl⟩
  | write hp hc hw =>
    refine ⟨_, conserves_quiet rfl ?_ ?_ (by simp) (by simp), h, rfl⟩
    · split <;> simp [inHand, hp]
    · split <;> rfl
  | failWriting hp hc hw =>
    exact ⟨_, conserves_resolved (by simp [inHand, hp]) rfl rfl rfl, h, rfl⟩
  | stall hp hc hw hd => exact ⟨_, orphan_conserves _ h (by simp [inHand, hp])⟩
  | cancelAwaiting hp hc =>
    exact ⟨_, conserves_last (by simp [inHand, hp]), sorted_stopped s now, rfl⟩
  | readAwaiting hp hc hi =>
    exact ⟨_, conserves_quiet rfl rfl hs (by simp) (by simp), h, rfl⟩
  | answered hp hc hi ha =>
    exact ⟨_, conserves_resolved (by simp [inHand, hp]) rfl rfl rfl, h, rfl⟩
  | discard hp hc hi ha =>
    exact ⟨_, conserves_quiet rfl rfl hs (by simp) (by simp), h, rfl⟩
  | @endAwaiting job inbox line why hp hc hi =>
    have hh : ({ s with inbox := inbox, line := line } : Scheduler).inHand = [job.submission] := by
      simp [inHand, hp]
    have hq : ({ s with inbox := inbox, line := line } : Scheduler).Sorted := h
    exact ⟨_, (orphan_conserves (some why) hq hh).1.of_line, (orphan_conserves (some why) hq hh).2⟩
  | expire hp hc hi hd => exact ⟨_, orphan_conserves _ h (by simp [inHand, hp])⟩
  | fetchAwaiting hp hc hi hd hf =>
    obtain ⟨hw, hu, hn, hq⟩ := fetch_waitingIn h hf
    refine ⟨_, conserves_quiet (funext hw) ?_ ?_ (by simp) (by simp), hu, hn⟩
    · simp [inHand, hq]
    · simpa [isStopped, hq] using hs
  | recover hp hr => exact ⟨_, orphaned_conserves _ h (by simp [inHand, hp])⟩
  | terminate hp hc => simp [isStopped, hp] at hs

end Conserves

/-- How a scheduler and its log account for what was accepted: it was taken, or it is left. What is
left still waits while the scheduler serves, and was resolved when it stopped. -/
structure Accounts (s : Scheduler) (log : List Event) (left : Lane → List Submission) : Prop where
  sorted : s.Sorted
  numbered : (accepted log).map (·.ticket) = List.range s.nextTicket
  lanes : ∀ l, inLane l (accepted log) = inLane l (taken log) ++ left l
  single : ∀ past, past <+: log → (taken past).length ≤ (resolved past).length + 1
  serving : s.isStopped = false → left = s.waitingIn ∧ taken log = resolved log ++ s.inHand
  stopped : s.isStopped = true → s.state = .disposed ∧ (∀ l, s.waitingIn l = []) ∧
    resolved log = taken log ++ left .high ++ left .normal

section Accounts

variable {s t : Scheduler} {now : Nat} {log events : List Event} {left : Lane → List Submission}

theorem Accounts.single_append (h : s.Accounts log left)
    (he : (taken log).length + (taken events).length ≤ (resolved log).length + 1)
    {past : List Event} (hp : past <+: log ++ events) :
    (taken past).length ≤ (resolved past).length + 1 := by
  rcases List.prefix_or_prefix_of_prefix hp (List.prefix_append log events) with hl | ⟨part, rfl⟩
  · exact h.single past hl
  · have hpart : taken part <+: taken events :=
      ((List.prefix_append_right_inj log).mp hp).filterMap Event.taken?
    have hlen := hpart.length_le
    simp only [taken_append, resolved_append, List.length_append]
    omega

theorem Accounts.move {signals : List Signal} (h : s.Accounts log left)
    (hm : s.Move now t signals) : ∃ left', t.Accounts (log ++ signals.map .did) left' := by
  by_cases hs : s.isStopped = true
  · obtain ⟨hd, hw, hr⟩ := h.stopped hs
    have hone := h.single log List.prefix_rfl
    cases hm with
    | terminate hp hc =>
      refine ⟨left, h.sorted, by simpa using h.numbered, by simpa using h.lanes, fun past hp => ?_,
        fun ho => (by cases ho), fun _ => ⟨hd, hw, by simpa using hr⟩⟩
      exact h.single_append (by simpa using hone) hp
    | _ => simp_all [isStopped]
  · have hs' : s.isStopped = false := by simpa using hs
    obtain ⟨left', hc, hsort, hn⟩ := hm.conserves h.sorted hs'
    obtain ⟨hl, ht⟩ := h.serving hs'
    refine ⟨left', hsort, by simpa [hn] using h.numbered, fun l => ?_, fun past hp => ?_,
      fun ho => ?_, fun ho => ?_⟩
    · simp only [accepted_append, accepted_signals, List.append_nil, h.lanes, hl, hc.lanes,
        taken_append, inLane_append, List.append_assoc]
    · refine h.single_append ?_ hp
      have hone := hc.single
      rw [ht, List.length_append]
      omega
    · obtain ⟨hw, hh⟩ := hc.serving ho
      refine ⟨hw, ?_⟩
      simp only [taken_append, ht, resolved_append, List.append_assoc, hh]
    · obtain ⟨hd, hw, hr⟩ := hc.stopped ho
      refine ⟨hd, hw, ?_⟩
      simp only [taken_append, ht, resolved_append, List.append_assoc, hr]

theorem Accounts.react {act : Act} (h : s.Accounts log left) (hr : s.react now act = (t, events)) :
    ∃ left', t.Accounts (log ++ events) left' := by
  rcases react_cases hr with ⟨signals, hm, rfl⟩ | ⟨post, hn, hd, rfl, rfl⟩ |
    ⟨line, state, cancelled, handles, recovered, hd, rfl, rfl⟩
  · exact h.move hm
  · have hs : s.isStopped = false := by
      by_contra ho
      exact hd (h.stopped (by simpa using ho)).1
    obtain ⟨hl, ht⟩ := h.serving hs
    refine ⟨fun l => left l ++ inLane l [post], h.sorted, ?_, fun l => ?_, fun past hp => ?_,
      fun _ => ⟨?_, ?_⟩, fun ho => ?_⟩
    · simp [h.numbered, hn, List.range_succ]
    · simp [h.lanes l, List.append_assoc]
    · exact h.single_append (by simpa using h.single log List.prefix_rfl) hp
    · funext l
      simp [hl, waitingIn, List.append_assoc]
      rfl
    · simpa [inHand] using ht
    · exact absurd ho (by simpa [isStopped] using hs)
  · refine ⟨left, h.sorted, by simpa using h.numbered, by simpa using h.lanes,
      by simpa using h.single, fun ho => ?_, fun ho => ?_⟩
    · rw [List.append_nil]
      exact h.serving ho
    · obtain ⟨hs, hw, hr⟩ := h.stopped ho
      refine ⟨?_, hw, by simpa using hr⟩
      rcases hd with ⟨he, -⟩ | ⟨he, -⟩
      · exact he.trans hs
      · exact he

theorem Accounts.accepted_nodup (h : s.Accounts log left) : (accepted log).Nodup :=
  List.Nodup.of_map (·.ticket) (h.numbered ▸ List.nodup_range)

theorem Accounts.lane_of_mem_left (h : s.Accounts log left) {l : Lane} {post : Submission}
    (hp : post ∈ left l) : post.request.lane = l := by
  have hm : post ∈ inLane l (accepted log) := h.lanes l ▸ List.mem_append_right _ hp
  exact lane_of_mem_inLane hm

theorem Accounts.not_mem_taken_of_left (h : s.Accounts log left) {l : Lane} {post : Submission}
    (hp : post ∈ left l) : post ∉ taken log := by
  intro ht
  have hnd : (inLane l (taken log) ++ left l).Nodup :=
    h.lanes l ▸ h.accepted_nodup.sublist List.filter_sublist
  have hl : post ∈ inLane l (taken log) := by
    simpa [inLane, h.lane_of_mem_left hp] using ht
  exact List.disjoint_of_nodup_append hnd hl hp

theorem Accounts.neverTaken_eq (h : s.Accounts log left) (l : Lane) :
    neverTaken l log = left l := by
  have ht : (inLane l (taken log)).filter (· ∉ taken log) = [] := by
    apply List.filter_eq_nil_iff.mpr
    intro post hp
    simpa using List.mem_of_mem_filter hp
  have hl : (left l).filter (· ∉ taken log) = left l :=
    List.filter_eq_self.mpr (fun post hp => by simpa using h.not_mem_taken_of_left hp)
  rw [neverTaken, h.lanes l, List.filter_append, ht, hl, List.nil_append]

theorem Accounts.count_left (h : s.Accounts log left) (post : Submission) :
    (left .high ++ left .normal).count post = (left post.request.lane).count post := by
  have hz : ∀ l, post.request.lane ≠ l → (left l).count post = 0 :=
    fun l hl => List.count_eq_zero.mpr (fun hp => hl (h.lane_of_mem_left hp))
  rw [List.count_append]
  cases hl : post.request.lane with
  | high => rw [hz .normal (by simp [hl]), Nat.add_zero]
  | normal => rw [hz .high (by simp [hl]), Nat.zero_add]

theorem Accounts.perm (h : s.Accounts log left) :
    (taken log ++ left .high ++ left .normal).Perm (accepted log) := by
  apply List.perm_iff_count.mpr
  intro post
  have hc := congrArg (List.count post) (h.lanes post.request.lane)
  rw [List.count_append, count_inLane, count_inLane] at hc
  rw [List.append_assoc, List.count_append, h.count_left, hc]

theorem Accounts.resolved_prefix (h : s.Accounts log left) :
    resolved log <+: taken log ++ left .high ++ left .normal := by
  by_cases hs : s.isStopped = true
  · rw [(h.stopped hs).2.2]
  · rw [(h.serving (by simpa using hs)).2, List.append_assoc, List.append_assoc]
    exact List.prefix_append _ _

theorem Accounts.underWay_length_le (h : s.Accounts log left) {past : List Event}
    (hp : past <+: log) : (underWay past).length ≤ 1 := by
  have ht : taken past <+: taken log ++ left .high ++ left .normal := by
    rw [List.append_assoc]
    exact (hp.filterMap Event.taken?).trans (List.prefix_append _ _)
  have hr : resolved past <+: taken log ++ left .high ++ left .normal :=
    ((hp.filterMap Event.outcome?).map _).trans h.resolved_prefix
  rcases List.prefix_or_prefix_of_prefix ht hr with hh | ⟨hand, hh⟩
  · have hn : underWay past = [] := by
      apply List.filter_eq_nil_iff.mpr
      intro post hm
      simpa using hh.subset hm
    simp [hn]
  · have hn : (resolved past).filter (· ∉ resolved past) = [] :=
      List.filter_eq_nil_iff.mpr (fun post hm => by simpa using hm)
    have hlen := h.single past hp
    rw [← hh, List.length_append] at hlen
    rw [underWay, ← hh, List.filter_append, hn, List.nil_append]
    have hle := List.length_filter_le (fun post => decide (post ∉ resolved past)) hand
    omega

end Accounts

end Scheduler

theorem Course.run_accounts (config : SchedulerConfig) (line : Line) (acts : List (Nat × Act)) :
    ∃ left, (((start config line).run acts).scheduler).Accounts
      ((start config line).run acts).log left := by
  refine run_induction (P := fun c => ∃ left, c.scheduler.Accounts c.log left)
    ⟨fun _ => [], ?_, rfl, fun _ => rfl, ?_, fun _ => ⟨?_, rfl⟩, ?_⟩ ?_ acts
  · intro l post hp
    cases l <;> cases hp
  · intro past hp
    simp [List.prefix_nil.mp hp]
  · funext l
    cases l <;> rfl
  · intro h
    cases h
  · rintro c ms act ⟨left, h⟩
    exact h.react rfl

/-- In every course each accepted request is resolved at most once, and exactly once by the time the
dispatcher has let go of its transport; at every moment at most one request is under way; and
requests are resolved in the order in which they left their lanes, those that never did last. -/
theorem requests_resolved_once_in_order (config : SchedulerConfig) (line : Line)
    (acts : List (Nat × Act)) :
    let c := (Course.start config line).run acts
    ((accepted c.log).map (·.ticket)).Nodup ∧
      (resolved c.log).Subperm (accepted c.log) ∧
      (c.scheduler.isTerminated = true → (resolved c.log).Perm (accepted c.log)) ∧
      (∀ past, past <+: c.log → (underWay past).length ≤ 1) ∧
      (if c.scheduler.isStopped then
        resolved c.log = taken c.log ++ neverTaken .high c.log ++ neverTaken .normal c.log
      else resolved c.log <+: taken c.log) := by
  intro c
  obtain ⟨left, h⟩ := Course.run_accounts config line acts
  refine ⟨?_, ?_, fun ht => ?_, fun past hp => h.underWay_length_le hp, ?_⟩
  · rw [h.numbered]
    exact List.nodup_range
  · exact h.resolved_prefix.sublist.subperm.trans h.perm.subperm
  · have hs : c.scheduler.isStopped = true := by
      cases hq : c.scheduler.phase <;> simp_all [Scheduler.isTerminated, Scheduler.isStopped]
    rw [(h.stopped hs).2.2]
    exact h.perm
  · split
    · next hs => rw [h.neverTaken_eq, h.neverTaken_eq, (h.stopped hs).2.2]
    · next hs =>
      rw [(h.serving (by simpa using hs)).2]
      exact List.prefix_append _ _

end BrickHost
