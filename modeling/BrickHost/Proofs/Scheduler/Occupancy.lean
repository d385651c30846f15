import BrickHost.Proofs.Scheduler.Accounts
import BrickHost.Proofs.Scheduler.Stillness

/-! What the counter and the state of a scheduler say about its requests. The counter is the number
of those that were accepted and neither left their lane nor were resolved; outside disposal the
state says whether one has left its lane and is not resolved. -/

namespace BrickHost

/-- Accepted, not yet taken by the dispatcher and not resolved. -/
def unserved (log : List Event) : List Submission :=
  (accepted log).filter (fun post => post ∉ taken log ∧ post ∉ resolved log)

/-- Accepted and not resolved. -/
def unresolved (log : List Event) : List Submission :=
  (accepted log).filter (· ∉ resolved log)

theorem filter_not_mem_append {α : Type} [DecidableEq α] {p q : List α} (h : (p ++ q).Nodup) :
    (p ++ q).filter (· ∉ p) = q := by
  have hd := List.disjoint_of_nodup_append h
  have hp : p.filter (· ∉ p) = [] :=
    List.filter_eq_nil_iff.mpr (fun x hx => by simpa using hx)
  have hq : q.filter (· ∉ p) = q :=
    List.filter_eq_self.mpr (fun x hx => by simpa using fun hm => hd hm hx)
  rw [List.filter_append, hp, hq, List.nil_append]

namespace Scheduler

section Accounts

variable {s : Scheduler} {log : List Event} {left : Lane → List Submission}

theorem inHand_of_isStopped (h : s.isStopped = true) : s.inHand = [] := by
  cases hp : s.phase <;> simp_all [isStopped, inHand]

theorem Accounts.pending_of_isStopped (h : s.Accounts log left) (hs : s.isStopped = true) :
    s.pending = [] := by
  obtain ⟨-, hw, -⟩ := h.stopped hs
  simp [pending, hw]

/-- Every accepted request is resolved, in hand, or waits. -/
theorem Accounts.split (h : s.Accounts log left) :
    (resolved log ++ (s.inHand ++ s.pending)).Perm (accepted log) := by
  have hp := h.perm
  cases hs : s.isStopped with
  | true =>
    obtain ⟨-, -, hr⟩ := h.stopped hs
    rw [inHand_of_isStopped hs, h.pending_of_isStopped hs, hr, List.append_nil, List.append_nil]
    exact hp
  | false =>
    obtain ⟨hl, ht⟩ := h.serving hs
    rw [ht, hl] at hp
    simpa [pending, List.append_assoc] using hp

theorem Accounts.split_nodup (h : s.Accounts log left) :
    (resolved log ++ (s.inHand ++ s.pending)).Nodup :=
  h.split.nodup_iff.mpr h.accepted_nodup

theorem Accounts.settled_iff (h : s.Accounts log left) (post : Submission) :
    post ∈ taken log ∨ post ∈ resolved log ↔ post ∈ resolved log ++ s.inHand := by
  cases hs : s.isStopped with
  | true =>
    obtain ⟨-, -, hr⟩ := h.stopped hs
    rw [inHand_of_isStopped hs, List.append_nil, hr]
    simp only [List.mem_append]
    tauto
  | false =>
    obtain ⟨-, ht⟩ := h.serving hs
    rw [ht]
    simp only [List.mem_append]
    tauto

theorem Accounts.unresolved_perm (h : s.Accounts log left) :
    (unresolved log).Perm (s.inHand ++ s.pending) := by
  have hp := (h.split.symm.filter (· ∉ resolved log))
  rwa [filter_not_mem_append h.split_nodup] at hp

theorem Accounts.unserved_perm (h : s.Accounts log left) : (unserved log).Perm s.pending := by
  have hsplit := h.split
  have hnd := h.split_nodup
  rw [← List.append_assoc] at hsplit hnd
  have hp := hsplit.symm.filter (· ∉ resolved log ++ s.inHand)
  rw [filter_not_mem_append hnd] at hp
  have he : unserved log = (accepted log).filter (· ∉ resolved log ++ s.inHand) := by
    apply List.filter_congr
    intro post _
    rw [decide_eq_decide, ← not_or, h.settled_iff]
  rwa [he]

theorem Accounts.underWay_eq (h : s.Accounts log left) : underWay log = s.inHand := by
  cases hs : s.isStopped with
  | true =>
    rw [inHand_of_isStopped hs]
    apply List.filter_eq_nil_iff.mpr
    intro post hm
    have hr := (h.settled_iff post).mp (.inl hm)
    rw [inHand_of_isStopped hs, List.append_nil] at hr
    simpa using hr
  | false =>
    have hnd := h.split_nodup
    rw [← List.append_assoc] at hnd
    rw [underWay, (h.serving hs).2]
    exact filter_not_mem_append (hnd.sublist (List.sublist_append_left _ _))

end Accounts

/-- The counter and the state of a scheduler fit what it holds. -/
structure Tallied (s : Scheduler) : Prop where
  queued : s.queued = s.pending.length
  running : s.state ≠ .disposed → (s.state = .running ↔ s.inHand ≠ [])
  /-- A recovery after which the link stays open follows a timeout. -/
  reason : ∀ job reason, s.phase = .recovering job reason none → reason = .timeout
  lanes : s.phase = .waiting → s.high = [] ∧ s.normal = []

section Tallied

variable {s t : Scheduler} {now : Nat} {signals : List Signal}

theorem moveTo_idle_ne_running (state : SchedulerState) : state.moveTo .idle ≠ .running := by
  cases state <;> simp [SchedulerState.moveTo]

theorem Tallied.not_running (h : s.Tallied) (hh : s.inHand = []) : s.state ≠ .running := by
  intro hr
  have hd : s.state ≠ .disposed := by simp [hr]
  exact (h.running hd).mp hr hh

theorem tallied_ready (hq : t.queued = t.pending.length) (hs : t.state ≠ .running)
    (hp : t.phase = .ready) : t.Tallied where
  queued := hq
  running _ := by simp [hs, inHand, hp]
  reason job reason h := by simp [hp] at h
  lanes h := by simp [hp] at h

theorem tallied_stopped (now : Nat) (hq : s.queued = s.pending.length) :
    (s.stopped now).Tallied where
  queued := by
    change s.queued - s.pending.length = 0
    omega
  running h := absurd rfl h
  reason job reason h := by cases h
  lanes h := by cases h

theorem Tallied.orphaned {job : Job} {reason : OrphanReason} {closure : Option String}
    (h : s.Tallied) (hr : closure = none → reason = .timeout) :
    (s.orphaned now job reason closure).1.Tallied := by
  cases closure with
  | some why => exact tallied_stopped now h.queued
  | none =>
    obtain rfl := hr rfl
    exact tallied_ready h.queued (moveTo_idle_ne_running s.state) rfl

theorem Tallied.orphan {job : Job} {reason : OrphanReason} {closure : Option String}
    (h : s.Tallied) (hh : s.inHand = [job.submission]) (hr : closure = none → reason = .timeout) :
    (s.orphan now job reason closure).1.Tallied := by
  rw [orphan_eq]
  split
  · exact h.orphaned hr
  · have hrun : s.state ≠ .disposed → (s.state = .running ↔ [job.submission] ≠ []) :=
      hh ▸ h.running
    refine ⟨h.queued, hrun, ?_, fun hw => (by cases hw)⟩
    rintro other why hp
    obtain ⟨-, rfl, rfl⟩ := Phase.recovering.inj hp
    exact hr rfl

/-- A change of the line or the inbox alone. -/
theorem Tallied.rewired (h : s.Tallied) (inbox : Inbox) (line : Line) :
    ({ s with inbox := inbox, line := line } : Scheduler).Tallied :=
  ⟨h.queued, h.running, h.reason, h.lanes⟩

theorem Tallied.fetch (h : s.Tallied) (hf : s.fetch = some t) (hw : s.phase ≠ .waiting) :
    t.Tallied := by
  obtain ⟨hp, hq⟩ := fetch_pending hf
  obtain ⟨hphase, hstate, -⟩ := fetch_phase hf
  have hh : t.inHand = s.inHand := by simp [inHand, hphase]
  refine ⟨?_, ?_, ?_, fun hl => absurd (hphase ▸ hl) hw⟩
  · rw [hq, hp, h.queued]
  · rw [hstate, hh]
    exact h.running
  · rw [hphase]
    exact h.reason

theorem Move.tallied (hm : s.Move now t signals) (h : s.Tallied) : t.Tallied := by
  have htaken : ∀ {post u}, s.drain.takeNext = some (post, u) → u.queued = u.pending.length := by
    intro post u ht
    obtain ⟨hp, hq, -⟩ := takeNext_pending ht
    rw [hq, h.queued, hp]
    rfl
  cases hm with
  | refuse hp ht hd => exact tallied_stopped now (htaken ht)
  | unencodable hp ht hd he | unframeable hp ht hd hb he =>
    have hq := htaken ht
    exact tallied_ready hq (by simp) rfl
  | @begin post u hp ht hd hb hf =>
    have hq := htaken ht
    refine ⟨hq, fun _ => ?_, fun job reason hr => (by cases hr), fun hw => (by cases hw)⟩
    simp [inHand]
  | settle hp ht hr =>
    obtain ⟨hh, hn⟩ := takeNext_eq_none ht
    have hq : s.drain.queued = s.queued := by simp [drain_eq]
    have hstate : s.drain.state = s.state := by simp [drain_eq]
    refine ⟨?_, fun hd => ?_, fun job reason hr => (by cases hr), fun _ => ⟨hh, hn⟩⟩
    · change s.drain.queued = (s.drain.waitingIn .high ++ s.drain.waitingIn .normal).length
      rw [hq, drain_waitingIn, drain_waitingIn]
      exact h.queued
    · change s.drain.state = .running ↔ [] ≠ []
      have hs := h.not_running (by simp [inHand, hp])
      simp [hstate, hs]
  | abandon hp ht hr | cancelWaiting hp hc | cancelWriting hp hc | cancelAwaiting hp hc =>
    exact tallied_stopped now h.queued
  | fetchWaiting hp hc hf =>
    obtain ⟨hpend, hq⟩ := fetch_pending hf
    have hs := h.not_running (by simp [inHand, hp])
    rw [← (fetch_phase hf).2.1] at hs
    have hqueued := h.queued
    rw [← hq, ← hpend] at hqueued
    exact tallied_ready hqueued hs rfl
  | readWaiting hp hc hf hi | readAwaiting hp hc hi | discard hp hc hi ha => exact h.rewired _ _
  | unsolicited hp hc hf hi =>
    have hs := h.not_running (by simp [inHand, hp])
    exact tallied_ready h.queued hs rfl
  | endWaiting hp hc hf hi => exact tallied_stopped now h.queued
  | @write job rest line count hp hc hw =>
    have hh : s.inHand = [job.submission] := by simp [inHand, hp]
    have hrun := h.running
    rw [hh] at hrun
    by_cases hr : (rest.drop count).isEmpty = true
    all_goals
      refine ⟨h.queued, ?_, ?_, ?_⟩
      · simpa [inHand, hr] using hrun
      · simp [hr]
      · simp [hr]
  | failWriting hp hc hw | answered hp hc hi ha =>
    exact tallied_ready h.queued (moveTo_idle_ne_running s.state) rfl
  | stall hp hc hw hd => exact h.orphan (by simp [inHand, hp]) (fun hn => by cases hn)
  | endAwaiting hp hc hi =>
    exact (h.rewired _ _).orphan (by simp [inHand, hp]) (fun hn => by cases hn)
  | expire hp hc hi hd => exact h.orphan (by simp [inHand, hp]) (fun _ => rfl)
  | fetchAwaiting hp hc hi hd hf => exact h.fetch hf (by simp [hp])
  | recover hp hr => exact h.orphaned (fun hn => h.reason _ _ (hn ▸ hp))
  | terminate hp hc =>
    have hs := h.not_running (by simp [inHand, hp])
    refine ⟨h.queued, fun _ => ?_, fun job reason hr => (by cases hr), fun hw => (by cases hw)⟩
    simp [inHand, hs]

theorem Tallied.react {act : Act} {events : List Event} (h : s.Tallied)
    (hr : s.react now act = (t, events)) : t.Tallied := by
  rcases react_cases hr with ⟨signals, hm, -⟩ | ⟨post, -, -, rfl, -⟩ |
    ⟨line, state, cancelled, handles, recovered, hd, rfl, -⟩
  · exact hm.tallied h
  · refine ⟨?_, h.running, h.reason, h.lanes⟩
    have hone : (inLane .high [post]).length + (inLane .normal [post]).length = 1 := by
      cases hl : post.request.lane <;> simp [inLane_cons, hl]
    have hq := h.queued
    simp only [pending, waitingIn, lane, inLane_append, List.length_append] at hq ⊢
    omega
  · refine ⟨h.queued, fun hne => ?_, h.reason, h.lanes⟩
    rcases hd with ⟨rfl, -⟩ | ⟨rfl, -⟩
    · exact h.running hne
    · exact absurd rfl hne

theorem Tallied.busy_eq (h : s.Tallied) (hd : s.state ≠ .disposed) :
    s.snapshot.busy = (s.inHand ++ s.pending).length := by
  have hle := s.inHand_length_le
  rw [List.length_append, ← h.queued]
  by_cases hr : s.state = .running
  · have hlen := List.length_pos_iff.mpr ((h.running hd).mp hr)
    simp only [RuntimeSnapshot.busy, snapshot, hr, if_true]
    omega
  · have hh : s.inHand = [] := by
      by_contra hne
      exact hr ((h.running hd).mpr hne)
    simp [RuntimeSnapshot.busy, snapshot, hr, hh]

theorem Tallied.running_iff (h : s.Tallied) (hd : s.state ≠ .disposed) :
    s.state = .running ↔ s.inHand.length = 1 := by
  have hle := s.inHand_length_le
  rw [h.running hd, ← List.length_pos_iff]
  omega

theorem mailbox_of_fetch_eq_none (h : s.fetch = none) : s.mailbox = [] := by
  cases hm : s.mailbox with
  | nil => rfl
  | cons post rest => simp [Scheduler.fetch, hm] at h

/-- A dispatcher at rest that serves nobody waits for input, and then nothing is queued. -/
theorem Tallied.idle_iff (h : s.Tallied) (hd : s.state ≠ .disposed) (ho : s.isStopped = false)
    (hs : s.step now = none) : s.state = .idle ↔ s.inHand ++ s.pending = [] := by
  constructor
  · intro hi
    have hh : s.inHand = [] := by
      by_contra hne
      have hr := (h.running hd).mpr hne
      simp [hi] at hr
    cases pause_of_step_eq_none hs with
    | waiting hp hc hf =>
      have hm := mailbox_of_fetch_eq_none hf
      obtain ⟨hhigh, hnormal⟩ := h.lanes hp
      simp [hh, pending, waitingIn, lane, hm, hhigh, hnormal]
    | writing hp | awaiting hp | recovering hp => simp [inHand, hp] at hh
    | closing hp | terminated hp => simp [isStopped, hp] at ho
  · intro he
    have hh := (List.append_eq_nil_iff.mp he).1
    have hr := h.not_running hh
    cases hstate : s.state with
    | idle => rfl
    | running => exact absurd hstate hr
    | disposed => exact absurd hstate hd

end Tallied

end Scheduler

theorem unserved_append {log events : List Event} (h : accepted events = []) :
    unserved (log ++ events) =
      (unserved log).filter (fun post => post ∉ taken events ∧ post ∉ resolved events) := by
  simp only [unserved, accepted_append, h, List.append_nil, List.filter_filter]
  apply List.filter_congr
  intro post _
  simp only [taken_append, resolved_append, List.mem_append]
  rw [← Bool.decide_and, decide_eq_decide]
  tauto

theorem length_filter_not_mem_filter {α : Type} [DecidableEq α] (p : α → Bool) (l : List α) :
    (l.filter (· ∉ l.filter p)).length + (l.filter p).length = l.length := by
  have he : l.filter (· ∉ l.filter p) = l.filter (! p ·) := by
    apply List.filter_congr
    intro x hx
    simp [hx]
  rw [he, Nat.add_comm]
  exact (List.length_eq_length_filter_add p).symm

theorem Course.accepted_after_move (c : Course) (ms : Nat) :
    ∃ events, (c.after ms .move).log = c.log ++ events ∧ accepted events = [] := by
  cases hs : c.scheduler.step (c.now + ms) with
  | none => exact ⟨[], by rw [after_move_of_still hs, List.append_nil], rfl⟩
  | some result => exact ⟨result.2.map .did, by rw [after_move_of_step hs], accepted_signals _⟩

/-- Tickets tell the accepted requests apart, and each of them is resolved at most once. -/
theorem Course.run_accepted (config : SchedulerConfig) (line : Line) (acts : List (Nat × Act)) :
    let d := (start config line).run acts
    ((accepted d.log).map (·.ticket)).Nodup ∧ ((outcomes d.log).map (·.1)).Nodup ∧
      ∀ post outcome, (post, outcome) ∈ outcomes d.log → post ∈ accepted d.log := by
  intro d
  obtain ⟨left, ha⟩ := run_accounts config line acts
  refine ⟨ha.numbered ▸ List.nodup_range, ?_, fun post outcome hm => ?_⟩
  · exact ha.split_nodup.sublist (List.sublist_append_left _ _)
  · have hr : post ∈ resolved d.log := List.mem_map_of_mem hm
    exact ha.split.subset (List.mem_append_left _ hr)

theorem Course.run_tallied (config : SchedulerConfig) (line : Line) (acts : List (Nat × Act)) :
    ((start config line).run acts).scheduler.Tallied := by
  refine run_induction (P := fun c => c.scheduler.Tallied) ?_ ?_ acts
  · exact Scheduler.tallied_ready rfl (by simp [start]) rfl
  · intro c ms act h
    exact h.react rfl

theorem Course.run_queued (config : SchedulerConfig) (line : Line) (acts : List (Nat × Act)) :
    let c := (start config line).run acts
    c.scheduler.queued = (unserved c.log).length := by
  intro c
  obtain ⟨left, ha⟩ := run_accounts config line acts
  rw [(run_tallied config line acts).queued, ha.unserved_perm.length_eq]

/-- The counter is not lowered below what is left. -/
theorem Course.queued_after_move (config : SchedulerConfig) (line : Line)
    (acts : List (Nat × Act)) (ms : Nat) :
    let c := (start config line).run acts
    let d := c.after ms .move
    ((unserved c.log).filter (· ∉ unserved d.log)).length + d.scheduler.queued =
      c.scheduler.queued := by
  intro c d
  have hbefore : c.scheduler.queued = (unserved c.log).length := run_queued config line acts
  have hafter : d.scheduler.queued = (unserved d.log).length := by
    have hd := run_queued config line (acts ++ [(ms, .move)])
    rwa [run_snoc] at hd
  obtain ⟨events, hlog, hnone⟩ := c.accepted_after_move ms
  change d.log = c.log ++ events at hlog
  rw [hafter, hbefore, hlog, unserved_append hnone]
  exact length_filter_not_mem_filter _ _

/-- In every course the counter is the number of the requests that were accepted and have neither
left their lane nor been resolved. Each move lowers it by just as many as it takes from among them,
and nothing is left of it when the dispatcher has stopped. Until disposal the busy count is the
number of unresolved requests, the state is running exactly while one of them is under way, and at
rest it is idle exactly if there are none. -/
theorem snapshot_tells_requests (config : SchedulerConfig) (line : Line)
    (acts : List (Nat × Act)) :
    let c := (Course.start config line).run acts
    c.scheduler.queued = (unserved c.log).length ∧
    (∀ ms, let d := c.after ms .move
      ((unserved c.log).filter (· ∉ unserved d.log)).length + d.scheduler.queued =
        c.scheduler.queued) ∧
    (c.scheduler.isStopped = true → c.scheduler.queued = 0) ∧
    underWay c.log = c.scheduler.inHand ∧
    (c.scheduler.state ≠ .disposed →
      c.scheduler.snapshot.busy = (unresolved c.log).length ∧
      (c.scheduler.state = .running ↔ (underWay c.log).length = 1) ∧
      (c.scheduler.step c.now = none →
        (c.scheduler.state = .idle ↔ unresolved c.log = []))) := by
  intro c
  obtain ⟨left, ha⟩ := Course.run_accounts config line acts
  have ht := Course.run_tallied config line acts
  refine ⟨Course.run_queued config line acts, Course.queued_after_move config line acts,
    fun hs => ?_, ha.underWay_eq, fun hd => ⟨?_, ?_, fun hs => ?_⟩⟩
  · rw [ht.queued, ha.pending_of_isStopped hs, List.length_nil]
  · rw [ha.unresolved_perm.length_eq]
    exact ht.busy_eq hd
  · rw [ha.underWay_eq]
    exact ht.running_iff hd
  · have ho : c.scheduler.isStopped = false := by
      by_contra hstop
      exact hd (ha.stopped (by simpa using hstop)).1
    rw [ht.idle_iff hd ho hs]
    constructor
    · intro he
      exact List.perm_nil.mp (he ▸ ha.unresolved_perm)
    · intro he
      exact List.nil_perm.mp (he ▸ ha.unresolved_perm)

/-- A second request that comes while the first is on the wire waits in its lane. -/
theorem second_request_counts_as_queued :
    ∃ acts, let c := (Course.start {} (.ofCapacity 64)).run acts
      c.scheduler.step c.now = none ∧ c.scheduler.state = .running ∧ c.scheduler.queued = 1 ∧
        (unserved c.log).length = 1 ∧ (underWay c.log).length = 1 ∧
        (unresolved c.log).length = 2 := by
  let r : Request := { id := "", kind := .direct, payload := [] }
  let acts := [Act.submit r, .move, .move, .submit r, .move].map ((0, ·))
  obtain ⟨hq, -, -, -, hb⟩ := snapshot_tells_requests {} (.ofCapacity 64) acts
  have hs : (((Course.start {} (.ofCapacity 64)).run acts).scheduler.step 0).isNone = true := by
    decide
  have hstate : ((Course.start {} (.ofCapacity 64)).run acts).scheduler.state = .running := by
    decide
  have hone : ((Course.start {} (.ofCapacity 64)).run acts).scheduler.queued = 1 := by decide
  have htwo : ((Course.start {} (.ofCapacity 64)).run acts).scheduler.snapshot.busy = 2 := by
    decide
  obtain ⟨hbusy, hrun, -⟩ := hb (by simp [hstate])
  exact ⟨acts, Option.isNone_iff_eq_none.mp hs, hstate, hone, hq.symm.trans hone, hrun.mp hstate,
    hbusy.symm.trans htwo⟩

end BrickHost
