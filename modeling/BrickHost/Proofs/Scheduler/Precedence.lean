import BrickHost.Proofs.Scheduler.Fates

/-! Which request is served next: of all that were posted before and not taken yet, the first of the
high lane, and without one there the first of the normal lane. -/

namespace BrickHost

theorem snoc_prefix_append {α : Type} {past log events : List α} {e : α}
    (h : past ++ [e] <+: log ++ events) :
    past ++ [e] <+: log ∨ ∃ early, past = log ++ early ∧ early ++ [e] <+: events := by
  rcases List.prefix_or_prefix_of_prefix h (List.prefix_append log events) with hl | ⟨part, hp⟩
  · exact .inl hl
  · rcases List.eq_nil_or_concat part with rfl | ⟨early, x, rfl⟩
    · rw [List.append_nil] at hp
      exact .inl (hp ▸ List.prefix_rfl)
    · rw [List.concat_eq_append, ← List.append_assoc] at hp
      obtain ⟨rfl, hx⟩ := List.append_inj' hp rfl
      obtain rfl := List.singleton_inj.mp hx
      rw [List.append_assoc] at h
      exact .inr ⟨early, rfl, (List.prefix_append_right_inj log).mp h⟩

/-- Each request that was taken stood first among those that waited then. -/
def FirstTaken (log : List Event) : Prop :=
  ∀ past post, past ++ [.did (.taken post)] <+: log →
    (neverTaken .high past ++ neverTaken .normal past).head? = some post

namespace Scheduler

variable {s t : Scheduler} {now : Nat} {log events : List Event} {signals : List Signal}
  {post : Submission} {left : Lane → List Submission}

theorem takeNext_drain_head (h : s.drain.takeNext = some (post, t)) :
    (s.waitingIn .high ++ s.waitingIn .normal).head? = some post := by
  change s.pending.head? = some post
  rw [(takeNext_pending h).1, List.head?_cons]

theorem prefix_taken_absurd {early : List Event} (ht : taken events = [])
    (hp : early ++ [.did (.taken post)] <+: events) : False := by
  have hs : taken (early ++ [.did (.taken post)]) <+: taken events := hp.filterMap Event.taken?
  rw [ht, List.prefix_nil] at hs
  simp at hs

theorem Move.head_of_taken (hm : s.Move now t signals) {early : List Event}
    (hp : early ++ [.did (.taken post)] <+: signals.map .did) :
    early = [] ∧ s.phase = .ready ∧
      (s.waitingIn .high ++ s.waitingIn .normal).head? = some post := by
  rcases hm.taken_cases with ht | ⟨p, u, later, hr, hn, rfl, hl, -⟩
  · exact (prefix_taken_absurd ht hp).elim
  · cases early with
    | nil =>
      have hh := (List.cons_prefix_cons.mp hp).1
      cases hh
      exact ⟨rfl, hr, takeNext_drain_head hn⟩
    | cons x early =>
      have hl' : early ++ [.did (.taken post)] <+: later.map .did := by
        simpa using (List.cons_prefix_cons.mp hp).2
      exact (prefix_taken_absurd hl hl').elim

theorem Accounts.firstTaken {act : Act} (ha : s.Accounts log left) (h : FirstTaken log)
    (hr : s.react now act = (t, events)) : FirstTaken (log ++ events) := by
  intro past p hp
  rcases snoc_prefix_append hp with hl | ⟨early, rfl, he⟩
  · exact h past p hl
  · rcases react_cases hr with ⟨signals, hm, rfl⟩ | ⟨q, -, -, -, rfl⟩ | ⟨_, _, _, _, _, -, -, rfl⟩
    · obtain ⟨rfl, hr, hh⟩ := hm.head_of_taken he
      have hs : s.isStopped = false := by simp [isStopped, hr]
      rw [List.append_nil, ha.neverTaken_eq, ha.neverTaken_eq, (ha.serving hs).1]
      exact hh
    · exact (prefix_taken_absurd rfl he).elim
    · exact (prefix_taken_absurd rfl he).elim

end Scheduler

theorem Course.run_firstTaken (config : SchedulerConfig) (line : Line) (acts : List (Nat × Act)) :
    FirstTaken ((start config line).run acts).log := by
  refine reach_induction (P := fun c => FirstTaken c.log) ?_ ?_ acts
  · intro past post hp
    simp [start] at hp
  · intro acts ms act h
    obtain ⟨left, ha⟩ := run_accounts config line acts
    exact ha.firstTaken h rfl

/-- At every moment at which a request is taken, it is the first that waits on the high lane, and
without one there the first on the normal lane. So each lane is served in the order in which it was
filled, and nothing is taken from the normal lane while a request waits on the high one. -/
theorem first_of_high_lane_taken_first (config : SchedulerConfig) (line : Line)
    (acts : List (Nat × Act)) :
    let log := ((Course.start config line).run acts).log
    (∀ past post, past ++ [.did (.taken post)] <+: log →
      (neverTaken .high past ++ neverTaken .normal past).head? = some post ∧
        (post.request.lane = .normal → neverTaken .high past = [])) ∧
    (∀ l, inLane l (taken log) <+: inLane l (accepted log)) := by
  intro log
  refine ⟨fun past post hp => ?_, fun l => ?_⟩
  · have hf := Course.run_firstTaken config line acts past post hp
    refine ⟨hf, fun hn => ?_⟩
    cases hh : neverTaken .high past with
    | nil => rfl
    | cons first rest =>
      have hm : first ∈ neverTaken .high past := by simp [hh]
      have hl : first.request.lane = .high := lane_of_mem_inLane (List.mem_of_mem_filter hm)
      rw [hh] at hf
      obtain rfl : first = post := by simpa using hf
      rw [hn] at hl
      cases hl
  · obtain ⟨left, h⟩ := Course.run_accounts config line acts
    exact ⟨left l, (h.lanes l).symm⟩

/-- The request on the high lane was posted last and is taken first. -/
theorem high_request_overtakes :
    ∃ acts past post, let log := ((Course.start {} (.ofCapacity 64)).run acts).log
      past ++ [.did (.taken post)] <+: log ∧ post.ticket = 1 ∧
        (neverTaken .high past ++ neverTaken .normal past).head? = some post := by
  let usual : Request := { id := "", kind := .direct, payload := [] }
  let urgent : Request := { id := "", lane := .high, kind := .direct, payload := [] }
  let acts := [Act.submit usual, .submit urgent, .move].map ((0, ·))
  let past : List Event := [.accepted ⟨0, usual, 0⟩, .accepted ⟨1, urgent, 0⟩]
  have hp : past ++ [.did (.taken ⟨1, urgent, 0⟩)] <+:
      ((Course.start {} (.ofCapacity 64)).run acts).log := ⟨[], rfl⟩
  exact ⟨acts, past, ⟨1, urgent, 0⟩, hp, rfl,
    ((first_of_high_lane_taken_first {} (.ofCapacity 64) acts).1 past _ hp).1⟩

end BrickHost
