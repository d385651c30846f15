import BrickHost.Proofs.Scheduler.Honesty

/-! Counters. The counter of a request is how many were dispatched before it, as far as 16 bits can
tell. -/

namespace BrickHost

/-- The requests that left their lane while the scheduler was not disposed. -/
def dispatched (past : List Moment) : List Submission :=
  past.flatMap (fun m => if m.scheduler.state.isDisposed then [] else taken m.events)

/-- How many requests were dispatched before this one. -/
def dispatchIndex (past : List Moment) (post : Submission) : Nat :=
  (dispatched past).idxOf post

section Index

variable {past : List Moment} {m : Moment} {post : Submission}

theorem dispatched_snoc (past : List Moment) (m : Moment) :
    dispatched (past ++ [m]) =
      dispatched past ++ if m.scheduler.state.isDisposed then [] else taken m.events := by
  simp [dispatched]

theorem dispatched_quiet (ht : taken m.events = []) :
    dispatched (past ++ [m]) = dispatched past := by
  simp [dispatched_snoc, ht]

theorem length_dispatched_le (past : List Moment) (m : Moment) :
    (dispatched past).length ≤ (dispatched (past ++ [m])).length := by
  rw [dispatched_snoc, List.length_append]
  exact Nat.le_add_right _ _

theorem dispatchIndex_snoc (h : post ∈ dispatched past) (m : Moment) :
    dispatchIndex (past ++ [m]) post = dispatchIndex past post := by
  rw [dispatchIndex, dispatched_snoc]
  exact List.idxOf_append_of_mem h

end Index

theorem stretch_counter (log : List Event) {j : Nat} {x : Stretch}
    (h : (stretches log)[j]? = some x) : x.counter = UInt16.ofNat j := by
  induction log using List.reverseRecOn generalizing j x with
  | nil => cases h
  | append_singleton log e ih =>
    rw [stretches_append, List.foldl_cons, List.foldl_nil] at h
    cases e with
    | accepted post => exact ih h
    | did signal =>
      cases signal with
      | taken post =>
        simp only [noteStretch, List.getElem?_append] at h
        split at h
        · exact ih h
        · obtain ⟨hj, rfl⟩ : j - (stretches log).length = 0 ∧
              ⟨post, UInt16.ofNat (stretches log).length, []⟩ = x := by
            simpa [List.getElem?_singleton] using h
          have he : j = (stretches log).length := by omega
          simp [he]
      | sent bytes =>
        rcases List.eq_nil_or_concat (stretches log) with he | ⟨parts, last, he⟩
        · simp [noteStretch, he] at h
        · rw [List.concat_eq_append] at he
          simp only [noteStretch, he, List.dropLast_concat, List.getLast?_concat, Option.toList_some,
            List.map_cons, List.map_nil, List.getElem?_append] at h
          split at h
          · next hj => exact ih (by simpa [he, List.getElem?_append, hj] using h)
          · next hj =>
            obtain ⟨hj', rfl⟩ : j - parts.length = 0 ∧ last.add bytes = x := by
              simpa [List.getElem?_singleton] using h
            have hl : (stretches log)[j]? = some last := by
              simp [he, List.getElem?_append, hj, hj']
            exact (ih hl : last.counter = _)
      | _ => exact ih h

namespace Scheduler

/-- How the requests that were dispatched account for those that were taken, and for the counter of
the job on the wire. -/
structure Counted (s : Scheduler) (past : List Moment) (log : List Event) : Prop where
  refused : ∃ refused, taken log = dispatched past ++ refused ∧ refused.length ≤ 1 ∧
    (s.isStopped = false → refused = [])
  job : ∀ job, s.serving? = some job → ∃ before, dispatched past = before ++ [job.submission] ∧
    job.counter = UInt16.ofNat before.length

section Counted

variable {s t : Scheduler} {now : Nat} {past : List Moment} {log : List Event} {m : Moment}
  {signals : List Signal} {post : Submission}

theorem Move.stopped_of_refused (hm : s.Move now t signals) (hd : s.state.isDisposed = true)
    (ht : taken (signals.map .did) ≠ []) : t.isStopped = true := by
  have hs : s.state = .disposed := SchedulerState.isDisposed_iff.mp hd
  cases hm with
  | refuse hp hq hd' => rfl
  | unencodable hp hq hd' he | unframeable hp hq hd' hb he | begin hp hq hd' hb hf =>
    exact absurd hs hd'
  | stall hp hc hw hd' | expire hp hc hi hd' => exact absurd (taken_orphan ..) ht
  | endAwaiting hp hc hi => exact absurd (taken_orphan ..) ht
  | recover hp hr => exact absurd (taken_orphaned ..) ht
  | _ => simp at ht

theorem Move.serves_of_serves (hm : s.Move now t signals) (h : t.isStopped = false) :
    s.isStopped = false := by
  cases hm with
  | terminate hp hc => cases h
  | readWaiting | readAwaiting | discard => exact h
  | _ => simp_all [isStopped]

theorem Counted.quiet (h : m.scheduler.Counted past log) (hq : m.IsQuiet) :
    m.after.Counted (past ++ [m]) (log ++ m.events) := by
  have hd : dispatched (past ++ [m]) = dispatched past := dispatched_quiet hq.taken
  refine ⟨?_, fun job hj => ?_⟩
  · simpa [hd, hq.taken, isStopped, hq.phase] using h.refused
  · rw [hd]
    exact h.job job (by simpa [serving?, hq.phase] using hj)

theorem Counted.move (h : m.scheduler.Counted past log) (hw : m.scheduler.Written log)
    (hm : m.scheduler.Move m.now m.after signals) (he : m.events = signals.map .did) :
    m.after.Counted (past ++ [m]) (log ++ m.events) := by
  obtain ⟨refused, ht, hl, hr⟩ := h.refused
  rcases hm.taken_cases with hn | ⟨p, u, later, hp, -, rfl, hq, -⟩
  · have hd : dispatched (past ++ [m]) = dispatched past := dispatched_quiet (he ▸ hn)
    refine ⟨⟨refused, ?_, hl, fun ho => hr (hm.serves_of_serves ho)⟩, fun job hj => ?_⟩
    · rw [hd, taken_append, he, hn, List.append_nil, ht]
    · rw [hd]
      rcases hm.serving_cases hj with hs | ⟨post, -, -, rfl⟩
      · exact h.job job hs
      · simp at hn
  · have hnew : taken m.events = [p] := by simp [he, hq]
    have hs : m.scheduler.isStopped = false := by simp [isStopped, hp]
    have hall : taken log = dispatched past := by rw [ht, hr hs, List.append_nil]
    -- A request that is taken after the disposal is refused, and nothing is taken after it.
    by_cases hd : m.scheduler.state.isDisposed = true
    · have hstop : m.after.isStopped = true := hm.stopped_of_refused hd (by simp [hq])
      have hsame : dispatched (past ++ [m]) = dispatched past := by simp [dispatched_snoc, hd]
      refine ⟨⟨[p], ?_, le_rfl, fun ho => by simp [hstop] at ho⟩, fun job hj => ?_⟩
      · rw [hsame, taken_append, hnew, hall]
      · cases ha : m.after.phase <;> simp_all [serving?, isStopped]
    · have hmore : dispatched (past ++ [m]) = dispatched past ++ [p] := by
        simp [dispatched_snoc, hd, hnew]
      refine ⟨⟨[], ?_, by simp, fun _ => rfl⟩, fun job hj => ⟨dispatched past, ?_, ?_⟩⟩
      · rw [hmore, taken_append, hnew, hall, List.append_nil]
      all_goals
        rcases hm.serving_cases hj with ho | ⟨post, -, rfl, hg⟩
        · simp [serving?, hp] at ho
      · obtain ⟨rfl, -⟩ : p = post ∧ later = [] := by simpa using hg
        exact hmore
      · rw [nextJob, hw.counted hs, ← hall, ← hw.posts, List.length_map]

theorem Counted.moment (h : m.scheduler.Counted past log) (hw : m.scheduler.Written log) :
    m.after.Counted (past ++ [m]) (log ++ m.events) := by
  rcases m.cases with ⟨signals, -, hs, he⟩ | hq
  · exact h.move hw (move_of_step hs) he
  · exact h.quiet hq

theorem Counted.index_of_taken (h : s.Counted past log) (hn : (taken log).Nodup) {j : Nat}
    (hj : (taken log)[j]? = some post) : dispatchIndex past post = j := by
  obtain ⟨refused, ht, hl, -⟩ := h.refused
  rw [ht] at hn hj
  rw [List.getElem?_append] at hj
  split at hj
  · next hlt =>
    obtain ⟨-, rfl⟩ := List.getElem?_eq_some_iff.mp hj
    exact (hn.sublist (List.sublist_append_left _ _)).idxOf_getElem j hlt
  · next hge =>
    have hlast : j - (dispatched past).length < refused.length :=
      (List.getElem?_eq_some_iff.mp hj).1
    have hnot : post ∉ dispatched past := by
      intro hp
      exact List.disjoint_of_nodup_append hn hp (List.mem_of_getElem? hj)
    rw [dispatchIndex, List.idxOf_eq_length hnot]
    omega

theorem Counted.nodup (h : s.Counted past log) (hn : (taken log).Nodup) :
    (dispatched past).Nodup := by
  obtain ⟨refused, ht, -, -⟩ := h.refused
  exact hn.sublist (ht ▸ List.sublist_append_left _ _)

/-- The job on the wire was dispatched last. -/
theorem Counted.serving_last (h : s.Counted past log) (hn : (taken log).Nodup) {job : Job}
    (hj : s.serving? = some job) : job.submission ∈ dispatched past ∧
      (dispatched past).length = dispatchIndex past job.submission + 1 ∧
      job.counter = UInt16.ofNat (dispatchIndex past job.submission) := by
  obtain ⟨before, hd, hc⟩ := h.job job hj
  have hb : (before ++ [job.submission]).Nodup := hd ▸ h.nodup hn
  have hnot : job.submission ∉ before :=
    fun hm => List.disjoint_of_nodup_append hb hm List.mem_cons_self
  have hi : dispatchIndex past job.submission = before.length := by
    simp [dispatchIndex, hd, List.idxOf_append, hnot]
  exact ⟨by simp [hd], by simp [hd, hi], by rw [hi, hc]⟩

end Counted

end Scheduler

theorem Moment.answered_of_outcome (m : Moment) (h : m.scheduler.Sorted) {post : Submission}
    {result : CommandResult} (ho : (post, .ok result) ∈ outcomes m.events) :
    ∃ job body, m.scheduler.serving? = some job ∧ job.submission = post ∧ m.frame? = some body ∧
      Scheduler.answer? m.now job body = some result := by
  rcases m.cases with ⟨signals, ha, hs, he⟩ | hq
  · cases (Scheduler.move_of_step hs).fate h (he ▸ ho) with
    | @answered job inbox line body _ hp hc hi hr =>
      exact ⟨job, body, by simp [Scheduler.serving?, hp], rfl, frame?_of_awaiting ha hp hc hi, hr⟩
  · simp [hq.outcomes] at ho

theorem Course.run_counted (config : SchedulerConfig) (line : Line) (acts : List (Nat × Act)) :
    ((start config line).run acts).scheduler.Counted ((start config line).moments acts)
      ((start config line).run acts).log := by
  refine moments_induction (P := fun c past => c.scheduler.Counted past c.log) ⟨?_, ?_⟩ ?_ acts
  · exact ⟨[], rfl, by simp, fun _ => rfl⟩
  · intro job hj
    cases hj
  · intro acts ms act h
    exact h.moment (m := (run _ acts).moment ms act) (run_written config line acts)

theorem Course.wire_counter (config : SchedulerConfig) (line : Line) (acts : List (Nat × Act))
    {x : Stretch} (hx : x ∈ stretches ((start config line).run acts).log) :
    x.counter = UInt16.ofNat (dispatchIndex ((start config line).moments acts) x.post) := by
  have hg := run_ledger config line acts
  obtain ⟨j, hj⟩ := List.mem_iff_getElem?.mp hx
  have ht : (taken ((start config line).run acts).log)[j]? = some x.post := by
    rw [← hg.written.posts, List.getElem?_map, hj]
    rfl
  rw [(run_counted config line acts).index_of_taken hg.taken_nodup ht]
  exact stretch_counter _ hj

theorem Course.result_counter (config : SchedulerConfig) (line : Line) (acts : List (Nat × Act)) :
    ∀ post result, (post, .ok result) ∈ outcomes ((start config line).run acts).log →
      post ∈ dispatched ((start config line).moments acts) ∧
        result.counter = UInt16.ofNat (dispatchIndex ((start config line).moments acts) post) := by
  refine moments_induction (P := fun c past => ∀ post result, (post, .ok result) ∈ outcomes c.log →
    post ∈ dispatched past ∧ result.counter = UInt16.ofNat (dispatchIndex past post))
    ?_ ?_ acts
  · intro post result ho
    cases ho
  · intro acts ms act h post result ho
    rw [after_eq, outcomes_append, List.mem_append] at ho
    rcases ho with ho | ho
    · obtain ⟨hd, hc⟩ := h post result ho
      refine ⟨?_, by rw [dispatchIndex_snoc hd, hc]⟩
      rw [dispatched_snoc]
      exact List.mem_append_left _ hd
    · have hg := run_ledger config line acts
      obtain ⟨left, ha⟩ := hg.accounts
      obtain ⟨job, body, hj, rfl, -, hr⟩ :=
        ((run _ acts).moment ms act).answered_of_outcome ha.sorted ho
      obtain ⟨hd, -, hc⟩ := (run_counted config line acts).serving_last hg.taken_nodup hj
      refine ⟨?_, by rw [dispatchIndex_snoc hd, (Scheduler.decodeReply_of_answer? hr).2.2, hc]⟩
      rw [dispatched_snoc]
      exact List.mem_append_left _ hd

end BrickHost
