import BrickHost.Proofs.Scheduler.Honesty
import BrickHost.Proofs.Scheduler.Recovery
import BrickHost.Proofs.Scheduler.Stillness

/-! Nothing that a scheduler waits for outlives its limit: neither a request on the wire, nor a
recovery, nor the closing of the transport. -/

namespace BrickHost

namespace Scheduler

section Closing

variable {s t : Scheduler} {now deadline : Nat} {signals : List Signal}

theorem orphan_closing {u : Scheduler} {job : Job} {reason : OrphanReason}
    {closure : Option String}
    (h : (u.orphan now job reason closure).1.phase = .closing deadline) :
    deadline = now + closeLimit := by
  rw [orphan_eq] at h
  split at h
  · cases closure with
    | some why => exact (Phase.closing.inj h).symm
    | none => cases h
  · cases h

/-- The closing of the transport is given its limit once, when the dispatcher stops. -/
theorem Move.closing_cases (hm : s.Move now t signals) (h : t.phase = .closing deadline) :
    s.isStopped = false ∧ deadline = now + closeLimit := by
  cases hm with
  | refuse hp | abandon hp | cancelWaiting hp | endWaiting hp | cancelWriting hp
  | cancelAwaiting hp => exact ⟨by simp [isStopped, hp], (Phase.closing.inj h).symm⟩
  | stall hp | endAwaiting hp | expire hp => exact ⟨by simp [isStopped, hp], orphan_closing h⟩
  | @recover job reason closure hp hr =>
    cases closure with
    | some why => exact ⟨by simp [isStopped, hp], (Phase.closing.inj h).symm⟩
    | none => cases h
  | write hp hc hw => split at h <;> cases h
  | readWaiting hp | readAwaiting hp | discard hp =>
    have hsame : s.phase = .closing deadline := h
    simp [hp] at hsame
  | fetchAwaiting hp hc hi hd hf => simp [(fetch_phase hf).1, hp] at h
  | _ => cases h

end Closing

end Scheduler

/-- The dispatcher stops. -/
def Moment.Stops (m : Moment) : Prop :=
  m.scheduler.isStopped = false ∧ m.after.isStopped = true

theorem Course.run_closing (config : SchedulerConfig) (line : Line) (acts : List (Nat × Act)) :
    ∀ deadline, ((start config line).run acts).scheduler.phase = .closing deadline →
      ∃ m ∈ (start config line).moments acts, m.Stops ∧
        deadline = m.now + Scheduler.closeLimit := by
  refine moments_induction (P := fun c past => ∀ deadline, c.scheduler.phase = .closing deadline →
    ∃ m ∈ past, m.Stops ∧ deadline = m.now + Scheduler.closeLimit) ?_ ?_ acts
  · intro deadline hp
    cases hp
  · intro acts ms act ih deadline hp
    let m := ((start config line).run acts).moment ms act
    change m.after.phase = .closing deadline at hp
    rcases m.cases with ⟨signals, -, hs, -⟩ | hq
    · obtain ⟨hserves, hd⟩ := (Scheduler.move_of_step hs).closing_cases hp
      have hstops : m.after.isStopped = true := by simp [Scheduler.isStopped, hp]
      exact ⟨m, by simp [m], ⟨hserves, hstops⟩, hd⟩
    · obtain ⟨e, he, hd⟩ := ih deadline (hq.phase ▸ hp)
      exact ⟨e, List.mem_append_left _ he, hd⟩

theorem Recovery.step_eq_none_of {r : Recovery} {conduct : Conduct} {limit : Duration} {now : Nat}
    (h : r.step conduct limit now = none) (other : Conduct) : r.step other limit now = none := by
  cases hb : r.bounds with
  | none => simp [step, hb] at h
  | some bounds =>
    simp only [step, hb] at h ⊢
    exact h

namespace Attended

/-- Nothing moves until time passes or something comes in. -/
def IsStill (a : Attended) : Prop :=
  a.course.scheduler.step a.course.now = none ∧
    ∀ r conduct, a.recovery = some r →
      r.step conduct a.course.scheduler.config.recoveryTimeout a.course.now = none

/-- What goes on began too short a time ago to be over its limit. -/
structure WithinLimits (config : SchedulerConfig) (past : List Moment) (a : Attended) : Prop where
  served : ∀ job, a.course.scheduler.serving? = some job → ∃ m ∈ past,
    job.submission ∈ taken m.events ∧
      a.course.now <
        m.now + (job.submission.request.timeout.getD config.defaultTimeout).ceilMillis
  recovered : ∀ job reason closure, a.course.scheduler.phase = .recovering job reason closure →
    ∃ began conduct, a.log.getLast? = some (began, .invoked (job.context reason) conduct) ∧
      a.course.now < began + config.recoveryTimeout.ceilMillis
  closed : ∀ deadline, a.course.scheduler.phase = .closing deadline →
    ∃ m ∈ past, m.Stops ∧ a.course.now < m.now + Scheduler.closeLimit

section Limits

variable {config : SchedulerConfig} {line : Line} {a : Attended}

theorem IsStill.served (h : a.IsStill) {job : Job}
    (hj : a.course.scheduler.serving? = some job) : a.course.now < job.deadline := by
  cases Scheduler.pause_of_step_eq_none h.1 with
  | writing hp hc hd | awaiting hp hc hd =>
    obtain rfl : _ = job := by simpa [Scheduler.serving?, hp] using hj
    exact hd
  | waiting hp | recovering hp | closing hp | terminated hp =>
    simp [Scheduler.serving?, hp] at hj

theorem IsStill.closing (h : a.IsStill) {deadline : Nat}
    (hp : a.course.scheduler.phase = .closing deadline) : a.course.now < deadline := by
  cases Scheduler.pause_of_step_eq_none h.1 with
  | closing hp' hd =>
    obtain rfl := Phase.closing.inj (hp'.symm.trans hp)
    exact hd
  | waiting hp' | writing hp' | awaiting hp' | recovering hp' | terminated hp' =>
    simp [hp] at hp'

theorem IsStill.recovering (h : a.IsStill) (ho : a.Orderly config line) {job : Job}
    {reason : OrphanReason} {closure : Option String}
    (hp : a.course.scheduler.phase = .recovering job reason closure) :
    ∃ began conduct, a.log.getLast? = some (began, .invoked (job.context reason) conduct) ∧
      a.course.now < began + config.recoveryTimeout.ceilMillis := by
  obtain ⟨acts, hc⟩ := ho.course
  have hconfig : a.course.scheduler.config = config := by rw [hc, Course.run_config]
  obtain ⟨whole, rest, hl, -, hs⟩ := ho.log
  obtain ⟨hstep, hrecovery⟩ := h
  rw [hconfig] at hrecovery
  cases hs with
  | calm hq hr => simp [Scheduler.isRecovering, hp] at hq
  | due hp' hq hn hr =>
    have hmoves := hrecovery _ .hangs hr
    simp [Recovery.step] at hmoves
  | @invoked job' reason' closure' conduct began hp' hq hn hb hr =>
    obtain ⟨rfl, rfl, rfl⟩ := Phase.recovering.inj (hp'.symm.trans hp)
    refine ⟨began, conduct, by simp [hl], ?_⟩
    have hgoes := hrecovery _ .hangs hr
    rcases Recovery.step_begun conduct .hangs (job'.context reason') began config.recoveryTimeout
      a.course.now with ⟨he, -⟩ | ⟨he, -⟩ | ⟨-, hd⟩
    · simp [he] at hgoes
    · simp [he] at hgoes
    · exact hd
  | done hp' hq hn he hr => simp [Scheduler.step, hp, hn] at hstep

theorem IsStill.withinLimits (h : a.IsStill) (ho : a.Orderly config line)
    {acts : List (Nat × Act)} (hc : a.course = (Course.start config line).run acts) :
    a.WithinLimits config ((Course.start config line).moments acts) where
  served job hj := by
    have ht := Course.run_truthful config line acts
    rw [← hc] at ht
    obtain ⟨m, hm, htaken, hd⟩ := ht.staged.dated job hj
    have hlt := h.served hj
    exact ⟨m, hm, htaken, hd ▸ hlt⟩
  recovered job reason closure hp := h.recovering ho hp
  closed deadline hp := by
    have hclosing := Course.run_closing config line acts
    rw [← hc] at hclosing
    obtain ⟨m, hm, hstops, hd⟩ := hclosing deadline hp
    have hlt := h.closing hp
    exact ⟨m, hm, hstops, hd ▸ hlt⟩

end Limits

section Rest

/-- What a recovery has still to do: begin, and end. -/
def pendingShifts (a : Attended) : Nat :=
  match a.recovery with
  | none => 0
  | some r => if r.bounds = none then 2 else 1

def weight (a : Attended) : Nat :=
  3 * a.course.scheduler.weight + a.pendingShifts

variable {a : Attended}

theorem pendingShifts_le (a : Attended) : a.pendingShifts ≤ 2 := by
  unfold pendingShifts
  split
  · omega
  · split <;> omega

/-- A move may leave a recovery to be done, but uses up more than that. -/
theorem act_move_weight {t : Scheduler} {signals : List Signal}
    (h : a.course.scheduler.step a.course.now = some (t, signals)) :
    (a.act 0 .move).weight < a.weight ∧ (a.act 0 .move).course.now = a.course.now := by
  have hcourse : (a.act 0 .move).course =
      ⟨t, a.course.now, a.course.log ++ signals.map .did⟩ := by
    rw [act_eq a 0 (by simp), foldl_hear_course]
    exact Course.after_move_of_step h
  have hle := (a.act 0 .move).pendingShifts_le
  have hlt := (Scheduler.move_of_step h).weight_lt
  refine ⟨?_, by rw [hcourse]⟩
  simp only [weight, hcourse]
  omega

theorem finish_weight {r : Recovery} (hr : a.recovery = some r) (how : Happening) :
    (a.finish how).weight < a.weight := by
  have hpos : 0 < a.pendingShifts := by
    simp only [pendingShifts, hr]
    split <;> omega
  have hsame : (a.finish how).weight = 3 * a.course.scheduler.weight + 0 := rfl
  rw [hsame, weight]
  omega

theorem attend_weight {r : Recovery} {conduct : Conduct} {move : RecoveryMove}
    (hr : a.recovery = some r)
    (h : r.step conduct a.course.scheduler.config.recoveryTimeout a.course.now = some move) :
    (a.attend conduct).weight < a.weight ∧ (a.attend conduct).course.now = a.course.now := by
  simp only [attend, hr, h]
  cases move with
  | began begun =>
    refine ⟨?_, rfl⟩
    -- Only a recovery that has not begun can begin.
    cases hb : r.bounds with
    | none =>
      simp only [Recovery.step, hb] at h
      obtain rfl := RecoveryMove.began.inj (Option.some.inj h)
      simp [weight, pendingShifts, hr, hb]
    | some bounds =>
      simp only [Recovery.step, hb] at h
      split at h
      · cases h
      · split at h <;> cases h
  | ended => exact ⟨finish_weight hr .ended, rfl⟩
  | abandoned => exact ⟨finish_weight hr .abandoned, rfl⟩

/-- Without anything from outside, and without time passing, all comes to rest. -/
theorem comes_to_rest (a : Attended) (conduct : Conduct) :
    ∃ more, (∀ shift ∈ more, shift = .act 0 .move ∨ shift = .attend conduct) ∧
      (a.run more).course.now = a.course.now ∧ (a.run more).IsStill := by
  induction hw : a.weight using Nat.strongRecOn generalizing a with
  | ind w ih =>
    have hnext : ∀ shift, (shift = .act 0 .move ∨ shift = .attend conduct) →
        (a.shift shift).weight < a.weight ∧ (a.shift shift).course.now = a.course.now →
        ∃ more, (∀ shift ∈ more, shift = .act 0 .move ∨ shift = .attend conduct) ∧
          (a.run more).course.now = a.course.now ∧ (a.run more).IsStill := by
      rintro shift hkind ⟨hlt, hnow⟩
      obtain ⟨more, hmore, hlater, hstill⟩ := ih _ (hw ▸ hlt) (a.shift shift) rfl
      refine ⟨shift :: more, ?_, hlater.trans hnow, hstill⟩
      intro x hx
      rcases List.mem_cons.mp hx with rfl | hm
      · exact hkind
      · exact hmore x hm
    cases hs : a.course.scheduler.step a.course.now with
    | some result => exact hnext (.act 0 .move) (.inl rfl) (act_move_weight hs)
    | none =>
      cases hr : a.recovery with
      | none =>
        refine ⟨[], by simp, rfl, hs, fun r other ho => ?_⟩
        change a.recovery = some r at ho
        simp [hr] at ho
      | some r =>
        cases hm : r.step conduct a.course.scheduler.config.recoveryTimeout a.course.now with
        | some move => exact hnext (.attend conduct) (.inr rfl) (attend_weight hr hm)
        | none =>
          refine ⟨[], by simp, rfl, hs, fun r' other ho => ?_⟩
          change a.recovery = some r' at ho
          obtain rfl : r = r' := Option.some.inj (hr.symm.trans ho)
          exact Recovery.step_eq_none_of hm other

end Rest

end Attended

/-- Whatever the transport, the brick and a strategy do: where nothing moves until time passes or
something comes in, a request on the wire was taken less than its own time ago, a recovery was begun
less than the recovery time ago, and a transport that is being closed less than the closing time. At
every moment such a state is reached by finitely many moves. -/
theorem rest_within_limits (config : SchedulerConfig) (line : Line) (shifts : List Shift) :
    let a := (Attended.start config line).run shifts
    (∃ acts, a.course = (Course.start config line).run acts) ∧
      (a.IsStill → ∀ acts, a.course = (Course.start config line).run acts →
        a.WithinLimits config ((Course.start config line).moments acts)) ∧
      ∀ conduct, ∃ more, (∀ shift ∈ more, shift = .act 0 .move ∨ shift = .attend conduct) ∧
        (a.run more).course.now = a.course.now ∧ (a.run more).IsStill := by
  intro a
  have ho := Attended.run_orderly config line shifts
  exact ⟨ho.course, fun h acts hc => h.withinLimits ho hc, a.comes_to_rest⟩

/-- One millisecond before its limit a closing that stalls is still waited for. -/
theorem stalled_closing_within_limit :
    ∃ line shifts acts, let a := (Attended.start {} line).run shifts
      a.course.now = 499 ∧ a.course.scheduler.phase = .closing 500 ∧
        a.WithinLimits {} ((Course.start {} line).moments acts) := by
  let line : Line := { Line.ofCapacity 64 with closing := .stalls }
  let shifts : List Shift := [.act 0 .dispose, .act 0 .move, .act 0 .move, .act 499 .move]
  have hnow : ((Attended.start {} line).run shifts).course.now = 499 := by decide
  have hp : ((Attended.start {} line).run shifts).course.scheduler.phase = .closing 500 := by decide
  have hstep : (((Attended.start {} line).run shifts).course.scheduler.step 499).isNone = true := by
    decide
  have hstill : ((Attended.start {} line).run shifts).IsStill := by
    refine ⟨?_, fun r conduct hr => ?_⟩
    · rw [hnow]
      exact Option.isNone_iff_eq_none.mp hstep
    · have hn : ((Attended.start {} line).run shifts).recovery = none := by decide
      simp [hn] at hr
  obtain ⟨⟨acts, hc⟩, hwithin, -⟩ := rest_within_limits {} line shifts
  exact ⟨line, shifts, acts, hnow, hp, hwithin hstill acts hc⟩

end BrickHost
