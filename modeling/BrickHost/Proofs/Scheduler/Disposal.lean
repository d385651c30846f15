import BrickHost.Bench.Turn
import BrickHost.Proofs.Fleet
import BrickHost.Proofs.Scheduler.Fates
import BrickHost.Proofs.Scheduler.Occupancy

/-! What comes after disposal. Nothing more is accepted and nothing more is written, and what is
still to be told is settled: it depends on what the dispatcher was doing, not on what happens
later. -/

namespace BrickHost

namespace Scheduler

/-- Disposed, and its dispatcher was told to stop. -/
structure Doomed (s : Scheduler) : Prop where
  state : s.state = .disposed
  cancelled : s.cancelled = true

/-- What a disposed scheduler has still to tell. A recovery that is under way decides for the
request it follows up, and its closing of the link for those that wait. -/
def owed (s : Scheduler) : List (Submission × Outcome) :=
  match s.phase with
  | .ready | .waiting => s.pending.map (·, .error .disposed)
  | .writing job _ | .awaiting job =>
    (job.submission, .error .disposed) :: s.pending.map (·, .error .disposed)
  | .recovering job reason closure =>
    (job.submission, .error (.orphaned job.submission.request.id reason)) ::
      s.pending.map (·, .error ((closure.map Exit.linkClosed).getD .disposed).error)
  | .closing _ | .terminated => []

section Doomed

variable {s t : Scheduler} {now : Nat} {signals : List Signal}

theorem owed_submissions (h : s.isStopped = true → s.pending = []) :
    s.owed.map (·.1) = s.inHand ++ s.pending := by
  have hmap : ∀ outcome : Outcome, (s.pending.map (·, outcome)).map (·.1) = s.pending := by
    intro outcome
    simp [Function.comp_def]
  cases hp : s.phase with
  | ready | waiting | writing _ _ | awaiting _ | recovering _ _ _ =>
    simp only [owed, inHand, hp, List.map_cons, hmap, List.nil_append, List.cons_append]
  | closing _ | terminated => simp [owed, inHand, hp, h (by simp [isStopped, hp])]

theorem owed_disposed (h : s.isRecovering = false) {told : Submission × Outcome}
    (ht : told ∈ s.owed) : told.2 = .error .disposed := by
  have hmap : ∀ told ∈ s.pending.map (fun post => (post, (.error .disposed : Outcome))),
      told.2 = .error .disposed := by
    intro told hm
    obtain ⟨post, -, rfl⟩ := List.mem_map.mp hm
    rfl
  cases hp : s.phase with
  | ready | waiting =>
    simp only [owed, hp] at ht
    exact hmap told ht
  | writing _ _ | awaiting _ =>
    simp only [owed, hp] at ht
    rcases List.mem_cons.mp ht with rfl | hm
    · rfl
    · exact hmap told hm
  | recovering _ _ _ => simp [isRecovering, hp] at h
  | closing _ | terminated => simp [owed, hp] at ht

/-- A move of a disposed scheduler writes nothing and tells what is owed first. Unless it ends a
recovery, it leaves nothing to be told. -/
structure WindsUp (s t : Scheduler) (signals : List Signal) : Prop where
  doomed : t.Doomed
  silent : sent (signals.map .did) = []
  told : outcomes (signals.map .did) ++ t.owed = s.owed
  free : t.isRecovering = false
  settles : s.isRecovering = false → t.owed = []

theorem windsUp_last {post : Submission} {e : LinkError} {why : Exit}
    (h : s.owed = (post, .error e) :: s.pending.map (·, .error why.error)) :
    s.WindsUp (s.stopped now) (s.lastSignals post e why) where
  doomed := ⟨rfl, rfl⟩
  silent := by simp [lastSignals]
  told := by
    rw [h, outcomes_lastSignals]
    exact List.append_nil _
  free := rfl
  settles _ := rfl

theorem Doomed.move (h : s.Doomed) (hm : s.Move now t signals) : s.WindsUp t signals := by
  cases hm with
  | @refuse post u hp ht hd =>
    obtain ⟨hpend, -, -⟩ := takeNext_pending ht
    refine ⟨⟨rfl, rfl⟩, by simp [lastSignals], ?_, rfl, fun _ => rfl⟩
    have ho : s.owed = (post, .error .disposed) :: u.pending.map (·, .error .disposed) := by
      simp [owed, hp, hpend]
    rw [ho, List.map_cons, outcomes_cons, outcomes_lastSignals]
    exact List.append_nil _
  | unencodable hp ht hd | unframeable hp ht hd | begin hp ht hd => exact absurd h.state hd
  | settle hp ht hr =>
    obtain ⟨hhigh, hnormal⟩ := takeNext_eq_none ht
    have hmail : s.drain.mailbox = [] := by simp [drain_eq]
    have hpend : s.drain.pending = [] := by simp [pending, waitingIn, lane, hhigh, hnormal, hmail]
    have hsame : s.pending = [] := by simpa [pending] using hpend
    have hempty : ({ s.drain with phase := .waiting } : Scheduler).owed = [] := by
      change s.drain.pending.map _ = []
      rw [hpend, List.map_nil]
    refine ⟨⟨?_, ?_⟩, rfl, ?_, rfl, fun _ => hempty⟩
    · simp [drain_eq, h.state]
    · simp [drain_eq, h.cancelled]
    · rw [hempty]
      simp [owed, hp, hsame]
  | abandon hp ht hr =>
    obtain ⟨hhigh, hnormal⟩ := takeNext_eq_none ht
    simp only [drain_eq] at hhigh hnormal
    refine ⟨⟨rfl, rfl⟩, rfl, ?_, rfl, fun _ => rfl⟩
    change [] = s.owed
    simp [owed, hp, pending, hhigh, hnormal]
  | cancelWaiting hp hc =>
    refine ⟨⟨rfl, rfl⟩, by simp, ?_, rfl, fun _ => rfl⟩
    rw [List.map_map, outcomes_all_resolved]
    change s.pending.map _ ++ [] = s.owed
    simp [owed, hp]
  | cancelWriting hp hc | cancelAwaiting hp hc =>
    exact windsUp_last (by simp [owed, hp, Exit.error])
  | fetchWaiting hp hc | readWaiting hp hc | unsolicited hp hc | endWaiting hp hc | write hp hc
  | failWriting hp hc | stall hp hc | readAwaiting hp hc | answered hp hc | discard hp hc
  | endAwaiting hp hc | expire hp hc | fetchAwaiting hp hc => simp [h.cancelled] at hc
  | @recover job reason closure hp hr =>
    cases closure with
    | some why => exact windsUp_last (by simp [owed, hp])
    | none =>
      refine ⟨⟨?_, h.cancelled⟩, rfl, ?_, rfl, fun hf => by simp [isRecovering, hp] at hf⟩
      · simp [orphaned, h.state, SchedulerState.moveTo]
      · change _ :: s.pending.map _ = s.owed
        simp [owed, hp, Exit.error]
  | terminate hp hc =>
    refine ⟨⟨h.state, h.cancelled⟩, rfl, ?_, rfl, fun _ => rfl⟩
    simp [owed, hp]

theorem Doomed.react {act : Act} {events : List Event} (h : s.Doomed)
    (hr : s.react now act = (t, events)) :
    t.Doomed ∧ accepted events = [] ∧ sent events = [] ∧ outcomes events ++ t.owed = s.owed ∧
      (s.isRecovering = false → t.isRecovering = false) := by
  rcases react_cases hr with ⟨signals, hm, rfl⟩ | ⟨post, -, hd, -, -⟩ |
    ⟨line, state, cancelled, handles, recovered, hd, rfl, rfl⟩
  · have hw := h.move hm
    exact ⟨hw.doomed, accepted_signals signals, hw.silent, hw.told, fun _ => hw.free⟩
  · exact absurd h.state hd
  · refine ⟨?_, rfl, rfl, rfl, id⟩
    rcases hd with ⟨rfl, rfl⟩ | ⟨rfl, rfl⟩
    · exact ⟨h.state, h.cancelled⟩
    · exact ⟨rfl, rfl⟩

/-- A disposed dispatcher rests only in a recovery, or when it has told everything. -/
theorem Doomed.owed_of_still (h : s.Doomed) (hr : s.isRecovering = false)
    (hs : s.step now = none) : s.owed = [] := by
  cases pause_of_step_eq_none hs with
  | waiting hp hc | writing hp hc | awaiting hp hc => simp [h.cancelled] at hc
  | recovering hp => simp [isRecovering, hp] at hr
  | closing hp | terminated hp => simp [owed, hp]

end Doomed

/-- The scheduler is disposed of, or it is told to stop neither more nor less than before. -/
def Endures (s t : Scheduler) : Prop :=
  t.Doomed ∨ t.cancelled = s.cancelled ∧ (t.state = .disposed ↔ s.state = .disposed)

section Endures

variable {s t : Scheduler} {now : Nat} {signals : List Signal}

theorem endures_of_eq (hs : t.state = s.state) (hc : t.cancelled = s.cancelled) : s.Endures t :=
  .inr ⟨hc, by rw [hs]⟩

theorem endures_orphaned (s : Scheduler) (now : Nat) (job : Job) (reason : OrphanReason)
    (closure : Option String) : s.Endures (s.orphaned now job reason closure).1 := by
  cases closure with
  | some why => exact .inl ⟨rfl, rfl⟩
  | none =>
    cases reason with
    | timeout => exact .inr ⟨rfl, SchedulerState.moveTo_idle_iff⟩
    | transportClosed => exact endures_of_eq rfl rfl

theorem endures_orphan (s : Scheduler) (now : Nat) (job : Job) (reason : OrphanReason)
    (closure : Option String) : s.Endures (s.orphan now job reason closure).1 := by
  rw [orphan_eq]
  split
  · exact s.endures_orphaned now job reason closure
  · exact endures_of_eq rfl rfl

theorem Move.endures (hm : s.Move now t signals) : s.Endures t := by
  cases hm with
  | refuse | abandon | cancelWaiting | endWaiting | cancelWriting | cancelAwaiting =>
    exact .inl ⟨rfl, rfl⟩
  | unencodable hp ht hd | unframeable hp ht hd | begin hp ht hd =>
    exact .inr ⟨(takeNext_pending ht).2.2, by simp [hd]⟩
  | settle hp ht hr => exact endures_of_eq (by simp [drain_eq]) (by simp [drain_eq])
  | fetchWaiting hp hc hf | fetchAwaiting hp hc hi hd hf =>
    obtain ⟨-, hstate, hcancelled⟩ := fetch_phase hf
    exact endures_of_eq hstate hcancelled
  | failWriting | answered => exact .inr ⟨rfl, SchedulerState.moveTo_idle_iff⟩
  | stall | expire => exact s.endures_orphan ..
  | @endAwaiting job inbox line why =>
    exact ({ s with inbox := inbox, line := line } : Scheduler).endures_orphan ..
  | recover => exact s.endures_orphaned ..
  | readWaiting | unsolicited | write | readAwaiting | discard | terminate =>
    exact endures_of_eq rfl rfl

theorem endures_react {act : Act} {events : List Event} (hr : s.react now act = (t, events)) :
    s.Endures t := by
  rcases react_cases hr with ⟨signals, hm, -⟩ | ⟨post, -, -, rfl, -⟩ |
    ⟨line, state, cancelled, handles, recovered, hd, rfl, -⟩
  · exact hm.endures
  · exact endures_of_eq rfl rfl
  · rcases hd with ⟨rfl, rfl⟩ | ⟨rfl, rfl⟩
    · exact endures_of_eq rfl rfl
    · exact .inl ⟨rfl, rfl⟩

end Endures

/-- The dispatcher of a disposed scheduler was told to stop. -/
def Heeds (s : Scheduler) : Prop :=
  s.state = .disposed → s.cancelled = true

/-- Only a disposed scheduler has told its dispatcher to stop. -/
def Bides (s : Scheduler) : Prop :=
  s.cancelled = true → s.state = .disposed

section Heeds

variable {s t : Scheduler}

theorem Heeds.endures (h : s.Heeds) (ht : s.Endures t) : t.Heeds := by
  intro hd
  rcases ht with hdoomed | ⟨hcancelled, hstate⟩
  · exact hdoomed.cancelled
  · exact hcancelled.trans (h (hstate.mp hd))

theorem Bides.endures (h : s.Bides) (ht : s.Endures t) : t.Bides := by
  intro hc
  rcases ht with hdoomed | ⟨hcancelled, hstate⟩
  · exact hdoomed.state
  · exact hstate.mpr (h (hcancelled.symm.trans hc))

end Heeds

end Scheduler

namespace Course

theorem run_heeds (config : SchedulerConfig) (line : Line) (acts : List (Nat × Act)) :
    ((start config line).run acts).scheduler.Heeds := by
  refine run_induction (P := fun c => c.scheduler.Heeds) ?_ ?_ acts
  · intro hd
    cases hd
  · intro c ms act h
    exact h.endures (Scheduler.endures_react rfl)

theorem run_bides (config : SchedulerConfig) (line : Line) (acts : List (Nat × Act)) :
    ((start config line).run acts).scheduler.Bides := by
  refine run_induction (P := fun c => c.scheduler.Bides) ?_ ?_ acts
  · intro hc
    cases hc
  · intro c ms act h
    exact h.endures (Scheduler.endures_react rfl)

theorem run_doomed {config : SchedulerConfig} {line : Line} {acts : List (Nat × Act)}
    (h : ((start config line).run acts).scheduler.state = .disposed) :
    ((start config line).run acts).scheduler.Doomed :=
  ⟨h, run_heeds config line acts h⟩

variable {c : Course}

/-- Whatever happens after disposal, only what is owed is told, and no recovery begins. -/
theorem doomed_run (h : c.scheduler.Doomed) (later : List (Nat × Act)) :
    (c.run later).scheduler.Doomed ∧
      (c.scheduler.isRecovering = false → (c.run later).scheduler.isRecovering = false) ∧
      ∃ events, (c.run later).log = c.log ++ events ∧ accepted events = [] ∧ sent events = [] ∧
        outcomes events ++ (c.run later).scheduler.owed = c.scheduler.owed := by
  refine run_induction (P := fun e => e.scheduler.Doomed ∧
    (c.scheduler.isRecovering = false → e.scheduler.isRecovering = false) ∧
    ∃ events, e.log = c.log ++ events ∧ accepted events = [] ∧ sent events = [] ∧
      outcomes events ++ e.scheduler.owed = c.scheduler.owed) ?_ ?_ later
  · exact ⟨h, id, [], by simp⟩
  · rintro e ms act ⟨he, hfree, events, hlog, haccepted, hsent, howed⟩
    rcases hr : e.scheduler.react (e.now + ms) act with ⟨t, next⟩
    obtain ⟨ht, ha, hs, ho, hf⟩ := he.react hr
    have hafter : e.after ms act = ⟨t, e.now + ms, e.log ++ next⟩ := by simp [after, hr]
    rw [hafter]
    refine ⟨ht, fun hc => hf (hfree hc), events ++ next, ?_, ?_, ?_, ?_⟩
    · simp [hlog]
    · simp [haccepted, ha]
    · simp [hsent, hs]
    · rw [outcomes_append, List.append_assoc, ho, howed]

theorem owed_after_move (h : c.scheduler.Doomed) (hf : c.scheduler.isRecovering = false)
    (ms : Nat) : (c.after ms .move).scheduler.owed = [] := by
  cases hs : c.scheduler.step (c.now + ms) with
  | none =>
    rw [after_move_of_still hs]
    exact h.owed_of_still hf hs
  | some result =>
    rw [after_move_of_step hs]
    exact (h.move (Scheduler.move_of_step hs)).settles hf

/-- Without a recovery one move of the dispatcher tells all that is owed. -/
theorem owed_after_any_move (h : c.scheduler.Doomed) (hf : c.scheduler.isRecovering = false)
    {later : List (Nat × Act)} {ms : Nat} (hm : (ms, .move) ∈ later) :
    (c.run later).scheduler.owed = [] := by
  obtain ⟨early, late, rfl⟩ := List.append_of_mem hm
  obtain ⟨hearly, hfree, -⟩ := doomed_run h early
  have hnone := owed_after_move hearly (hfree hf) ms
  have hdoomed : ((c.run early).after ms .move).scheduler.Doomed :=
    (doomed_run hearly [(ms, .move)]).1
  obtain ⟨-, -, events, -, -, -, howed⟩ := doomed_run hdoomed late
  rw [hnone] at howed
  rw [run_append]
  exact (List.append_eq_nil_iff.mp howed).2

end Course

namespace Bench

variable (b : Bench)

theorem tellPost_fleet (link : LinkId) : (b.tellPost link).fleet = b.fleet := by
  unfold tellPost tell call
  repeat' split
  all_goals rfl

theorem tellPost_records (link : LinkId) : (b.tellPost link).records = b.records := by
  unfold tellPost tell call
  repeat' split
  all_goals rfl

theorem release_records (link : LinkId) : (b.release link).records = b.records := by
  simp only [release]
  split
  · exact tellPost_records _ link
  · rfl

theorem release_fleet (link : LinkId) :
    (b.release link).fleet = b.fleet.update link (·.release) := by
  simp only [release]
  split
  · exact tellPost_fleet _ link
  · rfl

/-- A caller that sends over a link is refused in the same move, and nothing is queued for it. -/
def Refuses (link : LinkId) (s : Scheduler) : Prop :=
  ∀ index caller, b.callers[index]? = some caller → caller.phase = .fresh →
    caller.aborted = false → caller.link = link →
    ∃ b', b.moveCaller index = some b' ∧
      b'.records = ⟨b.now, .resolved (b.portName link) caller.name (.error .disposed)⟩ ::
        b.records ∧
      (b'.fleet.scheduler? link).map (·.queued) = some s.queued

theorem refuses_disposed {link : LinkId} {s : Scheduler} (hs : b.fleet.scheduler? link = some s)
    (hd : s.state = .disposed) : b.Refuses link s := by
  rintro index caller hc hp ha rfl
  have hnone : b.fleet.submit caller.link b.now caller.request = none := by
    simp [Fleet.submit, hs, Scheduler.submit, hd, SchedulerState.isDisposed]
  refine ⟨(b.record (.resolved (b.portName caller.link) caller.name (.error .disposed))).endCaller
    index caller, ?_, ?_, ?_⟩
  · simp [moveCaller, hc, hp, ha, hnone]
  · rw [endCaller, release_records]
    rfl
  · rw [endCaller, release_fleet, Fleet.scheduler?_update, if_pos rfl]
    change ((b.fleet.scheduler? caller.link).map _).map _ = _
    rw [hs]
    rfl

end Bench

/-- Once a scheduler is disposed, however that came about, it stays so. The transport accepts no
further byte from it, no request is accepted, a caller is refused at once and changes no counter,
and disposing of it again changes nothing. -/
theorem disposal_is_final (config : SchedulerConfig) (line : Line) (acts later : List (Nat × Act))
    (h : ((Course.start config line).run acts).scheduler.state = .disposed) :
    let c := (Course.start config line).run acts
    let e := c.run later
    e.scheduler.state = .disposed ∧ sent e.log = sent c.log ∧ accepted e.log = accepted c.log ∧
      (∀ ms, (e.after ms .move).scheduler.line.outgoing.bytes =
        e.scheduler.line.outgoing.bytes) ∧
      (∀ ms r, e.after ms (.submit r) = { e with now := e.now + ms }) ∧
      (∀ ms, e.after ms .dispose = { e with now := e.now + ms }) ∧
      ∀ (b : Bench) link, b.fleet.scheduler? link = some e.scheduler →
        b.Refuses link e.scheduler := by
  intro c e
  have hc : c.scheduler.Doomed := Course.run_doomed h
  obtain ⟨he, -, events, hlog, haccepted, hsent, -⟩ := Course.doomed_run hc later
  change e.scheduler.Doomed at he
  change e.log = c.log ++ events at hlog
  refine ⟨he.state, ?_, ?_, fun ms => ?_, fun ms r => ?_, fun ms => ?_, fun b link hb => ?_⟩
  · simp [hlog, hsent]
  · simp [hlog, haccepted]
  · cases hs : e.scheduler.step (e.now + ms) with
    | none => rw [Course.after_move_of_still hs]
    | some result =>
      have hm := Scheduler.move_of_step hs
      have hout := hm.outgoing
      rw [(he.move hm).silent, List.append_nil] at hout
      rw [Course.after_move_of_step hs]
      exact hout
  · simp [Course.after, Scheduler.react, Scheduler.submit, he.state, SchedulerState.isDisposed]
  · have hsame : e.scheduler.dispose = e.scheduler := by
      rw [Scheduler.dispose, ← he.state, ← he.cancelled]
    simp [Course.after, Scheduler.react, hsame]
  · exact b.refuses_disposed hb he.state

/-- Half of a frame fits the pipe; the rest is not written though there is room for it later. -/
theorem rest_of_frame_never_written :
    ∃ acts later, let c := (Course.start {} (.ofCapacity 4)).run acts
      c.scheduler.state = .disposed ∧ (sent c.log).length = 4 ∧
        (c.run later).scheduler.line.outgoing.bytes = [] ∧
        sent (c.run later).log = sent c.log := by
  let r : Request := { id := "", kind := .direct, payload := [] }
  let empties := fun l : Line => { l with outgoing := { l.outgoing with bytes := [] } }
  let acts := [Act.submit r, .move, .move, .dispose].map ((0, ·))
  let later := [Act.rewire empties, .move, .move].map ((0, ·))
  have hd : ((Course.start {} (.ofCapacity 4)).run acts).scheduler.state = .disposed := by decide
  have hfour : (sent ((Course.start {} (.ofCapacity 4)).run acts).log).length = 4 := by decide
  have hempty : (((Course.start {} (.ofCapacity 4)).run acts).run
      later).scheduler.line.outgoing.bytes = [] := by decide
  exact ⟨acts, later, hd, hfour, hempty,
    (disposal_is_final {} (.ofCapacity 4) acts later hd).2.1⟩

/-- All that was accepted and not resolved before disposal is told of it and of nothing else, at the
latest when the dispatcher rests and no recovery runs. -/
def FailsDisposed (c d : Course) : Prop :=
  ∀ post ∈ unresolved c.log, ∀ later, let e := d.run later
    (∀ outcome, (post, outcome) ∈ outcomes e.log → outcome = .error .disposed) ∧
      (e.scheduler.step e.now = none → e.scheduler.isRecovering = false →
        (post, .error .disposed) ∈ outcomes e.log)

namespace Course

variable {c d : Course}

/-- Disposal leaves something to be told to all that is unresolved. -/
theorem owed_perm_unresolved (config : SchedulerConfig) (line : Line) (acts : List (Nat × Act))
    (ms : Nat) :
    let c := (start config line).run acts
    ((c.after ms .dispose).scheduler.owed.map (·.1)).Perm (unresolved c.log) := by
  intro c
  obtain ⟨left, ha⟩ := run_accounts config line acts
  have howed : (c.after ms .dispose).scheduler.owed.map (·.1) =
      c.scheduler.inHand ++ c.scheduler.pending :=
    Scheduler.owed_submissions ha.pending_of_isStopped
  rw [howed]
  exact ha.unresolved_perm.symm

theorem not_told_of_unresolved {post : Submission} (h : post ∈ unresolved c.log)
    (outcome : Outcome) : (post, outcome) ∉ outcomes c.log := by
  intro ho
  have hr : post ∉ resolved c.log := by simpa using (List.mem_filter.mp h).2
  exact hr (List.mem_map.mpr ⟨_, ho, rfl⟩)

theorem failsDisposed_of_free (hd : d.scheduler.Doomed) (hf : d.scheduler.isRecovering = false)
    (hlog : d.log = c.log)
    (howed : (d.scheduler.owed.map (·.1)).Perm (unresolved c.log)) : FailsDisposed c d := by
  intro post hpost later e
  obtain ⟨he, -, events, helog, -, -, htold⟩ := doomed_run hd later
  change e.log = d.log ++ events at helog
  have hnew : ∀ outcome, (post, outcome) ∈ outcomes e.log ↔ (post, outcome) ∈ outcomes events := by
    intro outcome
    have hold := not_told_of_unresolved hpost outcome
    simp [helog, hlog, hold]
  have hsub : ∀ told ∈ outcomes events, told ∈ d.scheduler.owed := by
    intro told hm
    rw [← htold]
    exact List.mem_append_left _ hm
  refine ⟨fun outcome ho => ?_, fun hs hfree => ?_⟩
  · exact Scheduler.owed_disposed hf (hsub _ ((hnew outcome).mp ho))
  · have hnone : (d.run later).scheduler.owed = [] := he.owed_of_still hfree hs
    rw [hnone, List.append_nil] at htold
    obtain ⟨⟨p, outcome⟩, hm, rfl⟩ := List.mem_map.mp (howed.symm.subset hpost)
    obtain rfl : outcome = .error .disposed := Scheduler.owed_disposed hf hm
    rw [hnew, htold]
    exact hm

/-- A recovery that ends after disposal tells its request what it always tells. -/
theorem orphaned_after_dispose (hd : d.scheduler.Doomed) {job : Job} {reason : OrphanReason}
    {closure : Option String} (hp : d.scheduler.phase = .recovering job reason closure) :
    (job.submission, .error (.orphaned job.submission.request.id reason)) ∈
      outcomes (d.run [(0, .endRecovery), (0, .move), (0, .move)]).log := by
  let ended := d.run [(0, .endRecovery)]
  have hended : ended.scheduler.Doomed := (doomed_run hd [(0, .endRecovery)]).1
  have hphase : ended.scheduler.phase = .recovering job reason closure := hp
  have hfree : (ended.after 0 .move).scheduler.isRecovering = false := by
    have hs : ended.scheduler.step (ended.now + 0) =
        some (ended.scheduler.endOrphan (ended.now + 0) job reason closure) := by
      simp only [Scheduler.step, hphase]
      rfl
    rw [after_move_of_step hs]
    exact (hended.move (Scheduler.move_of_step hs)).free
  have hdoomed : (ended.after 0 .move).scheduler.Doomed := (doomed_run hended [(0, .move)]).1
  have hnone := owed_after_move hdoomed hfree 0
  obtain ⟨-, -, events, hlog, -, -, htold⟩ :=
    doomed_run hd [(0, .endRecovery), (0, .move), (0, .move)]
  change outcomes events ++ ((ended.after 0 .move).after 0 .move).scheduler.owed = _ at htold
  rw [hnone, List.append_nil] at htold
  rw [hlog, outcomes_append, htold]
  apply List.mem_append_right
  simp [Scheduler.owed, hp]

end Course

/-- What disposal leaves to be told is told to all that is unresolved, once, whatever happens later,
and without a recovery by the next move of the dispatcher. So all of it is told that the scheduler
is disposed exactly if no recovery is under way: a recovery goes on, its request is then told that
it is orphaned, and those that wait behind a closure of the link are told of the closure. -/
theorem dispose_fails_unresolved_iff (config : SchedulerConfig) (line : Line)
    (acts : List (Nat × Act)) (ms : Nat) :
    let c := (Course.start config line).run acts
    let d := c.after ms .dispose
    (d.scheduler.owed.map (·.1)).Perm (unresolved c.log) ∧
      (∀ later, let e := d.run later
        outcomes e.log ++ e.scheduler.owed = outcomes c.log ++ d.scheduler.owed ∧
          (e.scheduler.step e.now = none → e.scheduler.isRecovering = false →
            e.scheduler.owed = []) ∧
          (c.scheduler.isRecovering = false → (∃ wait, (wait, .move) ∈ later) →
            e.scheduler.owed = [])) ∧
      (FailsDisposed c d ↔ c.scheduler.isRecovering = false) := by
  intro c d
  have hlog : d.log = c.log := List.append_nil _
  have hd : d.scheduler.Doomed := ⟨rfl, rfl⟩
  have howed : (d.scheduler.owed.map (·.1)).Perm (unresolved c.log) :=
    Course.owed_perm_unresolved config line acts ms
  refine ⟨howed, fun later => ?_, fun hfails => ?_, fun hf => ?_⟩
  · intro e
    obtain ⟨he, -, events, helog, -, -, htold⟩ := Course.doomed_run hd later
    refine ⟨?_, fun hs hfree => he.owed_of_still hfree hs, ?_⟩
    · change outcomes (d.run later).log ++ (d.run later).scheduler.owed = _
      rw [helog, hlog, outcomes_append, List.append_assoc, htold]
    · rintro hf ⟨wait, hm⟩
      exact Course.owed_after_any_move hd hf hm
  · cases hp : c.scheduler.phase with
    | recovering job reason closure =>
      have hphase : d.scheduler.phase = .recovering job reason closure := hp
      have hmem : job.submission ∈ unresolved c.log := by
        apply howed.subset
        simp [Scheduler.owed, hphase]
      have htold := Course.orphaned_after_dispose hd hphase
      cases (hfails job.submission hmem _).1 _ htold
    | _ => simp [Scheduler.isRecovering, hp]
  · exact Course.failsDisposed_of_free hd hf hlog howed

/-- One request is on the wire and one waits behind it. -/
theorem dispose_fails_both_requests :
    ∃ acts, let c := (Course.start {} (.ofCapacity 64)).run acts
      (unresolved c.log).length = 2 ∧ FailsDisposed c (c.after 0 .dispose) := by
  let r : Request := { id := "", kind := .direct, payload := [] }
  let acts := [Act.submit r, .move, .move, .submit r, .move].map ((0, ·))
  have htwo : (unresolved ((Course.start {} (.ofCapacity 64)).run acts).log).length = 2 := by
    decide
  have hf : ((Course.start {} (.ofCapacity 64)).run acts).scheduler.isRecovering = false := by
    decide
  exact ⟨acts, htwo, (dispose_fails_unresolved_iff {} (.ofCapacity 64) acts 0).2.2.mpr hf⟩

/-- The link closes under the first request, and disposal comes while its recovery runs. Neither the
first request nor the second is told of it. -/
theorem recovery_outlives_disposal :
    ∃ acts later first second, let c := (Course.start {} (.ofCapacity 64)).run acts
      let d := c.after 0 .dispose
      unresolved c.log = [first, second] ∧
        outcomes (d.run later).log =
          [(first, .error (.orphaned "r1" .transportClosed)),
            (second, .error (.transport "link closed: end of stream"))] ∧
        ¬ FailsDisposed c d := by
  let r : Request := { id := "r1", kind := .direct, payload := [170, 187] }
  let r' : Request := { id := "r2", kind := .direct, payload := [204, 221] }
  let acts := [Act.submit r, .move, .move, .rewire Line.close, .move, .move,
    .submit r'].map ((0, ·))
  let later := [Act.endRecovery, .move].map ((300, ·))
  let c := (Course.start {} (.ofCapacity 64)).run acts
  have hopen : unresolved c.log = [⟨0, r, 0⟩, ⟨1, r', 0⟩] := by decide +kernel
  have htold : outcomes ((c.after 0 .dispose).run later).log =
      [(⟨0, r, 0⟩, .error (.orphaned "r1" .transportClosed)),
        (⟨1, r', 0⟩, .error (.transport "link closed: end of stream"))] := by decide +kernel
  refine ⟨acts, later, ⟨0, r, 0⟩, ⟨1, r', 0⟩, hopen, htold, fun hfails => ?_⟩
  have hmem : (⟨0, r, 0⟩ : Submission) ∈ unresolved c.log := by simp [hopen]
  have hfirst := (hfails _ hmem later).1 (.error (.orphaned "r1" .transportClosed))
    (by rw [htold]; exact List.mem_cons_self)
  cases hfirst

end BrickHost
