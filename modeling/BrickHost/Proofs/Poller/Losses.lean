import BrickHost.Proofs.Poller.Launch
import BrickHost.Proofs.Poller.Patrol
import BrickHost.Proofs.Scheduler.Disposal

/-! What becomes of a loss when the poller may be stopped at any moment. A session that failed its
probe is removed at once, but its loss is marked and reported only when its dispatcher has ended:
then all of it at once, and once. -/

namespace BrickHost

namespace Scheduler

/-- Makes no move, runs no recovery, and waits for no moment. -/
structure Rests (s : Scheduler) (now : Nat) : Prop where
  still : s.step now = none
  free : s.isRecovering = false
  unalarmed : s.alarm? = none

theorem Doomed.isTerminated {s : Scheduler} {now : Nat} (h : s.Doomed) (hr : s.Rests now) :
    s.isTerminated = true := by
  cases pause_of_step_eq_none hr.still with
  | waiting hp hc | writing hp hc | awaiting hp hc => simp [h.cancelled] at hc
  | recovering hp =>
    have hf := hr.free
    simp [isRecovering, hp] at hf
  | closing hp =>
    have hs := hr.still
    have ha := hr.unalarmed
    by_cases hl : s.line.closing = .stalls
    · simp [alarm?, hp, hl] at ha
    · simp [step, hp, hl] at hs
  | terminated hp => simp [Scheduler.isTerminated, hp]

end Scheduler

namespace Poller

variable {κ : Type} {p q : Poller} {f g : Fleet κ} {now : Nat} {stamp : String}
  {signals : List PollerSignal}

/-- One if the session of the brick was removed and the loss is not dealt with yet. -/
def pending (p : Poller) (id : String) : Nat :=
  match p.phase with
  | .closing brick .. => if id = brick then 1 else 0
  | _ => 0

end Poller

def PollerSignal.isLossOf (id : String) : PollerSignal → Bool
  | .lost brick _ => brick == id
  | _ => false

namespace Poller

section Moves

variable {κ : Type} {p q : Poller} {f g : Fleet κ} {now : Nat} {stamp : String}
  {signals : List PollerSignal}

theorem pending_afterLoss (p : Poller) (later : List (String × Option LinkError)) (id : String) :
    (p.afterLoss later).pending id = 0 := by
  rcases p.afterLoss_phase later with hp | hp <;> simp only [pending, hp]

/-- Nothing is refreshed but for a session that was removed, and once for each. -/
theorem Move.refreshes (hm : p.Move f now stamp q g signals) (id : String) :
    signals.count (.refreshed id) + q.pending id ≤ signals.count (.closing id) + p.pending id := by
  cases hm with
  | cancel | gather | praise | wake => simp [pending]
  | tick hp hc =>
    obtain ⟨probes, ht, -, -, hs⟩ := p.tick_spec f now
    have hz : (p.tick f now).2.2.count (.refreshed id) = 0 := by
      refine List.count_eq_zero.mpr (fun h => ?_)
      rcases hs _ h with h | ⟨_, h⟩ <;> cases h
    simp [hz, ht, pending]
  | finish hp hc =>
    obtain ⟨⟨until_, hr⟩, -, hs⟩ := p.rest_spec f now
    have hz : (p.rest f now).2.2.count (.refreshed id) = 0 := by
      refine List.count_eq_zero.mpr (fun h => ?_)
      obtain ⟨_, -, -, h⟩ := hs _ h
      cases h
    simp [hz, hr, pending]
  | @close brick e later link hp hc hf =>
    by_cases hi : id = brick <;> simp [pending, hi]
  | @writeOff brick e later hp hc hf =>
    rw [pending_afterLoss, List.count_cons_of_ne (by simp), count_refreshed, List.count_cons]
    by_cases hi : id = brick
    · simp only [hi, if_true, beq_self_eq_true]
      omega
    · simp [hi]
  | @lose brick reason link later hp hc ht =>
    rw [pending_afterLoss, count_refreshed]
    by_cases hi : id = brick <;> simp [pending, hp, hi]

theorem countP_lossSignals (p : Poller) (brick reason id : String) :
    (p.lossSignals brick reason).countP (·.isLossOf id) =
      if p.options.reportsLoss then (p.lossSignals brick reason).count (.refreshed id) else 0 := by
  unfold lossSignals
  by_cases hi : brick = id <;> cases p.options.reportsLoss <;> simp [PollerSignal.isLossOf, hi]

/-- Each refresh comes with one report, if losses are reported. -/
theorem Move.reports (hm : p.Move f now stamp q g signals) (id : String) :
    signals.countP (·.isLossOf id) =
      if p.options.reportsLoss then signals.count (.refreshed id) else 0 := by
  have hquiet : (∀ signal ∈ signals, signal.isLossOf id = false ∧ signal ≠ .refreshed id) →
      signals.countP (·.isLossOf id) =
        if p.options.reportsLoss then signals.count (.refreshed id) else 0 := by
    intro h
    have hl : signals.countP (·.isLossOf id) = 0 :=
      List.countP_eq_zero.mpr (fun signal hs => by simp [(h signal hs).1])
    have hr : signals.count (.refreshed id) = 0 :=
      List.count_eq_zero.mpr (fun hs => (h _ hs).2 rfl)
    simp [hl, hr]
  cases hm with
  | cancel | gather | praise | wake => exact hquiet (by simp)
  | close => exact hquiet (by simp [PollerSignal.isLossOf])
  | tick hp hc =>
    obtain ⟨_, -, -, -, hs⟩ := p.tick_spec f now
    refine hquiet (fun signal h => ?_)
    rcases hs _ h with rfl | ⟨_, rfl⟩ <;> simp [PollerSignal.isLossOf]
  | finish hp hc =>
    obtain ⟨-, -, hs⟩ := p.rest_spec f now
    refine hquiet (fun signal h => ?_)
    obtain ⟨_, -, -, rfl⟩ := hs _ h
    simp [PollerSignal.isLossOf]
  | writeOff => simpa [PollerSignal.isLossOf] using countP_lossSignals p _ _ id
  | lose => exact countP_lossSignals p _ _ id

/-- A move marks the record of a brick that it refreshes, and says of no other anything new. -/
theorem Move.bearing (hm : p.Move f now stamp q g signals) (hg : p.Grounded) (id : String) :
    .refreshed id ∉ signals ∧ g.registry.bearing? id = f.registry.bearing? id ∨
      .refreshed id ∈ signals ∧ ∃ e, g.registry.bearing? id =
        (f.registry.bearing? id).map fun _ => (.unavailable, some (lossReason e), none, none) := by
  have hmark : ∀ brick e, g = f.withRegistry (·.markUnavailable brick (lossReason e)) →
      (.refreshed id ∈ signals ↔ id = brick) →
      .refreshed id ∉ signals ∧ g.registry.bearing? id = f.registry.bearing? id ∨
        .refreshed id ∈ signals ∧ ∃ e, g.registry.bearing? id =
          (f.registry.bearing? id).map fun _ => (.unavailable, some (lossReason e), none, none) := by
    rintro brick e rfl hs
    rw [hs, Fleet.withRegistry_registry, Registry.bearing?_markUnavailable]
    by_cases hi : id = brick
    · exact .inr ⟨hi, e, by rw [if_pos hi, hi]⟩
    · exact .inl ⟨hi, if_neg hi⟩
  have hrefreshed : ∀ brick reason, .refreshed id ∈ p.lossSignals brick reason ↔ id = brick := by
    intro brick reason
    rw [← List.count_pos_iff, count_refreshed]
    split <;> simp_all
  cases hm with
  | cancel | gather | close | wake => exact .inl ⟨by simp, rfl⟩
  | tick =>
    refine .inl ⟨fun h => ?_, p.tick_bearing f now id⟩
    obtain ⟨_, -, -, -, hs⟩ := p.tick_spec f now
    rcases hs _ h with h | ⟨_, h⟩ <;> cases h
  | finish =>
    obtain ⟨-, hf, hs⟩ := p.rest_spec f now
    refine .inl ⟨fun h => ?_, by rw [hf]⟩
    obtain ⟨_, -, -, h⟩ := hs _ h
    cases h
  | praise => exact .inl ⟨by simp, Registry.bearing?_measure ..⟩
  | writeOff => exact hmark _ _ rfl (by simp [hrefreshed])
  | lose hp =>
    simp only [Grounded, hp] at hg
    obtain ⟨e, rfl⟩ := hg
    exact hmark _ e rfl (hrefreshed _ _)

end Moves

end Poller

inductive LookoutAct (κ : Type) where
  | poll (stamp : String)
  | drive (link : LinkId) (act : Act)
  | start (config : SchedulerConfig) (line : Line)
  /-- Others insert, replace and remove sessions and change records. -/
  | alter (change : Fleet κ → Registry κ × Pool LinkId)
  | endReconnect (brick : String)
  /-- The handle of the poller is disposed of, or dropped. -/
  | stop

structure Lookout (κ : Type) where
  fleet : Fleet κ
  poller : Poller
  now : Nat := 0
  /-- What the poller did. -/
  log : List PollerSignal := []

namespace Lookout

variable {κ : Type}

def act (c : Lookout κ) : LookoutAct κ → Lookout κ
  | .poll stamp =>
    match c.poller.step c.fleet c.now stamp with
    | none => c
    | some (p, f, signals) => { c with fleet := f, poller := p, log := c.log ++ signals }
  | .drive link act =>
    let (f, p) := c.fleet.drive c.poller c.now link act
    { c with fleet := f, poller := p }
  | .start config line => { c with fleet := (c.fleet.start { config := config, line := line }).1 }
  | .alter change =>
    let (registry, pool) := change c.fleet
    { c with fleet := { c.fleet with registry := registry, pool := pool } }
  | .endReconnect brick => { c with poller := c.poller.endReconnect brick }
  | .stop => { c with poller := c.poller.dispose }

def after (c : Lookout κ) (ms : Nat) (act : LookoutAct κ) : Lookout κ :=
  { c with now := c.now + ms }.act act

def run (c : Lookout κ) (acts : List (Nat × LookoutAct κ)) : Lookout κ :=
  acts.foldl (fun c timed => c.after timed.1 timed.2) c

/-- The poller may break down with the hook that is told of losses. -/
def start (fleet : Fleet κ) (options : PollerOptions) (interval : Duration) (fragile : Bool) :
    Lookout κ where
  fleet := fleet
  poller := { Poller.start options interval with fragile := fragile }

/-- The poller is stopped before it has said anything more. -/
def Abandons (c : Lookout κ) (later : List (Nat × LookoutAct κ)) : Prop :=
  ∃ early timed late, later = early ++ timed :: late ∧
    (timed.2 = .stop ∧ (c.run early).log = c.log)

/-- Nobody else touches what the record of the brick says. -/
def Leaves (c : Lookout κ) (id : String) (later : List (Nat × LookoutAct κ)) : Prop :=
  ∀ early timed late, later = early ++ timed :: late → ∀ change, timed.2 = .alter change →
    (change (c.run early).fleet).1.bearing? id = (c.run early).fleet.registry.bearing? id

section Runs

variable {c r : Lookout κ} {later : List (Nat × LookoutAct κ)} {timed : Nat × LookoutAct κ}
  {id : String}

theorem run_snoc (c : Lookout κ) (later : List (Nat × LookoutAct κ)) (timed : Nat × LookoutAct κ) :
    c.run (later ++ [timed]) = (c.run later).after timed.1 timed.2 := by
  simp [run]

theorem abandons_snoc_iff : r.Abandons (later ++ [timed]) ↔
    (timed.2 = .stop ∧ (r.run later).log = r.log) ∨ r.Abandons later := by
  simpa [Abandons] using exists_since_prefix_snoc_iff
    (fun early (x : Nat × LookoutAct κ) => x.2 = .stop ∧ (r.run early).log = r.log)
    (fun _ _ => True) later timed

theorem Leaves.before (h : r.Leaves id (later ++ [timed])) : r.Leaves id later := by
  rintro early x late rfl
  exact h early x (late ++ [timed]) (by simp)

theorem Leaves.last (h : r.Leaves id (later ++ [timed])) {change : Fleet κ → Registry κ × Pool LinkId}
    (ha : timed.2 = .alter change) :
    (change (r.run later).fleet).1.bearing? id = (r.run later).fleet.registry.bearing? id :=
  h later timed [] rfl change ha

end Runs

/-- What an act of others changes, of all that matters to a loss. -/
structure Aside (d e : Lookout κ) (act : LookoutAct κ) : Prop where
  log : e.log = d.log
  options : e.poller.options = d.poller.options
  phase : e.poller.phase = d.poller.phase ∨
    ∃ probes changed, d.poller.phase = .probing probes ∧ e.poller.phase = .probing changed
  cancelled : e.poller.cancelled = true ↔ act = .stop ∨ d.poller.cancelled = true
  doomed : ∀ link s, d.fleet.scheduler? link = some s → s.Doomed →
    ∃ t, e.fleet.scheduler? link = some t ∧ t.Doomed
  bearing : ∀ id, (∀ change, act = .alter change →
    (change d.fleet).1.bearing? id = d.fleet.registry.bearing? id) →
      e.fleet.registry.bearing? id = d.fleet.registry.bearing? id

theorem act_aside (d : Lookout κ) {act : LookoutAct κ} (h : ∀ stamp, act ≠ .poll stamp) :
    d.Aside (d.act act) act := by
  cases act with
  | poll stamp => exact absurd rfl (h stamp)
  | drive link act =>
    have hp := d.fleet.drive_scheduler? d.poller d.now link act
    refine ⟨rfl, ?_, ?_, ?_, fun other s hs hd => ?_, fun id _ => ?_⟩
    · rcases Poller.drive_poller_cases d.fleet d.poller d.now link act with he | ⟨_, _, -, he, -⟩
      · exact congrArg (·.options) he
      · exact congrArg (·.options) he
    · rcases Poller.drive_poller_cases d.fleet d.poller d.now link act with
        he | ⟨probes, changed, hq, he, -⟩
      · exact .inl (congrArg (·.phase) he)
      · exact .inr ⟨probes, changed, hq, congrArg (·.phase) he⟩
    · rcases Poller.drive_poller_cases d.fleet d.poller d.now link act with he | ⟨_, _, -, he, -⟩
      · simp [Lookout.act, he]
      · simp [Lookout.act, he]
    · simp only [Lookout.act, hp, hs]
      split
      · exact ⟨_, rfl, (hd.react rfl).1⟩
      · exact ⟨s, rfl, hd⟩
    · exact congrArg (·.bearing? id) (d.fleet.drive_registry ..)
  | start config line =>
    refine ⟨rfl, rfl, .inl rfl, by simp [Lookout.act], fun link s hs hd => ⟨s, ?_, hd⟩,
      fun _ _ => rfl⟩
    have hl : link ≠ d.fleet.schedulers.length := by
      rintro rfl
      simp [Fleet.scheduler?] at hs
    exact (d.fleet.start_scheduler? _ link).trans ((if_neg hl).trans hs)
  | alter change =>
    exact ⟨rfl, rfl, .inl rfl, by simp [Lookout.act], fun _ s hs hd => ⟨s, hs, hd⟩,
      fun id h => h change rfl⟩
  | endReconnect brick =>
    exact ⟨rfl, rfl, .inl rfl, by simp [Lookout.act, Poller.endReconnect],
      fun _ s hs hd => ⟨s, hs, hd⟩, fun _ _ => rfl⟩
  | stop =>
    exact ⟨rfl, rfl, .inl rfl, by simp [Lookout.act, Poller.dispose],
      fun _ s hs hd => ⟨s, hs, hd⟩, fun _ _ => rfl⟩

/-- What has become of a loss since the session was removed. -/
inductive Stage (r d : Lookout κ) (later : List (Nat × LookoutAct κ)) (brick reason : String)
    (link : LinkId) : Prop
  | waiting {verdicts : List (String × Option LinkError)} {s : Scheduler}
      (hp : d.poller.phase = .closing brick reason link verdicts) (hl : d.log = r.log)
      (hs : d.fleet.scheduler? link = some s) (hd : s.Doomed)
      (ha : r.Abandons later ↔ d.poller.cancelled = true)
      (hb : r.Leaves brick later →
        d.fleet.registry.bearing? brick = r.fleet.registry.bearing? brick)
  | abandoned (hp : d.poller.phase = .ended) (hl : d.log = r.log) (ha : r.Abandons later)
      (hb : r.Leaves brick later →
        d.fleet.registry.bearing? brick = r.fleet.registry.bearing? brick)
  | handled {more : List PollerSignal}
      (hl : d.log = r.log ++ r.poller.lossSignals brick reason ++ more) (ha : ¬ r.Abandons later)
      (hm : ∀ id, more.count (.refreshed id) + d.poller.pending id ≤ more.count (.closing id))
      (hr : ∀ id, more.countP (·.isLossOf id) =
        if r.poller.options.reportsLoss then more.count (.refreshed id) else 0)
      (hb : r.Leaves brick later → ∃ e, d.fleet.registry.bearing? brick =
        (r.fleet.registry.bearing? brick).map fun _ =>
          (.unavailable, some (Poller.lossReason e), none, none))

section Stage

variable {r d e : Lookout κ} {later : List (Nat × LookoutAct κ)} {timed : Nat × LookoutAct κ}
  {brick reason : String} {link : LinkId}

theorem log_ne_of_handled {p : Poller} {log more : List PollerSignal}
    (h : d.log = log ++ p.lossSignals brick reason ++ more) : d.log ≠ log := by
  intro he
  have hl := congrArg List.length (he.symm.trans h)
  simp only [List.length_append, Poller.lossSignals, List.length_cons] at hl
  omega

/-- Others may stop the poller, and may change the record if they do not leave it alone. -/
theorem Stage.aside (hf : d.fleet = (r.run later).fleet) (hd : d.log = (r.run later).log)
    (h : r.Stage d later brick reason link) (ha : d.Aside e timed.2) :
    r.Stage e (later ++ [timed]) brick reason link := by
  have hsame : r.Leaves brick (later ++ [timed]) →
      e.fleet.registry.bearing? brick = d.fleet.registry.bearing? brick := by
    intro hl
    refine ha.bearing brick (fun _ hc => ?_)
    rw [hf]
    exact hl.last hc
  cases h with
  | @waiting verdicts s hp hl hs hdoomed habandons hb =>
    obtain ⟨t, ht, hdoomed⟩ := ha.doomed link s hs hdoomed
    have hphase : e.poller.phase = .closing brick reason link verdicts := by
      rcases ha.phase with he | ⟨probes, _, hq, -⟩
      · exact he.trans hp
      · cases hp.symm.trans hq
    refine .waiting hphase (ha.log.trans hl) ht hdoomed ?_
      (fun h => (hsame h).trans (hb h.before))
    rw [abandons_snoc_iff, ha.cancelled, habandons, ← hd]
    simp [hl]
  | abandoned hp hl habandons hb =>
    refine .abandoned ?_ (ha.log.trans hl) (abandons_snoc_iff.mpr (.inr habandons))
      (fun h => (hsame h).trans (hb h.before))
    rcases ha.phase with he | ⟨probes, _, hq, -⟩
    · exact he.trans hp
    · cases hp.symm.trans hq
  | handled hl habandons hm hr hb =>
    refine .handled (ha.log.trans hl) ?_ (fun id => ?_) hr (fun h => ?_)
    · rw [abandons_snoc_iff, not_or, ← hd]
      exact ⟨fun hs => log_ne_of_handled hl hs.2, habandons⟩
    · have hpending : e.poller.pending id = d.poller.pending id := by
        rcases ha.phase with he | ⟨_, _, hq, he⟩
        · simp only [Poller.pending, he]
        · simp only [Poller.pending, he, hq]
      rw [hpending]
      exact hm id
    · rw [hsame h]
      exact hb h.before

/-- The poller goes on, unless it was stopped. -/
theorem Stage.poll {stamp : String} {q : Poller} {g : Fleet κ} {signals : List PollerSignal}
    (hgrounded : d.poller.Grounded) (hkept : d.poller.options = r.poller.options)
    (h : r.Stage d later brick reason link)
    (hm : d.poller.Move d.fleet d.now stamp q g signals) (hact : timed.2 ≠ .stop) :
    r.Stage { d with fleet := g, poller := q, log := d.log ++ signals } (later ++ [timed]) brick
      reason link := by
  have habandons : r.Abandons (later ++ [timed]) ↔ r.Abandons later := by
    rw [abandons_snoc_iff]
    simp [hact]
  cases h with
  | @waiting verdicts s hp hl hs hdoomed ha hb =>
    cases hm with
    | cancel _ hc =>
      exact .abandoned rfl ((List.append_nil _).trans hl) (habandons.mpr (ha.mpr hc))
        (fun h => hb h.before)
    | @lose _ _ _ later' hp' hc ht =>
      cases hp.symm.trans hp'
      simp only [Poller.Grounded, hp] at hgrounded
      obtain ⟨e, rfl⟩ := hgrounded
      have hlog : d.log ++ d.poller.lossSignals brick (Poller.lossReason e) =
          r.log ++ r.poller.lossSignals brick (Poller.lossReason e) ++ [] := by
        simp [hl, Poller.lossSignals, hkept]
      refine .handled hlog ?_ (fun id => ?_) (fun id => by simp) (fun h => ⟨e, ?_⟩)
      · rw [habandons, ha, hc]
        exact Bool.false_ne_true
      · simp [Poller.pending_afterLoss]
      · rw [← hb h.before]
        exact (Registry.bearing?_markUnavailable ..).trans (if_pos rfl)
    | tick hp' | gather hp' | finish hp' | praise hp' | close hp' | writeOff hp' | wake hp' =>
      cases hp.symm.trans hp'
  | abandoned hp hl ha hb =>
    cases hm with
    | cancel he => simp [Poller.hasEnded, hp] at he
    | tick hp' | gather hp' | finish hp' | praise hp' | close hp' | writeOff hp' | lose hp'
    | wake hp' => cases hp.symm.trans hp'
  | @handled more hl ha hcount hreport hb =>
    have hlog : d.log ++ signals =
        r.log ++ r.poller.lossSignals brick reason ++ (more ++ signals) := by
      simp only [hl, List.append_assoc]
    refine .handled hlog (mt habandons.mp ha) (fun id => ?_) (fun id => ?_) (fun h => ?_)
    · have hc := hcount id
      have hn := hm.refreshes id
      simp only [List.count_append]
      omega
    · rw [List.countP_append, List.count_append, hreport, hm.reports, hkept]
      split <;> rfl
    · obtain ⟨e, he⟩ := hb h.before
      rcases hm.bearing hgrounded brick with ⟨-, hsame⟩ | ⟨-, e', hmarked⟩
      · exact ⟨e, hsame.trans he⟩
      · exact ⟨e', by rw [hmarked, he, Option.map_map]; rfl⟩

theorem Stage.act (hf : d.fleet = (r.run later).fleet) (hd : d.log = (r.run later).log)
    (hgrounded : d.poller.Grounded) (hkept : d.poller.options = r.poller.options)
    (h : r.Stage d later brick reason link) (ms : Nat) (act : LookoutAct κ) :
    r.Stage (d.act act) (later ++ [(ms, act)]) brick reason link := by
  by_cases hp : ∃ stamp, act = .poll stamp
  · obtain ⟨stamp, rfl⟩ := hp
    cases hs : d.poller.step d.fleet d.now stamp with
    | none =>
      simp only [Lookout.act, hs]
      exact h.aside hf hd ⟨rfl, rfl, .inl rfl, by simp, fun _ s hs hd => ⟨s, hs, hd⟩, fun _ _ => rfl⟩
    | some result =>
      simp only [Lookout.act, hs]
      exact h.poll hgrounded hkept (Poller.move_of_step hs) (by simp)
  · exact h.aside hf hd (act_aside d fun stamp he => hp ⟨stamp, he⟩)

end Stage

section Run

variable {c r : Lookout κ} {later : List (Nat × LookoutAct κ)} {brick reason : String}
  {link : LinkId} {ms : Nat} {stamp : String} {s : Scheduler}

end Run

section Runs

end Runs

end Lookout

end BrickHost
