import Mathlib.Tactic.Tauto
import BrickHost.Proofs.Monitor.Rest

/-! Sessions against records. The pool and the registry change one after the other, so that a brick
can have a session and a record that does not expect one. How that begins and how it ends. -/

namespace BrickHost

namespace Fleet

variable {κ : Type}

/-- The pool holds a session of a brick that is not expected to be live. -/
def Stray (f : Fleet κ) (id : String) : Prop :=
  (f.pool.find? id).isSome = true ∧ ¬ Poller.IsLive f id

def IsReady (f : Fleet κ) (id : String) : Prop :=
  ∃ reason, f.registry.standing? id = some (.ready, reason)

section Changes

variable {f g : Fleet κ} {brick : String}

theorem stray_congr {id : String} (hp : g.pool.find? id = f.pool.find? id)
    (hs : g.registry.standing? id = f.registry.standing? id) : g.Stray id ↔ f.Stray id := by
  unfold Stray Poller.IsLive
  rw [hp, hs]

/-- A brick that is not expected to be live any more is stray if it has a session. -/
theorem stray_marked_iff (hp : g.pool = f.pool) (hb : ¬ Poller.IsLive g brick)
    (hs : ∀ id, id ≠ brick → g.registry.standing? id = f.registry.standing? id) (id : String) :
    g.Stray id ↔ (id = brick ∧ (f.pool.find? id).isSome = true) ∨ f.Stray id := by
  by_cases hi : id = brick
  · constructor
    · intro h
      exact .inl ⟨hi, hp ▸ h.1⟩
    · intro h
      have hsession : (f.pool.find? id).isSome = true := h.elim (·.2) (·.1)
      exact ⟨hp ▸ hsession, hi ▸ hb⟩
  · rw [stray_congr (by rw [hp]) (hs id hi)]
    simp [hi]

theorem stray_cleared_iff (hb : ¬ g.Stray brick)
    (hp : ∀ id, id ≠ brick → g.pool.find? id = f.pool.find? id)
    (hs : ∀ id, id ≠ brick → g.registry.standing? id = f.registry.standing? id) (id : String) :
    g.Stray id ↔ f.Stray id ∧ id ≠ brick := by
  by_cases hi : id = brick
  · exact ⟨fun h => absurd (hi ▸ h) hb, fun h => absurd hi h.2⟩
  · rw [stray_congr (hp id hi) (hs id hi)]
    simp [hi]

theorem stray_markUnavailable_iff (f : Fleet κ) (brick reason id : String) :
    (f.withRegistry (·.markUnavailable brick reason)).Stray id ↔
      (id = brick ∧ (f.pool.find? id).isSome = true) ∨ f.Stray id := by
  have hs := f.registry.standing?_markUnavailable brick reason
  refine stray_marked_iff (f := f) (g := f.withRegistry (·.markUnavailable brick reason)) rfl ?_
    (fun other ho => (hs other).trans (if_neg ho)) id
  rintro ⟨standing, hm, hl⟩
  have hmap := ((hs brick).trans (if_pos rfl)).symm.trans hm
  obtain ⟨_, -, rfl⟩ := Option.map_eq_some_iff.mp hmap
  cases hl

theorem stray_markError_iff (f : Fleet κ) (brick reason id : String) :
    (f.withRegistry (·.markError brick reason)).Stray id ↔
      (id = brick ∧ (f.pool.find? id).isSome = true) ∨ f.Stray id := by
  have hs := f.registry.standing?_markError brick reason
  refine stray_marked_iff (f := f) (g := f.withRegistry (·.markError brick reason)) rfl ?_
    (fun other ho => (hs other).trans (if_neg ho)) id
  rintro ⟨standing, hm, hl⟩
  cases ((hs brick).trans (if_pos rfl)).symm.trans hm
  cases hl

theorem stray_connecting_iff (f : Fleet κ) (identity : BrickIdentity) (id : String) :
    (f.withRegistry (·.connecting identity)).Stray id ↔ f.Stray id ∧ id ≠ identity.id := by
  have hs := f.registry.standing?_connecting identity
  refine stray_cleared_iff (f := f) (g := f.withRegistry (·.connecting identity)) ?_
    (fun _ _ => rfl)
    (fun other ho => (hs other).trans (if_neg ho)) id
  exact fun h => h.2 ⟨_, (hs identity.id).trans (if_pos rfl), rfl⟩

theorem stray_open_iff (f : Fleet κ) (identity : BrickIdentity) (config : SchedulerConfig)
    (line : Line) (handle : κ) (stamp id : String) :
    (f.open identity config line handle stamp).Stray id ↔ f.Stray id ∧ id ≠ identity.id := by
  have hs := f.registry.standing?_ready identity handle handle stamp
  rw [← Desk.open_registry f identity config line] at hs
  refine stray_cleared_iff ?_ (fun other ho => (Desk.open_pool ..).trans (if_neg ho))
    (fun other ho => (hs other).trans (if_neg ho)) id
  exact fun h => h.2 ⟨_, (hs identity.id).trans (if_pos rfl), rfl⟩

theorem stray_removeSession_iff (f : Fleet κ) (brick id : String) :
    (f.removeSession brick).1.Stray id ↔ f.Stray id ∧ id ≠ brick := by
  have hp := f.removeSession_pool brick
  refine stray_cleared_iff ?_ (fun other ho => (hp other).trans (if_neg ho))
    (fun other _ => by rw [removeSession_registry]) id
  intro h
  have hsome := h.1
  rw [hp, if_pos rfl] at hsome
  cases hsome

theorem isReady_congr {id : String}
    (hs : g.registry.standing? id = f.registry.standing? id) : g.IsReady id ↔ f.IsReady id := by
  unfold IsReady
  rw [hs]

theorem ready_elsewhere (hb : ¬ g.IsReady brick)
    (hs : ∀ id, id ≠ brick → g.registry.standing? id = f.registry.standing? id) {id : String}
    (h : g.IsReady id) : id ≠ brick ∧ f.IsReady id := by
  have hi : id ≠ brick := by
    rintro rfl
    exact hb h
  exact ⟨hi, (isReady_congr (hs id hi)).mp h⟩

theorem ready_of_markUnavailable {reason id : String}
    (h : (f.withRegistry (·.markUnavailable brick reason)).IsReady id) :
    id ≠ brick ∧ f.IsReady id := by
  have hs := f.registry.standing?_markUnavailable brick reason
  refine ready_elsewhere ?_ (fun other ho => (hs other).trans (if_neg ho)) h
  rintro ⟨note, hm⟩
  have hmap := ((hs brick).trans (if_pos rfl)).symm.trans hm
  obtain ⟨_, -, he⟩ := Option.map_eq_some_iff.mp hmap
  cases he

theorem ready_of_markError {reason id : String}
    (h : (f.withRegistry (·.markError brick reason)).IsReady id) : id ≠ brick ∧ f.IsReady id := by
  have hs := f.registry.standing?_markError brick reason
  refine ready_elsewhere ?_ (fun other ho => (hs other).trans (if_neg ho)) h
  rintro ⟨note, hm⟩
  cases ((hs brick).trans (if_pos rfl)).symm.trans hm

theorem ready_of_connecting {identity : BrickIdentity} {id : String}
    (h : (f.withRegistry (·.connecting identity)).IsReady id) :
    id ≠ identity.id ∧ f.IsReady id := by
  have hs := f.registry.standing?_connecting identity
  refine ready_elsewhere ?_ (fun other ho => (hs other).trans (if_neg ho)) h
  rintro ⟨note, hm⟩
  cases ((hs identity.id).trans (if_pos rfl)).symm.trans hm

/-- A brick that is ready after a session was opened has one, or was ready before. -/
theorem ready_of_open {identity : BrickIdentity} {config : SchedulerConfig} {line : Line}
    {handle : κ} {stamp id : String} (h : (f.open identity config line handle stamp).IsReady id) :
    ((f.open identity config line handle stamp).pool.find? id).isSome = true ∨ f.IsReady id := by
  by_cases hi : id = identity.id
  · rw [Desk.open_pool, if_pos hi]
    exact .inl rfl
  · refine .inr ((isReady_congr ?_).mp h)
    rw [Desk.open_registry, Registry.standing?_ready, if_neg hi]

theorem session_of_open {identity : BrickIdentity} {config : SchedulerConfig} {line : Line}
    {handle : κ} {stamp id : String} (h : (f.pool.find? id).isSome = true) :
    ((f.open identity config line handle stamp).pool.find? id).isSome = true := by
  rw [Desk.open_pool]
  split
  · rfl
  · exact h

end Changes

end Fleet

namespace Poller

variable {κ : Type} {p q : Poller} {f g : Fleet κ} {now : Nat} {stamp id : String}
  {signals : List PollerSignal}

def IsClosing (p : Poller) (id : String) : Prop :=
  ∃ reason link later, p.phase = .closing id reason link later

theorem IsClosing.congr (h : p.IsClosing id) (hp : q.phase = p.phase) : q.IsClosing id := by
  unfold IsClosing
  rwa [hp]

/-- A session of the brick that the poller was closing has ended. -/
def HasClosed (p : Poller) (f : Fleet κ) (id : String) : Prop :=
  p.cancelled = false ∧ ∃ reason link later, p.phase = .closing id reason link later ∧
    f.isTerminated link = true

/-- The poller is about to deal with a failed probe of the brick. -/
def Condemns (p : Poller) (id : String) : Prop :=
  p.cancelled = false ∧ ∃ e later, p.phase = .judging ((id, some e) :: later)

theorem step_of_hasClosed (h : p.HasClosed f id) : (p.step f now stamp).isSome = true := by
  obtain ⟨hc, reason, link, later, hp, ht⟩ := h
  simp [step, hp, hc, ht]

theorem step_of_condemns (h : p.Condemns id) : (p.step f now stamp).isSome = true := by
  obtain ⟨hc, e, later, hp⟩ := h
  simp [step, hp, hc]

/-- What a move of the poller has to do with the session and the record of a brick. -/
theorem Move.stray_iff (hm : p.Move f now stamp q g signals) :
    g.Stray id ↔ ((f.pool.find? id).isSome = true ∧ p.HasClosed f id) ∨
      f.Stray id ∧ ¬ p.Condemns id := by
  have hquiet : ¬ p.HasClosed f id → ¬ p.Condemns id → (g.Stray id ↔ f.Stray id) →
      (g.Stray id ↔ ((f.pool.find? id).isSome = true ∧ p.HasClosed f id) ∨
        f.Stray id ∧ ¬ p.Condemns id) := by
    intro hh hd hs
    rw [hs]
    exact ⟨fun h => .inr ⟨h, hd⟩, fun h => h.elim (fun h => absurd h.2 hh) (·.1)⟩
  cases hm with
  | cancel hp hc => exact hquiet (by simp [HasClosed, hc]) (by simp [Condemns, hc]) .rfl
  | tick hp hc =>
    obtain ⟨probes, -, ha, -⟩ := p.tick_spec f now
    exact hquiet (by simp [HasClosed, hp]) (by simp [Condemns, hp])
      (Fleet.stray_congr (by rw [ha.pool]) (ha.standing id))
  | gather hp hc hv => exact hquiet (by simp [HasClosed, hp]) (by simp [Condemns, hp]) .rfl
  | wake hp hc hd => exact hquiet (by simp [HasClosed, hp]) (by simp [Condemns, hp]) .rfl
  | finish hp hc =>
    rw [(p.rest_spec f now).2.1]
    exact hquiet (by simp [HasClosed, hp]) (by simp [Condemns, hp]) .rfl
  | praise hp hc =>
    exact hquiet (by simp [HasClosed, hp]) (by simp [Condemns, hp])
      (Fleet.stray_congr rfl (Registry.standing?_measure ..))
  | @close brick e later link hp hc hf =>
    have hh : ¬ p.HasClosed f id := by simp [HasClosed, hp]
    have hd : p.Condemns id ↔ id = brick := by simp [Condemns, hp, hc, eq_comm]
    have hs := f.stray_removeSession_iff brick id
    rw [Fleet.removeSession_of_some hf] at hs
    rw [hs, hd]
    simp [hh]
  | @writeOff brick e later hp hc hf =>
    have hh : ¬ p.HasClosed f id := by simp [HasClosed, hp]
    have hd : p.Condemns id ↔ id = brick := by simp [Condemns, hp, hc, eq_comm]
    rw [Fleet.stray_markUnavailable_iff, hd]
    by_cases hi : id = brick
    · rw [hi]
      simp [hf, Fleet.Stray]
    · simp [hh, hi]
  | @lose brick reason link later hp hc ht =>
    have hh : p.HasClosed f id ↔ id = brick := by
      constructor
      · rintro ⟨-, _, _, _, hp', -⟩
        cases hp.symm.trans hp'
        rfl
      · rintro rfl
        exact ⟨hc, reason, link, later, hp, ht⟩
    have hd : ¬ p.Condemns id := by simp [Condemns, hp]
    rw [Fleet.stray_markUnavailable_iff, hh]
    simp [hd, and_comm]

end Poller

/-- An act of attaching, dialing, disconnecting or polling, or something that happens meanwhile. -/
def DeskAct.isOrdinary {κ : Type} : DeskAct κ → Bool
  | .stopPoller | .closeAll | .endShutdown | .forget _ => false
  | _ => true

namespace Desk

variable {κ : Type}

/-- Nothing is under way: no dial, no disconnect, and no tick. -/
structure Quiet (c : Desk κ) : Prop where
  dials : c.dials = []
  closings : c.closings = []
  poller : c.poller.phase = .waking ∨ (∃ until_, c.poller.phase = .sleeping until_) ∨
    c.poller.phase = .ended

/-- Something that began earlier ends, and the brick is marked though the pool holds a session of
it: a dial fails, a disconnect returns, or the poller has closed a session. -/
def Strands (c : Desk κ) (id : String) : DeskAct κ → Prop
  | .undialed index _ => (c.fleet.pool.find? id).isSome = true ∧
      ∃ dial entry, c.dial? index = some (dial, entry) ∧ id = dial.brick
  | .disconnected index => (c.fleet.pool.find? id).isSome = true ∧ c.returning index = some id
  | .poll _ => (c.fleet.pool.find? id).isSome = true ∧ c.poller.HasClosed c.fleet id
  | _ => False

/-- The brick is dialed or attached again, or its session is taken out of the pool. -/
def Mends (c : Desk κ) (id : String) : DeskAct κ → Prop
  | .connect brick => id = brick ∧ (c.settings.entry? brick).isSome = true
  | .attach identity .. => id = identity.id
  | .dialed index .. => ∃ dial entry, c.dial? index = some (dial, entry) ∧ id = dial.brick
  | .disconnect brick => id = brick
  | .poll _ => c.poller.Condemns id
  | _ => False

/-- No act of a course from here mends the brick. -/
def Unmended (c : Desk κ) (id : String) (late : List (Nat × DeskAct κ)) : Prop :=
  ∀ part ms act, part ++ [(ms, act)] <+: late → ¬ ((c.run part).wait ms).Mends id act

section Straying

variable {c : Desk κ} {id : String}

/-- One act makes a brick stray exactly if it strands it, or if it was so and is not mended. -/
theorem stray_act_iff (c : Desk κ) (id : String) {act : DeskAct κ} (ho : act.isOrdinary = true) :
    (c.act act).fleet.Stray id ↔ c.Strands id act ∨ c.fleet.Stray id ∧ ¬ c.Mends id act := by
  have hquiet : ∀ {f : Fleet κ}, f.pool.find? id = c.fleet.pool.find? id →
      f.registry.standing? id = c.fleet.registry.standing? id → ¬ c.Strands id act →
      ¬ c.Mends id act → (f.Stray id ↔ c.Strands id act ∨ c.fleet.Stray id ∧ ¬ c.Mends id act) := by
    intro f hp hs hn hm
    rw [Fleet.stray_congr hp hs]
    exact ⟨fun h => .inr ⟨h, hm⟩, fun h => h.elim (fun h => absurd h hn) (·.1)⟩
  cases act with
  | poll stamp =>
    cases hs : c.poller.step c.fleet c.now stamp with
    | none =>
      simp only [Desk.act, hs]
      refine hquiet rfl rfl (fun h => ?_) (fun h => ?_)
      · have hmoves : (c.poller.step c.fleet c.now stamp).isSome = true :=
          Poller.step_of_hasClosed h.2
        simp [hs] at hmoves
      · have hmoves : (c.poller.step c.fleet c.now stamp).isSome = true :=
          Poller.step_of_condemns h
        simp [hs] at hmoves
    | some result =>
      simp only [Desk.act, hs]
      exact (Poller.move_of_step hs).stray_iff
  | drive link act =>
    refine hquiet ?_ ?_ not_false not_false
    · show (c.fleet.drive c.poller c.now link act).1.pool.find? id = _
      rw [Fleet.drive_pool]
    · show (c.fleet.drive c.poller c.now link act).1.registry.standing? id = _
      rw [Fleet.drive_registry]
  | startPoller options interval =>
    simp only [Desk.act]
    split <;> exact hquiet rfl rfl not_false not_false
  | connect brick =>
    cases he : c.settings.entry? brick with
    | none =>
      simp only [Desk.act, he]
      exact hquiet rfl rfl not_false (by simp [Mends, he])
    | some entry =>
      have hi : entry.identity.id = brick := Settings.id_of_entry? he
      simp only [Desk.act, he, Monitor.beginConnect, Fleet.stray_connecting_iff, hi]
      simp [Strands, Mends, he]
  | attach identity config line handle stamp =>
    simp only [Desk.act, Fleet.stray_open_iff]
    simp [Strands, Mends]
  | dialed index config line handle stamp =>
    cases hd : c.dial? index with
    | none =>
      simp only [Desk.act, hd]
      exact hquiet rfl rfl not_false (by simp [Mends, hd])
    | some result =>
      obtain ⟨dial, entry⟩ := result
      simp only [Desk.act, hd, Fleet.stray_open_iff, (dial?_brick hd).2]
      simp [Strands, Mends, hd]
  | undialed index e =>
    cases hd : c.dial? index with
    | none =>
      simp only [Desk.act, hd]
      exact hquiet rfl rfl (by simp [Strands, hd]) not_false
    | some result =>
      obtain ⟨dial, entry⟩ := result
      have hmark : ∀ again : Bool, (if again = true then Monitor.failReconnect c.fleet dial.brick e
          else Monitor.failConnect c.fleet dial.brick e).Stray id ↔
            (id = dial.brick ∧ (c.fleet.pool.find? id).isSome = true) ∨ c.fleet.Stray id := by
        intro again
        cases again with
        | true => exact Fleet.stray_markUnavailable_iff ..
        | false => exact Fleet.stray_markError_iff ..
      simp only [Desk.act, hd, hmark]
      simp [Strands, Mends, hd, and_comm]
  | abandon index => exact hquiet rfl rfl not_false not_false
  | disconnect brick =>
    simp only [Desk.act, Fleet.stray_removeSession_iff]
    simp [Strands, Mends]
  | disconnected index =>
    cases hr : c.returning index with
    | none =>
      simp only [Desk.act, hr]
      exact hquiet rfl rfl (by simp [Strands, hr]) not_false
    | some brick =>
      have hi : brick = id ↔ id = brick := eq_comm
      simp only [Desk.act, hr, Monitor.endDisconnect, Fleet.stray_markUnavailable_iff]
      simp [Strands, Mends, hr, hi, and_comm]
  | activate brick => exact hquiet rfl (Registry.standing?_setActive ..) not_false not_false
  | measure brick metrics => exact hquiet rfl (Registry.standing?_measure ..) not_false not_false
  | note brick operation stamp => exact hquiet rfl (Registry.standing?_note ..) not_false not_false
  | stopPoller | closeAll | endShutdown | forget brick => cases ho

theorem unmended_cons {ms : Nat} {act : DeskAct κ} {rest : List (Nat × DeskAct κ)} :
    c.Unmended id ((ms, act) :: rest) ↔
      ¬ (c.wait ms).Mends id act ∧ (c.after ms act).Unmended id rest := by
  constructor
  · intro h
    refine ⟨h [] ms act (by simp [List.prefix_cons_iff]), fun part ms' act' hp => ?_⟩
    exact h ((ms, act) :: part) ms' act' (List.cons_prefix_cons.mpr ⟨rfl, hp⟩)
  · rintro ⟨hfirst, hrest⟩ part ms' act' hp
    cases part with
    | nil =>
      obtain ⟨he, -⟩ := List.cons_prefix_cons.mp hp
      cases he
      exact hfirst
    | cons timed part =>
      obtain ⟨rfl, htail⟩ := List.cons_prefix_cons.mp hp
      exact hrest part ms' act' htail

/-- An act of the course strands the brick, and none after it mends it. -/
def Stranded (c : Desk κ) (id : String) (acts : List (Nat × DeskAct κ)) : Prop :=
  ∃ early ms act late, acts = early ++ (ms, act) :: late ∧
    ((c.run early).wait ms).Strands id act ∧ ((c.run early).after ms act).Unmended id late

theorem stranded_cons {ms : Nat} {act : DeskAct κ} {rest : List (Nat × DeskAct κ)} :
    c.Stranded id ((ms, act) :: rest) ↔
      ((c.wait ms).Strands id act ∧ (c.after ms act).Unmended id rest) ∨
        (c.after ms act).Stranded id rest := by
  constructor
  · rintro ⟨early, ms', act', late, he, hs, hu⟩
    cases early with
    | nil =>
      cases he
      exact .inl ⟨hs, hu⟩
    | cons timed early =>
      obtain ⟨rfl, rfl⟩ := List.cons.inj he
      exact .inr ⟨early, ms', act', late, rfl, hs, hu⟩
  · rintro (⟨hs, hu⟩ | ⟨early, ms', act', late, rfl, hs, hu⟩)
    · exact ⟨[], ms, act, rest, rfl, hs, hu⟩
    · exact ⟨(ms, act) :: early, ms', act', late, rfl, hs, hu⟩

theorem stray_run_iff (c : Desk κ) (id : String) {acts : List (Nat × DeskAct κ)}
    (ho : ∀ timed ∈ acts, timed.2.isOrdinary = true) :
    (c.run acts).fleet.Stray id ↔ c.Stranded id acts ∨ c.fleet.Stray id ∧ c.Unmended id acts := by
  induction acts generalizing c with
  | nil => simp [Desk.run, Stranded, Unmended]
  | cons timed rest ih =>
    obtain ⟨ms, act⟩ := timed
    have hone : (c.after ms act).fleet.Stray id ↔
        (c.wait ms).Strands id act ∨ c.fleet.Stray id ∧ ¬ (c.wait ms).Mends id act :=
      stray_act_iff (c.wait ms) id (ho (ms, act) List.mem_cons_self)
    have hrest := ih (c.after ms act) (fun t ht => ho t (List.mem_cons_of_mem _ ht))
    rw [stranded_cons, unmended_cons]
    show ((c.after ms act).run rest).fleet.Stray id ↔ _
    rw [hrest, hone]
    tauto

end Straying

section Readiness

variable {c : Desk κ}

/-- Every ready brick has a session, unless one is being closed. -/
structure Housed (c : Desk κ) : Prop where
  running : c.poller.cancelled = false
  ready : ∀ id, c.fleet.IsReady id → (c.fleet.pool.find? id).isSome = true ∨
    (∃ link, (id, link) ∈ c.closings) ∨ c.poller.IsClosing id

theorem Housed.poll (h : c.Housed) {now : Nat} {stamp : String} {q : Poller} {g : Fleet κ}
    {signals : List PollerSignal} (hm : c.poller.Move c.fleet now stamp q g signals) :
    q.cancelled = false ∧ ∀ id, g.IsReady id → (g.pool.find? id).isSome = true ∨
      (∃ link, (id, link) ∈ c.closings) ∨ q.IsClosing id := by
  -- the moves of a poller that closes nothing, before and after
  have hopen : (∀ id, ¬ c.poller.IsClosing id) → g.pool = c.fleet.pool →
      (∀ id, g.IsReady id → c.fleet.IsReady id) → ∀ id, g.IsReady id →
        (g.pool.find? id).isSome = true ∨ (∃ link, (id, link) ∈ c.closings) ∨ q.IsClosing id := by
    intro hn hp hr id hi
    rw [hp]
    exact (h.ready id (hr id hi)).imp_right (·.imp_right (absurd · (hn id)))
  cases hm with
  | cancel hp hc => exact absurd hc (by simp [h.running])
  | tick hp hc =>
    obtain ⟨probes, ht, ha, -⟩ := c.poller.tick_spec c.fleet now
    refine ⟨by rw [ht]; exact hc, hopen (by simp [Poller.IsClosing, hp]) ha.pool fun id hr => ?_⟩
    exact (Fleet.isReady_congr (ha.standing id)).mp hr
  | gather hp hc hv | wake hp hc hd =>
    exact ⟨hc, hopen (by simp [Poller.IsClosing, hp]) rfl fun _ hr => hr⟩
  | finish hp hc =>
    have hf := (c.poller.rest_spec c.fleet now).2.1
    refine ⟨(c.poller.rest_kept c.fleet now).2.trans hc, ?_⟩
    exact hopen (by simp [Poller.IsClosing, hp]) (by rw [hf]) (fun id hr => by rwa [hf] at hr)
  | praise hp hc =>
    refine ⟨hc, hopen (by simp [Poller.IsClosing, hp]) rfl fun id hr => ?_⟩
    exact (Fleet.isReady_congr (Registry.standing?_measure ..)).mp hr
  | @close brick e later link hp hc hf =>
    refine ⟨hc, fun id hr => ?_⟩
    by_cases hi : id = brick
    · exact .inr (.inr ⟨_, _, _, by rw [hi]⟩)
    · rcases h.ready id hr with hs | hl | ⟨_, _, _, hp'⟩
      · refine .inl ?_
        show ((c.fleet.pool.erase brick).find? id).isSome = true
        rwa [Pool.find?_erase, if_neg hi]
      · exact .inr (.inl hl)
      · cases hp.symm.trans hp'
  | writeOff hp hc hf =>
    exact ⟨hc, hopen (by simp [Poller.IsClosing, hp]) rfl fun _ hr =>
      (Fleet.ready_of_markUnavailable hr).2⟩
  | @lose brick reason link later hp hc ht =>
    refine ⟨hc, fun id hr => ?_⟩
    obtain ⟨hi, hr⟩ := Fleet.ready_of_markUnavailable hr
    rcases h.ready id hr with hs | hl | ⟨_, _, _, hp'⟩
    · exact .inl hs
    · exact .inr (.inl hl)
    · cases hp.symm.trans hp'
      exact absurd rfl hi

theorem endDial_cancelled (c : Desk κ) (index : Nat) :
    (c.endDial index).poller.cancelled = c.poller.cancelled := by
  unfold endDial
  dsimp only
  split <;> rfl

/-- What is neither opened, closed nor polled leaves ready bricks alone. -/
theorem Housed.of_ready (h : c.Housed) {d : Desk κ}
    (hc : d.poller.cancelled = c.poller.cancelled) (hp : d.poller.phase = c.poller.phase)
    (hl : d.closings = c.closings)
    (hr : ∀ id, d.fleet.IsReady id → (d.fleet.pool.find? id).isSome = true ∨ c.fleet.IsReady id)
    (hs : ∀ id, (c.fleet.pool.find? id).isSome = true → (d.fleet.pool.find? id).isSome = true) :
    d.Housed := by
  refine ⟨hc.trans h.running, fun id hi => ?_⟩
  rcases hr id hi with hi | hi
  · exact .inl hi
  · rw [hl]
    exact (h.ready id hi).imp (hs id) (·.imp_right (·.congr hp))

theorem Housed.disconnected (h : c.Housed) {index : Nat} {brick : String}
    (hr : c.returning index = some brick) :
    Housed { c with
      fleet := Monitor.endDisconnect c.fleet brick
      closings := c.closings.eraseIdx index } := by
  refine ⟨h.running, fun id hi => ?_⟩
  obtain ⟨hne, hi⟩ := Fleet.ready_of_markUnavailable hi
  rcases h.ready id hi with hs | ⟨link, hl⟩ | hp
  · exact .inl hs
  · obtain ⟨other, ho⟩ := List.mem_iff_getElem?.mp hl
    refine .inr (.inl ⟨link, List.mem_eraseIdx_iff_getElem?.mpr ⟨other, ?_, ho⟩⟩)
    rintro rfl
    simp only [returning, ho] at hr
    split at hr
    · exact hne (Option.some.inj hr)
    · cases hr
  · exact .inr (.inr hp)

theorem Housed.act (h : c.Housed) {act : DeskAct κ} (ho : act.isOrdinary = true) :
    (c.act act).Housed := by
  cases act with
  | poll stamp =>
    cases hs : c.poller.step c.fleet c.now stamp with
    | none => simpa only [Desk.act, hs] using h
    | some result =>
      simp only [Desk.act, hs]
      obtain ⟨hc, hr⟩ := h.poll (Poller.move_of_step hs)
      exact ⟨hc, hr⟩
  | drive link act =>
    obtain ⟨hc, hclosing⟩ : (c.fleet.drive c.poller c.now link act).2.cancelled = false ∧
        ∀ id, c.poller.IsClosing id → (c.fleet.drive c.poller c.now link act).2.IsClosing id := by
      rcases Poller.drive_poller_cases c.fleet c.poller c.now link act with hp | ⟨_, _, hp, hq, -⟩
      · rw [hp]
        exact ⟨h.running, fun _ hi => hi⟩
      · rw [hq]
        refine ⟨h.running, fun id hi => ?_⟩
        obtain ⟨_, _, _, hp'⟩ := hi
        cases hp.symm.trans hp'
    refine ⟨hc, fun id hi => ?_⟩
    have hready : c.fleet.IsReady id :=
      (Fleet.isReady_congr (by rw [← c.fleet.drive_registry c.poller c.now link act]; rfl)).mp hi
    show ((c.fleet.drive c.poller c.now link act).1.pool.find? id).isSome = true ∨ _
    rw [Fleet.drive_pool]
    exact (h.ready id hready).imp_right (·.imp_right (hclosing id))
  | startPoller options interval =>
    simp only [Desk.act]
    split
    · next he =>
      refine ⟨rfl, fun id hr => ?_⟩
      rcases h.ready id hr with hs | hl | ⟨_, _, _, hp⟩
      · exact .inl hs
      · exact .inr (.inl hl)
      · simp [Poller.hasEnded, hp] at he
    · exact h
  | connect brick =>
    cases he : c.settings.entry? brick with
    | none => simpa only [Desk.act, he] using h
    | some entry =>
      simp only [Desk.act, he]
      exact h.of_ready rfl rfl rfl (fun id hr => .inr (Fleet.ready_of_connecting hr).2) fun _ hs => hs
  | attach identity config line handle stamp =>
    exact h.of_ready rfl rfl rfl (fun _ => Fleet.ready_of_open) fun _ => Fleet.session_of_open
  | dialed index config line handle stamp =>
    cases hd : c.dial? index with
    | none => simpa only [Desk.act, hd] using h
    | some result =>
      simp only [Desk.act, hd]
      exact h.of_ready (c.endDial_cancelled index) (c.endDial_phase index) rfl
        (fun _ => Fleet.ready_of_open) fun _ => Fleet.session_of_open
  | undialed index e =>
    cases hd : c.dial? index with
    | none => simpa only [Desk.act, hd] using h
    | some result =>
      simp only [Desk.act, hd]
      refine h.of_ready (c.endDial_cancelled index) (c.endDial_phase index) rfl (fun id hr => ?_)
        fun id hs => ?_
      · refine .inr ?_
        split at hr
        · exact (Fleet.ready_of_markUnavailable hr).2
        · exact (Fleet.ready_of_markError hr).2
      · split <;> exact hs
  | abandon index =>
    exact h.of_ready (c.endDial_cancelled index) (c.endDial_phase index) rfl (fun _ hr => .inr hr)
      fun _ hs => hs
  | disconnect brick =>
    refine ⟨h.running, fun id hi => ?_⟩
    have hready : c.fleet.IsReady id :=
      (Fleet.isReady_congr (by rw [← c.fleet.removeSession_registry brick]; rfl)).mp hi
    show ((c.fleet.removeSession brick).1.pool.find? id).isSome = true ∨
      (∃ link, (id, link) ∈ c.closings ++ [(brick, (c.fleet.removeSession brick).2)]) ∨ _
    by_cases hb : id = brick
    · exact .inr (.inl ⟨(c.fleet.removeSession brick).2, by simp [hb]⟩)
    · rw [Fleet.removeSession_pool, if_neg hb]
      refine (h.ready id hready).imp_right (·.imp_left ?_)
      rintro ⟨link, hl⟩
      exact ⟨link, List.mem_append_left _ hl⟩
  | disconnected index =>
    cases hr : c.returning index with
    | none => simpa only [Desk.act, hr] using h
    | some brick =>
      simp only [Desk.act, hr]
      exact h.disconnected hr
  | activate brick =>
    exact h.of_ready rfl rfl rfl
      (fun _ hr => .inr ((Fleet.isReady_congr (Registry.standing?_setActive ..)).mp hr)) fun _ hs => hs
  | measure brick metrics =>
    exact h.of_ready rfl rfl rfl
      (fun _ hr => .inr ((Fleet.isReady_congr (Registry.standing?_measure ..)).mp hr)) fun _ hs => hs
  | note brick operation stamp =>
    exact h.of_ready rfl rfl rfl
      (fun _ hr => .inr ((Fleet.isReady_congr (Registry.standing?_note ..)).mp hr)) fun _ hs => hs
  | stopPoller | closeAll | endShutdown | forget brick => cases ho

theorem Housed.run (h : c.Housed) {acts : List (Nat × DeskAct κ)}
    (ho : ∀ timed ∈ acts, timed.2.isOrdinary = true) : (c.run acts).Housed := by
  induction acts generalizing c with
  | nil => exact h
  | cons timed rest ih =>
    have hw : (c.wait timed.1).Housed := ⟨h.running, h.ready⟩
    exact ih (hw.act (ho timed List.mem_cons_self)) (fun t ht => ho t (List.mem_cons_of_mem _ ht))

theorem Housed.quiet (h : c.Housed) (hq : c.Quiet) {id : String} (hr : c.fleet.IsReady id) :
    (c.fleet.pool.find? id).isSome = true := by
  rcases h.ready id hr with hs | ⟨link, hl⟩ | ⟨reason, link, later, hp⟩
  · exact hs
  · rw [hq.closings] at hl
    cases hl
  · rcases hq.poller with hw | ⟨until_, hw⟩ | hw <;> cases hp.symm.trans hw

end Readiness

end Desk

/-- In every course of attaching, dialing, disconnecting and polling, the pool holds a session of a
brick that is not live exactly if the last thing that happened to the brick was that something begun
earlier marked it: a dial that failed, a disconnect that returned, or a closing by the poller that
ended, while the brick had a session. When all is quiet, every ready brick has a session. -/
theorem sessions_match_records_iff {κ : Type} (settings : Settings) (acts : List (Nat × DeskAct κ))
    (ho : ∀ timed ∈ acts, timed.2.isOrdinary = true) :
    let c := (Desk.start settings).run acts
    (∀ id, ((c.fleet.pool.find? id).isSome = true → Poller.IsLive c.fleet id) ↔
      ¬ (Desk.start settings).Stranded id acts) ∧
    (c.Quiet → ∀ id, c.fleet.IsReady id → (c.fleet.pool.find? id).isSome = true) := by
  intro c
  have hstart : (Desk.start settings : Desk κ).Housed :=
    ⟨rfl, fun id ⟨reason, hr⟩ => nomatch hr⟩
  have hc : c.Housed := hstart.run ho
  refine ⟨fun id => ?_, fun hq id hr => hc.quiet hq hr⟩
  have hnone : ¬ (Desk.start settings : Desk κ).fleet.Stray id := fun h => by cases h.1
  have hs : c.fleet.Stray id ↔ (Desk.start settings).Stranded id acts := by
    rw [Desk.stray_run_iff _ id ho]
    simp [hnone]
  rw [← hs]
  simp [Fleet.Stray]

/-- A brick is disconnected and attached again, with nothing overlapping. -/
theorem reattached_brick_has_session :
    ∃ acts : List (Nat × DeskAct Unit),
      (∀ timed ∈ acts, timed.2.isOrdinary = true) ∧
        let c := (Desk.start {}).run acts
        c.Quiet ∧ c.fleet.IsReady "a" ∧ (c.fleet.pool.find? "a").isSome = true ∧
          ¬ (Desk.start {}).Stranded "a" acts := by
  let attach : DeskAct Unit :=
    .attach { id := "a", displayName := "a", transport := .mock } {} (.ofCapacity 64) () ""
  let acts : List (Nat × DeskAct Unit) :=
    [attach, .disconnect "a", .drive 0 .move, .drive 0 .move, .drive 0 .move, .disconnected 0,
      attach].map ((0, ·))
  have ho : ∀ timed ∈ acts, timed.2.isOrdinary = true := by simp [acts, attach, DeskAct.isOrdinary]
  have hready : ((Desk.start {}).run acts).fleet.registry.standing? "a" = some (.ready, none) := by
    decide +kernel
  have hquiet : ((Desk.start {}).run acts).Quiet :=
    ⟨by decide +kernel, by decide +kernel, .inr (.inr rfl)⟩
  obtain ⟨hlive, hsession⟩ := sessions_match_records_iff {} acts ho
  exact ⟨acts, ho, hquiet, ⟨none, hready⟩, hsession hquiet "a" ⟨none, hready⟩,
    (hlive "a").mp fun _ => ⟨_, hready, rfl⟩⟩

/-- A brick that is connected is dialed once more, and the dial fails: the brick is in error, and
the session stays in the pool, where nothing probes or closes it. -/
theorem failed_dial_strands_session :
    ∃ (settings : Settings) (acts : List (Nat × DeskAct Unit)),
      (settings.entry? "a").isSome = true ∧ (∀ timed ∈ acts, timed.2.isOrdinary = true) ∧
        let c := (Desk.start settings).run acts
        c.Quiet ∧ (c.fleet.pool.find? "a").isSome = true ∧
          c.fleet.registry.standing? "a" = some (.error, some "transport error: refused") ∧
          ¬ Poller.IsLive c.fleet "a" := by
  let entry : BrickEntry := { id := "a", host := "localhost" }
  let settings : Settings := { bricks := [entry] }
  let acts : List (Nat × DeskAct Unit) :=
    [.attach entry.identity (settings.schedulerConfig "a") (.ofCapacity 64) () "", .connect "a",
      .undialed 0 (.transport "refused")].map ((0, ·))
  have herror : ((Desk.start settings).run acts).fleet.registry.standing? "a" =
      some (.error, some "transport error: refused") := by decide +kernel
  refine ⟨settings, acts, by decide +kernel, by simp [acts, DeskAct.isOrdinary],
    ⟨by decide +kernel, by decide +kernel, .inr (.inr rfl)⟩, by decide +kernel, herror, ?_⟩
  rintro ⟨standing, hs, hl⟩
  cases herror.symm.trans hs
  cases hl

end BrickHost
