import BrickHost.Proofs.Monitor.Sessions
import BrickHost.Proofs.Registry.History
import BrickHost.Proofs.Scheduler.Disposal

/-! Runs of a monitor, from the first dials to the end of the shutdown. Dials that the poller has
asked for outlive it, so that a session can open while the others are closing. -/

namespace BrickHost

namespace Fleet

variable {κ : Type} {f g : Fleet κ} {link : LinkId}

/-- No scheduler is forgotten: each is in the pool or was disposed of. -/
def Tended (f : Fleet κ) : Prop :=
  ∀ link s, f.scheduler? link = some s → s.Doomed ∨ ∃ id, f.pool.find? id = some link

theorem Tended.change (h : f.Tended)
    (hg : ∀ link t, g.scheduler? link = some t → t.Doomed ∨ (∃ id, g.pool.find? id = some link) ∨
      ∃ s, f.scheduler? link = some s ∧ (s.Doomed → t.Doomed) ∧
        ∀ id, f.pool.find? id = some link → g.pool.find? id = some link) : g.Tended := by
  intro link t ht
  rcases hg link t ht with hd | hp | ⟨s, hs, hd, hp⟩
  · exact .inl hd
  · exact .inr hp
  · exact (h link s hs).imp hd fun ⟨id, hi⟩ => ⟨id, hp id hi⟩

theorem doomed_of_dispose (s : Scheduler) : s.dispose.release.Doomed := ⟨rfl, rfl⟩

theorem Tended.update (h : f.Tended) (link : LinkId) {change : Scheduler → Scheduler}
    (hc : ∀ s, f.scheduler? link = some s → s.Doomed → (change s).Doomed) :
    (f.update link change).Tended := by
  refine h.change fun other t ht => ?_
  rw [scheduler?_update] at ht
  split at ht
  · next ho =>
    subst ho
    obtain ⟨s, hs, rfl⟩ := Option.map_eq_some_iff.mp ht
    exact .inr (.inr ⟨s, hs, hc s hs, fun _ hi => hi⟩)
  · exact .inr (.inr ⟨t, ht, id, fun _ hi => hi⟩)

theorem Tended.drive (h : f.Tended) (p : Poller) (now : Nat) (link : LinkId) (act : Act) :
    (f.drive p now link act).1.Tended := by
  unfold Fleet.drive
  cases hs : f.scheduler? link with
  | none => exact h
  | some s =>
    refine h.update link fun t ht hd => ?_
    cases hs.symm.trans ht
    exact (hd.react rfl).1

theorem Tended.submit (h : f.Tended) {now : Nat} {r : Request} {ticket : Nat}
    (hs : f.submit link now r = some (g, ticket)) : g.Tended := by
  simp only [Fleet.submit, bind, Option.bind_eq_some_iff, pure, Option.some.injEq,
    Prod.mk.injEq] at hs
  obtain ⟨s, hf, ⟨t, _⟩, ht, rfl, -⟩ := hs
  refine h.update link fun u hu hd => ?_
  cases hf.symm.trans hu
  simp [Scheduler.submit, hd.state, SchedulerState.isDisposed] at ht

theorem Tended.without (h : f.Tended) {id : String} (hf : f.pool.find? id = some link) :
    (f.without id link).Tended := by
  refine h.change fun other t ht => ?_
  by_cases ho : link = other
  · subst ho
    unfold Fleet.without at ht
    rw [scheduler?_update, if_pos rfl] at ht
    obtain ⟨s, -, rfl⟩ := Option.map_eq_some_iff.mp ht
    exact .inl (doomed_of_dispose s)
  · rw [without_scheduler?_of_ne f id ho] at ht
    refine .inr (.inr ⟨t, ht, fun hd => hd, fun key hk => ?_⟩)
    have hne : key ≠ id := by
      rintro rfl
      exact ho (Option.some.inj (hf.symm.trans hk))
    exact (f.pool.find?_erase id key).trans ((if_neg hne).trans hk)

theorem Tended.removeSession (h : f.Tended) (id : String) : (f.removeSession id).1.Tended := by
  cases hf : f.pool.find? id with
  | none =>
    rw [removeSession_of_none hf]
    exact h
  | some link =>
    rw [removeSession_of_some hf]
    exact h.without hf

theorem foldl_dispose_scheduler? (links : List LinkId) (f : Fleet κ) {t : Scheduler}
    (ht : (links.foldl (fun f link => f.update link fun s => s.dispose.release) f).scheduler? link =
      some t) :
    t.Doomed ∨ link ∉ links ∧ f.scheduler? link = some t := by
  induction links generalizing f with
  | nil => exact .inr ⟨List.not_mem_nil, ht⟩
  | cons first rest ih =>
    rcases ih _ ht with hd | ⟨hr, hs⟩
    · exact .inl hd
    · rw [scheduler?_update] at hs
      split at hs
      · obtain ⟨s, -, rfl⟩ := Option.map_eq_some_iff.mp hs
        exact .inl (doomed_of_dispose s)
      · next hf => exact .inr ⟨by simp [Ne.symm hf, hr], hs⟩

theorem removeSessions_pool (f : Fleet κ) : f.removeSessions.1.pool = {} := by
  have hl : ∀ (links : List LinkId) (g : Fleet κ),
      (links.foldl (fun f link => f.update link fun s => s.dispose.release) g).pool = g.pool := by
    intro links
    induction links with
    | nil => exact fun _ => rfl
    | cons link rest ih => exact fun g => ih _
  exact hl _ _

theorem Tended.removeSessions (h : f.Tended) : f.removeSessions.1.Tended := by
  intro link t ht
  rcases foldl_dispose_scheduler? _ _ ht with hd | ⟨hn, hs⟩
  · exact .inl hd
  · rcases h link t hs with hd | ⟨id, hi⟩
    · exact .inl hd
    · exact absurd (List.mem_map_of_mem (Pool.mem_of_find? hi)) hn

theorem Tended.open (h : f.Tended) (identity : BrickIdentity) (config : SchedulerConfig)
    (line : Line) (handle : κ) (stamp : String) :
    (f.open identity config line handle stamp).Tended := by
  refine h.change fun link t ht => ?_
  by_cases hp : f.pool.find? identity.id = some link
  · -- The new session takes the place of this one, which is disposed of.
    refine .inl ?_
    have hs : ((f.start { config := config, line := line }).1.insertSession identity.id
        f.schedulers.length).1.scheduler? link = some t := ht
    have hold : (f.start { config := config, line := line }).1.pool.find? identity.id = some link :=
      hp
    simp only [insertSession, hold, scheduler?_update, if_true] at hs
    obtain ⟨s, -, rfl⟩ := Option.map_eq_some_iff.mp hs
    exact doomed_of_dispose s
  · rw [Desk.open_scheduler? f identity config line handle stamp hp] at ht
    split at ht
    · next hl =>
      refine .inr (.inl ⟨identity.id, ?_⟩)
      rw [Desk.open_pool, if_pos rfl, hl]
    · refine .inr (.inr ⟨t, ht, fun hd => hd, fun id hi => ?_⟩)
      have hne : id ≠ identity.id := by
        rintro rfl
        exact hp hi
      rw [Desk.open_pool, if_neg hne]
      exact hi

end Fleet

namespace Poller

variable {κ : Type} {p q : Poller} {f g : Fleet κ} {now : Nat} {stamp id : String}
  {signals : List PollerSignal}

theorem tended_candidates (h : f.Tended) (bricks : List String) : (candidates f bricks).1.Tended := by
  intro link s hs
  have hs : (candidates f bricks).1.schedulers[link]? = some s := hs
  rw [candidates_schedulers] at hs
  rw [(candidates_spec f bricks).1.pool]
  exact h link s hs

theorem tended_launch (h : f.Tended) (o : PollerOptions) (now : Nat)
    (chosen : List (String × LinkId)) : (launch o now f chosen).1.Tended := by
  induction chosen generalizing f with
  | nil => exact h
  | cons entry rest ih =>
    obtain ⟨brick, link⟩ := entry
    cases hs : f.submit link now (probeRequest brick o.probeTimeout) with
    | none =>
      simp only [launch, hs]
      exact ih h
    | some result =>
      obtain ⟨g, ticket⟩ := result
      simp only [launch, hs]
      exact ih (h.submit hs)

theorem Move.tended (hm : p.Move f now stamp q g signals) (h : f.Tended) : g.Tended := by
  cases hm with
  | cancel | gather | wake => exact h
  | praise | writeOff | lose => exact h
  | tick hp hc => exact tended_launch (tended_candidates h _) p.options now _
  | finish hp hc =>
    rw [(p.rest_spec f now).2.1]
    exact h
  | close hp hc hf => exact h.without hf

theorem Move.session_iff (hm : p.Move f now stamp q g signals) :
    (g.pool.find? id).isSome = true ↔ (f.pool.find? id).isSome = true ∧ ¬ p.Condemns id := by
  have hquiet : g.pool = f.pool → ¬ p.Condemns id →
      ((g.pool.find? id).isSome = true ↔ (f.pool.find? id).isSome = true ∧ ¬ p.Condemns id) := by
    intro hp hn
    rw [hp]
    exact (and_iff_left hn).symm
  cases hm with
  | cancel hp hc => exact hquiet rfl (by simp [Condemns, hc])
  | tick hp hc =>
    obtain ⟨probes, -, ha, -⟩ := p.tick_spec f now
    exact hquiet ha.pool (by simp [Condemns, hp])
  | gather hp hc hv => exact hquiet rfl (by simp [Condemns, hp])
  | wake hp hc hd => exact hquiet rfl (by simp [Condemns, hp])
  | finish hp hc => exact hquiet (by rw [(p.rest_spec f now).2.1]) (by simp [Condemns, hp])
  | praise hp hc => exact hquiet rfl (by simp [Condemns, hp])
  | lose hp hc ht => exact hquiet rfl (by simp [Condemns, hp])
  | @close brick e later link hp hc hf =>
    have hd : p.Condemns id ↔ id = brick := by simp [Condemns, hp, hc, eq_comm]
    have hg : (f.without brick link).pool.find? id = _ := f.pool.find?_erase brick id
    rw [hg, hd]
    by_cases hi : id = brick <;> simp [hi]
  | @writeOff brick e later hp hc hf =>
    have hd : p.Condemns id ↔ id = brick := by simp [Condemns, hp, hc, eq_comm]
    show (f.pool.find? id).isSome = true ↔ _
    rw [hd]
    by_cases hi : id = brick <;> simp [hi, hf]

end Poller

namespace Desk

variable {κ : Type} {c : Desk κ} {id : String}

/-- A session of the brick opens, over a link made by hand or dialed. -/
def Opens (c : Desk κ) (id : String) : DeskAct κ → Prop
  | .attach identity .. => id = identity.id
  | .dialed index .. => ∃ dial entry, c.dial? index = some (dial, entry) ∧ id = dial.brick
  | _ => False

/-- A session of the brick is taken out of the pool, if there is one. -/
def Takes (c : Desk κ) (id : String) : DeskAct κ → Prop
  | .disconnect brick => id = brick
  | .closeAll => True
  | .poll _ => c.poller.Condemns id
  | _ => False

theorem session_act_iff (c : Desk κ) (id : String) (act : DeskAct κ) :
    ((c.act act).fleet.pool.find? id).isSome = true ↔
      c.Opens id act ∨ (c.fleet.pool.find? id).isSome = true ∧ ¬ c.Takes id act := by
  have hquiet : ∀ {f : Fleet κ}, f.pool = c.fleet.pool → ¬ c.Opens id act → ¬ c.Takes id act →
      ((f.pool.find? id).isSome = true ↔
        c.Opens id act ∨ (c.fleet.pool.find? id).isSome = true ∧ ¬ c.Takes id act) := by
    intro f hp ho ht
    rw [hp]
    exact ⟨fun h => .inr ⟨h, ht⟩, fun h => h.elim (fun h => absurd h ho) (·.1)⟩
  cases act with
  | poll stamp =>
    cases hs : c.poller.step c.fleet c.now stamp with
    | none =>
      simp only [Desk.act, hs]
      refine hquiet rfl not_false fun h => ?_
      have hmoves : (c.poller.step c.fleet c.now stamp).isSome = true := Poller.step_of_condemns h
      simp [hs] at hmoves
    | some result =>
      simp only [Desk.act, hs, (Poller.move_of_step hs).session_iff]
      simp [Opens, Takes]
  | drive link act =>
    refine hquiet ?_ not_false not_false
    exact c.fleet.drive_pool c.poller c.now link act
  | startPoller options interval =>
    simp only [Desk.act]
    split <;> exact hquiet rfl not_false not_false
  | connect brick =>
    cases he : c.settings.entry? brick with
    | none =>
      simp only [Desk.act, he]
      exact hquiet rfl not_false not_false
    | some entry =>
      simp only [Desk.act, he]
      exact hquiet rfl not_false not_false
  | attach identity config line handle stamp =>
    simp only [Desk.act, open_pool]
    by_cases hi : id = identity.id <;> simp [Opens, Takes, hi]
  | dialed index config line handle stamp =>
    cases hd : c.dial? index with
    | none =>
      simp only [Desk.act, hd]
      exact hquiet rfl (by simp [Opens, hd]) not_false
    | some result =>
      obtain ⟨dial, entry⟩ := result
      simp only [Desk.act, hd, open_pool, (dial?_brick hd).2]
      by_cases hi : id = dial.brick <;> simp [Opens, Takes, hd, hi]
  | undialed index e =>
    cases hd : c.dial? index with
    | none =>
      simp only [Desk.act, hd]
      exact hquiet rfl not_false not_false
    | some result =>
      simp only [Desk.act, hd]
      split <;> exact hquiet rfl not_false not_false
  | disconnect brick =>
    simp only [Desk.act, Fleet.removeSession_pool]
    by_cases hi : id = brick <;> simp [Opens, Takes, hi]
  | disconnected index =>
    cases hr : c.returning index with
    | none =>
      simp only [Desk.act, hr]
      exact hquiet rfl not_false not_false
    | some brick =>
      simp only [Desk.act, hr]
      exact hquiet rfl not_false not_false
  | closeAll =>
    simp only [Desk.act, Fleet.removeSessions_pool]
    simp [Opens, Takes, Pool.find?]
  | stopPoller | abandon | endShutdown | forget | activate | measure | note =>
    exact hquiet rfl not_false not_false

theorem tended_act (h : c.fleet.Tended) (act : DeskAct κ) : (c.act act).fleet.Tended := by
  cases act with
  | poll stamp =>
    cases hs : c.poller.step c.fleet c.now stamp with
    | none =>
      simp only [Desk.act, hs]
      exact h
    | some result =>
      simp only [Desk.act, hs]
      exact (Poller.move_of_step hs).tended h
  | drive link act => exact h.drive c.poller c.now link act
  | startPoller options interval =>
    simp only [Desk.act]
    split <;> exact h
  | connect brick =>
    simp only [Desk.act]
    split <;> exact h
  | attach identity config line handle stamp => exact h.open identity config line handle stamp
  | dialed index config line handle stamp =>
    simp only [Desk.act]
    split
    · exact h
    · exact h.open _ config line handle stamp
  | undialed index e =>
    simp only [Desk.act]
    split
    · exact h
    · dsimp only
      split <;> exact h
  | disconnect brick => exact h.removeSession brick
  | disconnected index =>
    simp only [Desk.act]
    split <;> exact h
  | closeAll => exact h.removeSessions
  | stopPoller | abandon | endShutdown | forget | activate | measure | note => exact h

end Desk

/-- What happens while a monitor runs, once or several times. -/
inductive TenureAct (κ : Type) where
  | begin
  | desk (act : DeskAct κ)
  /-- The monitor is asked to stop, for good. -/
  | stop
  | supervise

/-- A monitor that runs or will run. Its poller is its own. -/
structure Tenure (κ : Type) where
  desk : Desk κ
  stopAsked : Bool := false
  /-- Done as long as the monitor does not run. -/
  supervision : Supervision := .done

def DeskAct.isOfPoller {κ : Type} : DeskAct κ → Bool
  | .startPoller .. | .stopPoller => true
  | _ => false

namespace Tenure

variable {κ : Type}

def start (settings : Settings) : Tenure κ where
  desk := .start settings

/-- The first dials begin, one for each brick. -/
def begin (t : Tenure κ) : Tenure κ :=
  let bricks := t.desk.settings.bricks
  { t with
    desk := { t.desk with
      fleet := bricks.foldl Monitor.beginConnect t.desk.fleet
      dials := t.desk.dials ++ bricks.map fun entry => ⟨entry.id, false⟩ }
    supervision := .dialing bricks.length }

theorem foldl_beginConnect (bricks : List BrickEntry) (f : Fleet κ) :
    bricks.foldl Monitor.beginConnect f =
      f.withRegistry fun r => bricks.foldl (fun r entry => r.connecting entry.identity) r := by
  induction bricks generalizing f with
  | nil => rfl
  | cons entry rest ih => exact ih (Monitor.beginConnect f entry)

theorem begin_eq (t : Tenure κ) :
    t.begin = { t with
      desk := { t.desk with
        fleet := t.desk.fleet.withRegistry fun r =>
          t.desk.settings.bricks.foldl (fun r entry => r.connecting entry.identity) r
        dials := t.desk.dials ++ t.desk.settings.bricks.map fun entry => ⟨entry.id, false⟩ }
      supervision := .dialing t.desk.settings.bricks.length } := by
  rw [← foldl_beginConnect]
  rfl

/-- The poller reports losses and asks for dials. -/
def startPoller (s : Settings) : DeskAct κ :=
  let options := { s.pollerOptions with reportsLoss := true, reconnects := true }
  .startPoller options (options.reconnectInterval?.getD .longest)

def answer (c : Desk κ) : SupervisionSignal → Desk κ
  | .startPoller => c.act (startPoller c.settings)
  | .stopPoller => c.act .stopPoller
  | .disposed _ | .finished => c

def supervise (t : Tenure κ) : Tenure κ :=
  match t.supervision.step t.desk.fleet t.stopAsked t.desk.poller.hasEnded with
  | none => t
  | some (s, f, signals) =>
    { t with desk := signals.foldl answer { t.desk with fleet := f }, supervision := s }

/-- The act ends a dial that nobody asked for again. First dials are not told apart from those that
the user has begun meanwhile, so that the monitor may go on early. -/
def endsDial (c : Desk κ) : DeskAct κ → Bool
  | .dialed index .. | .undialed index _ => (c.dial? index).any fun (dial, _) => !dial.again
  | _ => false

def act (t : Tenure κ) : TenureAct κ → Tenure κ
  | .begin => if t.supervision = .done then t.begin else t
  | .desk act =>
    if act.isOfPoller then t
    else
      { t with
        desk := t.desk.act act
        supervision := if endsDial t.desk act then t.supervision.dialEnded else t.supervision }
  | .stop => { t with stopAsked := true }
  | .supervise => t.supervise

def wait (t : Tenure κ) (ms : Nat) : Tenure κ :=
  { t with desk := t.desk.wait ms }

def after (t : Tenure κ) (ms : Nat) (act : TenureAct κ) : Tenure κ :=
  (t.wait ms).act act

def run (t : Tenure κ) (acts : List (Nat × TenureAct κ)) : Tenure κ :=
  acts.foldl (fun t timed => t.after timed.1 timed.2) t

theorem run_snoc (t : Tenure κ) (acts : List (Nat × TenureAct κ)) (ms : Nat) (act : TenureAct κ) :
    t.run (acts ++ [(ms, act)]) = (t.run acts).after ms act := by
  simp [run]

/-- The sessions that the shutdown found in the pool are closing. -/
def IsClosing (t : Tenure κ) : Prop :=
  ∃ links, t.supervision = .closing links

/-- The supervision takes all sessions out of the pool to close them. -/
def Clears (t : Tenure κ) : TenureAct κ → Prop
  | .supervise => t.supervision = .stopping ∧ t.desk.poller.hasEnded = true
  | _ => False

section Supervise

variable {t : Tenure κ}

/-- Supervising waits, or starts the poller, stops it, closes the sessions or ends the shutdown. -/
theorem supervise_cases (t : Tenure κ) :
    ¬ t.Clears .supervise ∧ t.supervise = t ∨
    t.supervision = .dialing 0 ∧ t.supervise =
      { t with desk := t.desk.act (startPoller t.desk.settings), supervision := .watching } ∨
    t.supervision = .watching ∧ t.supervise =
      { t with desk := t.desk.act .stopPoller, supervision := .stopping } ∨
    (t.Clears .supervise ∧ ∃ links, t.supervise =
      { t with desk := t.desk.act .closeAll, supervision := .closing links }) ∨
    t.IsClosing ∧ t.supervise =
      { t with desk := t.desk.act .endShutdown, supervision := .done } := by
  cases hs : t.supervision with
  | dialing left =>
    cases left with
    | zero =>
      refine .inr (.inl ⟨rfl, ?_⟩)
      simp only [supervise, hs, Supervision.step]
      rfl
    | succ left => simp [supervise, hs, Supervision.step, Clears]
  | watching =>
    cases ha : t.stopAsked with
    | false => simp [supervise, hs, Supervision.step, ha, Clears]
    | true =>
      refine .inr (.inr (.inl ⟨rfl, ?_⟩))
      simp only [supervise, hs, Supervision.step, ha, if_true]
      rfl
  | stopping =>
    cases he : t.desk.poller.hasEnded with
    | false => simp [supervise, hs, Supervision.step, he, Clears]
    | true =>
      have hall : ∀ (links : List LinkId) (c : Desk κ),
          (links.map SupervisionSignal.disposed).foldl answer c = c := by
        intro links c
        induction links with
        | nil => rfl
        | cons link rest ih => exact ih
      refine .inr (.inr (.inr (.inl ⟨⟨hs, he⟩, t.desk.fleet.removeSessions.2, ?_⟩)))
      simp only [supervise, hs, Supervision.step, he, if_true, hall]
      rfl
  | closing links =>
    cases ht : links.all t.desk.fleet.isTerminated with
    | false => simp [supervise, hs, Supervision.step, ht, Clears]
    | true =>
      refine .inr (.inr (.inr (.inr ⟨⟨links, hs⟩, ?_⟩)))
      simp only [supervise, hs, Supervision.step, ht, if_true]
      rfl
  | done => simp [supervise, hs, Supervision.step, Clears]

/-- A run of the monitor returns when it ends the shutdown. -/
theorem supervise_done (hrun : t.supervision ≠ .done) (hdone : t.supervise.supervision = .done) :
    t.IsClosing ∧ t.supervise.desk = t.desk.act .endShutdown := by
  rcases t.supervise_cases with ⟨-, hs⟩ | ⟨-, hs⟩ | ⟨-, hs⟩ | ⟨-, links, hs⟩ | ⟨hc, hs⟩
  · rw [hs] at hdone
    exact absurd hdone hrun
  · rw [hs] at hdone
    cases hdone
  · rw [hs] at hdone
    cases hdone
  · rw [hs] at hdone
    cases hdone
  · exact ⟨hc, by rw [hs]⟩

end Supervise

/-- What holds of every tenure: its records stand under their ids, and its schedulers are tended. -/
structure Kept (t : Tenure κ) : Prop where
  sound : t.desk.Sound
  tended : t.desk.fleet.Tended

section Kept

variable {t : Tenure κ}

theorem kept_start (settings : Settings) : (start settings : Tenure κ).Kept where
  sound := Desk.start_sound settings
  tended link s hs := by simp [start, Desk.start, Fleet.scheduler?] at hs

theorem Kept.desk (h : t.Kept) (act : DeskAct κ) (s : Supervision) :
    Kept { t with desk := t.desk.act act, supervision := s } :=
  ⟨h.sound.act act, Desk.tended_act h.tended act⟩

theorem keyed_foldl_connecting {r : Registry κ} (h : r.Keyed) (bricks : List BrickEntry) :
    (bricks.foldl (fun r entry => r.connecting entry.identity) r).Keyed := by
  induction bricks generalizing r with
  | nil => exact h
  | cons entry rest ih => exact ih (h.connecting entry.identity)

theorem Kept.begin (h : t.Kept) : t.begin.Kept := by
  rw [begin_eq]
  exact ⟨⟨keyed_foldl_connecting h.sound.keyed _, h.sound.grounded⟩, h.tended⟩

theorem Kept.act (h : t.Kept) (act : TenureAct κ) : (t.act act).Kept := by
  cases act with
  | begin =>
    simp only [Tenure.act]
    split
    · exact h.begin
    · exact h
  | desk act =>
    simp only [Tenure.act]
    split
    · exact h
    · exact h.desk act _
  | stop => exact ⟨h.sound, h.tended⟩
  | supervise =>
    show t.supervise.Kept
    rcases t.supervise_cases with ⟨-, hs⟩ | ⟨-, hs⟩ | ⟨-, hs⟩ | ⟨-, links, hs⟩ | ⟨-, hs⟩
    all_goals rw [hs]
    · exact h
    all_goals exact h.desk _ _

theorem Kept.run (h : t.Kept) (acts : List (Nat × TenureAct κ)) : (t.run acts).Kept := by
  induction acts generalizing t with
  | nil => exact h
  | cons timed rest ih =>
    have hw : (t.wait timed.1).Kept := ⟨h.sound.wait timed.1, h.tended⟩
    exact ih (hw.act timed.2)

end Kept

section Intrusion

variable {t : Tenure κ} {id : String} {act : TenureAct κ}

def Opens (t : Tenure κ) (id : String) : TenureAct κ → Prop
  | .desk act => t.desk.Opens id act
  | _ => False

def Takes (t : Tenure κ) (id : String) : TenureAct κ → Prop
  | .desk act => t.desk.Takes id act
  | act => t.Clears act

theorem isClosing_of_act (h : (t.act act).IsClosing) : t.IsClosing ∨ t.Clears act := by
  obtain ⟨links, hl⟩ := h
  cases act with
  | begin =>
    simp only [Tenure.act] at hl
    split at hl
    · cases hl
    · exact .inl ⟨links, hl⟩
  | desk act =>
    refine .inl ?_
    simp only [Tenure.act] at hl
    split at hl
    · exact ⟨links, hl⟩
    · dsimp only at hl
      split at hl
      · cases hs : t.supervision <;> simp [hs, Supervision.dialEnded] at hl
        exact ⟨_, hs⟩
      · exact ⟨links, hl⟩
  | stop => exact .inl ⟨links, hl⟩
  | supervise =>
    have hl : t.supervise.supervision = .closing links := hl
    rcases t.supervise_cases with ⟨-, hs⟩ | ⟨-, hs⟩ | ⟨-, hs⟩ | ⟨hc, -⟩ | ⟨-, hs⟩
    · exact .inl ⟨links, by rwa [hs] at hl⟩
    · rw [hs] at hl
      cases hl
    · rw [hs] at hl
      cases hl
    · exact .inr hc
    · rw [hs] at hl
      cases hl

theorem session_supervise_iff (t : Tenure κ) (id : String) :
    (t.supervise.desk.fleet.pool.find? id).isSome = true ↔
      (t.desk.fleet.pool.find? id).isSome = true ∧ ¬ t.Clears .supervise := by
  have hquiet : ¬ t.Clears .supervise → ∀ act : DeskAct κ, ¬ t.desk.Opens id act →
      ¬ t.desk.Takes id act → (((t.desk.act act).fleet.pool.find? id).isSome = true ↔
        (t.desk.fleet.pool.find? id).isSome = true ∧ ¬ t.Clears .supervise) := by
    intro hc act ho ht
    rw [Desk.session_act_iff]
    simp [hc, ho, ht]
  rcases t.supervise_cases with ⟨hc, hs⟩ | ⟨hs, hu⟩ | ⟨hs, hu⟩ | ⟨hc, links, hu⟩ | ⟨⟨links, hs⟩, hu⟩
  · rw [hs]
    exact (and_iff_left hc).symm
  · rw [hu]
    exact hquiet (by simp [Clears, hs]) _ not_false not_false
  · rw [hu]
    exact hquiet (by simp [Clears, hs]) _ not_false not_false
  · rw [hu]
    simp [Desk.session_act_iff, Desk.Opens, Desk.Takes, hc]
  · rw [hu]
    exact hquiet (by simp [Clears, hs]) _ not_false not_false

theorem session_begin (t : Tenure κ) : t.begin.desk.fleet.pool = t.desk.fleet.pool := by
  rw [begin_eq]
  rfl

/-- One act leaves a brick with a session if it opens one, or if there is one that it does not take
out of the pool. -/
theorem session_act_iff (t : Tenure κ) (id : String) (act : TenureAct κ) :
    ((t.act act).desk.fleet.pool.find? id).isSome = true ↔
      t.Opens id act ∨ (t.desk.fleet.pool.find? id).isSome = true ∧ ¬ t.Takes id act := by
  cases act with
  | begin =>
    simp only [Tenure.act]
    split
    · rw [session_begin]
      simp [Opens, Takes, Clears]
    · simp [Opens, Takes, Clears]
  | desk act =>
    simp only [Tenure.act]
    split
    · next hp =>
      have hn : ¬ t.desk.Opens id act ∧ ¬ t.desk.Takes id act := by
        cases act <;> simp_all [DeskAct.isOfPoller, Desk.Opens, Desk.Takes]
      simp [Opens, Takes, hn]
    · exact t.desk.session_act_iff id act
  | stop => simp [Tenure.act, Opens, Takes, Clears]
  | supervise =>
    show (t.supervise.desk.fleet.pool.find? id).isSome = true ↔ _
    rw [session_supervise_iff]
    simp [Opens, Takes]

/-- In the shutdown that is under way, a session of the brick opens while the others are closing,
and nothing takes it out of the pool again. -/
def Intruded (t : Tenure κ) (id : String) (acts : List (Nat × TenureAct κ)) : Prop :=
  ∃ early ms act late, acts = early ++ (ms, act) :: late ∧
    (t.run early).IsClosing ∧ ((t.run early).wait ms).Opens id act ∧
    ∀ part ms' act' rest, late = part ++ (ms', act') :: rest →
      ¬ ((t.run (early ++ (ms, act) :: part)).wait ms').Takes id act'

theorem intruded_snoc {acts : List (Nat × TenureAct κ)} {ms : Nat} :
    t.Intruded id (acts ++ [(ms, act)]) ↔
      (t.run acts).IsClosing ∧ ((t.run acts).wait ms).Opens id act ∨
        t.Intruded id acts ∧ ¬ ((t.run acts).wait ms).Takes id act := by
  have h := exists_since_prefix_snoc_iff
    (fun early x => (t.run early).IsClosing ∧ ((t.run early).wait x.1).Opens id x.2)
    (fun early y => ¬ ((t.run early).wait y.1).Takes id y.2) acts (ms, act)
  simp only [Prod.exists, Prod.forall, and_assoc] at h
  exact h.trans (or_congr_right and_comm)

/-- While the sessions are closing, the pool holds exactly those that intruded. -/
theorem session_iff_intruded (settings : Settings) (id : String) (acts : List (Nat × TenureAct κ))
    (hc : ((start settings : Tenure κ).run acts).IsClosing) :
    (((start settings : Tenure κ).run acts).desk.fleet.pool.find? id).isSome = true ↔
      (start settings).Intruded id acts := by
  induction acts using List.reverseRecOn with
  | nil => cases hc.choose_spec
  | append_singleton acts timed ih =>
    obtain ⟨ms, act⟩ := timed
    rw [run_snoc] at hc ⊢
    rw [intruded_snoc]
    show ((((start settings).run acts).wait ms).act act |>.desk.fleet.pool.find? id).isSome = true ↔ _
    rw [session_act_iff]
    -- Either the sessions were closing before, or this act takes all of them out of the pool.
    rcases isClosing_of_act hc with hb | hb
    · have hprev : ((start settings : Tenure κ).run acts).IsClosing := hb
      have hpool := ih hprev
      show _ ∨ (((start settings).run acts).desk.fleet.pool.find? id).isSome = true ∧ _ ↔ _
      rw [hpool]
      simp [hprev]
    · cases act with
      | supervise => simp [Opens, Takes, hb]
      | begin | desk | stop => cases hb

end Intrusion

end Tenure

theorem hasLive_endShutdown {κ : Type} {f : Fleet κ} (h : f.registry.Keyed) :
    (Monitor.endShutdown f).registry.hasLive = false := by
  have hk : (Monitor.endShutdown f).registry.Keyed := h.markAllUnavailable _
  refine List.any_eq_false.mpr fun entry he => ?_
  have hfind := (h.find?_markAllUnavailable Monitor.stopReason entry.1).symm.trans (hk.find?_of_mem he)
  obtain ⟨record, -, hr⟩ := Option.map_eq_some_iff.mp hfind
  by_cases hl : record.status.isLive = true
  · rw [if_pos hl] at hr
    rw [← hr]
    simp [BrickRecord.lose, BrickStatus.isLive]
  · rw [if_neg hl] at hr
    rwa [← hr]

theorem Pool.isEmpty_iff {σ : Type} (p : Pool σ) :
    p.isEmpty = true ↔ ∀ id, ¬ (p.find? id).isSome = true := by
  unfold Pool.isEmpty Pool.find?
  cases p.sessions with
  | nil => simp
  | cons entry rest =>
    refine iff_of_false (by simp) fun h => h entry.1 ?_
    simp

/-- When a monitor has stopped, no brick is connecting or ready, and every scheduler that was in the
pool at any time was disposed of, or is still in it. The pool is empty, and all of them disposed of,
exactly if no session has opened while the others were closing, to be left in the pool. -/
theorem shutdown_leaves_intruders {κ : Type} (settings : Settings) (acts : List (Nat × TenureAct κ))
    (ms : Nat) (hrun : ((Tenure.start settings).run acts).supervision ≠ .done)
    (hdone : ((Tenure.start settings).run (acts ++ [(ms, .supervise)])).supervision = .done) :
    let f := ((Tenure.start settings).run (acts ++ [(ms, .supervise)])).desk.fleet
    f.registry.hasLive = false ∧
    (∀ link s, f.scheduler? link = some s →
      s.state = .disposed ∨ ∃ id, f.pool.find? id = some link) ∧
    (∀ id, (f.pool.find? id).isSome = true ↔ (Tenure.start settings).Intruded id acts) ∧
    ((f.pool.isEmpty = true ∧ ∀ link s, f.scheduler? link = some s → s.state = .disposed) ↔
      ∀ id, ¬ (Tenure.start settings).Intruded id acts) := by
  intro f
  have hkept : ((Tenure.start settings).run acts).Kept := (Tenure.kept_start settings).run acts
  have hafter : ((Tenure.start settings).run (acts ++ [(ms, .supervise)])).Kept :=
    (Tenure.kept_start settings).run _
  have hstep : (Tenure.start settings).run (acts ++ [(ms, .supervise)]) =
      (((Tenure.start settings).run acts).wait ms).supervise := Tenure.run_snoc ..
  rw [hstep] at hdone
  have hwait : (((Tenure.start settings).run acts).wait ms).supervision ≠ .done := hrun
  obtain ⟨hc, hdesk⟩ := Tenure.supervise_done hwait hdone
  have hu : f = Monitor.endShutdown ((Tenure.start settings).run acts).desk.fleet := by
    show ((Tenure.start settings).run (acts ++ [(ms, .supervise)])).desk.fleet = _
    rw [hstep, hdesk]
    rfl
  have htended : ∀ link s, f.scheduler? link = some s →
      s.state = .disposed ∨ ∃ id, f.pool.find? id = some link :=
    fun link s hs => (hafter.tended link s hs).imp_left (·.state)
  have hpool : ∀ id, (f.pool.find? id).isSome = true ↔ (Tenure.start settings).Intruded id acts := by
    intro id
    rw [hu]
    exact Tenure.session_iff_intruded settings id acts hc
  refine ⟨?_, htended, hpool, ?_⟩
  · rw [hu]
    exact hasLive_endShutdown hkept.sound.keyed
  · simp only [← hpool, Pool.isEmpty_iff]
    refine ⟨And.left, fun hempty => ⟨hempty, fun link s hs => (htended link s hs).resolve_right ?_⟩⟩
    rintro ⟨id, hi⟩
    exact hempty id (by rw [hi]; rfl)

namespace Tenure

def oneBrick : Tenure Unit :=
  start { bricks := [{ id := "a", host := "localhost" }] }

def dialed (index : Nat) : TenureAct Unit :=
  .desk (.dialed index (oneBrick.desk.settings.schedulerConfig "a") (.ofCapacity 64) () "")

def refused (index : Nat) : TenureAct Unit :=
  .desk (.undialed index (.transport "refused"))

/-- The link of the brick is lost, so that the poller asks for another dial. Meanwhile the user
connects the brick, and the monitor is asked to stop. While the session is closing, the other dial
ends. -/
def stopping (ending : TenureAct Unit) : List (Nat × TenureAct Unit) :=
  List.map ((0, ·)) <|
    [.begin, dialed 0, .supervise] ++
    [.dispose, .move, .move, .move].map (fun act => .desk (.drive 0 act)) ++
    List.replicate 5 (.desk (.poll "")) ++
    [.desk (.connect "a"), dialed 1, .stop, .supervise, .desk (.poll ""), .supervise] ++
    ending :: List.replicate 3 (.desk (.drive 1 .move))

end Tenure

/-- The other dial fails, and nothing is left behind. -/
theorem shutdown_after_failed_dial :
    (Tenure.oneBrick.run (Tenure.stopping (Tenure.refused 0))).supervision ≠ .done ∧
    (Tenure.oneBrick.run (Tenure.stopping (Tenure.refused 0) ++ [(0, .supervise)])).supervision =
      .done ∧
    ∀ id, ¬ Tenure.oneBrick.Intruded id (Tenure.stopping (Tenure.refused 0)) := by
  have hrun : (Tenure.oneBrick.run (Tenure.stopping (Tenure.refused 0))).supervision ≠ .done := by
    decide +kernel
  have hdone : (Tenure.oneBrick.run
      (Tenure.stopping (Tenure.refused 0) ++ [(0, .supervise)])).supervision = .done := by
    decide +kernel
  have hempty : (Tenure.oneBrick.run
      (Tenure.stopping (Tenure.refused 0) ++ [(0, .supervise)])).desk.fleet.pool.isEmpty = true := by
    decide +kernel
  obtain ⟨-, -, hpool, -⟩ := shutdown_leaves_intruders _ _ 0 hrun hdone
  refine ⟨hrun, hdone, fun id hi => ?_⟩
  exact (Pool.isEmpty_iff _).mp hempty id ((hpool id).mpr hi)

/-- The other dial succeeds. When the monitor has stopped, the brick has a session all the same. -/
theorem dial_outlives_shutdown :
    (Tenure.oneBrick.run (Tenure.stopping (Tenure.dialed 0))).supervision ≠ .done ∧
    (Tenure.oneBrick.run (Tenure.stopping (Tenure.dialed 0) ++ [(0, .supervise)])).supervision =
      .done ∧
    (Tenure.oneBrick.run
      (Tenure.stopping (Tenure.dialed 0) ++ [(0, .supervise)])).desk.fleet.pool.find? "a" = some 2 ∧
    ((Tenure.oneBrick.run
      (Tenure.stopping (Tenure.dialed 0) ++ [(0, .supervise)])).desk.fleet.scheduler? 2).map
        (·.state) = some .idle := by
  decide +kernel

end BrickHost
