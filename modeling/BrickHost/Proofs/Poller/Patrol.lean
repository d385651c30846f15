import Mathlib.Tactic.ByContra
import BrickHost.Proofs.Poller.Move
import BrickHost.Proofs.Scheduler.Course

/-! Courses of a poller over a fleet that others change as they like, also while probes are on the
wire. A probe goes out through one scheduler; its verdict goes by the id of the brick. -/

namespace BrickHost

def Probe.fault? (x : Probe) : Option LinkError :=
  x.outcome.bind Outcome.probeFault?

/-- Hands the outcomes of requests on a link to the probes that wait for them. -/
def Poller.hear (link : LinkId) (p : Poller) : Event → Poller
  | .did (.resolved post outcome) => p.resolve link post.ticket outcome
  | _ => p

/-- Something happens to a scheduler of a fleet, and a poller hears of it. -/
def Fleet.drive {κ : Type} (f : Fleet κ) (p : Poller) (now : Nat) (link : LinkId) (act : Act) :
    Fleet κ × Poller :=
  match f.scheduler? link with
  | none => (f, p)
  | some s =>
    let (s, events) := s.react now act
    (f.update link fun _ => s, events.foldl (Poller.hear link) p)

theorem Fleet.drive_registry {κ : Type} (f : Fleet κ) (p : Poller) (now : Nat) (link : LinkId)
    (act : Act) : (f.drive p now link act).1.registry = f.registry := by
  unfold drive
  split <;> rfl

theorem Fleet.drive_pool {κ : Type} (f : Fleet κ) (p : Poller) (now : Nat) (link : LinkId)
    (act : Act) : (f.drive p now link act).1.pool = f.pool := by
  unfold drive
  split <;> rfl

theorem Fleet.drive_scheduler? {κ : Type} (f : Fleet κ) (p : Poller) (now : Nat) (link : LinkId)
    (act : Act) (other : LinkId) : (f.drive p now link act).1.scheduler? other =
      if link = other then (f.scheduler? other).map fun s => (s.react now act).1
      else f.scheduler? other := by
  cases hs : f.scheduler? link with
  | none =>
    have hd : f.drive p now link act = (f, p) := by simp only [drive, hs]
    rw [hd]
    split
    · next ho => rw [← ho, hs, Option.map_none]
    · rfl
  | some s =>
    simp only [drive, hs, scheduler?_update]
    split
    · next ho => rw [← ho, hs, Option.map_some, Option.map_some]
    · rfl

inductive PatrolAct (κ : Type) where
  | poll (stamp : String)
  | drive (link : LinkId) (act : Act)
  /-- Others start schedulers, insert, replace and close sessions, mark records. -/
  | alter (change : Fleet κ → Fleet κ)
  | endReconnect (brick : String)
  | stop

structure Patrol (κ : Type) where
  fleet : Fleet κ
  poller : Poller
  now : Nat := 0
  /-- The probes of the round that are still to be judged, the one being dealt with first. -/
  due : List Probe := []

namespace Patrol

variable {κ : Type}

/-- The probes that are left when the poller has moved on. -/
def dueAfter (c : Patrol κ) (p : Poller) : List Probe :=
  match c.poller.phase, p.phase with
  | .probing probes, _ => probes
  | .judging _, .judging _ | .closing .., .judging _ => c.due.tail
  | _, _ => c.due

def act (c : Patrol κ) : PatrolAct κ → Patrol κ
  | .poll stamp =>
    match c.poller.step c.fleet c.now stamp with
    | none => c
    | some (p, f, _) => { c with fleet := f, poller := p, due := c.dueAfter p }
  | .drive link act =>
    let (f, p) := c.fleet.drive c.poller c.now link act
    { c with fleet := f, poller := p }
  | .alter change => { c with fleet := change c.fleet }
  | .endReconnect brick => { c with poller := c.poller.endReconnect brick }
  | .stop => { c with poller := c.poller.dispose }

def after (c : Patrol κ) (ms : Nat) (act : PatrolAct κ) : Patrol κ :=
  { c with now := c.now + ms }.act act

def run (c : Patrol κ) (acts : List (Nat × PatrolAct κ)) : Patrol κ :=
  acts.foldl (fun c timed => c.after timed.1 timed.2) c

def start (fleet : Fleet κ) (options : PollerOptions) (interval : Duration) : Patrol κ where
  fleet := fleet
  poller := .start options interval

/-- The probe that the next move of the poller deals with. -/
def handled (c : Patrol κ) : Option Probe :=
  match c.poller.cancelled, c.poller.phase with
  | false, .judging _ | false, .closing .. => c.due.head?
  | _, _ => none

end Patrol

namespace Poller

/-- Outcomes change nothing but the probes of a poller that probes, and there only the outcomes. -/
def Hears (p q : Poller) : Prop :=
  ∃ probes changed, p.phase = .probing probes ∧ q = { p with phase := .probing changed } ∧
    changed.map (fun x => (x.brick, x.link)) = probes.map fun x => (x.brick, x.link)

theorem hear_cases (link : LinkId) (p : Poller) (event : Event) :
    p.hear link event = p ∨ p.Hears (p.hear link event) := by
  unfold hear
  split
  · unfold resolve
    split
    · next probes hp =>
      refine .inr ⟨probes, _, hp, rfl, ?_⟩
      rw [List.map_map]
      apply List.map_congr_left
      intro x _
      simp only [Function.comp_apply]
      split <;> rfl
    · exact .inl rfl
  · exact .inl rfl

theorem Hears.trans {p q r : Poller} (hq : p.Hears q) (hr : q.Hears r) : p.Hears r := by
  obtain ⟨probes, changed, hp, rfl, hc⟩ := hq
  obtain ⟨_, later, hl, rfl, hc'⟩ := hr
  cases hl
  exact ⟨probes, later, hp, rfl, hc'.trans hc⟩

theorem foldl_hear_cases (link : LinkId) (p : Poller) (events : List Event) :
    events.foldl (hear link) p = p ∨ p.Hears (events.foldl (hear link) p) := by
  induction events generalizing p with
  | nil => exact .inl rfl
  | cons event rest ih =>
    rw [List.foldl_cons]
    rcases hear_cases link p event with he | he
    · rw [he]
      exact ih p
    · rcases ih (p.hear link event) with hr | hr
      · rw [hr]
        exact .inr he
      · exact .inr (he.trans hr)

theorem drive_poller_cases {κ : Type} (f : Fleet κ) (p : Poller) (now : Nat) (link : LinkId)
    (act : Act) : (f.drive p now link act).2 = p ∨ p.Hears (f.drive p now link act).2 := by
  cases hs : f.scheduler? link with
  | none => exact .inl (by simp only [Fleet.drive, hs])
  | some s =>
    simp only [Fleet.drive, hs]
    exact foldl_hear_cases link p _

theorem verdicts?_cons {due : List Probe} {verdict : String × Option LinkError}
    {later : List (String × Option LinkError)} (h : verdicts? due = some (verdict :: later)) :
    ∃ x rest, due = x :: rest ∧ verdict = (x.brick, x.fault?) ∧ verdicts? rest = some later := by
  cases due with
  | nil => simp [verdicts?] at h
  | cons x rest =>
    cases ho : x.outcome with
    | none => simp [verdicts?, ho] at h
    | some outcome =>
      cases hr : verdicts? rest with
      | none => simp [verdicts?, ho, hr] at h
      | some others =>
        simp only [verdicts?, ho, hr, Option.some.injEq, List.cons.injEq] at h
        obtain ⟨rfl, rfl⟩ := h
        exact ⟨x, rest, rfl, by simp [Probe.fault?, ho], hr⟩

end Poller

namespace Patrol

variable {κ : Type}

/-- The verdicts that are left are those of the probes that are due. -/
def Owes (c : Patrol κ) : Prop :=
  match c.poller.phase with
  | .judging verdicts => Poller.verdicts? c.due = some verdicts
  | .closing brick reason _ later =>
    ∃ x rest e, c.due = x :: rest ∧ x.brick = brick ∧ x.fault? = some e ∧
      reason = Poller.lossReason e ∧ Poller.verdicts? rest = some later
  | _ => True

theorem Owes.poll {c : Patrol κ} (h : c.Owes) {now : Nat} {stamp : String} {p : Poller}
    {f g : Fleet κ} {signals : List PollerSignal} (hm : c.poller.Move f now stamp p g signals) :
    Owes { c with fleet := g, poller := p, due := c.dueAfter p } := by
  have hloss : ∀ (q : Poller) {x : Probe} {rest : List Probe}
      {later : List (String × Option LinkError)}, c.due = x :: rest →
      Poller.verdicts? rest = some later →
      (∀ vs, (q.afterLoss later).phase = .judging vs → c.dueAfter (q.afterLoss later) = c.due.tail) →
      Owes { c with
        fleet := g, poller := q.afterLoss later, due := c.dueAfter (q.afterLoss later) } := by
    intro q x rest later hd hr ht
    unfold Owes
    rcases q.afterLoss_phase later with hp | hp
    · simp only [hp]
    · simp only [hp, ht later hp, hd, List.tail_cons]
      exact hr
  cases hm with
  | cancel hp hc | wake hp hc hd => exact True.intro
  | tick hp hc =>
    obtain ⟨probes, ht, -⟩ := c.poller.tick_spec f now
    unfold Owes
    simp [ht]
  | gather hp hc hv => simpa only [Owes, dueAfter, hp] using hv
  | finish hp hc =>
    obtain ⟨⟨until_, hr⟩, -⟩ := c.poller.rest_spec f now
    unfold Owes
    simp only [hr]
  | praise hp hc =>
    simp only [Owes, hp] at h
    obtain ⟨x, rest, hd, -, hr⟩ := Poller.verdicts?_cons h
    simpa only [Owes, dueAfter, hp, hd, List.tail_cons] using hr
  | close hp hc hf =>
    simp only [Owes, hp] at h
    obtain ⟨x, rest, hd, hv, hr⟩ := Poller.verdicts?_cons h
    obtain ⟨rfl, he⟩ := Prod.mk.inj hv
    simp only [Owes, dueAfter, hp]
    exact ⟨x, rest, _, hd, rfl, he.symm, rfl, hr⟩
  | writeOff hp hc hf =>
    simp only [Owes, hp] at h
    obtain ⟨x, rest, hd, -, hr⟩ := Poller.verdicts?_cons h
    exact hloss c.poller hd hr (fun vs hv => by simp only [dueAfter, hp, hv])
  | lose hp hc ht =>
    simp only [Owes, hp] at h
    obtain ⟨x, rest, e, hd, -, -, -, hr⟩ := h
    exact hloss c.poller hd hr (fun vs hv => by simp only [dueAfter, hp, hv])

theorem Owes.act {c : Patrol κ} (h : c.Owes) (act : PatrolAct κ) : (c.act act).Owes := by
  cases act with
  | poll stamp =>
    cases hs : c.poller.step c.fleet c.now stamp with
    | none => simpa only [Patrol.act, hs] using h
    | some result =>
      simp only [Patrol.act, hs]
      exact h.poll (Poller.move_of_step hs)
  | drive link act =>
    simp only [Patrol.act]
    rcases Poller.drive_poller_cases c.fleet c.poller c.now link act with hp | ⟨_, changed, -, hq, -⟩
    · rw [hp]
      exact h
    · rw [hq]
      exact True.intro
  | alter _ | endReconnect _ | stop => exact h

theorem run_owes {c : Patrol κ} (h : c.Owes) (acts : List (Nat × PatrolAct κ)) :
    (c.run acts).Owes := by
  induction acts generalizing c with
  | nil => exact h
  | cons timed rest ih => exact ih (Owes.act (c := { c with now := c.now + timed.1 }) h timed.2)

/-- What a failed probe may do: nothing but the scheduler it was sent through is disposed of, and
another session of its brick stays as it is, and so does the record of the brick. -/
structure Spares (x : Probe) (f g : Fleet κ) (signals : List PollerSignal) : Prop where
  disposed : ∀ link, .disposed link ∈ signals → link = x.link
  kept : ∀ link, f.pool.find? x.brick = some link → link ≠ x.link →
    g.session? x.brick = f.session? x.brick ∧
      g.registry.find? x.brick = f.registry.find? x.brick

/-- A session that failed its probe was taken out of the pool, and its end is waited for. -/
def isClosing (c : Patrol κ) : Bool :=
  match c.poller.phase with
  | .closing .. => true
  | _ => false

section Handling

variable {c : Patrol κ} {x : Probe} {e : LinkError} {now : Nat} {stamp : String} {q : Poller}
  {g : Fleet κ} {signals : List PollerSignal}

/-- A failed probe takes the session of its brick out of the pool, whichever that is, and when that
has ended, or if there is none, marks the record of the brick. -/
theorem Owes.handling (h : c.Owes) (hx : c.handled = some x) (he : x.fault? = some e)
    (hm : c.poller.Move c.fleet now stamp q g signals) :
    (∃ link, c.isClosing = false ∧ c.fleet.pool.find? x.brick = some link ∧
      g = c.fleet.without x.brick link ∧ signals = [.closing x.brick, .disposed link]) ∨
    ((c.isClosing = false → c.fleet.pool.find? x.brick = none) ∧
      g = c.fleet.withRegistry (·.markUnavailable x.brick (Poller.lossReason e)) ∧
      ∀ link, .disposed link ∉ signals) := by
  unfold Owes at h
  unfold handled at hx
  cases hm with
  | cancel hp hc => simp [hc] at hx
  | tick hp hc | gather hp hc hv | wake hp hc hd => simp [hp] at hx
  | finish hp hc =>
    simp only [hp, hc] at h hx
    cases hd : c.due with
    | nil => simp [hd] at hx
    | cons y rest =>
      cases ho : y.outcome <;> cases hr : Poller.verdicts? rest <;>
        simp [hd, Poller.verdicts?, ho, hr] at h
  | praise hp hc =>
    simp only [hp, hc] at h hx
    obtain ⟨y, rest, hd, hv, -⟩ := Poller.verdicts?_cons h
    rw [hd] at hx
    cases hx
    simp [he] at hv
  | close hp hc hf =>
    simp only [hp, hc] at h hx
    obtain ⟨y, rest, hd, hv, -⟩ := Poller.verdicts?_cons h
    rw [hd] at hx
    cases hx
    obtain ⟨rfl, -⟩ := Prod.mk.inj hv
    exact .inl ⟨_, by simp [isClosing, hp], hf, rfl, rfl⟩
  | writeOff hp hc hf =>
    simp only [hp, hc] at h hx
    obtain ⟨y, rest, hd, hv, -⟩ := Poller.verdicts?_cons h
    rw [hd] at hx
    cases hx
    obtain ⟨rfl, hfault⟩ := Prod.mk.inj hv
    cases hfault.trans he
    refine .inr ⟨fun _ => hf, rfl, fun link hl => ?_⟩
    rcases List.mem_cons.mp hl with hl | hl
    · cases hl
    · exact Poller.disposed_notMem_lossSignals _ _ _ link hl
  | lose hp hc ht =>
    simp only [hp, hc] at h hx
    obtain ⟨y, rest, e', hd, rfl, hv, rfl, -⟩ := h
    rw [hd] at hx
    cases hx
    cases hv.symm.trans he
    exact .inr ⟨fun hn => by simp [isClosing, hp] at hn, rfl,
      Poller.disposed_notMem_lossSignals _ _ _⟩

end Handling

/-- No session of the brick but the one that was probed can be harmed: none stands in the pool, or
the probed one has been closed already and marking the record would not change it. -/
def IsHarmless (c : Patrol κ) (x : Probe) (e : LinkError) : Prop :=
  ∀ link, c.fleet.pool.find? x.brick = some link → link ≠ x.link →
    c.isClosing = true ∧ ∀ record, c.fleet.registry.find? x.brick = some record →
      record.lose (Poller.lossReason e) = record

section Sparing

variable {c : Patrol κ} {x : Probe} {e : LinkError}

theorem spares_close_iff {link : LinkId} (hc : c.isClosing = false)
    (hp : c.fleet.pool.find? x.brick = some link) :
    Spares x c.fleet (c.fleet.without x.brick link) [.closing x.brick, .disposed link] ↔
      c.IsHarmless x e := by
  constructor
  · intro hs other ho hne
    have hl : link = x.link := hs.disposed link (by simp)
    rw [hp] at ho
    cases ho
    exact absurd hl hne
  · intro hh
    have hsame : ∀ other, c.fleet.pool.find? x.brick = some other → other = x.link := by
      intro other ho
      by_contra hne
      have hc' : c.isClosing = true := (hh other ho hne).1
      rw [hc] at hc'
      cases hc'
    refine ⟨fun other ho => ?_, fun other ho hne => absurd (hsame other ho) hne⟩
    obtain rfl : other = link := by simpa using ho
    exact hsame other hp

theorem spares_mark_iff {signals : List PollerSignal}
    (hp : c.isClosing = false → c.fleet.pool.find? x.brick = none)
    (hq : ∀ link, .disposed link ∉ signals) :
    Spares x c.fleet (c.fleet.withRegistry (·.markUnavailable x.brick (Poller.lossReason e)))
      signals ↔ c.IsHarmless x e := by
  constructor
  · intro hs other ho hne
    have hc : c.isClosing = true := by
      by_contra hn
      rw [hp (by simpa using hn)] at ho
      cases ho
    refine ⟨hc, fun record hr => ?_⟩
    have hk := (hs.kept other ho hne).2
    simpa [Registry.find?_markUnavailable, hr] using hk
  · intro hh
    refine ⟨fun link hl => absurd hl (hq link), fun other ho hne => ⟨rfl, ?_⟩⟩
    rw [Fleet.withRegistry_registry, Registry.find?_markUnavailable, if_pos rfl]
    cases hr : c.fleet.registry.find? x.brick with
    | none => rfl
    | some record => rw [Option.map_some, (hh other ho hne).2 record hr]

end Sparing

end Patrol

/-- In every course, whatever others do to the fleet, a tick sends its probes through the sessions
that the pool holds then, and a failed probe touches nothing but the session and the record of its
brick. It spares every session but the one it was sent through exactly if at that moment the pool
holds no other one for the brick that it could harm. -/
theorem failed_probe_spares_iff {κ : Type} (fleet : Fleet κ) (options : PollerOptions)
    (interval : Duration) (acts : List (Nat × PatrolAct κ)) :
    let c := (Patrol.start fleet options interval).run acts
    ∀ now stamp q g signals, c.poller.step c.fleet now stamp = some (q, g, signals) →
      (∀ probes, c.poller.phase = .waking → q.phase = .probing probes →
        ∀ x ∈ probes, c.fleet.pool.find? x.brick = some x.link) ∧
      ∀ x e, c.handled = some x → x.fault? = some e →
        (∀ id, id ≠ x.brick → g.pool.find? id = c.fleet.pool.find? id ∧
          g.registry.find? id = c.fleet.registry.find? id) ∧
        (∀ link, c.fleet.pool.find? x.brick ≠ some link →
          g.scheduler? link = c.fleet.scheduler? link) ∧
        (Patrol.Spares x c.fleet g signals ↔ c.IsHarmless x e) := by
  intro c now stamp q g signals hs
  have hstart : (Patrol.start fleet options interval).Owes := True.intro
  have h : c.Owes := Patrol.run_owes hstart acts
  refine ⟨fun probes hp hq x hx => ?_, fun x e hx he => ?_⟩
  · obtain ⟨sent, ht, -, hsent, -⟩ := c.poller.tick_spec c.fleet now
    cases Poller.move_of_step hs with
    | tick hw hc =>
      rw [ht] at hq
      cases hq
      exact (hsent x hx).1
    | _ => simp_all
  rcases h.handling hx he (Poller.move_of_step hs) with
    ⟨link, hc, hp, rfl, rfl⟩ | ⟨hp, rfl, hq⟩
  · refine ⟨fun id hi => ?_, fun other ho => ?_, Patrol.spares_close_iff hc hp⟩
    · simp [Fleet.without, hi]
    · have hl : link ≠ other := fun hl => ho (hl ▸ hp)
      exact c.fleet.without_scheduler?_of_ne x.brick hl
  · refine ⟨fun id hi => ?_, fun other _ => rfl, Patrol.spares_mark_iff hp hq⟩
    simp [Registry.find?_markUnavailable, hi]

/-- A brick that is ready, with its session over the first of two idle links. -/
def Patrol.readyFleet : Fleet Unit where
  registry := Registry.ready {} { id := "a", displayName := "a", transport := .mock } () () ""
  pool := ⟨[("a", 0)]⟩
  schedulers := [{ config := {}, line := .ofCapacity 64 }, { config := {}, line := .ofCapacity 64 }]

/-- The only session of the brick is disposed of under its probe. -/
theorem failed_probe_spares_alone :
    ∃ x e q g signals,
      let c := (Patrol.start Patrol.readyFleet {} (.ofMillis 1000)).run
        [(0, .poll ""), (0, .drive 0 .dispose), (0, .drive 0 .move), (0, .poll "")]
      c.handled = some x ∧ x.fault? = some e ∧
        c.poller.step c.fleet 0 "" = some (q, g, signals) ∧ Patrol.Spares x c.fleet g signals := by
  refine ⟨_, _, _, _, _, rfl, rfl, rfl, ?_⟩
  refine ((failed_probe_spares_iff Patrol.readyFleet {} (.ofMillis 1000) _ 0 "" _ _ _ rfl).2
    _ _ rfl rfl).2.2.mpr ?_
  intro link hl hne
  cases hl
  exact absurd rfl hne

/-- The session is replaced while its probe is on the wire, and the newer one is closed for it. -/
theorem newer_session_closed_for_older_probe :
    ∃ acts x e q g signals,
      let c := (Patrol.start Patrol.readyFleet {} (.ofMillis 1000)).run acts
      c.handled = some x ∧ x.fault? = some e ∧ x.link = 0 ∧ c.fleet.pool.find? "a" = some 1 ∧
        c.poller.step c.fleet 0 "" = some (q, g, signals) ∧ g.pool.find? "a" = none ∧
        ¬ Patrol.Spares x c.fleet g signals := by
  refine ⟨[(0, .poll ""), (0, .alter fun f => (f.insertSession "a" 1).1), (0, .drive 0 .move),
    (0, .poll "")], _, _, _, _, _, rfl, rfl, rfl, rfl, rfl, rfl, fun h => ?_⟩
  have hl := h.disposed 1 (List.mem_cons_of_mem _ List.mem_cons_self)
  cases hl

end BrickHost
