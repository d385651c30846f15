import Mathlib.Data.List.Nodup
import BrickHost.Proofs.Poller.Patrol

/-! Courses of a poller whose reconnects end after any time, or never, while others change the
fleet. A brick that stays lost is asked for again and again, but never while an attempt is under
way, and never twice within the interval. -/

namespace BrickHost

/-- The link of a brick has dropped on its own, and its record says so. -/
def Registry.Lost {κ : Type} (r : Registry κ) (id : String) : Prop :=
  ∃ record reason, r.find? id = some record ∧ record.status = .unavailable ∧
    record.lastError = some reason ∧ isLinkLoss reason = true

def PollerSignal.request? : PollerSignal → Option String
  | .reconnect brick => some brick
  | _ => none

namespace Poller

variable {κ : Type} {p q : Poller} {f g : Fleet κ} {now : Nat} {stamp : String}
  {signals : List PollerSignal}

theorem isLost_iff (f : Fleet κ) (id : String) : isLost f id = true ↔ f.registry.Lost id := by
  cases hr : f.registry.find? id with
  | none => simp [isLost, Registry.snapshot?, Registry.Lost, hr]
  | some record =>
    simp [isLost, Registry.snapshot?, Registry.Lost, hr, BrickSnapshot.lostLink,
      BrickRecord.snapshot, Option.any_eq_true]

/-- The move that ends a tick, when all its verdicts are dealt with. -/
def completes (p : Poller) : Bool :=
  match p.cancelled, p.phase with
  | false, .judging [] => true
  | _, _ => false

/-- What a poller remembers from one tick to the next. -/
structure SameMemory (p q : Poller) : Prop where
  options : q.options = p.options
  interval : q.interval = p.interval
  reconnecting : q.reconnecting = p.reconnecting
  requested : q.requested = p.requested

/-- Only the end of a tick changes what a poller remembers, and asks for reconnects. -/
theorem Move.memory_cases (hm : p.Move f now stamp q g signals) :
    p.completes = true ∧ q = (p.rest f now).1 ∧ g = f ∧ signals = (p.rest f now).2.2 ∨
      p.completes = false ∧ p.SameMemory q ∧ ∀ id, .reconnect id ∉ signals := by
  cases hm with
  | cancel hp hc => exact .inr ⟨by simp [completes, hc], ⟨rfl, rfl, rfl, rfl⟩, by simp⟩
  | tick hp hc =>
    obtain ⟨probes, ht, -, -, hq⟩ := p.tick_spec f now
    refine .inr ⟨by simp [completes, hp], ⟨?_, ?_, ?_, ?_⟩, fun id hr => ?_⟩
    case refine_5 => rcases hq _ hr with hr | ⟨_, hr⟩ <;> cases hr
    all_goals rw [ht]
  | finish hp hc => exact .inl ⟨by simp [completes, hp, hc], rfl, (p.rest_spec f now).2.1, rfl⟩
  | gather hp hc hv | praise hp hc | wake hp hc hd | close hp hc hf =>
    exact .inr ⟨by simp [completes, hp], ⟨rfl, rfl, rfl, rfl⟩, by simp⟩
  | writeOff hp hc hf =>
    refine .inr ⟨by simp [completes, hp], ⟨rfl, rfl, rfl, rfl⟩, fun id hr => ?_⟩
    rcases List.mem_cons.mp hr with hr | hr
    · cases hr
    · exact p.reconnect_notMem_lossSignals _ _ _ hr
  | lose hp hc ht =>
    exact .inr ⟨by simp [completes, hp], ⟨rfl, rfl, rfl, rfl⟩,
      p.reconnect_notMem_lossSignals _ _⟩

/-- What a move of a poller asks for, and what it remembers of that. -/
structure Asks (p : Poller) (f : Fleet κ) (now : Nat) (q : Poller) (asked : List String) :
    Prop where
  options : q.options = p.options
  interval : q.interval = p.interval
  reconnecting : q.reconnecting = p.reconnecting ++ asked
  nodup : asked.Nodup
  due : ∀ id ∈ asked, f.registry.Lost id ∧ p.isDue now id = true ∧ id ∉ p.reconnecting
  all : p.completes = true → ∀ id, f.registry.Lost id → p.isDue now id = true →
    id ∉ p.reconnecting → id ∈ asked
  recalled : ∀ id m, q.requested.lookup id = some m →
    id ∈ asked ∧ m = now ∨ p.requested.lookup id = some m
  /-- A brick is forgotten only when a tick ends that did not find it lost. -/
  kept : ∀ id, (p.completes = true → f.registry.Lost id) →
    q.requested.lookup id = if id ∈ asked then some now else p.requested.lookup id

theorem rest_asks (hc : p.completes = true) (hr : p.options.reconnects = true)
    (hk : f.registry.Keyed) :
    p.Asks f now (p.rest f now).1 ((p.rest f now).2.2.filterMap PollerSignal.request?) := by
  obtain ⟨asked, requested, he, hn, hm, hl⟩ := requestReconnects_spec f now hr hk
  have ha : (p.rest f now).2.2.filterMap PollerSignal.request? = asked := by
    simp only [rest, he, List.filterMap_map]
    exact List.filterMap_some
  have hq : (p.rest f now).1.requested = requested := by simp only [rest, he]
  rw [ha]
  constructor
  case options => simp only [rest, he]
  case interval => simp only [rest, he]
  case reconnecting => simp only [rest, he]
  case nodup => exact hn
  case due =>
    intro id hi
    rw [← isLost_iff]
    exact (hm id).mp hi
  case all =>
    intro _ id hlost hd hi
    exact (hm id).mpr ⟨(isLost_iff f id).mpr hlost, hd, hi⟩
  case recalled =>
    intro id m hs
    rw [hq, hl] at hs
    split at hs
    · split at hs
      · next hi => exact .inl ⟨hi, (Option.some.inj hs).symm⟩
      · exact .inr hs
    · cases hs
  case kept =>
    intro id hlost
    rw [hq, hl, if_pos ((isLost_iff f id).mpr (hlost hc))]

theorem Move.asks (hm : p.Move f now stamp q g signals) (hr : p.options.reconnects = true)
    (hk : f.registry.Keyed) : p.Asks f now q (signals.filterMap PollerSignal.request?) := by
  rcases hm.memory_cases with ⟨hc, rfl, -, rfl⟩ | ⟨hc, hs, hq⟩
  · exact rest_asks hc hr hk
  · have hn : signals.filterMap PollerSignal.request? = [] := by
      refine List.filterMap_eq_nil_iff.mpr fun signal hi => ?_
      cases signal with
      | reconnect brick => exact absurd hi (hq brick)
      | _ => rfl
    rw [hn]
    constructor
    case options => exact hs.options
    case interval => exact hs.interval
    case reconnecting => rw [hs.reconnecting, List.append_nil]
    case nodup => exact List.nodup_nil
    case due => exact fun id hi => nomatch hi
    case all =>
      intro hf
      rw [hc] at hf
      cases hf
    case recalled =>
      intro id m hl
      rw [hs.requested] at hl
      exact .inr hl
    case kept =>
      intro id _
      rw [hs.requested, if_neg List.not_mem_nil]

end Poller

/-- A move of a poller: when it was made, the registry it found, the attempts that were under way,
whether it was the end of a tick, and the bricks it asked for. -/
structure PollerTurn (κ : Type) where
  moment : Nat
  registry : Registry κ
  attempts : List String
  completes : Bool
  requests : List String

namespace PollerTurn

variable {κ : Type}

/-- The second move was made when the interval since the first was over. -/
def IsApart (interval : Duration) (first second : PollerTurn κ) : Prop :=
  interval.nanos ≤ (Duration.ofMillis (second.moment - first.moment)).nanos

/-- All ticks that ended with one of these moves found the brick lost. -/
def StayedLost (turns : List (PollerTurn κ)) (id : String) : Prop :=
  ∀ turn ∈ turns, turn.completes = true → turn.registry.Lost id

/-- What a move asks for, seen from the moves before it. -/
structure Fair (interval : Duration) (earlier : List (PollerTurn κ)) (turn : PollerTurn κ) :
    Prop where
  /-- Only bricks that are lost at that moment. -/
  lost : ∀ id ∈ turn.requests, turn.registry.Lost id
  /-- No brick that was asked for within the interval and has stayed lost since. -/
  spaced : ∀ id ∈ turn.requests, ∀ before first between, earlier = before ++ first :: between →
    id ∈ first.requests → StayedLost (first :: between) id → first.IsApart interval turn
  /-- At the end of a tick every lost brick for which no attempt is under way and which was not
  asked for within the interval. -/
  retried : turn.completes = true → ∀ id, turn.registry.Lost id → id ∉ turn.attempts →
    (∀ other ∈ earlier, id ∈ other.requests → other.IsApart interval turn) → id ∈ turn.requests

end PollerTurn

inductive PursuitAct (κ : Type) where
  | poll (stamp : String)
  | drive (link : LinkId) (act : Act)
  /-- Others do to the fleet what they like, but records stay under the ids of their bricks. -/
  | alter (change : Fleet κ → Fleet κ) (keyed : ∀ f, f.registry.Keyed → (change f).registry.Keyed)
  /-- An attempt has ended, well or not. -/
  | finish (index : Nat)
  | stop

structure Pursuit (κ : Type) where
  fleet : Fleet κ := {}
  poller : Poller
  now : Nat := 0
  /-- The reconnects that were asked for and have not ended. -/
  attempts : List String := []
  log : List (PollerTurn κ) := []

namespace Pursuit

variable {κ : Type}

def start (options : PollerOptions) (interval : Duration) : Pursuit κ where
  poller := .start options interval

def turn (c : Pursuit κ) (signals : List PollerSignal) : PollerTurn κ where
  moment := c.now
  registry := c.fleet.registry
  attempts := c.attempts
  completes := c.poller.completes
  requests := signals.filterMap PollerSignal.request?

def act (c : Pursuit κ) : PursuitAct κ → Pursuit κ
  | .poll stamp =>
    match c.poller.step c.fleet c.now stamp with
    | none => c
    | some (p, f, signals) =>
      { c with
        fleet := f
        poller := p
        attempts := c.attempts ++ (c.turn signals).requests
        log := c.log ++ [c.turn signals] }
  | .drive link act =>
    let (f, p) := c.fleet.drive c.poller c.now link act
    { c with fleet := f, poller := p }
  | .alter change _ => { c with fleet := change c.fleet }
  | .finish index =>
    match c.attempts[index]? with
    | none => c
    | some brick =>
      { c with
        attempts := c.attempts.eraseIdx index
        poller := c.poller.endReconnect brick }
  | .stop => { c with poller := c.poller.dispose }

def wait (c : Pursuit κ) (ms : Nat) : Pursuit κ :=
  { c with now := c.now + ms }

def run (c : Pursuit κ) (acts : List (Nat × PursuitAct κ)) : Pursuit κ :=
  acts.foldl (fun c timed => (c.wait timed.1).act timed.2) c

/-- What a poller remembers, told by the moves it has made. -/
structure Paced (c : Pursuit κ) (interval : Duration) : Prop where
  keyed : c.fleet.registry.Keyed
  hooked : c.poller.options.reconnects = true
  pace : c.poller.interval = interval
  attempts : c.poller.reconnecting = c.attempts
  single : c.attempts.Nodup
  past : ∀ turn ∈ c.log, turn.moment ≤ c.now
  recalled : ∀ id m, c.poller.requested.lookup id = some m →
    ∃ turn ∈ c.log, id ∈ turn.requests ∧ turn.moment = m
  kept : ∀ id before first between, c.log = before ++ first :: between → id ∈ first.requests →
    PollerTurn.StayedLost (first :: between) id →
      ∃ m, first.moment ≤ m ∧ c.poller.requested.lookup id = some m
  fair : ∀ early turn late, c.log = early ++ turn :: late → turn.Fair interval early

section Steps

variable {c d : Pursuit κ} {interval : Duration} {q : Poller} {g : Fleet κ} {stamp : String}
  {signals : List PollerSignal}

theorem cons_of_snoc {α : Type} {old before between : List α} {x first : α}
    (h : old ++ [x] = before ++ first :: between) :
    (between = [] ∧ first = x ∧ before = old) ∨
      ∃ middle, between = middle ++ [x] ∧ old = before ++ first :: middle := by
  rcases List.eq_nil_or_concat between with rfl | ⟨middle, last, rfl⟩
  · obtain ⟨rfl, hx⟩ := List.append_inj' h rfl
    exact .inl ⟨rfl, (List.singleton_inj.mp hx).symm, rfl⟩
  · have hs : old ++ [x] = (before ++ first :: middle) ++ [last] := by simpa using h
    obtain ⟨rfl, hx⟩ := List.append_inj' hs rfl
    exact .inr ⟨middle, by rw [List.concat_eq_append, List.singleton_inj.mp hx], rfl⟩

theorem Paced.fair_turn (h : c.Paced interval)
    (ha : c.poller.Asks c.fleet c.now q (c.turn signals).requests) :
    (c.turn signals).Fair interval c.log := by
  have hdue : ∀ id, c.poller.isDue c.now id = true ↔
      ∀ m, c.poller.requested.lookup id = some m →
        interval.nanos ≤ (Duration.ofMillis (c.now - m)).nanos := by
    intro id
    unfold Poller.isDue
    cases hl : c.poller.requested.lookup id <;> simp [h.pace]
  refine ⟨fun id hi => (ha.due id hi).1, fun id hi before first between hl hf hs => ?_,
    fun hc id hlost hi hold => ?_⟩
  · obtain ⟨m, hm, hr⟩ := h.kept id before first between hl hf hs
    have hover := (hdue id).mp (ha.due id hi).2.1 m hr
    have hsub : c.now - m ≤ c.now - first.moment := Nat.sub_le_sub_left hm c.now
    exact Nat.le_trans hover (Nat.mul_le_mul_right _ hsub)
  · refine ha.all hc id hlost ((hdue id).mpr fun m hr => ?_) (h.attempts ▸ hi)
    obtain ⟨other, ho, hreq, rfl⟩ := h.recalled id m hr
    exact hold other ho hreq

theorem Paced.poll (h : c.Paced interval) (hm : c.poller.Move c.fleet c.now stamp q g signals) :
    Paced { c with
      fleet := g
      poller := q
      attempts := c.attempts ++ (c.turn signals).requests
      log := c.log ++ [c.turn signals] } interval := by
  have ha : c.poller.Asks c.fleet c.now q (c.turn signals).requests := hm.asks h.hooked h.keyed
  constructor
  case keyed => exact hm.keyed h.keyed
  case hooked => rw [ha.options, h.hooked]
  case pace => rw [ha.interval, h.pace]
  case attempts => rw [ha.reconnecting, h.attempts]
  case single =>
    refine List.nodup_append.mpr ⟨h.single, ha.nodup, fun id hi other ho he => ?_⟩
    rw [he, ← h.attempts] at hi
    exact (ha.due other ho).2.2 hi
  case past =>
    intro turn ht
    rcases List.mem_append.mp ht with ht | ht
    · exact h.past turn ht
    · rw [List.mem_singleton.mp ht]
      exact Nat.le_refl _
  case recalled =>
    intro id m hl
    rcases ha.recalled id m hl with ⟨hi, rfl⟩ | hl
    · exact ⟨c.turn signals, List.mem_append_right _ List.mem_cons_self, hi, rfl⟩
    · obtain ⟨turn, ht, hi⟩ := h.recalled id m hl
      exact ⟨turn, List.mem_append_left _ ht, hi⟩
  case kept =>
    intro id before first between (hl : c.log ++ [c.turn signals] = _) hi hs
    have hlost : c.poller.completes = true → c.fleet.registry.Lost id := by
      refine hs (c.turn signals) ?_
      rcases cons_of_snoc hl with ⟨-, rfl, -⟩ | ⟨middle, rfl, -⟩ <;> simp
    rw [ha.kept id hlost]
    by_cases hr : id ∈ (c.turn signals).requests
    · have hfirst : first ∈ c.log ++ [c.turn signals] :=
        hl ▸ List.mem_append_right before List.mem_cons_self
      refine ⟨c.now, ?_, if_pos hr⟩
      rcases List.mem_append.mp hfirst with hf | hf
      · exact h.past first hf
      · rw [List.mem_singleton.mp hf]
        exact Nat.le_refl _
    · rw [if_neg hr]
      rcases cons_of_snoc hl with ⟨-, rfl, -⟩ | ⟨middle, rfl, ho⟩
      · exact absurd hi hr
      · exact h.kept id before first middle ho hi fun turn ht =>
          hs turn (List.mem_append_left [c.turn signals] ht)
  case fair =>
    intro early turn late hl
    rcases cons_of_snoc hl with ⟨-, rfl, rfl⟩ | ⟨middle, -, ho⟩
    · exact h.fair_turn ha
    · exact h.fair early turn middle ho

theorem Paced.of_same (h : c.Paced interval) (hk : d.fleet.registry.Keyed)
    (hm : c.poller.SameMemory d.poller) (ha : d.attempts = c.attempts) (hl : d.log = c.log)
    (hn : c.now ≤ d.now) : d.Paced interval where
  keyed := hk
  hooked := by rw [hm.options, h.hooked]
  pace := by rw [hm.interval, h.pace]
  attempts := by rw [hm.reconnecting, h.attempts, ha]
  single := ha ▸ h.single
  past turn ht := Nat.le_trans (h.past turn (hl ▸ ht)) hn
  recalled := by
    rw [hm.requested, hl]
    exact h.recalled
  kept := by
    rw [hm.requested, hl]
    exact h.kept
  fair := by
    rw [hl]
    exact h.fair

/-- An attempt that ends is the only one of its brick. -/
theorem Paced.endReconnect (h : c.Paced interval) {index : Nat} {brick : String}
    (hb : c.attempts[index]? = some brick) :
    Paced { c with
      attempts := c.attempts.eraseIdx index
      poller := c.poller.endReconnect brick } interval where
  keyed := h.keyed
  hooked := h.hooked
  pace := h.pace
  attempts := by
    obtain ⟨hi, rfl⟩ := List.getElem?_eq_some_iff.mp hb
    show c.poller.reconnecting.filter (· != c.attempts[index]) = c.attempts.eraseIdx index
    rw [h.attempts, ← List.Nodup.erase_getElem h.single index hi, List.Nodup.erase_eq_filter h.single]
  single := h.single.sublist (List.eraseIdx_sublist _ _)
  past := h.past
  recalled := h.recalled
  kept := h.kept
  fair := h.fair

theorem Paced.act (h : c.Paced interval) (act : PursuitAct κ) : (c.act act).Paced interval := by
  cases act with
  | poll stamp =>
    cases hs : c.poller.step c.fleet c.now stamp with
    | none => simpa only [Pursuit.act, hs] using h
    | some result =>
      simp only [Pursuit.act, hs]
      exact h.poll (Poller.move_of_step hs)
  | drive link act =>
    refine h.of_same ?_ ?_ rfl rfl (Nat.le_refl _)
    · show (c.fleet.drive c.poller c.now link act).1.registry.Keyed
      rw [Fleet.drive_registry]
      exact h.keyed
    · show c.poller.SameMemory (c.fleet.drive c.poller c.now link act).2
      rcases Poller.drive_poller_cases c.fleet c.poller c.now link act with hp | ⟨_, _, -, hq, -⟩
      · rw [hp]
        exact ⟨rfl, rfl, rfl, rfl⟩
      · rw [hq]
        exact ⟨rfl, rfl, rfl, rfl⟩
  | alter change keyed =>
    exact h.of_same (keyed c.fleet h.keyed) ⟨rfl, rfl, rfl, rfl⟩ rfl rfl (Nat.le_refl _)
  | finish index =>
    cases hb : c.attempts[index]? with
    | none => simpa only [Pursuit.act, hb] using h
    | some brick =>
      simp only [Pursuit.act, hb]
      exact h.endReconnect hb
  | stop => exact h.of_same h.keyed ⟨rfl, rfl, rfl, rfl⟩ rfl rfl (Nat.le_refl _)

theorem Paced.run (h : c.Paced interval) (acts : List (Nat × PursuitAct κ)) :
    (c.run acts).Paced interval := by
  induction acts generalizing c with
  | nil => exact h
  | cons timed rest ih =>
    have hw : (c.wait timed.1).Paced interval :=
      h.of_same h.keyed ⟨rfl, rfl, rfl, rfl⟩ rfl rfl (Nat.le_add_right _ _)
    exact ih (hw.act timed.2)

end Steps

theorem start_paced (options : PollerOptions) (interval : Duration)
    (hr : options.reconnects = true) : (start options interval : Pursuit κ).Paced interval where
  keyed := ⟨List.nodup_nil, fun entry he => nomatch he⟩
  hooked := hr
  pace := rfl
  attempts := rfl
  single := List.nodup_nil
  past turn ht := nomatch ht
  recalled id m hl := nomatch hl
  kept id before first between hl := by simp [start] at hl
  fair early turn late hl := by simp [start] at hl

end Pursuit

/-- In every course, whatever others do to the fleet and whenever attempts end, a brick has at most
one attempt under way, and every move asks for the reconnects that it should. -/
theorem reconnects_paced {κ : Type} (options : PollerOptions) (acts : List (Nat × PursuitAct κ))
    (hr : options.reconnects = true) :
    ∀ interval, options.reconnectInterval? = some interval →
      let c := (Pursuit.start options interval).run acts
      c.attempts.Nodup ∧
        ∀ early turn late, c.log = early ++ turn :: late → turn.Fair interval early := by
  intro interval _ c
  have h : c.Paced interval := (Pursuit.start_paced options interval hr).run acts
  exact ⟨h.single, h.fair⟩

/-- A brick is lost. It is asked for at once, not again while the attempt is under way, and again by
the first tick that ends after it. -/
theorem lost_brick_asked_for_again :
    ∃ (acts : List (Nat × PursuitAct Unit)),
      let c := (Pursuit.start { reconnects := true } (.ofMillis 1000)).run acts
      (c.log.filter (·.completes)).map (fun turn => (turn.moment, turn.requests)) =
          [(0, ["a"]), (2000, []), (4000, ["a"])] ∧
        c.attempts.Nodup ∧
        ∀ early turn late, c.log = early ++ turn :: late → turn.Fair (.ofMillis 1000) early := by
  let lose : PursuitAct Unit := .alter
    (fun f => f.withRegistry fun r =>
      (r.connecting { id := "a", displayName := "a", transport := .mock }).markUnavailable "a"
        "Connection lost: gone")
    (fun f hk => (hk.connecting _).markUnavailable _ _)
  let tick : List (Nat × PursuitAct Unit) := [(0, .poll ""), (0, .poll ""), (0, .poll "")]
  let acts := (0, lose) :: tick ++ (2000, .poll "") :: tick ++
    (0, .finish 0) :: (2000, .poll "") :: tick
  have hturns : let c := (Pursuit.start { reconnects := true } (.ofMillis 1000)).run acts
      (c.log.filter (·.completes)).map (fun turn => (turn.moment, turn.requests)) =
        [(0, ["a"]), (2000, []), (4000, ["a"])] := by decide +kernel
  exact ⟨acts, hturns, reconnects_paced { reconnects := true } acts rfl (.ofMillis 1000) rfl⟩

end BrickHost
