import BrickHost.Poller.Step
import BrickHost.Proofs.Fleet

/-! Everything that one move of a poller can be, and what a tick and its end do to a fleet. -/

namespace BrickHost

namespace Poller

variable {κ : Type}

/-- The poller once a loss was handled; a fragile one does not survive the report. -/
def afterLoss (p : Poller) (later : List (String × Option LinkError)) : Poller :=
  { p with
    phase := if p.options.reportsLoss && p.fragile then PollerPhase.ended else .judging later }

def lossSignals (p : Poller) (brick reason : String) : List PollerSignal :=
  .refreshed brick :: if p.options.reportsLoss then [.lost brick reason] else []

theorem lose_eq (p : Poller) (f : Fleet κ) (brick reason : String)
    (later : List (String × Option LinkError)) :
    p.lose f brick reason later = (p.afterLoss later,
      f.withRegistry (·.markUnavailable brick reason), p.lossSignals brick reason) := rfl

theorem afterLoss_phase (p : Poller) (later : List (String × Option LinkError)) :
    (p.afterLoss later).phase = .ended ∨ (p.afterLoss later).phase = .judging later := by
  show (if _ then _ else _) = _ ∨ (if _ then _ else _) = _
  by_cases hf : (p.options.reportsLoss && p.fragile) = true
  · exact .inl (if_pos hf)
  · exact .inr (if_neg hf)

theorem mem_lossSignals {p : Poller} {brick reason : String} {signal : PollerSignal}
    (h : signal ∈ p.lossSignals brick reason) :
    signal = .refreshed brick ∨ signal = .lost brick reason := by
  unfold lossSignals at h
  rcases List.mem_cons.mp h with h | h
  · exact .inl h
  · split at h
    · exact .inr (List.mem_singleton.mp h)
    · cases h

theorem disposed_notMem_lossSignals (p : Poller) (brick reason : String) (link : LinkId) :
    .disposed link ∉ p.lossSignals brick reason := by
  intro h
  rcases mem_lossSignals h with h | h <;> cases h

theorem reconnect_notMem_lossSignals (p : Poller) (brick reason id : String) :
    .reconnect id ∉ p.lossSignals brick reason := by
  intro h
  rcases mem_lossSignals h with h | h <;> cases h

theorem brick_of_refreshed {p : Poller} {brick reason id : String}
    (h : .refreshed id ∈ p.lossSignals brick reason) : brick = id := by
  rcases mem_lossSignals h with h | h
  · exact (PollerSignal.refreshed.inj h).symm
  · cases h

theorem lossReason_eq (e : LinkError) : lossReason e = "Connection lost: " ++ e.message := by
  have hs : linkLossStart ++ " " = "Connection lost: " := by decide
  rw [lossReason, hs]

section Counts

variable (p : Poller) (brick reason : String)

theorem count_refreshed (id : String) :
    (p.lossSignals brick reason).count (.refreshed id) = if id = brick then 1 else 0 := by
  unfold lossSignals
  by_cases hi : id = brick
  · cases p.options.reportsLoss <;> simp [hi]
  · have hne : brick ≠ id := Ne.symm hi
    cases p.options.reportsLoss <;> simp [hi, hne]

theorem count_lost (id other : String) :
    (p.lossSignals brick reason).count (.lost id other) =
      if p.options.reportsLoss = true ∧ id = brick ∧ other = reason then 1 else 0 := by
  unfold lossSignals
  cases p.options.reportsLoss with
  | false => simp
  | true =>
    simp only [if_true, true_and, List.count_cons, List.count_nil, Nat.zero_add, beq_iff_eq,
      PollerSignal.lost.injEq, reduceCtorEq, if_false, Nat.add_zero]
    simp only [eq_comm]

theorem count_posted (link : LinkId) : (p.lossSignals brick reason).count (.posted link) = 0 := by
  unfold lossSignals
  cases p.options.reportsLoss <;> simp

end Counts

/-- The moves of a poller, each with what must hold for it, the state and the fleet it leads to and
what others can see of it. -/
inductive Move (p : Poller) (f : Fleet κ) (now : Nat) (stamp : String) :
    Poller → Fleet κ → List PollerSignal → Prop
  | cancel (hp : p.hasEnded = false) (hc : p.cancelled = true) :
      Move p f now stamp { p with phase := .ended } f []
  | tick (hp : p.phase = .waking) (hc : p.cancelled = false) :
      Move p f now stamp (p.tick f now).1 (p.tick f now).2.1 (p.tick f now).2.2
  | gather {probes : List Probe} {verdicts : List (String × Option LinkError)}
      (hp : p.phase = .probing probes) (hc : p.cancelled = false)
      (hv : verdicts? probes = some verdicts) :
      Move p f now stamp { p with phase := .judging verdicts } f []
  | finish (hp : p.phase = .judging []) (hc : p.cancelled = false) :
      Move p f now stamp (p.rest f now).1 (p.rest f now).2.1 (p.rest f now).2.2
  | praise {brick : String} {later : List (String × Option LinkError)}
      (hp : p.phase = .judging ((brick, none) :: later)) (hc : p.cancelled = false) :
      Move p f now stamp { p with phase := .judging later }
        (f.withRegistry (·.measure brick { lastSeen := some stamp })) []
  | close {brick : String} {e : LinkError} {later : List (String × Option LinkError)} {link : LinkId}
      (hp : p.phase = .judging ((brick, some e) :: later)) (hc : p.cancelled = false)
      (hf : f.pool.find? brick = some link) :
      Move p f now stamp { p with phase := .closing brick (lossReason e) link later }
        (f.without brick link) [.closing brick, .disposed link]
  | writeOff {brick : String} {e : LinkError} {later : List (String × Option LinkError)}
      (hp : p.phase = .judging ((brick, some e) :: later)) (hc : p.cancelled = false)
      (hf : f.pool.find? brick = none) :
      Move p f now stamp (p.afterLoss later)
        (f.withRegistry (·.markUnavailable brick (lossReason e)))
        (.closing brick :: p.lossSignals brick (lossReason e))
  | lose {brick reason : String} {link : LinkId} {later : List (String × Option LinkError)}
      (hp : p.phase = .closing brick reason link later) (hc : p.cancelled = false)
      (ht : f.isTerminated link = true) :
      Move p f now stamp (p.afterLoss later) (f.withRegistry (·.markUnavailable brick reason))
        (p.lossSignals brick reason)
  | wake {until_ : Nat} (hp : p.phase = .sleeping until_) (hc : p.cancelled = false)
      (hd : until_ ≤ now) : Move p f now stamp { p with phase := .waking } f []

section Moves

variable {p q : Poller} {f g : Fleet κ} {now : Nat} {stamp : String} {signals : List PollerSignal}
  {verdicts : List (String × Option LinkError)}

theorem judging_move (hp : p.phase = .judging verdicts) (hc : p.cancelled = false)
    (h : p.judge f now stamp verdicts = (q, g, signals)) : p.Move f now stamp q g signals := by
  cases verdicts with
  | nil =>
    have hm : p.Move f now stamp _ _ _ := .finish hp hc
    simp only [judge] at h
    rwa [h] at hm
  | cons verdict later =>
    obtain ⟨brick, fault⟩ := verdict
    cases fault with
    | none =>
      simp only [judge] at h
      cases h
      exact .praise hp hc
    | some e =>
      cases hf : f.pool.find? brick with
      | none =>
        simp only [judge, Fleet.removeSession_of_none hf, lose_eq] at h
        cases h
        exact .writeOff hp hc hf
      | some link =>
        simp only [judge, Fleet.removeSession_of_some hf] at h
        cases h
        exact .close hp hc hf

/-- Nothing but these moves is made. -/
theorem move_of_step (h : p.step f now stamp = some (q, g, signals)) :
    p.Move f now stamp q g signals := by
  by_cases hc : p.cancelled = true
  · have he : p.hasEnded = false := by
      cases hp : p.phase <;> simp_all [step, hasEnded]
    have hs : p.step f now stamp = some ({ p with phase := .ended }, f, []) := by
      cases hp : p.phase <;> simp_all [step, hasEnded]
    rw [hs] at h
    cases h
    exact .cancel he hc
  · have hc' : p.cancelled = false := by simpa using hc
    cases hp : p.phase with
    | waking =>
      have hm : p.Move f now stamp _ _ _ := .tick hp hc'
      simp only [step, hp, if_neg hc, Option.some.injEq] at h
      rwa [h] at hm
    | probing probes =>
      simp only [step, hp, if_neg hc, Option.map_eq_some_iff] at h
      obtain ⟨verdicts, hv, he⟩ := h
      cases he
      exact .gather hp hc' hv
    | judging verdicts =>
      simp only [step, hp, if_neg hc, Option.some.injEq] at h
      exact judging_move hp hc' h
    | closing brick reason link later =>
      by_cases ht : f.isTerminated link = true
      · simp only [step, hp, if_neg hc, if_pos ht, lose_eq, Option.some.injEq] at h
        cases h
        exact .lose hp hc' ht
      · simp [step, hp, hc, ht] at h
    | sleeping until_ =>
      by_cases hd : until_ ≤ now
      · simp only [step, hp, if_neg hc, if_pos hd, Option.some.injEq] at h
        cases h
        exact .wake hp hc' hd
      · simp [step, hp, hc, hd] at h
    | ended => simp [step, hp] at h

end Moves

/-- The same sessions, and the same standing of every brick. -/
structure Alike (f g : Fleet κ) : Prop where
  pool : g.pool = f.pool
  standing : ∀ id, g.registry.standing? id = f.registry.standing? id
  keyed : f.registry.Keyed → g.registry.Keyed

def IsLive (f : Fleet κ) (brick : String) : Prop :=
  ∃ standing, f.registry.standing? brick = some standing ∧ standing.1.isLive = true

section Tick

variable {f g h : Fleet κ} {now : Nat}

theorem Alike.refl (f : Fleet κ) : Alike f f :=
  ⟨rfl, fun _ => rfl, id⟩

theorem Alike.trans (hf : Alike f g) (hg : Alike g h) : Alike f h :=
  ⟨hg.pool.trans hf.pool, fun id => (hg.standing id).trans (hf.standing id),
    fun hk => hg.keyed (hf.keyed hk)⟩

theorem alike_measure (f : Fleet κ) (brick : String) (m : RuntimeMetrics) :
    Alike f (f.withRegistry (·.measure brick m)) :=
  ⟨rfl, fun id => f.registry.standing?_measure brick m id, fun hk => hk.measure brick m⟩

theorem Alike.isLive (hf : Alike f g) {brick : String} (hl : IsLive g brick) : IsLive f brick := by
  obtain ⟨standing, hs, hi⟩ := hl
  exact ⟨standing, hf.standing brick ▸ hs, hi⟩

theorem candidate_spec (f : Fleet κ) (brick : String) :
    Alike f (candidate f brick).1 ∧ ∀ link, (candidate f brick).2 = some link →
      f.pool.find? brick = some link ∧ IsLive f brick := by
  cases hr : f.registry.find? brick with
  | none =>
    have hc : candidate f brick = (f, none) := by simp [candidate, Registry.snapshot?, hr]
    rw [hc]
    exact ⟨.refl f, fun link hl => by cases hl⟩
  | some record =>
    by_cases hl : record.status.isLive = true
    · have hlive : IsLive f brick := ⟨record.standing, by simp [Registry.standing?, hr], hl⟩
      cases hs : f.session? brick with
      | none =>
        have hc : candidate f brick = (f, none) := by
          simp [candidate, Registry.snapshot?, hr, BrickRecord.snapshot, hl, hs]
        rw [hc]
        exact ⟨.refl f, fun link hl => by cases hl⟩
      | some session =>
        obtain ⟨link, s⟩ := session
        have hp : f.pool.find? brick = some link := by
          simp only [Fleet.session?, bind, Option.bind_eq_some_iff, pure, Option.some.injEq,
            Prod.mk.injEq] at hs
          obtain ⟨_, hp, _, -, rfl, -⟩ := hs
          exact hp
        have hc : candidate f brick = (f.withRegistry fun r => r.measure brick
            { busy := some s.snapshot.busy, schedulerState := some s.snapshot.state },
            if 0 < s.snapshot.busy then none else some link) := by
          simp only [candidate, Registry.snapshot?, hr, Option.map_some, BrickRecord.snapshot, hl,
            if_true, hs]
          split <;> rfl
        rw [hc]
        refine ⟨alike_measure f brick _, fun other ho => ?_⟩
        split at ho
        · cases ho
        · cases ho
          exact ⟨hp, hlive⟩
    · have hc : candidate f brick = (f, none) := by
        simp [candidate, Registry.snapshot?, hr, BrickRecord.snapshot, hl]
      rw [hc]
      exact ⟨.refl f, fun link hl => by cases hl⟩

theorem candidates_spec (f : Fleet κ) (bricks : List String) :
    Alike f (candidates f bricks).1 ∧ ∀ entry ∈ (candidates f bricks).2,
      f.pool.find? entry.1 = some entry.2 ∧ IsLive f entry.1 := by
  induction bricks generalizing f with
  | nil => exact ⟨.refl f, fun entry he => by cases he⟩
  | cons brick rest ih =>
    obtain ⟨ha, hc⟩ := candidate_spec f brick
    obtain ⟨hb, hr⟩ := ih (candidate f brick).1
    refine ⟨ha.trans hb, fun entry he => ?_⟩
    rcases List.mem_append.mp he with he | he
    · have hm : (candidate f brick).2.map (brick, ·) = some entry := Option.mem_toList.mp he
      obtain ⟨link, hl, rfl⟩ := Option.map_eq_some_iff.mp hm
      exact hc link hl
    · obtain ⟨hp, hlive⟩ := hr entry he
      exact ⟨ha.pool ▸ hp, ha.isLive hlive⟩

theorem candidate_schedulers (f : Fleet κ) (brick : String) :
    (candidate f brick).1.schedulers = f.schedulers := by
  unfold candidate
  split
  · rfl
  · split
    · split
      · rfl
      · dsimp only
        split <;> rfl
    · rfl

theorem candidates_schedulers (f : Fleet κ) (bricks : List String) :
    (candidates f bricks).1.schedulers = f.schedulers := by
  induction bricks generalizing f with
  | nil => rfl
  | cons brick rest ih => exact (ih _).trans (candidate_schedulers f brick)

theorem alike_submit {link : LinkId} {r : Request} {ticket : Nat}
    (h : f.submit link now r = some (g, ticket)) : Alike f g := by
  simp only [Fleet.submit, bind, Option.bind_eq_some_iff, pure, Option.some.injEq,
    Prod.mk.injEq] at h
  obtain ⟨_, -, _, -, rfl, -⟩ := h
  exact ⟨rfl, fun _ => rfl, id⟩

theorem launch_spec (o : PollerOptions) (now : Nat) (f : Fleet κ)
    (chosen : List (String × LinkId)) :
    Alike f (launch o now f chosen).1 ∧
      ∀ x ∈ (launch o now f chosen).2, (x.brick, x.link) ∈ chosen := by
  induction chosen generalizing f with
  | nil => exact ⟨.refl f, fun x hx => by cases hx⟩
  | cons entry rest ih =>
    obtain ⟨brick, link⟩ := entry
    cases hs : f.submit link now (probeRequest brick o.probeTimeout) with
    | none =>
      obtain ⟨ha, hr⟩ := ih f
      simp only [launch, hs]
      refine ⟨ha, fun x hx => ?_⟩
      rcases List.mem_cons.mp hx with rfl | hx
      · exact List.mem_cons_self
      · exact List.mem_cons_of_mem _ (hr x hx)
    | some result =>
      obtain ⟨g, ticket⟩ := result
      obtain ⟨ha, hr⟩ := ih g
      simp only [launch, hs]
      refine ⟨(alike_submit hs).trans ha, fun x hx => ?_⟩
      rcases List.mem_cons.mp hx with rfl | hx
      · exact List.mem_cons_self
      · exact List.mem_cons_of_mem _ (hr x hx)

/-- A tick sends its probes through the sessions that live bricks have at that moment. -/
theorem tick_spec (p : Poller) (f : Fleet κ) (now : Nat) :
    ∃ probes, (p.tick f now).1 = { p with phase := .probing probes } ∧
      Alike f (p.tick f now).2.1 ∧
      (∀ x ∈ probes, f.pool.find? x.brick = some x.link ∧ IsLive f x.brick) ∧
      ∀ signal ∈ (p.tick f now).2.2, signal = .ticked ∨ ∃ link, signal = .posted link := by
  obtain ⟨ha, hc⟩ := candidates_spec f f.listedIds
  obtain ⟨hb, hl⟩ := launch_spec p.options now (candidates f f.listedIds).1
    (candidates f f.listedIds).2
  refine ⟨_, rfl, ha.trans hb, fun x hx => hc _ (hl x hx), fun signal hs => ?_⟩
  rcases List.mem_cons.mp hs with rfl | hs
  · exact .inl rfl
  · obtain ⟨x, -, hx⟩ := List.mem_filterMap.mp hs
    obtain ⟨ticket, -, rfl⟩ := Option.map_eq_some_iff.mp hx
    exact .inr ⟨_, rfl⟩

end Tick

section Rest

variable {p : Poller} {f : Fleet κ} {now : Nat}

/-- The poller once it has asked for a reconnect of the brick. -/
def ask (p : Poller) (now : Nat) (brick : String) : Poller :=
  { p with
    reconnecting := p.reconnecting ++ [brick]
    requested := p.requested.filter (·.1 != brick) ++ [(brick, now)] }

theorem lookup_ask (p : Poller) (now : Nat) (brick id : String) :
    (p.ask now brick).requested.lookup id =
      if id = brick then some now else p.requested.lookup id := by
  show (p.requested.filter (·.1 != brick) ++ [(brick, now)]).lookup id = _
  rw [List.lookup_append, lookup_filter_ne]
  by_cases hi : id = brick
  · simp [hi]
  · have hb : (id == brick) = false := by simpa using hi
    simp [hi, List.lookup_cons, hb]

theorem isDue_ask {p : Poller} {brick id : String} (hi : id ≠ brick) (asked now : Nat) :
    (p.ask asked brick).isDue now id = p.isDue now id := by
  unfold isDue
  rw [lookup_ask, if_neg hi]
  rfl

/-- Of some bricks, those are asked for that are due and not asked for already. -/
theorem foldl_requestOne_spec (p : Poller) (now : Nat) (bricks : List String)
    (signals : List PollerSignal) :
    ∃ asked requested, bricks.foldl (requestOne now) (p, signals) =
        ({ p with reconnecting := p.reconnecting ++ asked, requested := requested },
          signals ++ asked.map .reconnect) ∧
      asked.Nodup ∧
      (∀ id, id ∈ asked ↔ id ∈ bricks ∧ p.isDue now id = true ∧ id ∉ p.reconnecting) ∧
      ∀ id, requested.lookup id = if id ∈ asked then some now else p.requested.lookup id := by
  induction bricks generalizing p signals with
  | nil => exact ⟨[], p.requested, by simp, List.nodup_nil, by simp, by simp⟩
  | cons brick rest ih =>
    by_cases hd : p.isDue now brick = true ∧ brick ∉ p.reconnecting
    · have hone : requestOne now (p, signals) brick =
          (p.ask now brick, signals ++ [.reconnect brick]) := by
        simp only [requestOne, if_pos hd, ask]
      obtain ⟨asked, requested, hf, hn, hm, hl⟩ :=
        ih (p.ask now brick) (signals ++ [.reconnect brick])
      have hfirst : brick ∉ asked := by
        intro hb
        exact ((hm brick).mp hb).2.2 (List.mem_append_right _ List.mem_cons_self)
      refine ⟨brick :: asked, requested, ?_, List.nodup_cons.mpr ⟨hfirst, hn⟩, fun id => ?_,
        fun id => ?_⟩
      · rw [List.foldl_cons, hone, hf]
        simp [ask]
      · by_cases hi : id = brick
        · simp [hi, hd]
        · have hr : id ∈ (p.ask now brick).reconnecting ↔ id ∈ p.reconnecting := by
            simp [ask, hi]
          rw [List.mem_cons, List.mem_cons, hm, hr, isDue_ask hi]
          simp [hi]
      · rw [hl, lookup_ask]
        by_cases hi : id = brick <;> simp [hi]
    · have hone : requestOne now (p, signals) brick = (p, signals) := by
        simp only [requestOne, if_neg hd]
      obtain ⟨asked, requested, hf, hn, hm, hl⟩ := ih p signals
      refine ⟨asked, requested, ?_, hn, fun id => ?_, hl⟩
      · rw [List.foldl_cons, hone, hf]
      · rw [hm, List.mem_cons]
        by_cases hi : id = brick
        · rw [hi]
          exact ⟨fun h => absurd h.2 hd, fun h => absurd h.2 hd⟩
        · simp [hi]

/-- What the end of a tick asks for, and what it remembers of it. -/
theorem requestReconnects_spec (f : Fleet κ) (now : Nat) (hr : p.options.reconnects = true)
    (hk : f.registry.Keyed) :
    ∃ asked requested, p.requestReconnects f now =
        ({ p with reconnecting := p.reconnecting ++ asked, requested := requested },
          asked.map .reconnect) ∧
      asked.Nodup ∧
      (∀ id, id ∈ asked ↔ isLost f id = true ∧ p.isDue now id = true ∧ id ∉ p.reconnecting) ∧
      ∀ id, requested.lookup id =
        if isLost f id = true then
          if id ∈ asked then some now else p.requested.lookup id
        else none := by
  obtain ⟨asked, requested, hf, hn, hm, hl⟩ :=
    p.foldl_requestOne_spec now ((f.registry.list.filter (·.lostLink)).map (·.id)) []
  refine ⟨asked, requested.filter fun entry => isLost f entry.1, ?_, hn, fun id => ?_,
    fun id => ?_⟩
  · simp only [requestReconnects, hr, if_true, hf, List.nil_append]
  · rw [hm, hk.mem_lost_iff]
    rfl
  · rw [lookup_filter (isLost f), hl]

/-- The end of a tick asks for reconnects of lost bricks, and of no others. -/
theorem rest_spec (p : Poller) (f : Fleet κ) (now : Nat) :
    (∃ until_, (p.rest f now).1.phase = .sleeping until_) ∧ (p.rest f now).2.1 = f ∧
      ∀ signal ∈ (p.rest f now).2.2,
        ∃ s ∈ f.registry.list, s.lostLink = true ∧ signal = .reconnect s.id := by
  refine ⟨⟨_, rfl⟩, rfl, fun signal hs => ?_⟩
  have hr : signal ∈ (p.requestReconnects f now).2 := hs
  unfold requestReconnects at hr
  split at hr
  · obtain ⟨asked, requested, hf, -, hm, -⟩ :=
      p.foldl_requestOne_spec now ((f.registry.list.filter (·.lostLink)).map (·.id)) []
    simp only [hf, List.nil_append] at hr
    obtain ⟨brick, ha, rfl⟩ := List.mem_map.mp hr
    obtain ⟨s, hf, rfl⟩ := List.mem_map.mp ((hm brick).mp ha).1
    obtain ⟨hl, hlost⟩ := List.mem_filter.mp hf
    exact ⟨s, hl, hlost, rfl⟩
  · cases hr

theorem rest_kept (p : Poller) (f : Fleet κ) (now : Nat) :
    (p.rest f now).1.options = p.options ∧ (p.rest f now).1.cancelled = p.cancelled := by
  show (p.requestReconnects f now).1.options = p.options ∧
    (p.requestReconnects f now).1.cancelled = p.cancelled
  unfold requestReconnects
  split
  · obtain ⟨_, _, hf, -⟩ :=
      p.foldl_requestOne_spec now ((f.registry.list.filter (·.lostLink)).map (·.id)) []
    simp only [hf, and_self]
  · exact ⟨rfl, rfl⟩

theorem Move.keyed {q : Poller} {g : Fleet κ} {stamp : String} {signals : List PollerSignal}
    (hm : p.Move f now stamp q g signals) (hk : f.registry.Keyed) :
    g.registry.Keyed := by
  cases hm with
  | cancel hp hc | gather hp hc hv | wake hp hc hd | close hp hc hf => exact hk
  | tick hp hc =>
    obtain ⟨probes, -, ha, -⟩ := p.tick_spec f now
    exact ha.keyed hk
  | finish hp hc =>
    rw [(p.rest_spec f now).2.1]
    exact hk
  | praise hp hc => exact hk.measure _ _
  | writeOff hp hc hf | lose hp hc ht => exact hk.markUnavailable _ _

end Rest

section Grounded

variable {p q : Poller} {f g : Fleet κ} {now : Nat} {stamp : String} {signals : List PollerSignal}

/-- The reason that is noted when a session has ended is a loss. -/
def Grounded (p : Poller) : Prop :=
  match p.phase with
  | .closing _ reason _ _ => ∃ e, reason = lossReason e
  | _ => True

theorem grounded_afterLoss (p : Poller) (later : List (String × Option LinkError)) :
    (p.afterLoss later).Grounded := by
  unfold Grounded
  rcases p.afterLoss_phase later with hp | hp <;> rw [hp] <;> exact True.intro

theorem Move.grounded (hm : p.Move f now stamp q g signals) : q.Grounded := by
  cases hm with
  | cancel hp hc | gather hp hc hv | praise hp hc | wake hp hc hd => exact True.intro
  | tick hp hc =>
    obtain ⟨probes, ht, -⟩ := p.tick_spec f now
    rw [ht]
    exact True.intro
  | finish hp hc =>
    obtain ⟨⟨until_, hr⟩, -⟩ := p.rest_spec f now
    unfold Grounded
    rw [hr]
    exact True.intro
  | @close brick e later link hp hc hf => exact ⟨e, rfl⟩
  | writeOff hp hc hf | lose hp hc ht => exact p.grounded_afterLoss _

theorem Move.kept (hm : p.Move f now stamp q g signals) : q.options = p.options := by
  cases hm with
  | finish => exact (p.rest_kept f now).1
  | _ => rfl

end Grounded

end Poller
end BrickHost
