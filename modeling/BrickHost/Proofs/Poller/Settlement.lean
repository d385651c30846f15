import BrickHost.Proofs.Poller.Verdicts

/-! What a tick comes to when it has come to its end: each idle brick was sent one probe, and is
either as it was or gone, by what its probe came to. -/

namespace BrickHost

namespace Round

variable {κ : Type}

section Begin

variable {f : Fleet κ} {p : Poller} {now : Nat} {stamp : String}

/-- A round is what follows the first move of a poller that wakes. -/
def begin (f : Fleet κ) (p : Poller) (now : Nat) (stamp : String) : Round κ :=
  Round.act { fleet := f, poller := p, now := now } (.poll stamp)

theorem begin_eq (hp : p.phase = .waking) (hc : p.cancelled = false) :
    begin f p now stamp =
      { fleet := (p.tick f now).2.1, poller := (p.tick f now).1, now := now,
        log := (p.tick f now).2.2 } := by
  have hs : p.step f now stamp = some (p.tick f now) := by simp [Poller.step, hp, hc]
  simp only [begin, Round.act, hp, hs, List.nil_append]

theorem begin_backed (hd : f.IsDistinct) (hr : f.IsReal now) (hp : p.phase = .waking)
    (hc : p.cancelled = false) : (begin f p now stamp).Backed f p.options now := by
  obtain ⟨-, -, -, -, hchosen, hleft, -⟩ := Fleet.tick_eq hd p now
  rw [begin_eq hp hc]
  intro link s hs
  obtain ⟨config, line, acts, hrun, hnow⟩ := hr link s hs
  by_cases hm : link ∈ f.chosen.map (·.2)
  · obtain ⟨entry, he, rfl⟩ := List.mem_map.mp hm
    have hsubmit := hchosen entry.1 entry.2 he
    rw [hs, Option.map_some] at hsubmit
    obtain ⟨acts', hafter⟩ := Course.run_at config line acts hnow
      (.submit (probeRequest entry.1 p.options.probeTimeout))
    rw [hrun] at hafter
    refine ⟨config, line, acts', ?_, ?_, fun post outcome hn => (by cases hn),
      fun brick ticket hb ht => ?_⟩
    · rw [hafter]
      exact hsubmit
    · rw [hafter]
    · have hbrick : brick = entry.1 := congrArg (·.1)
        (List.inj_on_of_nodup_map (Fleet.chosen_links_nodup hd) hb he rfl)
      rw [hafter, accepted_append, Fleet.react_submit_of_ticket ht hs, hbrick]
      simp
  · refine ⟨config, line, acts, ?_, hnow, fun post outcome hn => (by cases hn),
      fun brick ticket hb => ?_⟩
    · rw [hrun, ← hs]
      exact hleft link hm
    · exact absurd (List.mem_map_of_mem (f := (·.2)) hb) hm

theorem begin_going (hd : f.IsDistinct) (hr : f.IsReal now) (hp : p.phase = .waking)
    (hc : p.cancelled = false) :
    (begin f p now stamp).Going f p.options now fun link =>
      (begin f p now stamp).log.count (.posted link) := by
  have hbacked : (begin f p now stamp).Backed f p.options now := begin_backed hd hr hp hc
  obtain ⟨hpoller, hpool, hbearing, hactive, -, -, hsignals⟩ := Fleet.tick_eq hd p now
  rw [begin_eq hp hc] at hbacked ⊢
  refine ⟨?_, ?_, hbacked, ?_⟩
  · rw [hpoller]
  · rw [hpoller]
    exact hc
  · have hphase : (p.tick f now).1.phase = .probing (f.chosen.map f.probe) := by rw [hpoller]
    refine .probing hphase rfl (fun x hx outcome ho => ?_) ?_
    · obtain ⟨entry, -, rfl⟩ := List.mem_map.mp hx
      cases ht : f.ticket? entry.2 with
      | none =>
        obtain rfl : .error .disposed = outcome := by simpa [Fleet.probe, ht] using ho
        simp [Returned, Fleet.probe, ht]
      | some ticket => simp [Fleet.probe, ht] at ho
    · have hlog : ∀ signal ∈ (p.tick f now).2.2, signal = .ticked ∨
          ∃ link, signal = .posted link := by
        obtain ⟨_, -, -, -, hlog⟩ := p.tick_spec f now
        exact hlog
      refine ⟨hbearing, ?_, fun id => ?_, fun y hy => (by cases hy), fun id => ?_, fun id reason => ?_,
        fun link => rfl⟩
      · rw [hactive]
        cases f.registry.active <;> rfl
      · exact congrArg (·.find? id) hpool
      · refine List.count_eq_zero.mpr (fun hm => ?_)
        rcases hlog _ hm with he | ⟨link, he⟩ <;> cases he
      · simp only [fallen, List.findSome?_nil, reduceCtorEq, and_false, if_false]
        refine List.count_eq_zero.mpr (fun hm => ?_)
        rcases hlog _ hm with he | ⟨link, he⟩ <;> cases he

end Begin

section Asleep

variable {c : Round κ} {f : Fleet κ} {options : PollerOptions} {began until_ : Nat}
  {posted : LinkId → Nat} {done gone : List Probe} {id : String} {link : LinkId} {s : Scheduler}

theorem Judged.spares (h : c.Judged f options posted done done) (hn : fallen done id = none) :
    c.Spares f id where
  session := by rw [h.pool, hn]; rfl
  bearing := by rw [h.bearing, hn]; rfl
  active := by
    unfold Registry.isActive
    rw [h.active]
    cases ha : f.registry.active with
    | none => rfl
    | some other =>
      by_cases hi : other = id
      · simp [Option.filter, hi, hn]
      · cases hf : fallen done other <;> simp [Option.filter, hf, hi]
  unrefreshed := by rw [h.refreshed, hn]; rfl
  unreported reason := by simp [h.lost, hn]

theorem Judged.drops (h : c.Judged f options posted done done) {x : Probe} {e : LinkError}
    (hx : x ∈ done) (he : x.fault? = some e)
    (hf : fallen done x.brick = some (Poller.lossReason e)) :
    c.Drops options x.brick x.link (Poller.lossReason e) where
  session := by rw [h.pool, hf]; rfl
  disposed := by
    obtain ⟨s, hs, hd⟩ := h.disposed x hx (by rw [he]; rfl)
    exact ⟨s, hs, hd.state⟩
  record := by
    have hr := h.bearing x.brick
    rw [hf] at hr
    obtain ⟨record, hfind, hrec⟩ := Option.map_eq_some_iff.mp hr
    simp only [BrickRecord.bearing, Prod.mk.injEq] at hrec
    exact ⟨record, hfind, hrec⟩
  inactive := by
    rw [h.active]
    intro ha
    obtain ⟨-, hk⟩ := Option.filter_eq_some_iff.mp ha
    simp [hf] at hk
  refreshed := by rw [h.refreshed, hf]; rfl
  reported other := by
    rw [h.lost, hf]
    simp only [Option.some.injEq, eq_comm]

theorem Going.asleep (h : c.Going f options began posted) (hp : c.poller.phase = .sleeping until_) :
    ∃ done, c.Answered f options began done ∧ c.Judged f options posted done done := by
  cases h.stage with
  | asleep hp' ha hj => exact ⟨_, ha, hj⟩
  | probing hp' | judging hp' | closing hp' | broken hp' => cases hp.symm.trans hp'

/-- Of each brick that was chosen there is a probe, and its outcome. -/
theorem Answered.of_chosen (h : c.Answered f options began done) (hm : (id, link) ∈ f.chosen) :
    ∃ x ∈ done, ∃ outcome, x.outcome = some outcome ∧ x.brick = id ∧ x.link = link ∧
      c.Returned f began (probeRequest id options.probeTimeout) link outcome := by
  have ha : (f.probe (id, link)).address ∈ done.map (·.address) := by
    rw [h.addresses]
    exact List.mem_map_of_mem (List.mem_map_of_mem hm)
  obtain ⟨x, hx, he⟩ := List.mem_map.mp ha
  obtain ⟨rfl, rfl, -⟩ : x.brick = id ∧ x.link = link ∧ x.ticket = f.ticket? link := by
    simpa [Probe.address, Fleet.probe] using he
  obtain ⟨outcome, ho, hr⟩ := h.returned x hx
  exact ⟨x, hx, outcome, ho, rfl, rfl, hr⟩

/-- How a round went for an idle brick. -/
structure Settles (c first : Round κ) (f : Fleet κ) (options : PollerOptions) (began : Nat)
    (id : String) (link : LinkId) (s : Scheduler) : Prop where
  offered : let r := probeRequest id options.probeTimeout
    first.fleet.scheduler? link = some (s.react began (.submit r)).1 ∧
      r.lane = .high ∧ r.idempotent = true ∧ r.timeout = some options.probeTimeout
  posted : c.log.count (.posted link) = if s.state.isDisposed then 0 else 1
  returned : ∃! outcome, c.Returned f began (probeRequest id options.probeTimeout) link outcome
  well : ∀ outcome, c.Returned f began (probeRequest id options.probeTimeout) link outcome →
    outcome.IsWell → c.Spares f id
  unwell : ∀ outcome, c.Returned f began (probeRequest id options.probeTimeout) link outcome →
    ¬ outcome.IsWell → ∃ e, outcome.probeFault? = some e ∧
      c.Drops options id link ("Connection lost: " ++ e.message)

theorem Backed.returned_eq (h : c.Backed f options began) (hm : (id, link) ∈ f.chosen)
    {r : Request} {one two : Outcome} (ho : c.Returned f began r link one)
    (ht : c.Returned f began r link two) : one = two := by
  cases hk : f.ticket? link with
  | none =>
    simp only [Returned, hk] at ho ht
    rw [ho, ht]
  | some ticket =>
    simp only [Returned, hk] at ho ht
    exact h.outcome_eq hm ho ht

end Asleep

/-- A tick that comes to its end has offered a probe to each idle brick and to no other, has left
alone those that answered well and those it did not probe, and has dropped the rest. -/
theorem tick_settles_every_probe (f : Fleet κ) (p : Poller) (now : Nat) (stamp : String)
    (acts : List (Nat × RoundAct)) {until_ : Nat} (hd : f.IsDistinct) (hr : f.IsReal now)
    (hp : p.phase = .waking) (hc : p.cancelled = false)
    (ho : ((begin f p now stamp).run acts).poller.phase = .sleeping until_) :
    let c := (begin f p now stamp).run acts
    (∀ id link s, f.IsIdle id link s →
      c.Settles (begin f p now stamp) f p.options now id link s) ∧
    (∀ id, (∀ link s, ¬ f.IsIdle id link s) → c.Spares f id) ∧
    ∀ link, (∀ id s, ¬ f.IsIdle id link s) → c.log.count (.posted link) = 0 ∧
      (begin f p now stamp).fleet.scheduler? link = f.scheduler? link := by
  have hbegun : (begin f p now stamp).Going f p.options now _ := begin_going hd hr hp hc
  have hgoing := hbegun.run hd acts
  obtain ⟨done, ha, hj⟩ := hgoing.asleep ho
  have hbricks := bricks_of_addresses ha.addresses
  have hnodup : (done.map (·.brick)).Nodup := hbricks ▸ Fleet.chosen_bricks_nodup hd
  obtain ⟨-, -, -, -, hchosen, hleft, -⟩ := Fleet.tick_eq hd p now
  have hcount : ∀ link, ((begin f p now stamp).run acts).log.count (.posted link) =
      if link ∈ f.chosen.map (·.2) ∧ (f.ticket? link).isSome then 1 else 0 := by
    intro link
    rw [hj.posted, begin_eq hp hc]
    exact Fleet.count_posted hd p now link
  intro c
  refine ⟨fun id link s hi => ?_, fun id hn => ?_, fun link hn => ?_⟩
  · have hm : (id, link) ∈ f.chosen := Fleet.mem_chosen.mpr ⟨s, hi⟩
    have hs := (Fleet.session?_eq_some.mp hi.session).2
    obtain ⟨x, hx, outcome, hout, rfl, rfl, hret⟩ := ha.of_chosen hm
    have hfault : x.fault? = outcome.probeFault? := by rw [Probe.fault?, hout, Option.bind_some]
    have hfallen := fallen_of_mem hnodup hx
    have hsole : ∀ other, c.Returned f now (probeRequest x.brick p.options.probeTimeout) x.link
        other → other = outcome := fun other h => hgoing.backed.returned_eq hm h hret
    refine ⟨?_, ?_, ⟨outcome, hret, hsole⟩, fun other h hw => ?_, fun other h hw => ?_⟩
    · rw [begin_eq hp hc]
      exact ⟨(hchosen x.brick x.link hm).trans (hs ▸ rfl), rfl, rfl, rfl⟩
    · rw [hcount]
      cases hdisposed : s.state.isDisposed <;>
        simp [Fleet.ticket?, hs, hdisposed, List.mem_map_of_mem (f := (·.2)) hm]
    · cases hsole other h
      rw [hfault, Outcome.probeFault?_eq_none.mpr hw] at hfallen
      exact hj.spares hfallen
    · cases hsole other h
      obtain ⟨e, he⟩ := Option.ne_none_iff_exists'.mp (mt Outcome.probeFault?_eq_none.mp hw)
      rw [hfault, he] at hfallen
      refine ⟨e, he, ?_⟩
      rw [← Poller.lossReason_eq]
      exact hj.drops hx (hfault.trans he) hfallen
  · exact hj.spares (fallen_of_notMem (hbricks ▸ Fleet.brick_notMem_chosen hn))
  · have hm := Fleet.link_notMem_chosen hn
    refine ⟨?_, ?_⟩
    · rw [hcount, if_neg (fun h => hm h.1)]
    · rw [begin_eq hp hc]
      exact hleft link hm

/-- Of four bricks one answers well, one says that it failed, one has a scheduler that was disposed
of, and one is busy. -/
theorem well_failed_refused_and_busy :
    ∃ (f : Fleet Unit) (p : Poller) (acts : List (Nat × RoundAct)),
      let c := (begin f p 0 "").run acts
      c.poller.phase = .sleeping 506 ∧ c.Spares f "a" ∧
        c.Drops p.options "b" 1 ("Connection lost: brick rejected command (system reply): " ++
          "probe answered with command 0x9d status HandleNotReady") ∧
        c.Drops p.options "c" 2 "Connection lost: scheduler disposed" ∧ c.Spares f "d" := by
  let r : Request := { id := "", kind := .direct, payload := [] }
  let courses : List (List (Nat × Act)) := [[], [], [(0, .dispose)], [(0, .submit r)]]
  let record : String → String × BrickRecord Unit := fun id =>
    (id, { identity := { id := id, displayName := id, transport := .mock }, status := .ready })
  let f : Fleet Unit := {
    registry := { records := ["a", "b", "c", "d"].map record, active := some "b" }
    pool := ⟨[("a", 0), ("b", 1), ("c", 2), ("d", 3)]⟩
    schedulers := courses.map fun acts =>
      ((Course.start {} (.ofCapacity 64)).run acts).scheduler }
  let p : Poller := .start { reportsLoss := true } (.ofMillis 1000)
  let moves := fun link n => List.replicate n (0, RoundAct.drive link .move)
  let polls := fun n => List.replicate n (0, RoundAct.poll "")
  let answer := fun link status => (3, RoundAct.drive link (.rewire fun line =>
    { line with incoming := line.incoming.push [5, 0, 0, 0, 3, 0x9d, status] }))
  let acts := moves 0 2 ++ moves 1 2 ++ [answer 0 0, answer 1 2] ++ moves 0 3 ++ moves 1 3 ++
    moves 2 2 ++ polls 4 ++ moves 1 3 ++ moves 2 3 ++ polls 8
  have hr : f.IsReal 0 := by
    intro link s hs
    rw [Fleet.scheduler?, List.getElem?_map] at hs
    obtain ⟨acts, ha, rfl⟩ := Option.map_eq_some_iff.mp hs
    have hnow : ∀ acts ∈ courses, ((Course.start {} (.ofCapacity 64)).run acts).now ≤ 0 := by
      decide
    exact ⟨{}, .ofCapacity 64, acts, rfl, hnow acts (List.mem_of_getElem? ha)⟩
  have hd : f.IsDistinct := ⟨by decide, by decide, by simp [f]⟩
  have ho : ((begin f p 0 "").run acts).poller.phase = .sleeping 506 :=
    Poller.alarm?_eq_some.mp (by decide +kernel)
  have hbusy : ∀ link s, ¬ f.IsIdle "d" link s := by
    intro link s hi
    have hs := Option.some.inj hi.session
    have hz := hi.idle
    rw [← (Prod.mk.inj hs).2] at hz
    exact absurd hz (by decide)
  obtain ⟨hsettles, hspares, -⟩ := tick_settles_every_probe f p 0 "" acts hd hr rfl rfl ho
  have ha := hsettles "a" 0 _ ⟨rfl, ⟨_, rfl, rfl⟩, rfl⟩
  have hb := hsettles "b" 1 _ ⟨rfl, ⟨_, rfl, rfl⟩, rfl⟩
  have hc := hsettles "c" 2 _ ⟨rfl, ⟨_, rfl, rfl⟩, rfl⟩
  let result : String → UInt8 → CommandResult := fun id status => {
    request := id
    counter := 0
    reply := .reply 0 .system [0x9d, status]
    enqueuedAt := .ofMillis 0
    startedAt := .ofMillis 0
    finishedAt := .ofMillis 6
    duration := .ofMillis 6 }
  have hwell : ((begin f p 0 "").run acts).Returned f 0 (probeRequest "a" (.ofMillis 700)) 0
      (.ok (result "probe:a" 0)) := by
    have hm : (0, ⟨0, probeRequest "a" (.ofMillis 700), 0⟩, .ok (result "probe:a" 0)) ∈
        ((begin f p 0 "").run acts).told := by decide +kernel
    exact hm
  have hfailed : ((begin f p 0 "").run acts).Returned f 0 (probeRequest "b" (.ofMillis 700)) 1
      (.ok (result "probe:b" 2)) := by
    have hm : (1, ⟨0, probeRequest "b" (.ofMillis 700), 0⟩, .ok (result "probe:b" 2)) ∈
        ((begin f p 0 "").run acts).told := by decide +kernel
    exact hm
  have hfault : Outcome.probeFault? (.ok (result "probe:b" 2)) =
      some (.protocol .system "probe answered with command 0x9d status HandleNotReady") := by
    decide +kernel
  refine ⟨f, p, acts, ho, ha.well _ hwell ⟨_, [], rfl, rfl, rfl⟩, ?_, ?_, hspares "d" hbusy⟩
  · obtain ⟨e, he, hdrops⟩ := hb.unwell _ hfailed
      (mt Outcome.probeFault?_eq_none.mpr (by simp [hfault]))
    cases hfault.symm.trans he
    exact hdrops
  · obtain ⟨e, he, hdrops⟩ := hc.unwell (.error .disposed) rfl
      (mt Outcome.probeFault?_eq_none.mpr (by simp [Outcome.probeFault?]))
    cases he
    exact hdrops

end Round

end BrickHost
