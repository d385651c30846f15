import BrickHost.Proofs.Poller.Round
import BrickHost.Proofs.Scheduler.Disposal

/-! How a round goes through its verdicts: after each move of the poller, the bricks that were dealt
with are as their probes say, and the others as the round found them. -/

namespace BrickHost

namespace Round

variable {κ : Type}

/-- The reason for which the probes say that a brick is lost. -/
def fallen (done : List Probe) (id : String) : Option String :=
  done.findSome? fun x => if x.brick = id then x.fault?.map Poller.lossReason else none

section Fallen

variable {done : List Probe} {x : Probe} {id : String} {e : LinkError}

theorem fallen_snoc (done : List Probe) (x : Probe) (id : String) :
    fallen (done ++ [x]) id = (fallen done id).or
      (if x.brick = id then x.fault?.map Poller.lossReason else none) := by
  rw [fallen, fallen, List.findSome?_append]
  congr 1
  split <;> simp_all

theorem fallen_of_notMem (h : id ∉ done.map (·.brick)) : fallen done id = none := by
  refine List.findSome?_eq_none_iff.mpr (fun x hx => ?_)
  rw [if_neg]
  rintro rfl
  exact h (List.mem_map_of_mem hx)

theorem fallen_of_mem (hn : (done.map (·.brick)).Nodup) (hx : x ∈ done) :
    fallen done x.brick = x.fault?.map Poller.lossReason := by
  obtain ⟨before, after, rfl⟩ := List.append_of_mem hx
  rw [List.map_append, List.map_cons] at hn
  have hbefore : x.brick ∉ before.map (·.brick) := fun hm =>
    (List.nodup_append.mp hn).2.2 _ hm _ List.mem_cons_self rfl
  have hafter : x.brick ∉ after.map (·.brick) :=
    (List.nodup_cons.mp (List.nodup_append.mp hn).2.1).1
  have hb := fallen_of_notMem hbefore
  have ha := fallen_of_notMem hafter
  unfold fallen at hb ha ⊢
  rw [List.findSome?_append, hb, Option.none_or, List.findSome?_cons, if_pos rfl, ha]
  cases x.fault? <;> rfl

theorem fallen_praised (h : x.fault? = none) (id : String) :
    fallen (done ++ [x]) id = fallen done id := by
  rw [fallen_snoc, h]
  split <;> simp

theorem fallen_condemned (hn : x.brick ∉ done.map (·.brick)) (h : x.fault? = some e) (id : String) :
    fallen (done ++ [x]) id =
      if id = x.brick then some (Poller.lossReason e) else fallen done id := by
  rw [fallen_snoc, h]
  by_cases hi : id = x.brick
  · rw [hi, fallen_of_notMem hn, if_pos rfl, if_pos rfl]
    rfl
  · rw [if_neg (Ne.symm hi), if_neg hi, Option.or_none]

end Fallen

/-- How far the verdicts were dealt with: of some probes also the records, of some the sessions. -/
structure Judged (c : Round κ) (f : Fleet κ) (options : PollerOptions) (posted : LinkId → Nat)
    (done gone : List Probe) : Prop where
  bearing : ∀ id, c.fleet.registry.bearing? id =
    ((fallen done id).map fun reason => (.unavailable, some reason, none, none)).or
      (f.registry.bearing? id)
  active : c.fleet.registry.active = f.registry.active.filter fun id => (fallen done id).isNone
  pool : ∀ id, c.fleet.pool.find? id =
    if (fallen gone id).isSome then none else f.pool.find? id
  disposed : ∀ x ∈ gone, x.fault?.isSome = true → ∃ s, c.fleet.scheduler? x.link = some s ∧ s.Doomed
  refreshed : ∀ id, c.log.count (.refreshed id) = if (fallen done id).isSome then 1 else 0
  lost : ∀ id reason, c.log.count (.lost id reason) =
    if options.reportsLoss = true ∧ fallen done id = some reason then 1 else 0
  posted : ∀ link, c.log.count (.posted link) = posted link

section Judged

variable {c d : Round κ} {f : Fleet κ} {options : PollerOptions} {posted : LinkId → Nat}
  {done gone : List Probe} {x : Probe} {e : LinkError}

theorem Judged.log (h : c.Judged f options posted done gone) (hf : d.fleet = c.fleet)
    {signals : List PollerSignal} (hl : d.log = c.log ++ signals)
    (hq : ∀ signal ∈ signals, (∀ id, signal ≠ .refreshed id) ∧
      (∀ id reason, signal ≠ .lost id reason) ∧ ∀ link, signal ≠ .posted link) :
    d.Judged f options posted done gone where
  bearing := hf ▸ h.bearing
  active := hf ▸ h.active
  pool := hf ▸ h.pool
  disposed := hf ▸ h.disposed
  refreshed id := by
    have hz : signals.count (.refreshed id) = 0 :=
      List.count_eq_zero.mpr (fun hm => (hq _ hm).1 id rfl)
    rw [hl, List.count_append, hz, h.refreshed, Nat.add_zero]
  lost id reason := by
    have hz : signals.count (.lost id reason) = 0 :=
      List.count_eq_zero.mpr (fun hm => (hq _ hm).2.1 id reason rfl)
    rw [hl, List.count_append, hz, h.lost, Nat.add_zero]
  posted link := by
    have hz : signals.count (.posted link) = 0 :=
      List.count_eq_zero.mpr (fun hm => (hq _ hm).2.2 link rfl)
    rw [hl, List.count_append, hz, h.posted, Nat.add_zero]

theorem Judged.same (h : c.Judged f options posted done gone) (hf : d.fleet = c.fleet)
    (hl : d.log = c.log) : d.Judged f options posted done gone :=
  h.log hf (hl.trans (List.append_nil _).symm) (by simp)

/-- What happens to a scheduler does not undo its disposal, and nothing else depends on it. -/
theorem Judged.drive (h : c.Judged f options posted done gone) (link : LinkId) (act : Act)
    (hr : d.fleet.registry = c.fleet.registry) (hp : d.fleet.pool = c.fleet.pool)
    (hs : ∀ other, d.fleet.scheduler? other = if link = other then
      (c.fleet.scheduler? other).map fun s => (s.react c.now act).1
      else c.fleet.scheduler? other)
    (hl : d.log = c.log) : d.Judged f options posted done gone where
  bearing := hr ▸ h.bearing
  active := hr ▸ h.active
  pool := hp ▸ h.pool
  disposed x hx he := by
    obtain ⟨s, hc, hd⟩ := h.disposed x hx he
    rw [hs, hc]
    split
    · exact ⟨_, rfl, (hd.react rfl).1⟩
    · exact ⟨s, rfl, hd⟩
  refreshed := hl ▸ h.refreshed
  lost := hl ▸ h.lost
  posted := hl ▸ h.posted

theorem Judged.praise (h : c.Judged f options posted done done) (hx : x.fault? = none)
    {m : RuntimeMetrics} (hf : d.fleet = c.fleet.withRegistry (·.measure x.brick m))
    (hl : d.log = c.log) : d.Judged f options posted (done ++ [x]) (done ++ [x]) where
  bearing id := by
    rw [hf, fallen_praised hx, ← h.bearing]
    exact Registry.bearing?_measure ..
  active := by
    simp only [hf, fallen_praised hx, ← h.active]
    exact Registry.measure_active ..
  pool id := by
    rw [hf, fallen_praised hx, ← h.pool]
    rfl
  disposed y hy he := by
    rw [hf]
    rcases List.mem_append.mp hy with hy | hy
    · exact h.disposed y hy he
    · obtain rfl := List.mem_singleton.mp hy
      simp [hx] at he
  refreshed id := by rw [hl, fallen_praised hx, h.refreshed]
  lost id reason := by rw [hl, fallen_praised hx, h.lost]
  posted := hl ▸ h.posted

theorem Judged.close (h : c.Judged f options posted done done)
    (hn : x.brick ∉ done.map (·.brick)) (hx : x.fault? = some e)
    (hs : ∃ s, c.fleet.scheduler? x.link = some s)
    (hf : d.fleet = c.fleet.without x.brick x.link)
    (hl : d.log = c.log ++ [.closing x.brick, .disposed x.link]) :
    d.Judged f options posted done (done ++ [x]) := by
  have hlog : Judged { c with log := d.log } f options posted done done :=
    h.log rfl hl (by simp)
  refine ⟨?_, ?_, fun id => ?_, fun y hy he => ?_, hlog.refreshed, hlog.lost, hlog.posted⟩
  · rw [hf]
    exact h.bearing
  · rw [hf]
    exact h.active
  · have hp : d.fleet.pool.find? id = if id = x.brick then none else c.fleet.pool.find? id := by
      rw [hf]
      exact c.fleet.pool.find?_erase x.brick id
    rw [hp, fallen_condemned hn hx, h.pool]
    by_cases hi : id = x.brick <;> simp [hi]
  · rw [hf, Fleet.without_scheduler?]
    rcases List.mem_append.mp hy with hy | hy
    · obtain ⟨s, hs, hd⟩ := h.disposed y hy he
      rw [hs]
      split
      · exact ⟨_, rfl, rfl, rfl⟩
      · exact ⟨s, rfl, hd⟩
    · obtain rfl := List.mem_singleton.mp hy
      obtain ⟨s, hs⟩ := hs
      rw [hs, if_pos rfl]
      exact ⟨_, rfl, rfl, rfl⟩

theorem Judged.lose (h : c.Judged f options posted done (done ++ [x]))
    (hn : x.brick ∉ done.map (·.brick)) (hx : x.fault? = some e)
    (hr : (f.registry.bearing? x.brick).isSome = true)
    (hf : d.fleet = c.fleet.withRegistry (·.markUnavailable x.brick (Poller.lossReason e)))
    (hl : d.log = c.log ++ c.poller.lossSignals x.brick (Poller.lossReason e))
    (ho : c.poller.options = options) :
    d.Judged f options posted (done ++ [x]) (done ++ [x]) := by
  have hfallen := fallen_condemned hn hx
  have hbearing : c.fleet.registry.bearing? x.brick = f.registry.bearing? x.brick := by
    rw [h.bearing, fallen_of_notMem hn]
    rfl
  subst ho
  refine ⟨fun id => ?_, ?_, ?_, ?_, fun id => ?_, fun id reason => ?_, fun link => ?_⟩
  · rw [hf, Fleet.withRegistry_registry, Registry.bearing?_markUnavailable, hfallen]
    by_cases hi : id = x.brick
    · obtain ⟨bearing, hb⟩ := Option.isSome_iff_exists.mp hr
      simp [hi, hbearing, hb]
    · rw [if_neg hi, if_neg hi]
      exact h.bearing id
  · have hc : c.fleet.registry.contains x.brick = true :=
      Registry.contains_of_bearing? (by rw [hbearing]; exact hr)
    rw [hf, Fleet.withRegistry_registry, Registry.markUnavailable_active, h.active]
    simp only [hfallen]
    cases ha : f.registry.active with
    | none => simp
    | some id =>
      by_cases hi : id = x.brick <;> cases hd : fallen done id <;> simp [hi, hc, hd, Option.filter]
  · rw [hf]
    exact h.pool
  · rw [hf]
    exact h.disposed
  · rw [hl, List.count_append, h.refreshed, Poller.count_refreshed, hfallen]
    by_cases hi : id = x.brick
    · simp [hi, fallen_of_notMem hn]
    · simp [hi]
  · rw [hl, List.count_append, h.lost, Poller.count_lost, hfallen]
    by_cases hi : id = x.brick
    · have he : Poller.lossReason e = reason ↔ reason = Poller.lossReason e := eq_comm
      simp [hi, fallen_of_notMem hn, he]
    · simp [hi]
  · rw [hl, List.count_append, h.posted, Poller.count_posted, Nat.add_zero]

end Judged

/-- The probes that were sent, each with what it came to. -/
structure Answered (c : Round κ) (f : Fleet κ) (options : PollerOptions) (began : Nat)
    (probes : List Probe) : Prop where
  addresses : probes.map (·.address) = (f.chosen.map f.probe).map (·.address)
  returned : ∀ x ∈ probes, ∃ outcome, x.outcome = some outcome ∧
    c.Returned f began (probeRequest x.brick options.probeTimeout) x.link outcome

/-- Where a round stands that began with the fleet. -/
inductive Stage (c : Round κ) (f : Fleet κ) (options : PollerOptions) (began : Nat)
    (posted : LinkId → Nat) : Prop
  | probing {probes : List Probe} (hp : c.poller.phase = .probing probes)
      (ha : probes.map (·.address) = (f.chosen.map f.probe).map (·.address))
      (ho : ∀ x ∈ probes, ∀ outcome, x.outcome = some outcome →
        c.Returned f began (probeRequest x.brick options.probeTimeout) x.link outcome)
      (hj : c.Judged f options posted [] [])
  | judging {done left : List Probe} {verdicts : List (String × Option LinkError)}
      (hp : c.poller.phase = .judging verdicts) (hv : Poller.verdicts? left = some verdicts)
      (ha : c.Answered f options began (done ++ left)) (hj : c.Judged f options posted done done)
  | closing {done rest : List Probe} {x : Probe} {e : LinkError}
      {later : List (String × Option LinkError)}
      (hp : c.poller.phase = .closing x.brick (Poller.lossReason e) x.link later)
      (hx : x.fault? = some e) (hv : Poller.verdicts? rest = some later)
      (ha : c.Answered f options began (done ++ x :: rest))
      (hj : c.Judged f options posted done (done ++ [x]))
  | asleep {done : List Probe} {until_ : Nat} (hp : c.poller.phase = .sleeping until_)
      (ha : c.Answered f options began done) (hj : c.Judged f options posted done done)
  | broken (hp : c.poller.phase = .ended)

/-- A round that began with the fleet and is neither given up nor lost track of. -/
structure Going (c : Round κ) (f : Fleet κ) (options : PollerOptions) (began : Nat)
    (posted : LinkId → Nat) : Prop where
  kept : c.poller.options = options
  uncancelled : c.poller.cancelled = false
  backed : c.Backed f options began
  stage : c.Stage f options began posted

section Addresses

variable {c d : Round κ} {f : Fleet κ} {options : PollerOptions} {began : Nat} {probes : List Probe}
  {x : Probe}

theorem bricks_of_addresses (h : probes.map (·.address) = (f.chosen.map f.probe).map (·.address)) :
    probes.map (·.brick) = f.chosen.map (·.1) := by
  have he := congrArg (List.map (·.1)) h
  simpa only [List.map_map, Function.comp_def, Probe.address, Fleet.probe] using he

theorem chosen_of_addresses (h : probes.map (·.address) = (f.chosen.map f.probe).map (·.address))
    (hx : x ∈ probes) : (x.brick, x.link) ∈ f.chosen ∧ x.ticket = f.ticket? x.link := by
  have hm : x.address ∈ (f.chosen.map f.probe).map (·.address) := h ▸ List.mem_map_of_mem hx
  rw [List.map_map] at hm
  obtain ⟨entry, he, ha⟩ := List.mem_map.mp hm
  obtain ⟨hb, hl, ht⟩ : entry.1 = x.brick ∧ entry.2 = x.link ∧ f.ticket? entry.2 = x.ticket := by
    simpa [Probe.address, Fleet.probe] using ha
  rw [← hb, ← hl]
  exact ⟨he, ht.symm⟩

theorem Returned.mono {r : Request} {link : LinkId} {outcome : Outcome}
    (h : c.Returned f began r link outcome) (ht : c.told ⊆ d.told) :
    d.Returned f began r link outcome := by
  unfold Returned at h ⊢
  split at h
  · exact h
  · exact ht h

theorem Answered.mono (h : c.Answered f options began probes) (ht : c.told ⊆ d.told) :
    d.Answered f options began probes where
  addresses := h.addresses
  returned x hx := by
    obtain ⟨outcome, ho, hr⟩ := h.returned x hx
    exact ⟨outcome, ho, hr.mono ht⟩

theorem Answered.advance {done rest : List Probe} {x : Probe}
    (h : c.Answered f options began (done ++ x :: rest)) :
    c.Answered f options began ((done ++ [x]) ++ rest) := by
  rw [List.append_assoc]
  exact h

end Addresses

section Going

variable {c d : Round κ} {f g : Fleet κ} {options : PollerOptions} {began : Nat}
  {posted : LinkId → Nat}

theorem Going.wait (h : c.Going f options began posted) (ms : Nat) :
    Going { c with now := c.now + ms } f options began posted where
  kept := h.kept
  uncancelled := h.uncancelled
  backed := h.backed.of_same (fun _ => rfl) rfl (Nat.le_add_right _ _)
  stage := by
    cases h.stage with
    | probing hp ha ho hj => exact .probing hp ha ho (hj.same rfl rfl)
    | judging hp hv ha hj => exact .judging hp hv (ha.mono (List.Subset.refl _)) (hj.same rfl rfl)
    | closing hp hx hv ha hj =>
      exact .closing hp hx hv (ha.mono (List.Subset.refl _)) (hj.same rfl rfl)
    | asleep hp ha hj => exact .asleep hp (ha.mono (List.Subset.refl _)) (hj.same rfl rfl)
    | broken hp => exact .broken hp

/-- What an act on a scheduler changes: the scheduler, and what the poller has heard. -/
theorem act_drive (c : Round κ) (link : LinkId) (act : Act) :
    let d := c.act (.drive link act)
    d.now = c.now ∧ d.log = c.log ∧ d.fleet.registry = c.fleet.registry ∧
      d.fleet.pool = c.fleet.pool ∧
      (∀ other, d.fleet.scheduler? other = if link = other then
        (c.fleet.scheduler? other).map fun s => (s.react c.now act).1
        else c.fleet.scheduler? other) ∧
      d.told = c.told ++ c.fleet.tells c.now link act ∧
      ∃ events, d.poller = events.foldl (Poller.hear link) c.poller ∧
        c.fleet.tells c.now link act = (outcomes events).map (link, ·) := by
  refine ⟨rfl, rfl, c.fleet.drive_registry .., c.fleet.drive_pool ..,
    fun other => c.fleet.drive_scheduler? .., rfl, ?_⟩
  cases hs : c.fleet.scheduler? link with
  | none => exact ⟨[], by simp only [Round.act, Fleet.drive, hs, List.foldl_nil],
      by simp only [Fleet.tells, hs, outcomes_nil, List.map_nil]⟩
  | some s => exact ⟨(s.react c.now act).2, by simp only [Round.act, Fleet.drive, hs],
      by simp only [Fleet.tells, hs]⟩

/-- An outcome that reaches a probe is one of the request that was posted for it. -/
theorem returned_of_told {link : LinkId} {events : List Event} {x : Probe} {post : Submission}
    {outcome : Outcome} (h : d.Backed f options began)
    (ht : (outcomes events).map (link, ·) ⊆ d.told)
    (hx : (x.brick, x.link) ∈ f.chosen ∧ x.ticket = f.ticket? x.link)
    (hm : (post, outcome) ∈ outcomes events) (hl : x.link = link)
    (hk : x.ticket = some post.ticket) :
    d.Returned f began (probeRequest x.brick options.probeTimeout) x.link outcome := by
  have htold : (x.link, post, outcome) ∈ d.told := hl ▸ ht (List.mem_map_of_mem hm)
  have hticket : f.ticket? x.link = some post.ticket := hx.2.symm.trans hk
  have hpost := h.post_eq hx.1 hticket htold rfl
  rw [hpost] at htold
  unfold Returned
  rw [hticket]
  exact htold

theorem Going.drive (h : c.Going f options began posted) (link : LinkId) (act : Act) :
    (c.act (.drive link act)).Going f options began posted := by
  obtain ⟨hnow, hlog, hregistry, hpool, hs, htold, events, hpoller, htells⟩ := c.act_drive link act
  generalize c.act (.drive link act) = d at hnow hlog hregistry hpool hs htold hpoller
  have hbacked := h.backed.drive link act hnow hs htold
  have hmore : c.told ⊆ d.told := htold ▸ List.subset_append_left _ _
  have hheard : (outcomes events).map (link, ·) ⊆ d.told := by
    rw [htold, htells]
    exact List.subset_append_right _ _
  have hjudged : ∀ {done gone}, c.Judged f options posted done gone →
      d.Judged f options posted done gone := fun hj => hj.drive link act hregistry hpool hs hlog
  have hdeaf : (∀ probes, c.poller.phase ≠ .probing probes) → d.poller = c.poller := fun hp =>
    hpoller.trans (Poller.foldl_hear_deaf link events hp)
  have hquiet : d.poller.options = c.poller.options ∧ d.poller.cancelled = c.poller.cancelled := by
    rcases Poller.foldl_hear_cases link c.poller events with he | ⟨_, _, -, he, -⟩
    · rw [hpoller, he]
      exact ⟨rfl, rfl⟩
    · rw [hpoller, he]
      exact ⟨rfl, rfl⟩
  refine ⟨hquiet.1.trans h.kept, hquiet.2.trans h.uncancelled, hbacked, ?_⟩
  cases h.stage with
  | probing hp ha ho hj =>
    obtain ⟨changed, he, hu⟩ := Poller.foldl_hear_probing link events hp
    have haddresses := hu.addresses.trans ha
    refine .probing (by rw [hpoller, he]) haddresses (fun x hx outcome hout => ?_) (hjudged hj)
    rcases hu.outcomes x hx outcome hout with ⟨y, hy, hya, hyo⟩ | ⟨post, hm, hl, hk⟩
    · obtain ⟨hbrick, hlink, -⟩ : y.brick = x.brick ∧ y.link = x.link ∧ y.ticket = x.ticket := by
        simpa [Probe.address] using hya
      rw [← hbrick, ← hlink]
      exact (ho y hy outcome hyo).mono hmore
    · exact returned_of_told hbacked hheard (chosen_of_addresses haddresses hx) hm hl hk
  | judging hp hv ha hj =>
    rw [← hdeaf (by simp [hp])] at hp
    exact .judging hp hv (ha.mono hmore) (hjudged hj)
  | closing hp hx hv ha hj =>
    rw [← hdeaf (by simp [hp])] at hp
    exact .closing hp hx hv (ha.mono hmore) (hjudged hj)
  | asleep hp ha hj =>
    rw [← hdeaf (by simp [hp])] at hp
    exact .asleep hp (ha.mono hmore) (hjudged hj)
  | broken hp =>
    rw [← hdeaf (by simp [hp])] at hp
    exact .broken hp

/-- What is known of a probe that is dealt with next. -/
theorem Answered.next {done rest : List Probe} {x : Probe} (hd : f.IsDistinct)
    (ha : c.Answered f options began (done ++ x :: rest)) :
    x.brick ∉ done.map (·.brick) ∧ ∃ s, f.IsIdle x.brick x.link s := by
  have hn : ((done ++ x :: rest).map (·.brick)).Nodup :=
    bricks_of_addresses ha.addresses ▸ Fleet.chosen_bricks_nodup hd
  rw [List.map_append, List.map_cons] at hn
  refine ⟨fun hm => (List.nodup_append.mp hn).2.2 _ hm _ List.mem_cons_self rfl, ?_⟩
  have hx : x ∈ done ++ x :: rest := List.mem_append_right _ List.mem_cons_self
  exact Fleet.mem_chosen.mp (chosen_of_addresses ha.addresses hx).1

section Moves

variable {done left rest : List Probe} {x : Probe} {e : LinkError} {stamp : String}
  {verdicts later : List (String × Option LinkError)}

/-- Each probe that was sent has an outcome, so each that was counted returned. -/
theorem Going.gather (h : c.Going f options began posted) {probes : List Probe}
    (hv : Poller.verdicts? probes = some verdicts)
    (ha : probes.map (·.address) = (f.chosen.map f.probe).map (·.address))
    (ho : ∀ x ∈ probes, ∀ outcome, x.outcome = some outcome →
      c.Returned f began (probeRequest x.brick options.probeTimeout) x.link outcome)
    (hj : c.Judged f options posted [] []) :
    Going { c with poller := { c.poller with phase := .judging verdicts }, log := c.log ++ [] }
      f options began posted where
  kept := h.kept
  uncancelled := h.uncancelled
  backed := h.backed.of_same (fun _ => rfl) rfl (Nat.le_refl _)
  stage := by
    have hanswered : c.Answered f options began ([] ++ probes) := by
      refine ⟨ha, fun x hx => ?_⟩
      obtain ⟨outcome, hx'⟩ := Poller.verdicts?_some hv x hx
      exact ⟨outcome, hx', ho x hx outcome hx'⟩
    exact .judging rfl hv (hanswered.mono (List.Subset.refl _)) (hj.same rfl (List.append_nil _))

theorem Going.praise (h : c.Going f options began posted) (hx : x.fault? = none)
    (hv : Poller.verdicts? rest = some later)
    (ha : c.Answered f options began (done ++ x :: rest)) (hj : c.Judged f options posted done done) :
    Going { c with
      fleet := c.fleet.withRegistry (·.measure x.brick { lastSeen := some stamp })
      poller := { c.poller with phase := .judging later }
      log := c.log ++ [] } f options began posted where
  kept := h.kept
  uncancelled := h.uncancelled
  backed := h.backed.of_same (fun _ => rfl) rfl (Nat.le_refl _)
  stage := by
    exact .judging rfl hv (ha.advance.mono (List.Subset.refl _))
      (hj.praise hx rfl (List.append_nil _))

theorem Going.close (hd : f.IsDistinct) (h : c.Going f options began posted)
    (hx : x.fault? = some e) (hv : Poller.verdicts? rest = some later)
    (ha : c.Answered f options began (done ++ x :: rest)) (hj : c.Judged f options posted done done) :
    c.fleet.pool.find? x.brick = some x.link ∧ Going { c with
      fleet := c.fleet.without x.brick x.link
      poller := { c.poller with phase := .closing x.brick (Poller.lossReason e) x.link later }
      log := c.log ++ [.closing x.brick, .disposed x.link] } f options began posted := by
  obtain ⟨hn, s, hi⟩ := ha.next hd
  obtain ⟨hp, hs⟩ := Fleet.session?_eq_some.mp hi.session
  obtain ⟨config, line, acts, hc, -⟩ := h.backed x.link s hs
  refine ⟨?_, h.kept, h.uncancelled, h.backed.without x.brick x.link rfl rfl rfl, ?_⟩
  · rw [hj.pool, fallen_of_notMem hn]
    exact hp
  · exact .closing rfl hx hv (ha.mono (List.Subset.refl _)) (hj.close hn hx ⟨_, hc⟩ rfl rfl)

theorem Going.lose (hd : f.IsDistinct) (h : c.Going f options began posted)
    (hx : x.fault? = some e) (hv : Poller.verdicts? rest = some later)
    (ha : c.Answered f options began (done ++ x :: rest))
    (hj : c.Judged f options posted done (done ++ [x])) :
    Going { c with
      fleet := c.fleet.withRegistry (·.markUnavailable x.brick (Poller.lossReason e))
      poller := c.poller.afterLoss later
      log := c.log ++ c.poller.lossSignals x.brick (Poller.lossReason e) } f options began posted where
  kept := h.kept
  uncancelled := h.uncancelled
  backed := h.backed.of_same (fun _ => rfl) rfl (Nat.le_refl _)
  stage := by
    obtain ⟨hn, s, hi⟩ := ha.next hd
    obtain ⟨bearing, hb, -⟩ := hi.live
    rcases c.poller.afterLoss_phase later with hp | hp
    · exact .broken hp
    · exact .judging hp hv (ha.advance.mono (List.Subset.refl _))
        (hj.lose hn hx (hb ▸ rfl) rfl rfl h.kept)

theorem Going.finish (h : c.Going f options began posted)
    (ha : c.Answered f options began done) (hj : c.Judged f options posted done done) :
    Going { c with
      fleet := (c.poller.rest c.fleet c.now).2.1
      poller := (c.poller.rest c.fleet c.now).1
      log := c.log ++ (c.poller.rest c.fleet c.now).2.2 } f options began posted := by
  obtain ⟨⟨until_, hp⟩, hf, hs⟩ := c.poller.rest_spec c.fleet c.now
  obtain ⟨ho, hc⟩ := c.poller.rest_kept c.fleet c.now
  refine ⟨ho.trans h.kept, hc.trans h.uncancelled, ?_, ?_⟩
  · refine h.backed.of_same (fun link => ?_) rfl (Nat.le_refl _)
    rw [hf]
  · refine .asleep hp (ha.mono (List.Subset.refl _)) (hj.log hf rfl (fun signal hm => ?_))
    obtain ⟨shown, -, -, rfl⟩ := hs signal hm
    simp

end Moves

theorem Going.poll {stamp : String} {q : Poller} {signals : List PollerSignal}
    (hd : f.IsDistinct) (h : c.Going f options began posted)
    (hp : ∀ until_, c.poller.phase ≠ .sleeping until_)
    (hm : c.poller.Move c.fleet c.now stamp q g signals) :
    Going { c with fleet := g, poller := q, log := c.log ++ signals } f options began posted := by
  cases h.stage with
  | probing hp' ha ho hj =>
    cases hm with
    | gather hp hc hv =>
      cases hp.symm.trans hp'
      exact h.gather hv ha ho hj
    | cancel _ hc => cases hc.symm.trans h.uncancelled
    | tick hp | finish hp | praise hp | close hp | writeOff hp | lose hp | wake hp =>
      cases hp.symm.trans hp'
  | judging hp' hv ha hj =>
    cases hm with
    | finish hp =>
      cases hp.symm.trans hp'
      cases Poller.verdicts?_eq_nil hv
      rw [List.append_nil] at ha
      exact h.finish ha hj
    | praise hp =>
      cases hp.symm.trans hp'
      obtain ⟨x, rest, rfl, hverdict, hr⟩ := Poller.verdicts?_cons hv
      obtain ⟨rfl, hx⟩ := Prod.mk.inj hverdict
      exact h.praise hx.symm hr ha hj
    | close hp hc hf =>
      cases hp.symm.trans hp'
      obtain ⟨x, rest, rfl, hverdict, hr⟩ := Poller.verdicts?_cons hv
      obtain ⟨rfl, hx⟩ := Prod.mk.inj hverdict
      obtain ⟨hpool, hg⟩ := h.close hd hx.symm hr ha hj
      cases hpool.symm.trans hf
      exact hg
    | writeOff hp hc hf =>
      cases hp.symm.trans hp'
      obtain ⟨x, rest, rfl, hverdict, hr⟩ := Poller.verdicts?_cons hv
      obtain ⟨rfl, hx⟩ := Prod.mk.inj hverdict
      cases (h.close hd hx.symm hr ha hj).1.symm.trans hf
    | cancel _ hc => cases hc.symm.trans h.uncancelled
    | tick hp | gather hp | lose hp | wake hp => cases hp.symm.trans hp'
  | closing hp' hx hv ha hj =>
    cases hm with
    | lose hp =>
      cases hp.symm.trans hp'
      exact h.lose hd hx hv ha hj
    | cancel _ hc => cases hc.symm.trans h.uncancelled
    | tick hp | gather hp | finish hp | praise hp | close hp | writeOff hp | wake hp =>
      cases hp.symm.trans hp'
  | asleep hp' ha hj => exact absurd hp' (hp _)
  | broken hp' =>
    cases hm with
    | cancel _ hc => cases hc.symm.trans h.uncancelled
    | tick hp | gather hp | finish hp | praise hp | close hp | writeOff hp | lose hp | wake hp =>
      cases hp.symm.trans hp'

theorem Going.act (hd : f.IsDistinct) (h : c.Going f options began posted) (act : RoundAct) :
    (c.act act).Going f options began posted := by
  cases act with
  | drive link act => exact h.drive link act
  | poll stamp =>
    simp only [Round.act]
    split
    · exact h
    · next hp =>
      split
      · exact h
      · next hs => exact h.poll hd hp (Poller.move_of_step hs)

theorem Going.run (hd : f.IsDistinct) (h : c.Going f options began posted)
    (acts : List (Nat × RoundAct)) : (c.run acts).Going f options began posted := by
  induction acts generalizing c with
  | nil => exact h
  | cons timed rest ih => exact ih ((h.wait timed.1).act hd timed.2)

end Going

end Round

end BrickHost
