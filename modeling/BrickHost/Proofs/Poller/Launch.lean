import Mathlib.Data.List.Nodup
import BrickHost.Proofs.Poller.Move
import BrickHost.Proofs.Registry.History
import BrickHost.Proofs.Scheduler.Course

/-! Whom a tick probes: the bricks that have a session, a live record and nothing to do. Each gets
one request, and no other scheduler gets any. -/

namespace BrickHost

/-- What a record says of its brick, the readings of the scheduler apart. -/
def BrickRecord.bearing {κ : Type} (r : BrickRecord κ) :
    BrickStatus × Option String × Option κ × Option κ :=
  (r.status, r.lastError, r.files, r.control)

namespace Registry

variable {κ : Type} {r : Registry κ} {id other : String}

def bearing? (r : Registry κ) (id : String) :
    Option (BrickStatus × Option String × Option κ × Option κ) :=
  (r.find? id).map (·.bearing)

theorem standing?_eq_bearing? (r : Registry κ) (id : String) :
    r.standing? id = (r.bearing? id).map fun bearing => (bearing.1, bearing.2.1) := by
  simp [standing?, bearing?, Function.comp_def, BrickRecord.standing, BrickRecord.bearing]

@[simp] theorem bearing?_measure (r : Registry κ) (id : String) (m : RuntimeMetrics)
    (other : String) : (r.measure id m).bearing? other = r.bearing? other := by
  rw [measure_eq]
  by_cases ho : other = id <;>
    simp [bearing?, find?_revise, ho, Function.comp_def, BrickRecord.bearing, BrickRecord.measure]

@[simp] theorem measure_active (r : Registry κ) (id : String) (m : RuntimeMetrics) :
    (r.measure id m).active = r.active := by
  unfold measure
  split <;> rfl

theorem bearing?_markUnavailable (r : Registry κ) (id reason other : String) :
    (r.markUnavailable id reason).bearing? other =
      if other = id then
        (r.bearing? id).map fun _ => (.unavailable, some reason, none, none)
      else r.bearing? other := by
  by_cases ho : other = id
  · simp [bearing?, find?_markUnavailable, ho, Function.comp_def, BrickRecord.bearing,
      BrickRecord.lose]
  · simp [bearing?, find?_markUnavailable, ho]

theorem contains_of_bearing? (h : (r.bearing? id).isSome = true) : r.contains id = true := by
  simpa [bearing?, contains] using h

end Registry

namespace Fleet

variable {κ : Type}

/-- The brick has a session, a live record, and no command that is queued or under way. -/
structure IsIdle (f : Fleet κ) (id : String) (link : LinkId) (s : Scheduler) : Prop where
  session : f.session? id = some (link, s)
  live : ∃ bearing, f.registry.bearing? id = some bearing ∧ bearing.1.isLive = true
  idle : s.snapshot.busy = 0

theorem session?_eq_some {f : Fleet κ} {id : String} {link : LinkId} {s : Scheduler} :
    f.session? id = some (link, s) ↔
      f.pool.find? id = some link ∧ f.scheduler? link = some s := by
  simp only [session?, bind, Option.bind_eq_some_iff, pure, Option.some.injEq, Prod.mk.injEq]
  constructor
  · rintro ⟨other, hp, t, hs, rfl, rfl⟩
    exact ⟨hp, hs⟩
  · rintro ⟨hp, hs⟩
    exact ⟨link, hp, s, hs, rfl, rfl⟩

/-- The same sessions with the same schedulers, and records that say the same. -/
structure Same (f g : Fleet κ) : Prop where
  pool : g.pool = f.pool
  schedulers : g.schedulers = f.schedulers
  bearing : ∀ id, g.registry.bearing? id = f.registry.bearing? id
  active : g.registry.active = f.registry.active

section Same

variable {f g h : Fleet κ}

theorem Same.refl (f : Fleet κ) : Same f f :=
  ⟨rfl, rfl, fun _ => rfl, rfl⟩

theorem Same.trans (hf : Same f g) (hg : Same g h) : Same f h :=
  ⟨hg.pool.trans hf.pool, hg.schedulers.trans hf.schedulers,
    fun id => (hg.bearing id).trans (hf.bearing id), hg.active.trans hf.active⟩

theorem Same.isIdle_iff (hs : Same f g) (id : String) (link : LinkId) (s : Scheduler) :
    g.IsIdle id link s ↔ f.IsIdle id link s := by
  have hsession : g.session? id = f.session? id := by
    simp only [session?, scheduler?, hs.pool, hs.schedulers]
  have hb := hs.bearing id
  constructor
  · intro hi
    exact ⟨hsession ▸ hi.session, hb ▸ hi.live, hi.idle⟩
  · intro hi
    exact ⟨hsession ▸ hi.session, hb ▸ hi.live, hi.idle⟩

end Same

end Fleet

namespace Poller

variable {κ : Type}

section Candidates

variable {f g : Fleet κ}

/-- A brick is to be probed exactly if it is idle, and looking at it changes only its readings. -/
theorem candidate_iff (f : Fleet κ) (brick : String) :
    f.Same (candidate f brick).1 ∧
      ∀ link, (candidate f brick).2 = some link ↔ ∃ s, f.IsIdle brick link s := by
  have hnone : candidate f brick = (f, none) → (∀ link s, ¬ f.IsIdle brick link s) →
      f.Same (candidate f brick).1 ∧
        ∀ link, (candidate f brick).2 = some link ↔ ∃ s, f.IsIdle brick link s := by
    intro hc hn
    rw [hc]
    exact ⟨.refl f, fun link => by simp [hn]⟩
  cases hr : f.registry.find? brick with
  | none =>
    refine hnone (by simp [candidate, Registry.snapshot?, hr]) (fun link s hi => ?_)
    obtain ⟨_, hb, -⟩ := hi.live
    simp [Registry.bearing?, hr] at hb
  | some record =>
    by_cases hl : record.status.isLive = true
    · cases hs : f.session? brick with
      | none =>
        refine hnone (by simp [candidate, Registry.snapshot?, hr, BrickRecord.snapshot, hl, hs])
          (fun link s hi => ?_)
        cases hs.symm.trans hi.session
      | some session =>
        obtain ⟨link, s⟩ := session
        have hc : candidate f brick = (f.withRegistry fun r => r.measure brick
            { busy := some s.snapshot.busy, schedulerState := some s.snapshot.state },
            if 0 < s.snapshot.busy then none else some link) := by
          simp only [candidate, Registry.snapshot?, hr, Option.map_some, BrickRecord.snapshot, hl,
            if_true, hs]
          split <;> rfl
        rw [hc]
        refine ⟨⟨rfl, rfl, fun id => Registry.bearing?_measure .., Registry.measure_active ..⟩, ?_⟩
        intro other
        constructor
        · intro ho
          split at ho
          · cases ho
          · next hz =>
            cases ho
            exact ⟨s, hs, ⟨record.bearing, by simp [Registry.bearing?, hr], hl⟩, by omega⟩
        · rintro ⟨t, hi⟩
          cases hs.symm.trans hi.session
          have hz := hi.idle
          rw [if_neg (by omega)]
    · refine hnone (by simp [candidate, Registry.snapshot?, hr, BrickRecord.snapshot, hl])
        (fun link s hi => ?_)
      obtain ⟨_, hb, hlive⟩ := hi.live
      simp only [Registry.bearing?, hr, Option.map_some, Option.some.injEq] at hb
      rw [← hb] at hlive
      exact hl hlive

theorem candidate_of_same (hs : Fleet.Same f g) (brick : String) :
    (candidate g brick).2 = (candidate f brick).2 := by
  apply Option.ext
  intro link
  rw [(candidate_iff g brick).2, (candidate_iff f brick).2]
  simp only [hs.isIdle_iff]

theorem candidates_eq (f : Fleet κ) (bricks : List String) :
    f.Same (candidates f bricks).1 ∧
      (candidates f bricks).2 =
        bricks.filterMap fun brick => (candidate f brick).2.map (brick, ·) := by
  induction bricks generalizing f with
  | nil => exact ⟨.refl f, rfl⟩
  | cons brick rest ih =>
    have hs := (candidate_iff f brick).1
    obtain ⟨hr, he⟩ := ih (candidate f brick).1
    simp only [candidate_of_same hs] at he
    have hc : candidates f (brick :: rest) = ((candidates (candidate f brick).1 rest).1,
        ((candidate f brick).2.map (brick, ·)).toList ++
          (candidates (candidate f brick).1 rest).2) := rfl
    rw [hc, he]
    refine ⟨hs.trans hr, ?_⟩
    cases hb : (candidate f brick).2 <;> simp [hb]

end Candidates

end Poller

namespace Fleet

variable {κ : Type}

/-- The bricks that a tick probes, each with the link of its session. -/
def chosen (f : Fleet κ) : List (String × LinkId) :=
  (Poller.candidates f f.listedIds).2

/-- The ticket that the next request on a link gets, `none` if the link refuses it. -/
def ticket? (f : Fleet κ) (link : LinkId) : Option Nat :=
  (f.scheduler? link).bind fun s => if s.state.isDisposed then none else some s.nextTicket

/-- A probe as it is sent. -/
def probe (f : Fleet κ) (entry : String × LinkId) : Probe where
  brick := entry.1
  link := entry.2
  ticket := f.ticket? entry.2
  outcome := if (f.ticket? entry.2).isSome then none else some (.error .disposed)

/-- No brick has two sessions, no two sessions share a link, and no brick without a session is
mistaken for one. -/
structure IsDistinct (f : Fleet κ) : Prop where
  ids : f.pool.ids.Nodup
  links : (f.pool.sessions.map (·.2)).Nodup
  rumours : ∀ id ∈ f.rumoured, f.pool.find? id = none

section Chosen

variable {f : Fleet κ} {id : String} {link : LinkId}

theorem mem_chosen : (id, link) ∈ f.chosen ↔ ∃ s, f.IsIdle id link s := by
  rw [chosen, (Poller.candidates_eq f f.listedIds).2, List.mem_filterMap]
  constructor
  · rintro ⟨brick, -, hb⟩
    obtain ⟨other, ho, he⟩ := Option.map_eq_some_iff.mp hb
    cases he
    exact ((Poller.candidate_iff f id).2 link).mp ho
  · rintro ⟨s, hi⟩
    have hp := (session?_eq_some.mp hi.session).1
    have hm : id ∈ f.pool.ids := List.mem_map_of_mem (Pool.mem_of_find? hp)
    refine ⟨id, List.mem_append_left _ hm, ?_⟩
    rw [((Poller.candidate_iff f id).2 link).mpr ⟨s, hi⟩]
    rfl

theorem brick_notMem_chosen (h : ∀ link s, ¬ f.IsIdle id link s) : id ∉ f.chosen.map (·.1) := by
  intro hm
  obtain ⟨entry, he, rfl⟩ := List.mem_map.mp hm
  obtain ⟨s, hi⟩ := mem_chosen.mp he
  exact h _ _ hi

theorem link_notMem_chosen (h : ∀ id s, ¬ f.IsIdle id link s) : link ∉ f.chosen.map (·.2) := by
  intro hm
  obtain ⟨entry, he, rfl⟩ := List.mem_map.mp hm
  obtain ⟨s, hi⟩ := mem_chosen.mp he
  exact h _ _ hi

theorem chosen_bricks_nodup (h : f.IsDistinct) : (f.chosen.map (·.1)).Nodup := by
  have hmap : f.chosen.map (·.1) =
      f.listedIds.filter fun brick => (Poller.candidate f brick).2.isSome := by
    rw [chosen, (Poller.candidates_eq f f.listedIds).2]
    induction f.listedIds with
    | nil => rfl
    | cons brick rest ih => cases hb : (Poller.candidate f brick).2 <;> simp [hb, ih]
  have hrumours : f.rumoured.filter (fun brick => (Poller.candidate f brick).2.isSome) = [] := by
    refine List.filter_eq_nil_iff.mpr (fun brick hm hb => ?_)
    obtain ⟨link, hl⟩ := Option.isSome_iff_exists.mp hb
    obtain ⟨s, hi⟩ := ((Poller.candidate_iff f brick).2 link).mp hl
    have hp := (session?_eq_some.mp hi.session).1
    rw [h.rumours brick hm] at hp
    cases hp
  rw [hmap, listedIds, List.filter_append, hrumours, List.append_nil]
  exact h.ids.filter _

theorem chosen_links_nodup (h : f.IsDistinct) : (f.chosen.map (·.2)).Nodup := by
  have hsession : ∀ entry ∈ f.chosen, entry ∈ f.pool.sessions := by
    intro entry he
    obtain ⟨s, hi⟩ := mem_chosen.mp he
    exact Pool.mem_of_find? (session?_eq_some.mp hi.session).1
  refine List.Nodup.map_on (fun x hx y hy hxy => ?_) (List.Nodup.of_map _ (chosen_bricks_nodup h))
  exact List.inj_on_of_nodup_map h.links (hsession x hx) (hsession y hy) hxy

end Chosen

theorem probe_congr {f g : Fleet κ} {entry : String × LinkId}
    (h : g.scheduler? entry.2 = f.scheduler? entry.2) : g.probe entry = f.probe entry := by
  have ht : g.ticket? entry.2 = f.ticket? entry.2 := by simp only [ticket?, h]
  simp only [probe, ht]

theorem submit_eq_none {f : Fleet κ} {link : LinkId} (h : f.ticket? link = none) (now : Nat)
    (r : Request) : f.submit link now r = none := by
  cases hs : f.scheduler? link with
  | none => simp [submit, hs]
  | some s =>
    have hd : s.state.isDisposed = true := by simpa [ticket?, hs] using h
    simp [submit, hs, Scheduler.submit, hd]

theorem submit_eq_some {f : Fleet κ} {link : LinkId} {ticket : Nat}
    (h : f.ticket? link = some ticket) (now : Nat) (r : Request) :
    ∃ s, f.scheduler? link = some s ∧
      f.submit link now r = some (f.update link fun _ => (s.react now (.submit r)).1, ticket) := by
  cases hs : f.scheduler? link with
  | none => simp [ticket?, hs] at h
  | some s =>
    obtain ⟨hd, ht⟩ : s.state.isDisposed = false ∧ s.nextTicket = ticket := by
      simpa [ticket?, hs] using h
    refine ⟨s, rfl, ?_⟩
    simp [submit, hs, Scheduler.submit, Scheduler.react, hd, ht]

theorem react_submit_of_ticket {f : Fleet κ} {link : LinkId} {s : Scheduler} {ticket : Nat}
    (h : f.ticket? link = some ticket) (hs : f.scheduler? link = some s) (now : Nat) (r : Request) :
    (s.react now (.submit r)).2 = [.accepted ⟨ticket, r, now⟩] := by
  obtain ⟨hd, ht⟩ : s.state.isDisposed = false ∧ s.nextTicket = ticket := by
    simpa [ticket?, hs] using h
  simp [Scheduler.react, Scheduler.submit, hd, ht]

/-- A link that refuses requests keeps its scheduler as it is. -/
theorem react_submit_of_refused {f : Fleet κ} {link : LinkId} {s : Scheduler}
    (h : f.ticket? link = none) (hs : f.scheduler? link = some s) (now : Nat) (r : Request) :
    (s.react now (.submit r)).1 = s := by
  have hd : s.state.isDisposed = true := by simpa [ticket?, hs] using h
  simp [Scheduler.react, Scheduler.submit, hd]

end Fleet

namespace Poller

variable {κ : Type}

/-- The first of the links is offered its probe, and the others see nothing of that. -/
theorem launch_cons (o : PollerOptions) (now : Nat) (f : Fleet κ) (brick : String) (link : LinkId)
    (rest : List (String × LinkId)) :
    ∃ g : Fleet κ, launch o now f ((brick, link) :: rest) =
        ((launch o now g rest).1, f.probe (brick, link) :: (launch o now g rest).2) ∧
      g.pool = f.pool ∧ g.registry = f.registry ∧
      (g.scheduler? link = (f.scheduler? link).map fun s =>
        (s.react now (.submit (probeRequest brick o.probeTimeout))).1) ∧
      ∀ other, link ≠ other → g.scheduler? other = f.scheduler? other := by
  cases ht : f.ticket? link with
  | none =>
    refine ⟨f, ?_, rfl, rfl, ?_, fun _ _ => rfl⟩
    · simp only [launch, Fleet.submit_eq_none ht, Fleet.probe, ht, Option.isSome_none]
      rfl
    · cases hs : f.scheduler? link with
      | none => rfl
      | some s => rw [Option.map_some, Fleet.react_submit_of_refused ht hs]
  | some ticket =>
    obtain ⟨s, hs, he⟩ := Fleet.submit_eq_some ht now (probeRequest brick o.probeTimeout)
    refine ⟨f.update link fun _ =>
      (s.react now (.submit (probeRequest brick o.probeTimeout))).1, ?_, rfl, rfl, ?_,
      fun other ho => ?_⟩
    · simp only [launch, he, Fleet.probe, ht, Option.isSome_some, if_true]
    · rw [Fleet.scheduler?_update, if_pos rfl, hs]
      rfl
    · rw [Fleet.scheduler?_update, if_neg ho]

theorem launch_registry (o : PollerOptions) (now : Nat) (f : Fleet κ)
    (entries : List (String × LinkId)) : (launch o now f entries).1.registry = f.registry := by
  induction entries generalizing f with
  | nil => rfl
  | cons entry rest ih =>
    obtain ⟨g, he, -, hr, -⟩ := launch_cons o now f entry.1 entry.2 rest
    rw [he]
    exact (ih g).trans hr

theorem tick_bearing (p : Poller) (f : Fleet κ) (now : Nat) (id : String) :
    (p.tick f now).2.1.registry.bearing? id = f.registry.bearing? id := by
  have hl := launch_registry p.options now (candidates f f.listedIds).1 (candidates f f.listedIds).2
  exact (congrArg (·.bearing? id) hl).trans ((candidates_eq f f.listedIds).1.bearing id)

/-- Each of the links is offered its probe, and no other link anything. -/
theorem launch_eq (o : PollerOptions) (now : Nat) (f : Fleet κ) {entries : List (String × LinkId)}
    (hl : (entries.map (·.2)).Nodup) :
    let g := (launch o now f entries).1
    (launch o now f entries).2 = entries.map f.probe ∧ g.pool = f.pool ∧
      g.registry = f.registry ∧
      (∀ brick link, (brick, link) ∈ entries → g.scheduler? link =
        (f.scheduler? link).map fun s =>
          (s.react now (.submit (probeRequest brick o.probeTimeout))).1) ∧
      ∀ link, link ∉ entries.map (·.2) → g.scheduler? link = f.scheduler? link := by
  induction entries generalizing f with
  | nil => exact ⟨rfl, rfl, rfl, by simp, fun link hn => rfl⟩
  | cons entry rest ih =>
    obtain ⟨brick, link⟩ := entry
    obtain ⟨hfirst, hrest⟩ : link ∉ rest.map (·.2) ∧ (rest.map (·.2)).Nodup :=
      List.nodup_cons.mp hl
    obtain ⟨g, he, hp, hr, hlink, hother⟩ := launch_cons o now f brick link rest
    obtain ⟨hprobes, hpool, hregistry, hchosen, hleft⟩ := ih g hrest
    have hne : ∀ entry ∈ rest, link ≠ entry.2 := by
      rintro entry hm rfl
      exact hfirst (List.mem_map_of_mem hm)
    rw [he]
    dsimp only
    refine ⟨?_, hpool.trans hp, hregistry.trans hr, fun other on hm => ?_, fun on hn => ?_⟩
    · rw [hprobes, List.map_cons]
      refine congrArg _ (List.map_congr_left fun entry hm => ?_)
      exact Fleet.probe_congr (hother _ (hne entry hm))
    · rcases List.mem_cons.mp hm with hm | hm
      · cases hm
        exact (hleft link hfirst).trans hlink
      · rw [hchosen other on hm, hother on (hne _ hm)]
    · rw [List.map_cons, List.mem_cons, not_or] at hn
      exact (hleft on hn.2).trans (hother on (Ne.symm hn.1))

end Poller

namespace Fleet

variable {κ : Type} {f : Fleet κ}

/-- A tick offers one probe to the scheduler of each idle brick, and nothing to any other. -/
theorem tick_eq (h : f.IsDistinct) (p : Poller) (now : Nat) :
    let g := (p.tick f now).2.1
    (p.tick f now).1 = { p with phase := .probing (f.chosen.map f.probe) } ∧ g.pool = f.pool ∧
      (∀ id, g.registry.bearing? id = f.registry.bearing? id) ∧
      g.registry.active = f.registry.active ∧
      (∀ brick link, (brick, link) ∈ f.chosen → g.scheduler? link =
        (f.scheduler? link).map fun s =>
          (s.react now (.submit (probeRequest brick p.options.probeTimeout))).1) ∧
      (∀ link, link ∉ f.chosen.map (·.2) → g.scheduler? link = f.scheduler? link) ∧
      (p.tick f now).2.2 = .ticked ::
        (f.chosen.map f.probe).filterMap fun x => x.ticket.map fun _ => .posted x.link := by
  obtain ⟨hs, -⟩ := Poller.candidates_eq f f.listedIds
  obtain ⟨hprobes, hpool, hregistry, hchosen, hleft⟩ :=
    Poller.launch_eq p.options now (Poller.candidates f f.listedIds).1 (chosen_links_nodup h)
  have hprobe : (Poller.candidates f f.listedIds).1.probe = f.probe := by
    funext entry
    exact probe_congr (congrArg (·[entry.2]?) hs.schedulers)
  have hscheduler : ∀ link, (Poller.candidates f f.listedIds).1.scheduler? link =
      f.scheduler? link := fun link => by simp only [scheduler?, hs.schedulers]
  rw [hprobe] at hprobes
  simp only [hscheduler] at hchosen hleft
  refine ⟨?_, hpool.trans hs.pool, fun id => ?_, ?_, hchosen, hleft, ?_⟩
  · exact congrArg (fun probes => { p with phase := .probing probes }) hprobes
  · exact (congrArg (·.bearing? id) hregistry).trans (hs.bearing id)
  · exact (congrArg (·.active) hregistry).trans hs.active
  · exact congrArg (fun probes : List Probe => PollerSignal.ticked ::
      probes.filterMap fun x => x.ticket.map fun _ => .posted x.link) hprobes

/-- One request goes out on the link of each idle brick, unless the link refuses it. -/
theorem count_posted (h : f.IsDistinct) (p : Poller) (now : Nat) (link : LinkId) :
    (p.tick f now).2.2.count (.posted link) =
      if link ∈ f.chosen.map (·.2) ∧ (f.ticket? link).isSome then 1 else 0 := by
  have hposted : ∀ entries : List (String × LinkId),
      ((entries.map f.probe).filterMap fun x => x.ticket.map fun _ => PollerSignal.posted x.link) =
        ((entries.map (·.2)).filter fun link => (f.ticket? link).isSome).map .posted := by
    intro entries
    induction entries with
    | nil => rfl
    | cons entry rest ih => cases ht : f.ticket? entry.2 <;> simp [probe, ht, ih]
  have hinj : Function.Injective PollerSignal.posted := fun _ _ he => PollerSignal.posted.inj he
  have hnodup := ((chosen_links_nodup h).filter fun link => (f.ticket? link).isSome).map hinj
  obtain ⟨-, -, -, -, -, -, hsignals⟩ := tick_eq h p now
  rw [hsignals, List.count_cons_of_ne (by simp), hposted, hnodup.count]
  simp only [List.mem_map_of_injective hinj, List.mem_filter]

end Fleet

end BrickHost
