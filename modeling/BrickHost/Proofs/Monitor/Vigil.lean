import BrickHost.Proofs.Monitor.Rest
import BrickHost.Proofs.Poller.Exchange

/-! Courses of a poller over a fleet with a brick that answers every probe at once, while others do
what they like to the rest of the fleet. The brick stays ready and keeps its session exactly if the
settings let a frame be as long as the answer to a probe. -/

namespace BrickHost

/-- The session of a brick is over this link, and no other session is. -/
structure Fleet.Seats {κ : Type} (f : Fleet κ) (id : String) (link : LinkId) : Prop where
  seated : f.pool.find? id = some link
  sole : ∀ other, f.pool.find? other = some link → other = id

theorem Fleet.Seats.of_pool {κ : Type} {f g : Fleet κ} {id : String} {link : LinkId}
    (h : f.Seats id link) (hp : g.pool = f.pool) : g.Seats id link := by
  refine ⟨?_, ?_⟩
  · rw [hp]
    exact h.seated
  · rw [hp]
    exact h.sole

/-- A change that has nothing to do with a brick and its link. -/
def Fleet.Apart {κ : Type} (id : String) (link : LinkId) (change : Fleet κ → Fleet κ) : Prop :=
  ∀ f s, f.Seats id link → f.scheduler? link = some s →
    (change f).Seats id link ∧ (change f).scheduler? link = some s ∧
      (change f).registry.standing? id = f.registry.standing? id

/-- Such a change is that another brick is attached. -/
theorem Fleet.apart_open {κ : Type} {id : String} {link : LinkId} {identity : BrickIdentity}
    (hi : identity.id ≠ id) (config : SchedulerConfig) (line : Line) (handle : κ) (stamp : String) :
    Fleet.Apart id link (·.open identity config line handle stamp) := by
  intro f s hf hs
  have hl : link ≠ f.schedulers.length := Nat.ne_of_lt (List.getElem?_eq_some_iff.mp hs).1
  have hp : f.pool.find? identity.id ≠ some link := fun hp => hi (hf.sole _ hp)
  refine ⟨⟨?_, fun other ho => ?_⟩, ?_, ?_⟩
  · rw [Desk.open_pool, if_neg hi.symm]
    exact hf.seated
  · rw [Desk.open_pool] at ho
    split at ho
    · exact absurd (Option.some.inj ho).symm hl
    · exact hf.sole other ho
  · rw [Desk.open_scheduler? _ _ _ _ _ _ hp, if_neg hl]
    exact hs
  · rw [Desk.open_registry, Registry.standing?_ready, if_neg hi.symm]

inductive VigilAct (κ : Type) (id : String) (link : LinkId) where
  | poll (stamp : String)
  /-- The dispatcher of the link makes a move. -/
  | move
  | answer
  /-- Time passes, but not before the dispatcher and the brick have done what they can. -/
  | wait (ms : Nat)
  | drive (other : LinkId) (act : Act) (apart : other ≠ link)
  | alter (change : Fleet κ → Fleet κ) (apart : Fleet.Apart id link change)
  | endReconnect (brick : String)
  | stop

structure Vigil (κ : Type) where
  fleet : Fleet κ
  poller : Poller
  brick : Brick := {}
  now : Nat := 0

namespace Vigil

variable {κ : Type} {id : String} {link : LinkId}

/-- The brick is attached, with a scheduler and a poller as the settings want them. -/
def start (settings : Settings) (fleet : Fleet κ) (poller : Poller) (identity : BrickIdentity)
    (capacity : Nat) (handle : κ) (stamp : String) : Vigil κ where
  fleet := fleet.open identity (settings.schedulerConfig identity.id) (.ofCapacity capacity) handle
    stamp
  poller := { poller with
    options := { settings.pollerOptions with
      reportsLoss := poller.options.reportsLoss
      reconnects := poller.options.reconnects } }

def isStill (c : Vigil κ) (link : LinkId) : Bool :=
  (c.fleet.scheduler? link).all fun s =>
    (s.step c.now).isNone && (c.brick.step s.line c.now).isNone

def act (c : Vigil κ) : VigilAct κ id link → Vigil κ
  | .poll stamp =>
    match c.poller.step c.fleet c.now stamp with
    | none => c
    | some (p, f, _) => { c with fleet := f, poller := p }
  | .move =>
    let (f, p) := c.fleet.drive c.poller c.now link .move
    { c with fleet := f, poller := p }
  | .answer =>
    match (c.fleet.scheduler? link).bind fun s => c.brick.step s.line c.now with
    | none => c
    | some (b, line, _) =>
      { c with fleet := c.fleet.update link ({ · with line := line }), brick := b }
  | .wait ms => if c.isStill link then { c with now := c.now + ms } else c
  | .drive other act _ =>
    let (f, p) := c.fleet.drive c.poller c.now other act
    { c with fleet := f, poller := p }
  | .alter change _ => { c with fleet := change c.fleet }
  | .endReconnect brick => { c with poller := c.poller.endReconnect brick }
  | .stop => { c with poller := c.poller.dispose }

def run (c : Vigil κ) (acts : List (VigilAct κ id link)) : Vigil κ :=
  acts.foldl act c

/-- The brick is ready, with its session over the link, which nobody has disposed of. -/
structure IsKept (c : Vigil κ) (id : String) (link : LinkId) : Prop where
  session : c.fleet.pool.find? id = some link
  standing : c.fleet.registry.standing? id = some (.ready, none)
  running : ∃ s, c.fleet.scheduler? link = some s ∧ s.state ≠ .disposed

end Vigil

namespace Poller

variable {κ : Type} {p q : Poller} {f : Fleet κ} {id : String} {link : LinkId} {now : Nat}

/-- Nothing speaks against the brick: its probe, if there is one, went over the link and has not
failed. -/
def Trusts (p : Poller) (id : String) (link : LinkId) : Prop :=
  match p.phase with
  | .probing probes => ∀ x ∈ probes, x.brick = id → x.link = link ∧ x.fault? = none
  | .judging verdicts => ∀ e, (id, some e) ∉ verdicts
  | .closing brick _ _ later => brick ≠ id ∧ ∀ e, (id, some e) ∉ later
  | _ => True

theorem trusts_of_not_accuses (h : ¬ p.Accuses id) (link : LinkId) : p.Trusts id link := by
  unfold Accuses at h
  unfold Trusts
  cases hp : p.phase with
  | probing probes =>
    simp only [hp] at h
    exact fun x hx hb => absurd ⟨x, hx, hb⟩ h
  | judging verdicts =>
    simp only [hp] at h
    exact fun e he => h ⟨e, he⟩
  | closing brick reason other later =>
    simp only [hp] at h
    exact ⟨fun hb => h (.inl hb), fun e he => h (.inr ⟨e, he⟩)⟩
  | waking | sleeping | ended => trivial

theorem trusts_afterLoss {later : List (String × Option LinkError)}
    (h : ∀ e, (id, some e) ∉ later) : (p.afterLoss later).Trusts id link := by
  unfold Trusts
  rcases p.afterLoss_phase later with hp | hp
  · simp only [hp]
  · simpa only [hp] using h

/-- Outcomes on other links, and good ones, speak against no brick. -/
theorem Trusts.hear (h : p.Trusts id link) (source : LinkId) {event : Event}
    (hw : source = link → ∀ post outcome, event = .did (.resolved post outcome) →
      outcome.probeFault? = none) : (p.hear source event).Trusts id link := by
  unfold Poller.hear
  split
  case h_2 => exact h
  case h_1 post outcome =>
    unfold resolve
    split
    case h_2 => exact h
    case h_1 probes hp =>
      simp only [Trusts, hp] at h
      intro x hx hb
      obtain ⟨y, hy, rfl⟩ := List.mem_map.mp hx
      split at hb
      · next hwaits =>
        obtain ⟨hl, -⟩ := h y hy hb
        rw [if_pos hwaits]
        exact ⟨hl, hw (hwaits.1.symm.trans hl) post outcome rfl⟩
      · next hwaits =>
        rw [if_neg hwaits]
        exact h y hy hb

theorem Trusts.foldl_hear (h : p.Trusts id link) (source : LinkId) {events : List Event}
    (hw : source = link → ∀ post outcome, .did (.resolved post outcome) ∈ events →
      outcome.probeFault? = none) : (events.foldl (Poller.hear source) p).Trusts id link := by
  induction events generalizing p with
  | nil => exact h
  | cons event rest ih =>
    refine ih (h.hear source fun hl post outcome he => ?_) fun hl post outcome hm => ?_
    · exact hw hl post outcome (he ▸ List.mem_cons_self)
    · exact hw hl post outcome (List.mem_cons_of_mem _ hm)

theorem foldl_hear_options (source : LinkId) (p : Poller) (events : List Event) :
    (events.foldl (hear source) p).options = p.options := by
  rcases foldl_hear_cases source p events with hp | ⟨_, _, -, hq, -⟩
  · rw [hp]
  · rw [hq]

section Tick

variable {s : Scheduler} {b : Brick}

theorem submit_of_ne {g : Fleet κ} {other : LinkId} {r : Request} {ticket : Nat}
    (ho : other ≠ link) (h : f.submit other now r = some (g, ticket)) :
    g.scheduler? link = f.scheduler? link := by
  simp only [Fleet.submit, bind, Option.bind_eq_some_iff, pure, Option.some.injEq,
    Prod.mk.injEq] at h
  obtain ⟨_, -, _, -, rfl, -⟩ := h
  rw [Fleet.scheduler?_update, if_neg ho]

/-- Probes do not disturb a link, and those that go over it have no outcome yet. -/
theorem launch_engaged (o : PollerOptions) (ho : 0 < o.probeTimeout.nanos)
    (chosen : List (String × LinkId)) (hs : f.scheduler? link = some s)
    (he : Contact.Engaged ⟨s, b⟩ now) :
    (∃ t, (launch o now f chosen).1.scheduler? link = some t ∧ Contact.Engaged ⟨t, b⟩ now) ∧
      ∀ x ∈ (launch o now f chosen).2, x.link = link → x.outcome = none := by
  induction chosen generalizing f s with
  | nil => exact ⟨⟨s, hs, he⟩, fun x hx => nomatch hx⟩
  | cons entry rest ih =>
    obtain ⟨brick, other⟩ := entry
    have hprobe : (probeRequest brick o.probeTimeout).IsProbe := ⟨brick, _, ho, rfl⟩
    cases hsub : f.submit other now (probeRequest brick o.probeTimeout) with
    | none =>
      -- A link that serves takes every probe, so this one was for another.
      have hne : other ≠ link := by
        rintro rfl
        obtain ⟨t, ticket, ht, -⟩ := he.submit hprobe
        simp [Fleet.submit, hs, ht] at hsub
      obtain ⟨hlater, hnone⟩ := ih hs he
      simp only [launch, hsub]
      refine ⟨hlater, fun x hx hl => ?_⟩
      rcases List.mem_cons.mp hx with rfl | hx
      · exact absurd hl hne
      · exact hnone x hx hl
    | some result =>
      obtain ⟨g, ticket⟩ := result
      have hg : ∃ t, g.scheduler? link = some t ∧ Contact.Engaged ⟨t, b⟩ now := by
        by_cases hne : other = link
        · obtain ⟨t, ticket', ht, hengaged⟩ := he.submit hprobe
          simp only [Fleet.submit, hne, hs, ht, bind, Option.bind_some, pure, Option.some.injEq,
            Prod.mk.injEq] at hsub
          obtain ⟨rfl, -⟩ := hsub
          exact ⟨t, by simp [Fleet.scheduler?_update, hs], hengaged⟩
        · exact ⟨s, (submit_of_ne hne hsub).trans hs, he⟩
      obtain ⟨t, ht, hengaged⟩ := hg
      obtain ⟨hlater, hnone⟩ := ih ht hengaged
      simp only [launch, hsub]
      refine ⟨hlater, fun x hx hl => ?_⟩
      rcases List.mem_cons.mp hx with rfl | hx
      · rfl
      · exact hnone x hx hl

end Tick

end Poller

namespace Vigil

variable {κ : Type} {c : Vigil κ} {id : String} {link : LinkId}

/-- What the course of a vigil never breaks. -/
structure Watched (c : Vigil κ) (id : String) (link : LinkId) : Prop where
  seats : c.fleet.Seats id link
  standing : c.fleet.registry.standing? id = some (.ready, none)
  contact : ∃ s, c.fleet.scheduler? link = some s ∧ Contact.Engaged ⟨s, c.brick⟩ c.now
  patient : 0 < c.poller.options.probeTimeout.nanos
  trusts : c.poller.Trusts id link

theorem Watched.isKept (h : c.Watched id link) : c.IsKept id link := by
  obtain ⟨s, hs, he⟩ := h.contact
  exact ⟨h.seats.seated, h.standing, s, hs, he.serving.state⟩

section Polling

variable {q : Poller} {g : Fleet κ} {stamp : String} {signals : List PollerSignal}

/-- A move of the poller that leaves the schedulers alone. -/
theorem Watched.of_same (h : c.Watched id link) (hs : g.Seats id link)
    (hr : g.registry.standing? id = c.fleet.registry.standing? id)
    (hl : g.scheduler? link = c.fleet.scheduler? link) (ho : q.options = c.poller.options)
    (ht : q.Trusts id link) : Watched { c with fleet := g, poller := q } id link where
  seats := hs
  standing := hr.trans h.standing
  contact := by
    obtain ⟨s, hf, he⟩ := h.contact
    exact ⟨s, hl.trans hf, he⟩
  patient := by
    rw [ho]
    exact h.patient
  trusts := ht

theorem Watched.tick (h : c.Watched id link) :
    Watched { c with
      fleet := (c.poller.tick c.fleet c.now).2.1
      poller := (c.poller.tick c.fleet c.now).1 } id link := by
  obtain ⟨s, hs, he⟩ := h.contact
  obtain ⟨probes, ht, ha, hx, -⟩ := c.poller.tick_spec c.fleet c.now
  have hf : (Poller.candidates c.fleet c.fleet.listedIds).1.scheduler? link = some s := by
    rw [← hs]
    exact congrArg (·[link]?) (Poller.candidates_schedulers c.fleet c.fleet.listedIds)
  obtain ⟨hcontact, hnone⟩ := Poller.launch_engaged c.poller.options h.patient
    (Poller.candidates c.fleet c.fleet.listedIds).2 hf he
  refine ⟨h.seats.of_pool ha.pool, (ha.standing id).trans h.standing, hcontact, h.patient, ?_⟩
  intro x hm hb
  have hm' : x ∈ probes := by
    have hphase := congrArg Poller.phase ht
    cases hphase
    exact hm
  have hlink : x.link = link := by
    have hseated := (hx x hm').1
    rw [hb, h.seats.seated] at hseated
    exact (Option.some.inj hseated).symm
  refine ⟨hlink, ?_⟩
  simp only [Probe.fault?, hnone x hm hlink, Option.bind_none]

theorem Watched.poll (h : c.Watched id link)
    (hm : c.poller.Move c.fleet c.now stamp q g signals) :
    Watched { c with fleet := g, poller := q } id link := by
  have ht := h.trusts
  unfold Poller.Trusts at ht
  cases hm with
  | cancel hp hc | wake hp hc hd => exact h.of_same h.seats rfl rfl rfl trivial
  | tick hp hc => exact h.tick
  | gather hp hc hv =>
    simp only [hp] at ht
    refine h.of_same h.seats rfl rfl rfl fun e he => ?_
    obtain ⟨x, hx, hb⟩ := Poller.verdicts?_mem hv he
    obtain ⟨rfl, hfault⟩ := Prod.mk.inj hb
    cases hfault.trans (ht x hx rfl).2
  | finish hp hc =>
    obtain ⟨⟨until_, hr⟩, hf, -⟩ := c.poller.rest_spec c.fleet c.now
    rw [hf]
    refine h.of_same h.seats rfl rfl (c.poller.rest_kept c.fleet c.now).1 ?_
    simp only [Poller.Trusts, hr]
  | praise hp hc =>
    simp only [hp] at ht
    refine h.of_same (h.seats.of_pool rfl) ?_ rfl rfl fun e he => ht e (List.mem_cons_of_mem _ he)
    rw [Fleet.withRegistry_registry, Registry.standing?_measure]
  | @close brick e later other hp hc hf =>
    simp only [hp] at ht
    -- The verdict is on another brick, and so is the session over another link.
    have hb : brick ≠ id := by
      rintro rfl
      exact ht e List.mem_cons_self
    have ho : other ≠ link := by
      rintro rfl
      exact hb (h.seats.sole brick hf)
    have hpool : ∀ id', (c.fleet.without brick other).pool.find? id' =
        if id' = brick then none else c.fleet.pool.find? id' := fun id' =>
      c.fleet.pool.find?_erase brick id'
    refine h.of_same ⟨?_, fun id' hi => ?_⟩ rfl (c.fleet.without_scheduler?_of_ne brick ho) rfl
      ⟨hb, fun e he => ht e (List.mem_cons_of_mem _ he)⟩
    · rw [hpool, if_neg hb.symm]
      exact h.seats.seated
    · rw [hpool] at hi
      split at hi
      · cases hi
      · exact h.seats.sole id' hi
  | @writeOff brick e later hp hc hf =>
    simp only [hp] at ht
    have hb : brick ≠ id := by
      rintro rfl
      exact ht e List.mem_cons_self
    refine h.of_same (h.seats.of_pool rfl) ?_ rfl rfl
      (Poller.trusts_afterLoss fun e he => ht e (List.mem_cons_of_mem _ he))
    rw [Fleet.withRegistry_registry, Registry.standing?_markUnavailable, if_neg hb.symm]
  | lose hp hc hterm =>
    simp only [hp] at ht
    refine h.of_same (h.seats.of_pool rfl) ?_ rfl rfl (Poller.trusts_afterLoss ht.2)
    rw [Fleet.withRegistry_registry, Registry.standing?_markUnavailable, if_neg ht.1.symm]

end Polling

section Acts

/-- A move of the dispatcher hands the poller good outcomes only. -/
theorem Watched.move (h : c.Watched id link) :
    (c.act (.move : VigilAct κ id link)).Watched id link := by
  obtain ⟨s, hs, he⟩ := h.contact
  cases hstep : s.step c.now with
  | none =>
    simp only [Vigil.act, Fleet.drive, hs, Scheduler.react, hstep, List.foldl_nil]
    refine ⟨h.seats.of_pool rfl, h.standing, ⟨s, ?_, he⟩, h.patient, h.trusts⟩
    simp [Fleet.scheduler?_update, hs]
  | some result =>
    obtain ⟨t, signals⟩ := result
    obtain ⟨hengaged, hwell⟩ := he.move (Scheduler.move_of_step hstep)
    simp only [Vigil.act, Fleet.drive, hs, Scheduler.react, hstep]
    refine ⟨h.seats.of_pool rfl, h.standing, ⟨t, ?_, hengaged⟩, ?_,
      h.trusts.foldl_hear link fun _ post outcome hm => ?_⟩
    · simp [Fleet.scheduler?_update, hs]
    · rw [Poller.foldl_hear_options]
      exact h.patient
    · obtain ⟨signal, hsignal, heq⟩ := List.mem_map.mp hm
      cases heq
      exact hwell post outcome hsignal

theorem Watched.answer (h : c.Watched id link) :
    (c.act (.answer : VigilAct κ id link)).Watched id link := by
  obtain ⟨s, hs, he⟩ := h.contact
  cases hb : c.brick.step s.line c.now with
  | none => simpa only [Vigil.act, hs, Option.bind_some, hb] using h
  | some result =>
    obtain ⟨b, line, signals⟩ := result
    simp only [Vigil.act, hs, Option.bind_some, hb]
    refine ⟨h.seats.of_pool rfl, h.standing, ⟨{ s with line := line }, ?_, he.answer hb⟩, h.patient,
      h.trusts⟩
    simp [Fleet.scheduler?_update, hs]

theorem Watched.wait (h : c.Watched id link) (ms : Nat) :
    (c.act (.wait ms : VigilAct κ id link)).Watched id link := by
  obtain ⟨s, hs, he⟩ := h.contact
  simp only [Vigil.act]
  split
  · next hstill =>
    simp only [isStill, hs, Option.all_some, Bool.and_eq_true, Option.isNone_iff_eq_none] at hstill
    exact ⟨h.seats, h.standing, ⟨s, hs, he.wait hstill.1 hstill.2 ms⟩, h.patient, h.trusts⟩
  · exact h

theorem Watched.drive (h : c.Watched id link) {other : LinkId} (act : Act) (ho : other ≠ link) :
    (c.act (.drive other act ho : VigilAct κ id link)).Watched id link := by
  cases hs : c.fleet.scheduler? other with
  | none => simpa only [Vigil.act, Fleet.drive, hs] using h
  | some s =>
    simp only [Vigil.act, Fleet.drive, hs]
    refine h.of_same (h.seats.of_pool rfl) rfl ?_ (Poller.foldl_hear_options other c.poller _)
      (h.trusts.foldl_hear other fun hl => absurd hl ho)
    rw [Fleet.scheduler?_update, if_neg ho]

theorem Watched.act (h : c.Watched id link) (act : VigilAct κ id link) :
    (c.act act).Watched id link := by
  cases act with
  | poll stamp =>
    cases hs : c.poller.step c.fleet c.now stamp with
    | none => simpa only [Vigil.act, hs] using h
    | some result =>
      simp only [Vigil.act, hs]
      exact h.poll (Poller.move_of_step hs)
  | move => exact h.move
  | answer => exact h.answer
  | wait ms => exact h.wait ms
  | drive other act ho => exact h.drive act ho
  | alter change apart =>
    obtain ⟨s, hs, he⟩ := h.contact
    obtain ⟨hseats, hkept, hstanding⟩ := apart c.fleet s h.seats hs
    exact ⟨hseats, hstanding.trans h.standing, ⟨s, hkept, he⟩, h.patient, h.trusts⟩
  | endReconnect _ | stop => exact ⟨h.seats, h.standing, h.contact, h.patient, h.trusts⟩

theorem Watched.run (h : c.Watched id link) (acts : List (VigilAct κ id link)) :
    (c.run acts).Watched id link := by
  induction acts generalizing c with
  | nil => exact h
  | cons act rest ih => exact ih (h.act act)

end Acts

theorem start_watched {settings : Settings} (hm : 5 ≤ settings.scheduler.maxFrame.toNat)
    {fleet : Fleet κ} {poller : Poller} (identity : BrickIdentity) {capacity : Nat} (handle : κ)
    (stamp : String) (hv : ∀ other, fleet.pool.find? other ≠ some fleet.schedulers.length)
    (ha : ¬ poller.Accuses identity.id) (hc : 0 < capacity) :
    (start settings fleet poller identity capacity handle stamp).Watched identity.id
      fleet.schedulers.length where
  seats := by
    refine ⟨?_, fun other ho => ?_⟩
    · simp only [start, Desk.open_pool, if_true]
    · simp only [start, Desk.open_pool] at ho
      split at ho
      · assumption
      · exact absurd ho (hv other)
  standing := by
    simp only [start, Desk.open_registry, Registry.standing?_ready, if_true]
  contact := by
    refine ⟨_, (Desk.open_scheduler? _ _ _ _ _ _ (hv identity.id)).trans (if_pos rfl), ?_⟩
    have hfits : 5 ≤ (settings.schedulerConfig identity.id).maxFrame :=
      Nat.le_min.mpr ⟨Nat.le_trans hm (Nat.le_max_left _ _), by decide⟩
    have hline : (Line.ofCapacity capacity).IsSound := ⟨⟨rfl, hc⟩, ⟨rfl, hc⟩, rfl, rfl, rfl⟩
    have hinbox : ∀ limit, ({} : Inbox).IsCurrent limit := fun limit => ⟨rfl, fun _ => rfl⟩
    constructor
    case serving =>
      exact {
        fits := hfits
        running := rfl
        state := by simp [Scheduler.retain]
        receiving := rfl
        handles := Nat.succ_pos _
        posts := fun post hp => nomatch hp
        line := hline
        inbox := hinbox _ }
    case prompt => exact ⟨rfl, hinbox _, .inl rfl⟩
    case stage => exact ⟨rfl, rfl⟩
  patient := by
    have hleast : 10 ≤ Nat.max settings.health.probeTimeout.toNat Settings.leastMillis :=
      Nat.le_max_right _ _
    show 0 < (Settings.atLeast settings.health.probeTimeout).nanos
    simp only [Settings.atLeast, Duration.ofMillis]
    omega
  trusts := Poller.trusts_of_not_accuses ha _

section ShortFrames

def lone : BrickIdentity where
  id := "a"
  displayName := "a"
  transport := .tcp

/-- The limit can be set no lower. A probe is as long as that, and its answer is longer. -/
def shortest (ordinary recovery : Duration) : SchedulerConfig where
  label := "a"
  defaultTimeout := ordinary
  maxFrame := Header.size + 1
  recoveryTimeout := recovery

/-- The first probe of the brick is written, and nothing was read. -/
def probed (config : SchedulerConfig) (timeout : Duration) (line : Line) : Scheduler where
  config := config
  line := line
  state := .running
  handles := 2
  nextTicket := 1
  nextCounter := 1
  phase := .awaiting ⟨⟨0, probeRequest "a" timeout, 0⟩, 0, 0, 0 + timeout.ceilMillis⟩

def probing (registry : Registry κ) (s : Scheduler) (brick : Brick) (options : PollerOptions) :
    Vigil κ where
  fleet := { registry := registry, pool := ⟨[("a", 0)]⟩, schedulers := [s] }
  brick := brick
  poller := { Poller.start options (.ofMillis 1000) with
    phase := .probing [⟨"a", 0, some 0, none⟩] }

def asked : List (VigilAct κ "a" 0) :=
  [.poll "", .move, .move]

def answered : List (VigilAct κ "a" 0) :=
  [.answer, .answer, .answer]

def judged (stamp : String) : List (VigilAct κ "a" 0) :=
  [.move, .move, .poll stamp, .poll stamp]

theorem run_append (c : Vigil κ) (early late : List (VigilAct κ id link)) :
    c.run (early ++ late) = (c.run early).run late :=
  List.foldl_append

theorem run_asked (ordinary recovery : Duration) (options : PollerOptions) (handle : κ) :
    ∃ registry,
      Vigil.run
        { fleet := ({} : Fleet κ).open lone (shortest ordinary recovery) (.ofCapacity 64) handle ""
          poller := .start options (.ofMillis 1000) } asked =
        probing registry (probed (shortest ordinary recovery) options.probeTimeout
          { Line.ofCapacity 64 with outgoing := ⟨64, Frame.encode (probePacket 0).body, false⟩ }) {}
          options :=
  ⟨_, rfl⟩

theorem run_answered (registry : Registry κ) (config : SchedulerConfig) (options : PollerOptions) :
    (probing registry (probed config options.probeTimeout
      { Line.ofCapacity 64 with outgoing := ⟨64, Frame.encode (probePacket 0).body, false⟩ }) {}
      options).run answered =
      probing registry (probed config options.probeTimeout
        { Line.ofCapacity 64 with incoming := ⟨64, Frame.encode (echoPacket 0).body, false⟩ })
        { inbox := { unscanned := true }, phase := .writing [] } options :=
  rfl

theorem run_judged (registry : Registry κ) (ordinary recovery : Duration) (brick : Brick)
    (options : PollerOptions) (stamp : String) :
    ((probing registry (probed (shortest ordinary recovery) options.probeTimeout
      { Line.ofCapacity 64 with incoming := ⟨64, Frame.encode (echoPacket 0).body, false⟩ })
      brick options).run (judged stamp)).fleet.pool.find? "a" = none :=
  rfl

theorem closed_of_short_frames {settings : Settings}
    (hm : ¬ 5 ≤ settings.scheduler.maxFrame.toNat) (handle : κ) :
    ((start settings {} (.start {} (.ofMillis 1000)) lone 64 handle "").run
      (asked ++ answered ++ judged "")).fleet.pool.find? "a" = none := by
  have hshort : Nat.max settings.scheduler.maxFrame.toNat (Header.size + 1) = Header.size + 1 :=
    Nat.max_eq_right (by simp only [Header.size]; omega)
  have hconfig : settings.schedulerConfig "a" =
      shortest (Settings.atLeast settings.scheduler.defaultTimeout)
        (Settings.atLeast settings.scheduler.recoveryTimeout) := by
    simp only [Settings.schedulerConfig, hshort]
    rfl
  have hstart : start settings {} (.start {} (.ofMillis 1000)) lone 64 handle "" =
      { fleet := ({} : Fleet κ).open lone (settings.schedulerConfig "a") (.ofCapacity 64) handle ""
        poller := .start settings.pollerOptions (.ofMillis 1000) } := rfl
  -- The run is too long to be unfolded at once, so it goes from one named state to the next.
  obtain ⟨registry, hasked⟩ := run_asked (Settings.atLeast settings.scheduler.defaultTimeout)
    (Settings.atLeast settings.scheduler.recoveryTimeout) settings.pollerOptions handle
  rw [run_append, run_append, hstart, hconfig, hasked, run_answered]
  exact run_judged registry _ _ _ _ _

end ShortFrames

end Vigil

/-- A brick is attached while no probe of it is under way, and answers every probe at once. Whatever
happens to the other bricks, it stays ready and keeps its session, exactly if the settings let a
frame be as long as the answer: a byte longer than the least that they can be made to allow. -/
theorem probed_brick_kept_iff {κ : Type} (settings : Settings) (handle : κ) :
    (∀ (fleet : Fleet κ) (poller : Poller) (identity : BrickIdentity) (capacity : Nat)
        (stamp : String) (acts : List (VigilAct κ identity.id fleet.schedulers.length)),
      (∀ other, fleet.pool.find? other ≠ some fleet.schedulers.length) →
        ¬ poller.Accuses identity.id → 0 < capacity →
          ((Vigil.start settings fleet poller identity capacity handle stamp).run acts).IsKept
            identity.id fleet.schedulers.length) ↔
      5 ≤ settings.scheduler.maxFrame.toNat := by
  constructor
  · intro hkept
    by_contra hm
    have h : ((Vigil.start settings {} (.start {} (.ofMillis 1000)) Vigil.lone 64 handle "").run
        (Vigil.asked ++ Vigil.answered ++ Vigil.judged "")).IsKept "a" 0 :=
      hkept {} _ Vigil.lone 64 "" _ (fun other ho => nomatch ho) not_false (by decide)
    cases h.session.symm.trans (Vigil.closed_of_short_frames hm handle)
  · intro hm fleet poller identity capacity stamp acts hv ha hc
    exact ((Vigil.start_watched hm identity handle stamp hv ha hc).run acts).isKept

/-- Another brick, which never answers, is lost when its probe has timed out. -/
theorem answering_brick_outlasts_silent_one :
    ∃ acts : List (VigilAct Unit "a" 0),
      let c := (Vigil.start {} {} (.start {} (.ofMillis 1000)) Vigil.lone 64 () "dawn").run acts
      c.now = 700 ∧ (c.fleet.registry.find? "a").bind (·.lastSeen) = some "noon" ∧
        c.fleet.registry.standing? "b" =
          some (.unavailable, some "Connection lost: request probe:b orphaned (timeout)") ∧
        c.IsKept "a" 0 := by
  let other : BrickIdentity := { id := "b", displayName := "b", transport := .tcp }
  let acts : List (VigilAct Unit "a" 0) :=
    .alter (·.open other {} (.ofCapacity 64) () "dawn") (Fleet.apart_open (by decide) _ _ _ _) ::
      Vigil.asked ++ [.drive 1 .move (by decide), .drive 1 .move (by decide)] ++ Vigil.answered ++
        [.move, .move, .move, .move, .answer, .answer, .wait 700, .drive 1 .move (by decide),
          .poll "noon", .poll "noon", .poll "noon", .drive 1 .move (by decide),
          .drive 1 .move (by decide), .drive 1 .move (by decide), .poll "noon"]
  have hseen :
      let c := (Vigil.start {} {} (.start {} (.ofMillis 1000)) Vigil.lone 64 () "dawn").run acts
      c.now = 700 ∧ (c.fleet.registry.find? "a").bind (·.lastSeen) = some "noon" ∧
        c.fleet.registry.standing? "b" =
          some (.unavailable, some "Connection lost: request probe:b orphaned (timeout)") := by
    decide +kernel
  have hkept : ((Vigil.start {} {} (.start {} (.ofMillis 1000)) Vigil.lone 64 () "dawn").run
      acts).IsKept "a" 0 :=
    (probed_brick_kept_iff {} ()).mpr (by decide) {} _ Vigil.lone 64 "dawn" _
      (fun other ho => nomatch ho) not_false (by decide)
  exact ⟨acts, hseen.1, hseen.2.1, hseen.2.2, hkept⟩

/-- The limit is set to one byte. It is raised so far that the probe goes out, but the answer cannot
come in. -/
theorem answering_brick_lost :
    let c := (Vigil.start { scheduler := { maxFrame := 1 } } {} (.start {} (.ofMillis 1000))
      Vigil.lone 64 () "dawn").run
        (Vigil.asked ++ Vigil.answered ++ Vigil.judged "noon" ++ [.move, .poll ""])
    c.fleet.pool.find? "a" = none ∧ c.fleet.registry.standing? "a" =
      some (.unavailable, some "Connection lost: request probe:a orphaned (transport closed)") := by
  decide +kernel

end BrickHost
