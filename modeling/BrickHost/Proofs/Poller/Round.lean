import BrickHost.Proofs.Poller.Launch
import BrickHost.Proofs.Poller.Patrol
import BrickHost.Proofs.Scheduler.Occupancy

/-! Rounds of probes: one tick of a poller from its first move to its last, while everybody may use
the schedulers but nobody else changes the registry or the pool. -/

namespace BrickHost

structure Round (κ : Type) where
  fleet : Fleet κ
  poller : Poller
  now : Nat := 0
  /-- What the poller did. -/
  log : List PollerSignal := []
  /-- The outcomes of requests, each with the link that it was posted to. -/
  told : List (LinkId × Submission × Outcome) := []

inductive RoundAct where
  | poll (stamp : String)
  | drive (link : LinkId) (act : Act)

/-- The requests on a link that an act resolves. -/
def Fleet.tells {κ : Type} (f : Fleet κ) (now : Nat) (link : LinkId) (act : Act) :
    List (LinkId × Submission × Outcome) :=
  match f.scheduler? link with
  | none => []
  | some s => (outcomes (s.react now act).2).map (link, ·)

namespace Round

variable {κ : Type}

/-- The poller makes no move any more when the round is over. -/
def act (c : Round κ) : RoundAct → Round κ
  | .poll stamp =>
    match c.poller.phase with
    | .sleeping _ => c
    | _ =>
      match c.poller.step c.fleet c.now stamp with
      | none => c
      | some (p, f, signals) => { c with fleet := f, poller := p, log := c.log ++ signals }
  | .drive link act =>
    let (f, p) := c.fleet.drive c.poller c.now link act
    { c with fleet := f, poller := p, told := c.told ++ c.fleet.tells c.now link act }

def after (c : Round κ) (ms : Nat) (act : RoundAct) : Round κ :=
  { c with now := c.now + ms }.act act

def run (c : Round κ) (acts : List (Nat × RoundAct)) : Round κ :=
  acts.foldl (fun c timed => c.after timed.1 timed.2) c

/-- What the probe that is offered to a link at some moment comes to: a link that refuses it counts
as disposed. -/
def Returned (c : Round κ) (f : Fleet κ) (began : Nat) (r : Request) (link : LinkId)
    (outcome : Outcome) : Prop :=
  match f.ticket? link with
  | none => outcome = .error .disposed
  | some ticket => (link, ⟨ticket, r, began⟩, outcome) ∈ c.told

/-- The brick is as it was, and nothing was said about it. -/
structure Spares (c : Round κ) (f : Fleet κ) (id : String) : Prop where
  session : c.fleet.pool.find? id = f.pool.find? id
  bearing : c.fleet.registry.bearing? id = f.registry.bearing? id
  active : c.fleet.registry.isActive id = f.registry.isActive id
  unrefreshed : c.log.count (.refreshed id) = 0
  unreported : ∀ reason, c.log.count (.lost id reason) = 0

/-- The session of the brick was removed and disposed of, its record marked, and its loss reported
once. -/
structure Drops (c : Round κ) (options : PollerOptions) (id : String) (link : LinkId)
    (reason : String) : Prop where
  session : c.fleet.pool.find? id = none
  disposed : ∃ s, c.fleet.scheduler? link = some s ∧ s.state = .disposed
  record : ∃ record, c.fleet.registry.find? id = some record ∧ record.status = .unavailable ∧
    record.lastError = some reason ∧ record.files = none ∧ record.control = none
  inactive : c.fleet.registry.active ≠ some id
  refreshed : c.log.count (.refreshed id) = 1
  reported : ∀ other, c.log.count (.lost id other) =
    if options.reportsLoss ∧ other = reason then 1 else 0

end Round

/-- A system reply whose payload begins with the echo of the probe and success. -/
def Outcome.IsWell (outcome : Outcome) : Prop :=
  ∃ result rest, outcome = .ok result ∧ result.reply.kind = .reply .system ∧
    result.reply.payload = 0x9d :: 0x00 :: rest

theorem ReplyStatus.isSuccess_ofByte (b : UInt8) : (ofByte b).isSuccess = true ↔ b = 0 := by
  unfold isSuccess ofByte
  constructor
  · intro h
    split at h
    · next hz => exact UInt8.toNat_inj.mp hz
    all_goals simp at h
  · rintro rfl
    rfl

theorem CommandResult.probeFault?_eq_none {result : CommandResult} :
    result.probeFault? = none ↔ result.reply.kind = .reply .system ∧
      ∃ rest, result.reply.payload = 0x9d :: 0x00 :: rest := by
  unfold probeFault? Packet.systemStatus? Packet.replyKind?
  cases hk : result.reply.kind with
  | command k => simp
  | reply k =>
    cases k with
    | system =>
      rcases hp : result.reply.payload with _ | ⟨echo, _ | ⟨status, rest⟩⟩
      · simp [ReplyKind.isSystem]
      · simp [ReplyKind.isSystem]
      · simp [ReplyKind.isSystem, ReplyStatus.isSuccess_ofByte, SystemCommand.probe,
          SystemCommand.byte]
    | _ => simp

theorem Outcome.probeFault?_eq_none {outcome : Outcome} :
    outcome.probeFault? = none ↔ outcome.IsWell := by
  cases outcome with
  | error e => simp [probeFault?, IsWell]
  | ok result => simp [probeFault?, IsWell, CommandResult.probeFault?_eq_none]

namespace Poller

theorem alarm?_eq_some {p : Poller} {until_ : Nat} :
    p.alarm? = some until_ ↔ p.phase = .sleeping until_ := by
  unfold alarm?
  split <;> simp_all

theorem verdicts?_some {probes : List Probe} {verdicts : List (String × Option LinkError)}
    (h : verdicts? probes = some verdicts) : ∀ x ∈ probes, ∃ outcome, x.outcome = some outcome := by
  induction probes generalizing verdicts with
  | nil => exact fun x hx => nomatch hx
  | cons x rest ih =>
    cases ho : x.outcome with
    | none => simp [verdicts?, ho] at h
    | some outcome =>
      cases hr : verdicts? rest with
      | none => simp [verdicts?, ho, hr] at h
      | some later =>
        intro y hy
        rcases List.mem_cons.mp hy with rfl | hy
        · exact ⟨outcome, ho⟩
        · exact ih hr y hy

theorem verdicts?_eq_nil {probes : List Probe} (h : verdicts? probes = some []) : probes = [] := by
  cases probes with
  | nil => rfl
  | cons x rest => cases ho : x.outcome <;> cases hr : verdicts? rest <;> simp [verdicts?, ho, hr] at h

end Poller

/-- To whom a probe went, and under which ticket. -/
def Probe.address (x : Probe) : String × LinkId × Option Nat :=
  (x.brick, x.link, x.ticket)

/-- The same probes, where an outcome is new only if something on the link came to it. -/
structure Updates (link : LinkId) (events : List Event) (probes changed : List Probe) : Prop where
  addresses : changed.map (·.address) = probes.map (·.address)
  outcomes : ∀ x ∈ changed, ∀ outcome, x.outcome = some outcome →
    (∃ y ∈ probes, y.address = x.address ∧ y.outcome = some outcome) ∨
      ∃ post, (post, outcome) ∈ outcomes events ∧ x.link = link ∧ x.ticket = some post.ticket

section Updates

variable {link : LinkId} {p : Poller} {probes changed later : List Probe} {events more : List Event}

theorem Updates.refl (link : LinkId) (events : List Event) (probes : List Probe) :
    Updates link events probes probes :=
  ⟨rfl, fun x hx _ ho => .inl ⟨x, hx, rfl, ho⟩⟩

theorem Updates.trans (h : Updates link events probes changed)
    (h' : Updates link more changed later) : Updates link (events ++ more) probes later where
  addresses := h'.addresses.trans h.addresses
  outcomes x hx outcome ho := by
    rw [outcomes_append]
    rcases h'.outcomes x hx outcome ho with ⟨y, hy, hya, hyo⟩ | ⟨post, hm, hl, ht⟩
    · rcases h.outcomes y hy outcome hyo with ⟨z, hz, hza, hzo⟩ | ⟨post, hm, hl, ht⟩
      · exact .inl ⟨z, hz, hza.trans hya, hzo⟩
      · obtain ⟨-, hlink, hticket⟩ : y.brick = x.brick ∧ y.link = x.link ∧ y.ticket = x.ticket := by
          simpa [Probe.address] using hya
        exact .inr ⟨post, List.mem_append_left _ hm, hlink ▸ hl, hticket ▸ ht⟩
    · exact .inr ⟨post, List.mem_append_right _ hm, hl, ht⟩

theorem Updates.resolved (link : LinkId) (post : Submission) (outcome : Outcome)
    (probes : List Probe) :
    Updates link [.did (.resolved post outcome)] probes (probes.map fun x =>
      if x.link = link ∧ x.ticket = some post.ticket then { x with outcome := some outcome }
      else x) where
  addresses := by
    rw [List.map_map]
    apply List.map_congr_left
    intro x _
    simp only [Function.comp_apply]
    split <;> rfl
  outcomes x hx told ho := by
    obtain ⟨y, hy, rfl⟩ := List.mem_map.mp hx
    by_cases hm : y.link = link ∧ y.ticket = some post.ticket
    · rw [if_pos hm] at ho ⊢
      cases ho
      exact .inr ⟨post, by simp, hm.1, hm.2⟩
    · rw [if_neg hm] at ho ⊢
      exact .inl ⟨y, hy, rfl, ho⟩

namespace Poller

theorem hear_probing (link : LinkId) (event : Event) (hp : p.phase = .probing probes) :
    ∃ changed, p.hear link event = { p with phase := .probing changed } ∧
      Updates link [event] probes changed := by
  have hsame : p = { p with phase := .probing probes } := by rw [← hp]
  cases event with
  | accepted post => exact ⟨probes, hsame, .refl ..⟩
  | did signal =>
    cases signal with
    | resolved post outcome =>
      refine ⟨_, ?_, .resolved link post outcome probes⟩
      simp only [hear, resolve, hp]
    | _ => exact ⟨probes, hsame, .refl ..⟩

/-- What a poller that probes hears of a link: the outcomes of its own requests. -/
theorem foldl_hear_probing (link : LinkId) (events : List Event) (hp : p.phase = .probing probes) :
    ∃ changed, events.foldl (hear link) p = { p with phase := .probing changed } ∧
      Updates link events probes changed := by
  induction events generalizing p probes with
  | nil => exact ⟨probes, by rw [List.foldl_nil, ← hp], .refl ..⟩
  | cons event rest ih =>
    obtain ⟨first, he, hu⟩ := hear_probing link event hp
    have hfirst : (p.hear link event).phase = .probing first := by rw [he]
    obtain ⟨changed, hr, hu'⟩ := ih hfirst
    exact ⟨changed, by rw [List.foldl_cons, hr, he], hu.trans hu'⟩

theorem foldl_hear_deaf (link : LinkId) (events : List Event) {p : Poller}
    (hp : ∀ probes, p.phase ≠ .probing probes) : events.foldl (hear link) p = p := by
  rcases foldl_hear_cases link p events with he | ⟨probes, -, hq, -⟩
  · exact he
  · exact absurd hq (hp probes)

end Poller

end Updates

/-- Every scheduler has come about from its start. -/
def Fleet.IsReal {κ : Type} (f : Fleet κ) (now : Nat) : Prop :=
  ∀ link s, f.scheduler? link = some s → ∃ config line acts,
    ((Course.start config line).run acts).scheduler = s ∧
      ((Course.start config line).run acts).now ≤ now

/-- A course that goes on with an act at a later moment. -/
theorem Course.run_at (config : SchedulerConfig) (line : Line) (acts : List (Nat × Act)) {now : Nat}
    (h : ((start config line).run acts).now ≤ now) (act : Act) :
    let d := (start config line).run acts
    ∃ acts', (start config line).run acts' =
      ⟨(d.scheduler.react now act).1, now, d.log ++ (d.scheduler.react now act).2⟩ := by
  intro d
  have hn : d.now + (now - d.now) = now := Nat.add_sub_cancel' h
  refine ⟨acts ++ [(now - d.now, act)], ?_⟩
  rw [run_snoc]
  change d.after (now - d.now) act = _
  simp only [after, hn]

namespace Round

variable {κ : Type}

/-- Every scheduler that there was when the round began is at some point of a course, whose log
holds what was told of it and the probe that it was offered. -/
def Backed (c : Round κ) (f : Fleet κ) (options : PollerOptions) (began : Nat) : Prop :=
  ∀ link s, f.scheduler? link = some s → ∃ config line acts,
    let d := (Course.start config line).run acts
    c.fleet.scheduler? link = some d.scheduler ∧ d.now ≤ c.now ∧
      (∀ post outcome, (link, post, outcome) ∈ c.told → (post, outcome) ∈ outcomes d.log) ∧
      ∀ brick ticket, (brick, link) ∈ f.chosen → f.ticket? link = some ticket →
        ⟨ticket, probeRequest brick options.probeTimeout, began⟩ ∈ accepted d.log

section Backed

variable {c : Round κ} {f : Fleet κ} {options : PollerOptions} {began : Nat} {link : LinkId}
  {brick : String} {ticket : Nat}

/-- What was told of a request with the ticket of a probe was told of that probe. -/
theorem Backed.post_eq (h : c.Backed f options began) (hm : (brick, link) ∈ f.chosen)
    (ht : f.ticket? link = some ticket) {post : Submission} {outcome : Outcome}
    (hp : (link, post, outcome) ∈ c.told) (he : post.ticket = ticket) :
    post = ⟨ticket, probeRequest brick options.probeTimeout, began⟩ := by
  obtain ⟨s, hi⟩ := Fleet.mem_chosen.mp hm
  obtain ⟨config, line, acts, -, -, htold, hasked⟩ :=
    h link s (Fleet.session?_eq_some.mp hi.session).2
  obtain ⟨hnd, -, haccepted⟩ := Course.run_accepted config line acts
  exact List.inj_on_of_nodup_map hnd (haccepted post outcome (htold post outcome hp))
    (hasked brick ticket hm ht) he

theorem Backed.outcome_eq (h : c.Backed f options began) (hm : (brick, link) ∈ f.chosen)
    {post : Submission} {first second : Outcome} (hf : (link, post, first) ∈ c.told)
    (hs : (link, post, second) ∈ c.told) : first = second := by
  obtain ⟨s, hi⟩ := Fleet.mem_chosen.mp hm
  obtain ⟨config, line, acts, -, -, htold, -⟩ :=
    h link s (Fleet.session?_eq_some.mp hi.session).2
  obtain ⟨-, hnd, -⟩ := Course.run_accepted config line acts
  have he := List.inj_on_of_nodup_map hnd (htold post first hf) (htold post second hs) rfl
  exact congrArg (·.2) he

theorem Backed.of_same (h : c.Backed f options began) {d : Round κ}
    (hs : ∀ link, d.fleet.scheduler? link = c.fleet.scheduler? link) (ht : d.told = c.told)
    (hn : c.now ≤ d.now) : d.Backed f options began := by
  intro link s hl
  obtain ⟨config, line, acts, he, hnow, htold, hasked⟩ := h link s hl
  exact ⟨config, line, acts, (hs link).trans he, hnow.trans hn, ht ▸ htold, hasked⟩

/-- One act on the scheduler of a link. -/
theorem Backed.drive (h : c.Backed f options began) {d : Round κ} (link : LinkId) (act : Act)
    (hn : d.now = c.now)
    (hs : ∀ other, d.fleet.scheduler? other = if link = other then
      (c.fleet.scheduler? other).map fun s => (s.react c.now act).1
      else c.fleet.scheduler? other)
    (ht : d.told = c.told ++ c.fleet.tells c.now link act) : d.Backed f options began := by
  intro other s hl
  obtain ⟨config, line, acts, he, hnow, htold, hasked⟩ := h other s hl
  by_cases ho : link = other
  · subst ho
    obtain ⟨acts', hrun⟩ := Course.run_at config line acts hnow act
    refine ⟨config, line, acts', ?_, ?_, fun post outcome hm => ?_, fun brick ticket hc hk => ?_⟩
    · rw [hs, if_pos rfl, he, hrun]
      rfl
    · rw [hrun, hn]
    · rw [hrun, outcomes_append]
      rw [ht, List.mem_append] at hm
      rcases hm with hm | hm
      · exact List.mem_append_left _ (htold post outcome hm)
      · simp only [Fleet.tells, he, List.mem_map, Prod.mk.injEq, true_and] at hm
        obtain ⟨told, hm, rfl⟩ := hm
        exact List.mem_append_right _ hm
    · rw [hrun, accepted_append]
      exact List.mem_append_left _ (hasked brick ticket hc hk)
  · refine ⟨config, line, acts, ?_, hn ▸ hnow, fun post outcome hm => ?_, hasked⟩
    · rw [hs, if_neg ho, he]
    · rw [ht, List.mem_append] at hm
      rcases hm with hm | hm
      · exact htold post outcome hm
      · unfold Fleet.tells at hm
        split at hm
        · cases hm
        · obtain ⟨told, -, he⟩ := List.mem_map.mp hm
          exact absurd (congrArg (·.1) he) ho

theorem Backed.without (h : c.Backed f options began) (id : String) (link : LinkId) {d : Round κ}
    (hf : d.fleet = c.fleet.without id link) (ht : d.told = c.told) (hn : d.now = c.now) :
    d.Backed f options began := by
  have hquiet : ∀ g : Fleet κ, ∀ act, act = .dispose ∨ act = .release →
      g.tells c.now link act = [] := by
    intro g act ha
    unfold Fleet.tells
    rcases ha with rfl | rfl <;> split <;> rfl
  let mid : Round κ := { c with fleet := c.fleet.update link (·.dispose) }
  have hmid : mid.Backed f options began := by
    refine h.drive link .dispose rfl (fun other => ?_) ?_
    · exact Fleet.scheduler?_update _ _ _ _
    · rw [hquiet _ _ (.inl rfl), List.append_nil]
  refine hmid.drive link .release hn (fun other => ?_) ?_
  · rw [hf, Fleet.without_scheduler?]
    simp only [mid, Fleet.scheduler?_update]
    split
    · rw [Option.map_map]
      rfl
    · rfl
  · rw [ht]
    exact (List.append_nil _).symm.trans (congrArg _ (hquiet mid.fleet _ (.inr rfl)).symm)

end Backed

end Round

end BrickHost
