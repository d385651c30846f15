import BrickHost.Proofs.Scheduler.Counters
import BrickHost.Proofs.Scheduler.Disposal
import BrickHost.Proofs.Wire.Packet

/-! Requests that are too long. Two limits stand before the wire: the packet has to keep to the
configured one, its frame also to what two length bytes can say. What exceeds only the second is
told that the transport failed, though it was never tried. -/

namespace BrickHost

/-- How long the packet of a request is, whatever its counter. -/
def Request.size (r : Request) : Nat :=
  Header.size + r.payload.length

/-- What a request that is too long is told when it leaves its lane. -/
def SchedulerConfig.refusal? (config : SchedulerConfig) (r : Request) : Option LinkError :=
  if config.maxFrame < r.size then some (.encode (.frameTooLarge r.size config.maxFrame))
  else if Frame.limit config.maxFrame < r.size then
    some (.transport
      (LinkError.encode (.frameTooLarge r.size (Frame.limit config.maxFrame))).message)
  else none

section Refusal

variable {config : SchedulerConfig} {r : Request}

theorem SchedulerConfig.refusal?_eq_none_iff :
    config.refusal? r = none ↔ r.size ≤ Frame.limit config.maxFrame := by
  have hl : Frame.limit config.maxFrame ≤ config.maxFrame := Nat.min_le_left ..
  unfold refusal?
  split
  · simp
    omega
  · split <;> simp <;> omega

theorem SchedulerConfig.refusal?_eq_encode_iff {e : EncodeError} :
    config.refusal? r = some (.encode e) ↔
      config.maxFrame < r.size ∧ e = .frameTooLarge r.size config.maxFrame := by
  unfold refusal?
  by_cases hm : config.maxFrame < r.size
  · simp [hm, eq_comm]
  · by_cases hl : Frame.limit config.maxFrame < r.size <;> simp [hm, hl]

theorem SchedulerConfig.refusal?_of_between (h : 65535 < r.size) (hm : r.size ≤ config.maxFrame) :
    config.refusal? r =
      some (.transport (LinkError.encode (.frameTooLarge r.size 65535)).message) := by
  have hl : Frame.limit config.maxFrame = 65535 := Nat.min_eq_right (by omega)
  have hn : ¬ config.maxFrame < r.size := by omega
  simp [refusal?, hl, hn, h]

end Refusal

namespace Scheduler

/-- Takes up a request, `t` being the scheduler without it. -/
def takeUp (s : Scheduler) (now : Nat) (post : Submission) (t : Scheduler) :
    Scheduler × List Signal :=
  match s.config.refusal? post.request with
  | some e =>
    ({ t with state := .idle, nextCounter := s.nextCounter + 1, phase := .ready },
      [.taken post, .resolved post (.error e)])
  | none =>
    ({ t with
        state := .running
        nextCounter := s.nextCounter + 1
        phase := .writing (s.nextJob now post) (s.nextFrame post) },
      [.taken post])

section TakeUp

variable {s t u : Scheduler} {now : Nat} {signals : List Signal} {post : Submission}
  {e : LinkError}

theorem takeUp_of_refusal (h : s.config.refusal? post.request = some e) :
    s.takeUp now post t =
      ({ t with state := .idle, nextCounter := s.nextCounter + 1, phase := .ready },
        [.taken post, .resolved post (.error e)]) := by
  simp [takeUp, h]

theorem takeUp_of_fits (h : s.config.refusal? post.request = none) :
    s.takeUp now post t =
      ({ t with
          state := .running
          nextCounter := s.nextCounter + 1
          phase := .writing (s.nextJob now post) (s.nextFrame post) },
        [.taken post]) := by
  simp [takeUp, h]

/-- A request that leaves its lane is refused by a disposed scheduler, or taken up. -/
theorem Move.takeUp_cases (hm : s.Move now u signals) (ht : taken (signals.map .did) ≠ []) :
    ∃ post t, s.drain.takeNext = some (post, t) ∧
      (s.state = .disposed ∧ signals = .taken post :: t.lastSignals post .disposed .disposed ∨
        s.state ≠ .disposed ∧ s.takeUp now post t = (u, signals)) := by
  cases hm with
  | refuse hp hq hd => exact ⟨_, _, hq, .inl ⟨hd, rfl⟩⟩
  | unencodable hp hq hd he =>
    refine ⟨_, _, hq, .inr ⟨hd, takeUp_of_refusal ?_⟩⟩
    exact SchedulerConfig.refusal?_eq_encode_iff.mpr (Packet.toBytes_eq_error_iff.mp he)
  | @unframeable post t body e hp hq hd hb he =>
    refine ⟨_, _, hq, .inr ⟨hd, takeUp_of_refusal ?_⟩⟩
    obtain ⟨hfits, rfl⟩ := Packet.toBytes_eq_ok_iff.mp hb
    have hn : ¬ s.config.maxFrame < post.request.size := Nat.not_lt.mpr hfits
    have hsize : (post.request.packet s.nextCounter).body.length = post.request.size :=
      Packet.length_body _
    unfold Frame.encode? at he
    split at he <;> cases he
    next hl =>
      rw [hsize] at hl ⊢
      simp [SchedulerConfig.refusal?, hn, hl]
  | @begin post t hp hq hd hb hf =>
    refine ⟨_, _, hq, .inr ⟨hd, takeUp_of_fits ?_⟩⟩
    rw [SchedulerConfig.refusal?_eq_none_iff]
    unfold Frame.encode? at hf
    split at hf <;> cases hf
    next hl =>
      rw [Packet.length_body] at hl
      exact Nat.not_lt.mp hl
  | stall hp hc hw hd | expire hp hc hi hd => exact absurd (taken_orphan ..) ht
  | endAwaiting hp hc hi => exact absurd (taken_orphan ..) ht
  | recover hp hr => exact absurd (taken_orphaned ..) ht
  | _ => simp at ht

theorem step_takeUp (now : Nat) (hp : s.phase = .ready) (hd : s.state ≠ .disposed)
    (ht : s.drain.takeNext = some (post, t)) : s.step now = some (s.takeUp now post t) := by
  obtain ⟨⟨u, signals⟩, hb⟩ : ∃ result, s.begin now = result := ⟨_, rfl⟩
  have htaken : taken (signals.map .did) ≠ [] := by
    simp only [begin, ht] at hb
    cases hb
    simp
  obtain ⟨p, v, hq, hcases⟩ := (begin_move hp hb).takeUp_cases htaken
  obtain ⟨rfl, rfl⟩ : post = p ∧ t = v := by simpa [ht] using hq
  rcases hcases with ⟨hd', -⟩ | ⟨-, he⟩
  · exact absurd hd' hd
  · simp only [step, hp, hb, he]

/-- Only a request that exceeds the configured limit is told that it could not be encoded. -/
theorem Move.refusal_of_encode {e : EncodeError} (hm : s.Move now u signals) (h : s.Sorted)
    (ho : (post, .error (.encode e)) ∈ outcomes (signals.map .did)) :
    s.config.refusal? post.request = some (.encode e) := by
  have ht : taken (signals.map .did) = [post] := by
    generalize hout : (.error (.encode e) : Outcome) = outcome at ho
    cases hm.fate h ho with
    | unencodable ht => exact ht
    | @unserved _ why => cases why <;> cases hout
    | _ => cases hout
  obtain ⟨p, t, -, ⟨-, rfl⟩ | ⟨-, he⟩⟩ := hm.takeUp_cases (by simp [ht])
  · simp [Exit.error] at ho
  · cases hr : s.config.refusal? p.request with
    | none =>
      rw [takeUp_of_fits hr] at he
      cases he
      simp at ho
    | some error =>
      rw [takeUp_of_refusal hr] at he
      cases he
      obtain ⟨rfl, rfl⟩ : post = p ∧ .encode e = error := by simpa using ho
      exact hr

theorem taken_takeUp (s t : Scheduler) (now : Nat) (post : Submission) :
    taken ((s.takeUp now post t).2.map .did) = [post] := by
  unfold takeUp
  split <;> simp

theorem takeNext_of_pending {rest : List Submission} (h : s.pending = post :: rest) :
    ∃ t, s.drain.takeNext = some (post, t) ∧ t.pending = rest := by
  cases ht : s.drain.takeNext with
  | none =>
    obtain ⟨hh, hn⟩ := takeNext_eq_none ht
    simp only [drain_eq] at hh hn
    simp [pending, hh, hn] at h
  | some result =>
    obtain ⟨p, t⟩ := result
    obtain ⟨rfl, hr⟩ := List.cons.inj (h.symm.trans (takeNext_pending ht).1)
    exact ⟨t, rfl, hr.symm⟩

theorem takeNext_eq_none_of_pending (h : s.pending = []) : s.drain.takeNext = none := by
  cases ht : s.drain.takeNext with
  | none => rfl
  | some result => simp [(takeNext_pending ht).1] at h

theorem pending_posted (s : Scheduler) (h : s.pending = []) (queued nextTicket : Nat) :
    ({ s with
        queued := queued
        mailbox := s.mailbox ++ [post]
        nextTicket := nextTicket } : Scheduler).pending = [post] := by
  have hw : ∀ l, s.waitingIn l = [] := by
    intro l
    cases l <;> simp_all [pending]
  have hl : ∀ l, s.lane l = [] ∧ inLane l s.mailbox = [] := fun l => by simpa [waitingIn] using hw l
  have hh := hl .high
  have hn := hl .normal
  simp only [lane] at hh hn
  cases hq : post.request.lane <;>
    simp [pending, waitingIn, lane, hh, hn, inLane_cons, hq]

end TakeUp

section Later

variable {m : Moment} {log : List Event} {post : Submission} {e : LinkError}

theorem refused_moment (hd : m.scheduler.state ≠ .disposed) (hp : post ∈ taken m.events)
    (hr : m.scheduler.config.refusal? post.request = some e) :
    ∃ signals, m.scheduler.Move m.now m.after signals ∧ m.events = signals.map .did ∧
      signals = [.taken post, .resolved post (.error e)] := by
  rcases m.cases with ⟨signals, -, hs, he⟩ | hq
  · have hm := move_of_step hs
    rw [he] at hp
    obtain ⟨p, t, -, ⟨hd', -⟩ | ⟨-, hk⟩⟩ := hm.takeUp_cases (List.ne_nil_of_mem hp)
    · exact absurd hd' hd
    · refine ⟨signals, hm, he, ?_⟩
      cases hf : m.scheduler.config.refusal? p.request with
      | none =>
        rw [takeUp_of_fits hf] at hk
        obtain ⟨-, rfl⟩ := Prod.mk.inj hk
        obtain rfl : post = p := by simpa using hp
        simp [hf] at hr
      | some error =>
        rw [takeUp_of_refusal hf] at hk
        obtain ⟨-, rfl⟩ := Prod.mk.inj hk
        obtain rfl : post = p := by simpa using hp
        obtain rfl : error = e := by simpa [hf] using hr
        rfl
  · simp [hq.taken] at hp

theorem Ledger.untouched_later (h : m.scheduler.Ledger log)
    (h' : m.after.Ledger (log ++ m.events)) (hr : post ∈ resolved log) (hu : Untouched log post) :
    Untouched (log ++ m.events) post := by
  intro x hx hp
  rcases m.cases with ⟨signals, -, hs, he⟩ | hq
  · rw [he] at h' hx
    exact hu x ((h.stretch_stays h' (move_of_step hs) hr hp).mp hx) hp
  · rw [stretches_quiet hq.taken hq.sent] at hx
    exact hu x hx hp

end Later

end Scheduler

namespace Course

variable {c : Course} {post : Submission}

/-- A request that is taken up and too long is told so in the same move, and nothing of its frame is
ever accepted. -/
theorem run_refused (config : SchedulerConfig) (line : Line) (acts : List (Nat × Act)) :
    ∀ post ∈ dispatched ((start config line).moments acts), ∀ e,
      config.refusal? post.request = some e →
      (post, .error e) ∈ outcomes ((start config line).run acts).log ∧
        Untouched ((start config line).run acts).log post := by
  refine moments_induction (P := fun c past => ∀ post ∈ dispatched past, ∀ e,
    config.refusal? post.request = some e →
      (post, .error e) ∈ outcomes c.log ∧ Untouched c.log post) ?_ ?_ acts
  · intro post hp
    cases hp
  · intro acts ms act h post hp e hr
    have hg := run_ledger config line acts
    have hg' := run_ledger config line (acts ++ [(ms, act)])
    have hc := run_config config line acts
    rw [run_snoc] at hg'
    generalize (start config line).run acts = c at *
    rw [after_eq] at hg' ⊢
    rw [outcomes_append]
    rw [dispatched_snoc, List.mem_append] at hp
    rcases hp with hold | hnew
    · obtain ⟨ho, hu⟩ := h post hold e hr
      exact ⟨List.mem_append_left _ ho,
        hg.untouched_later (m := c.moment ms act) hg' (List.mem_map_of_mem ho) hu⟩
    · by_cases hd : (c.moment ms act).scheduler.state.isDisposed = true
      · simp [hd] at hnew
      · rw [if_neg hd] at hnew
        have hd' := mt SchedulerState.isDisposed_iff.mpr hd
        obtain ⟨signals, hm, he, rfl⟩ := Scheduler.refused_moment hd' hnew (e := e) (hc ▸ hr)
        rw [he] at hg' ⊢
        exact ⟨List.mem_append_right _ (by simp), hg'.untouched_of_taken hm (by simp)⟩

theorem run_refusal_of_encode (config : SchedulerConfig) (line : Line) (acts : List (Nat × Act)) :
    ∀ post e, (post, .error (.encode e)) ∈ outcomes ((start config line).run acts).log →
      config.refusal? post.request = some (.encode e) := by
  refine reach_induction (P := fun c => ∀ post e, (post, .error (.encode e)) ∈ outcomes c.log →
    config.refusal? post.request = some (.encode e)) ?_ ?_ acts
  · intro post e ho
    cases ho
  · intro acts ms act h post e ho
    rw [after_eq, outcomes_append, List.mem_append] at ho
    rcases ho with hold | hnew
    · exact h post e hold
    · rcases (((start config line).run acts).moment ms act).cases with ⟨signals, -, hs, he⟩ | hq
      · obtain ⟨left, ha⟩ := run_accounts config line acts
        rw [he] at hnew
        have hr := (Scheduler.move_of_step hs).refusal_of_encode ha.sorted hnew
        exact run_config config line acts ▸ hr
      · simp [hq.outcomes] at hnew

theorem after_takeUp {t : Scheduler} (hp : c.scheduler.phase = .ready)
    (hd : c.scheduler.state ≠ .disposed) (ht : c.scheduler.drain.takeNext = some (post, t))
    (ms : Nat) : c.after ms .move =
      ⟨(c.scheduler.takeUp (c.now + ms) post t).1, c.now + ms,
        c.log ++ (c.scheduler.takeUp (c.now + ms) post t).2.map .did⟩ :=
  after_move_of_step (Scheduler.step_takeUp _ hp hd ht)

theorem dispatched_of_pending {config : SchedulerConfig} {line : Line} {acts : List (Nat × Act)}
    {rest : List Submission} (hp : ((start config line).run acts).scheduler.phase = .ready)
    (hd : ((start config line).run acts).scheduler.state ≠ .disposed)
    (hw : ((start config line).run acts).scheduler.pending = post :: rest) (ms : Nat) :
    post ∈ dispatched ((start config line).moments (acts ++ [(ms, .move)])) := by
  obtain ⟨t, ht, -⟩ := Scheduler.takeNext_of_pending hw
  have hn := mt SchedulerState.isDisposed_iff.mp hd
  have hs := Scheduler.step_takeUp (((start config line).run acts).now + ms) hp hd ht
  rw [moments_snoc, dispatched_snoc, moment, if_neg hn]
  apply List.mem_append_right
  simp only [Moment.events, Scheduler.react, hs, Scheduler.taken_takeUp, List.mem_singleton]

/-- With its next move the dispatcher takes up a request and begins to write its frame. -/
def Serves (c : Course) (post : Submission) : Prop :=
  ∀ ms, let d := c.after ms .move
    d.log = c.log ++ [.did (.taken post)] ∧ d.scheduler.state = .running ∧
      d.scheduler.phase = .writing (c.scheduler.nextJob d.now post) (c.scheduler.nextFrame post)

theorem serves_of_fits {rest : List Submission} (hp : c.scheduler.phase = .ready)
    (hd : c.scheduler.state ≠ .disposed) (hw : c.scheduler.pending = post :: rest)
    (hf : post.request.size ≤ Frame.limit c.scheduler.config.maxFrame) : c.Serves post := by
  intro ms d
  obtain ⟨t, ht, -⟩ := Scheduler.takeNext_of_pending hw
  have hr := SchedulerConfig.refusal?_eq_none_iff.mpr hf
  have he : d = _ := after_takeUp hp hd ht ms
  rw [Scheduler.takeUp_of_fits hr] at he
  rw [he]
  exact ⟨rfl, rfl, rfl⟩

theorem after_submit (hd : c.scheduler.state ≠ .disposed) (ms : Nat) (r : Request) :
    c.after ms (.submit r) =
      ⟨{ c.scheduler with
          queued := c.scheduler.queued + 1
          mailbox := c.scheduler.mailbox ++ [⟨c.scheduler.nextTicket, r, c.now + ms⟩]
          nextTicket := c.scheduler.nextTicket + 1 },
        c.now + ms, c.log ++ [.accepted ⟨c.scheduler.nextTicket, r, c.now + ms⟩]⟩ := by
  have hn := mt SchedulerState.isDisposed_iff.mp hd
  simp [after, Scheduler.react, Scheduler.submit, hn]

section Posted

variable {r : Request}

theorem serves_posted (hp : c.scheduler.phase = .ready) (hd : c.scheduler.state ≠ .disposed)
    (hw : c.scheduler.pending = []) (hf : r.size ≤ Frame.limit c.scheduler.config.maxFrame)
    (ms : Nat) :
    (c.after ms (.submit r)).Serves ⟨c.scheduler.nextTicket, r, c.now + ms⟩ := by
  rw [after_submit hd]
  exact serves_of_fits hp hd (c.scheduler.pending_posted hw _ _) hf

theorem serves_fetched (hp : c.scheduler.phase = .waiting) (hc : c.scheduler.cancelled = false)
    (hd : c.scheduler.state ≠ .disposed) (hw : c.scheduler.pending = [])
    (hf : r.size ≤ Frame.limit c.scheduler.config.maxFrame) (ms late : Nat) :
    ((c.after ms (.submit r)).after late .move).Serves
      ⟨c.scheduler.nextTicket, r, c.now + ms⟩ := by
  rw [after_submit hd]
  generalize hs : ({ c.scheduler with
    queued := c.scheduler.queued + 1
    mailbox := c.scheduler.mailbox ++ [⟨c.scheduler.nextTicket, r, c.now + ms⟩]
    nextTicket := c.scheduler.nextTicket + 1 } : Scheduler) = s
  have hpend : s.pending = [⟨c.scheduler.nextTicket, r, c.now + ms⟩] :=
    hs ▸ c.scheduler.pending_posted hw _ _
  have hsame : s.phase = .waiting ∧ s.cancelled = false ∧ s.state ≠ .disposed ∧
      s.config = c.scheduler.config ∧ s.mailbox ≠ [] := by
    subst hs
    exact ⟨hp, hc, hd, rfl, by simp⟩
  obtain ⟨hp', hc', hd', hconfig, hm⟩ := hsame
  obtain ⟨post, rest, hm⟩ := List.exists_cons_of_ne_nil hm
  have hfetch : s.fetch = some (({ s with mailbox := rest }).enqueue post) := by
    simp [Scheduler.fetch, hm]
  generalize ({ s with mailbox := rest } : Scheduler).enqueue post = t at hfetch
  have hstep : s.step (c.now + ms + late) = some ({ t with phase := .ready }, []) := by
    simp [Scheduler.step, hp', Scheduler.stepWaiting, hc', hfetch]
  obtain ⟨-, hstate, -⟩ := Scheduler.fetch_phase hfetch
  rw [after_move_of_step hstep]
  have hpend' : t.pending = _ := (Scheduler.fetch_pending hfetch).1.trans hpend
  refine serves_of_fits rfl (hstate.trans_ne hd') hpend' ?_
  change _ ≤ Frame.limit t.config.maxFrame
  rwa [(Scheduler.fetch_rest hfetch).2.2, hconfig]

end Posted

/-- With its next move the dispatcher turns a request away; then it is free again, with the wire as
it was. -/
structure TurnsAway (c d : Course) (post : Submission) (rest : List Submission) : Prop where
  told : ∃ e, d.log = c.log ++ [.did (.taken post), .did (.resolved post (.error e))]
  state : d.scheduler.state = .idle
  phase : d.scheduler.phase = .ready
  pending : d.scheduler.pending = rest
  line : d.scheduler.line = c.scheduler.line
  inbox : d.scheduler.inbox = c.scheduler.inbox
  counter : d.scheduler.nextCounter = c.scheduler.nextCounter + 1

theorem turnsAway_of_long {rest : List Submission} (hp : c.scheduler.phase = .ready)
    (hd : c.scheduler.state ≠ .disposed) (hw : c.scheduler.pending = post :: rest)
    (hl : Frame.limit c.scheduler.config.maxFrame < post.request.size) (ms : Nat) :
    c.TurnsAway (c.after ms .move) post rest ∧
      (c.after ms .move).scheduler.cancelled = c.scheduler.cancelled := by
  obtain ⟨t, ht, hrest⟩ := Scheduler.takeNext_of_pending hw
  obtain ⟨e, hr⟩ : ∃ e, c.scheduler.config.refusal? post.request = some e := by
    rw [← Option.isSome_iff_exists, ← Option.ne_none_iff_isSome]
    intro hn
    exact absurd (SchedulerConfig.refusal?_eq_none_iff.mp hn) (by omega)
  obtain ⟨hinbox, hline, -⟩ := Scheduler.takeNext_rest ht
  rw [after_takeUp hp hd ht, Scheduler.takeUp_of_refusal hr]
  exact ⟨⟨⟨e, rfl⟩, rfl, rfl, hrest, hline, hinbox, rfl⟩, (Scheduler.takeNext_pending ht).2.2⟩

theorem after_settle (hp : c.scheduler.phase = .ready) (hw : c.scheduler.pending = [])
    (hr : c.scheduler.receiving = true) (ms : Nat) :
    c.after ms .move = ⟨{ c.scheduler.drain with phase := .waiting }, c.now + ms, c.log⟩ := by
  have hn := Scheduler.takeNext_eq_none_of_pending hw
  have hs : c.scheduler.step (c.now + ms) =
      some ({ c.scheduler.drain with phase := .waiting }, []) := by
    simp [Scheduler.step, hp, Scheduler.begin, hn, hr]
  rw [after_move_of_step hs, List.map_nil, List.append_nil]

/-- A request that comes when the dispatcher has nothing to do is served, also when the dispatcher
has settled down to wait by then. -/
theorem serves_later {r : Request} (hp : c.scheduler.phase = .ready)
    (hd : c.scheduler.state ≠ .disposed) (hc : c.scheduler.cancelled = false)
    (hw : c.scheduler.pending = []) (hr : c.scheduler.receiving = true)
    (hf : r.size ≤ Frame.limit c.scheduler.config.maxFrame) (early ms late : Nat) :
    (((c.after early .move).after ms (.submit r)).after late .move).Serves
      ⟨c.scheduler.nextTicket, r, c.now + early + ms⟩ := by
  rw [after_settle hp hw hr]
  have hk : c.scheduler.drain.cancelled = c.scheduler.cancelled ∧
      c.scheduler.drain.state = c.scheduler.state ∧
      c.scheduler.drain.config = c.scheduler.config ∧
      c.scheduler.drain.nextTicket = c.scheduler.nextTicket := by simp [Scheduler.drain_eq]
  obtain ⟨hcancelled, hstate, hconfig, hticket⟩ := hk
  have hpend : c.scheduler.drain.pending = [] := by
    simpa [Scheduler.pending] using hw
  rw [← hticket]
  exact serves_fetched (c := ⟨{ c.scheduler.drain with phase := .waiting }, c.now + early, c.log⟩)
    rfl (hcancelled.trans hc) (hstate.trans_ne hd) hpend
    (show r.size ≤ Frame.limit c.scheduler.drain.config.maxFrame from hconfig ▸ hf) ms late

end Course

/-- A request is told that its frame is too large, and not a byte of it is accepted. -/
def Rejected (log : List Event) (post : Submission) : Prop :=
  (∃ size max, (post, .error (.encode (.frameTooLarge size max))) ∈ outcomes log) ∧
    Untouched log post

theorem Course.rejected_iff {config : SchedulerConfig} {line : Line} {acts : List (Nat × Act)}
    {post : Submission} (hp : post ∈ dispatched ((start config line).moments acts)) :
    Rejected ((start config line).run acts).log post ↔ config.maxFrame < post.request.size := by
  constructor
  · rintro ⟨⟨size, max, ho⟩, -⟩
    have hr := run_refusal_of_encode config line acts post _ ho
    exact (SchedulerConfig.refusal?_eq_encode_iff.mp hr).1
  · intro hm
    have hr := SchedulerConfig.refusal?_eq_encode_iff.mpr ⟨hm, rfl⟩
    obtain ⟨ho, hu⟩ := run_refused config line acts post hp _ hr
    exact ⟨⟨_, _, ho⟩, hu⟩

/-- A request that is dispatched is rejected exactly if its packet exceeds the configured limit.
That is exactly if it exceeds the largest frame of the stream, unless it lies between the two: more
than 65535 bytes, and no more than configured. Then it is told that the transport failed, though
nothing of it was tried. Whichever limit a request exceeds, the scheduler is idle after the same
move, with the wire as it was, and serves the next request that fits: the one that waits, or one
that comes later. -/
theorem rejected_iff_exceeds_packet_limit (config : SchedulerConfig) (line : Line)
    (acts : List (Nat × Act)) :
    let c := (Course.start config line).run acts
    (∀ post ∈ dispatched ((Course.start config line).moments acts),
      (Rejected c.log post ↔ config.maxFrame < post.request.size) ∧
      ((Rejected c.log post ↔ Frame.limit config.maxFrame < post.request.size) ↔
        ¬ (65535 < post.request.size ∧ post.request.size ≤ config.maxFrame)) ∧
      (65535 < post.request.size ∧ post.request.size ≤ config.maxFrame →
        (post, .error (.transport
          (LinkError.encode (.frameTooLarge post.request.size 65535)).message)) ∈ outcomes c.log ∧
        Untouched c.log post)) ∧
    ∀ ms post rest, c.scheduler.phase = .ready → c.scheduler.state ≠ .disposed →
      c.scheduler.pending = post :: rest → Frame.limit config.maxFrame < post.request.size →
      let d := c.after ms .move
      post ∈ dispatched ((Course.start config line).moments (acts ++ [(ms, .move)])) ∧
        c.TurnsAway d post rest ∧
        (∀ next ∈ rest.head?, next.request.size ≤ Frame.limit config.maxFrame → d.Serves next) ∧
        (rest = [] → ∀ wait r, r.size ≤ Frame.limit config.maxFrame →
          (d.after wait (.submit r)).Serves ⟨d.scheduler.nextTicket, r, d.now + wait⟩ ∧
          (d.scheduler.receiving = true → ∀ early late,
            (((d.after early .move).after wait (.submit r)).after late .move).Serves
              ⟨d.scheduler.nextTicket, r, d.now + early + wait⟩)) := by
  intro c
  refine ⟨fun post hpost => ?_, fun ms post rest hp hd hw hl => ?_⟩
  · have hiff : Rejected c.log post ↔ config.maxFrame < post.request.size :=
      Course.rejected_iff hpost
    refine ⟨hiff, ?_, fun ⟨hsize, hm⟩ => ?_⟩
    · have hlimit : Frame.limit config.maxFrame = min config.maxFrame 65535 := rfl
      rw [hiff, hlimit]
      omega
    · have hr := SchedulerConfig.refusal?_of_between hsize hm
      exact Course.run_refused config line acts post hpost _ hr
  · have hconfig : c.scheduler.config = config := Course.run_config config line acts
    have hbides : c.scheduler.Bides := Course.run_bides config line acts
    intro d
    obtain ⟨haway, hcancelled⟩ := Course.turnsAway_of_long hp hd hw (hconfig ▸ hl) ms
    have hconfig' : d.scheduler.config = config := by
      have hrun := Course.run_config config line (acts ++ [(ms, .move)])
      rwa [Course.run_snoc] at hrun
    have hd' : d.scheduler.state ≠ .disposed := by
      rw [haway.state]
      simp
    have hc' : d.scheduler.cancelled = false := by
      rw [hcancelled, ← Bool.not_eq_true]
      exact fun hc => hd (hbides hc)
    have hmem := Course.dispatched_of_pending hp hd hw ms
    refine ⟨hmem, haway, fun next hn hf => ?_, fun hrest wait r hf => ?_⟩
    · obtain ⟨later, rfl⟩ : ∃ later, rest = next :: later := List.head?_eq_some_iff.mp hn
      exact Course.serves_of_fits haway.phase hd' haway.pending (hconfig'.symm ▸ hf)
    · subst hrest
      refine ⟨?_, fun hr early late => ?_⟩
      · exact Course.serves_posted haway.phase hd' haway.pending (hconfig'.symm ▸ hf) wait
      · exact Course.serves_later haway.phase hd' hc' haway.pending hr (hconfig'.symm ▸ hf)
          early wait late

/-- A packet of five bytes is too long for a link that carries four; one of four is served next. -/
theorem long_packet_rejected :
    ∃ acts post next, let c := (Course.start { maxFrame := 4 } (.ofCapacity 64)).run acts
      Rejected (c.after 0 .move).log post ∧ (c.after 0 .move).Serves next := by
  let config : SchedulerConfig := { maxFrame := 4 }
  let long : Submission := ⟨0, { id := "", kind := .direct, payload := [1, 2] }, 0⟩
  let short : Submission := ⟨1, { id := "", kind := .direct, payload := [3] }, 0⟩
  let acts := [Act.submit long.request, .submit short.request].map ((0, ·))
  have hmem : long ∈ dispatched
      ((Course.start config (.ofCapacity 64)).moments (acts ++ [(0, .move)])) := by decide
  have hrejected := ((rejected_iff_exceeds_packet_limit config (.ofCapacity 64)
    (acts ++ [(0, .move)])).1 long hmem).1.mpr (by decide)
  rw [Course.run_snoc] at hrejected
  have hready : ((Course.start config (.ofCapacity 64)).run acts).scheduler.phase = .ready := by
    decide
  have hfree : ((Course.start config (.ofCapacity 64)).run acts).scheduler.state ≠ .disposed := by
    decide
  have hpending : ((Course.start config (.ofCapacity 64)).run acts).scheduler.pending =
      [long, short] := by decide
  have hnext := (rejected_iff_exceeds_packet_limit config (.ofCapacity 64) acts).2 0 long [short]
    hready hfree hpending (by decide)
  exact ⟨acts, long, short, hrejected, hnext.2.2.1 short rfl (by decide)⟩

/-- A packet of one byte more than the stream carries, on a link configured for it. -/
theorem overlong_packet_not_rejected :
    ∃ config acts post,
      post ∈ dispatched ((Course.start config (.ofCapacity 64)).moments acts) ∧
      Frame.limit config.maxFrame < post.request.size ∧
      ¬ Rejected ((Course.start config (.ofCapacity 64)).run acts).log post := by
  let config : SchedulerConfig := { maxFrame := 70000 }
  obtain ⟨r, hsize⟩ : ∃ r : Request, r.size = 65536 :=
    ⟨{ id := "r1", kind := .direct, payload := List.replicate 65533 0 }, by
      rw [Request.size, List.length_replicate]
      rfl⟩
  have hmem : (⟨0, r, 0⟩ : Submission) ∈ dispatched ((Course.start config (.ofCapacity 64)).moments
      ([(0, .submit r)] ++ [(0, .move)])) :=
    Course.dispatched_of_pending rfl (by rintro ⟨⟩) (Scheduler.pending_posted _ rfl _ _) 0
  have hshort : ¬ config.maxFrame < r.size := by
    rw [hsize]
    decide
  have hlong : Frame.limit config.maxFrame < r.size := by
    rw [hsize]
    decide
  exact ⟨config, _, _, hmem, hlong, fun hr => hshort ((Course.rejected_iff hmem).mp hr)⟩

end BrickHost
