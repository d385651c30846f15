import BrickHost.Proofs.Monitor.Desk

/-! How long a brick that the user disconnected stays so. A verdict or a dial that is under way when
the disconnect returns may still mark the brick, and nothing else does. -/

namespace BrickHost

theorem isLinkLoss_append (text : String) : isLinkLoss (linkLossStart ++ text) = true := by
  simp [isLinkLoss, List.isPrefixOf_iff_prefix]

theorem isLinkLoss_lossReason (e : LinkError) : isLinkLoss (Poller.lossReason e) = true := by
  rw [Poller.lossReason, String.append_assoc]
  exact isLinkLoss_append _

theorem lossReason_ne (e : LinkError) : Poller.lossReason e ≠ userDisconnectReason := by
  intro he
  have hl := isLinkLoss_lossReason e
  rw [he] at hl
  exact absurd hl (by decide)

section Settled

variable {κ : Type} {r s : Registry κ} {id : String}

/-- The record of a brick, if there is one, says that the user disconnected it. -/
def Registry.Settled (r : Registry κ) (id : String) : Prop :=
  ∀ record, r.find? id = some record →
    record.status = .unavailable ∧ record.lastError = some userDisconnectReason

theorem Registry.settled_iff :
    r.Settled id ↔ ∀ standing, r.standing? id = some standing →
      standing = (.unavailable, some userDisconnectReason) := by
  constructor
  · intro h standing hs
    obtain ⟨record, hr, rfl⟩ := Option.map_eq_some_iff.mp hs
    obtain ⟨hu, he⟩ := h record hr
    simp [BrickRecord.standing, hu, he]
  · intro h record hr
    have hs := h record.standing (by simp [standing?, hr])
    exact Prod.mk.inj hs

theorem Registry.Settled.congr (h : r.Settled id) (hs : s.standing? id = r.standing? id) :
    s.Settled id := by
  rw [settled_iff] at h ⊢
  rwa [hs]

/-- Marking a brick unsettles no other, and no brick without record. -/
theorem Registry.Settled.markUnavailable (h : r.Settled id) (brick reason : String) :
    (r.markUnavailable brick reason).Settled id ∨ brick = id ∧ (r.find? id).isSome = true := by
  by_cases hi : id = brick
  · cases hf : r.find? id with
    | some record => exact .inr ⟨hi.symm, rfl⟩
    | none =>
      apply Or.inl
      intro record hr
      rw [find?_markUnavailable, if_pos hi, ← hi, hf] at hr
      cases hr
  · apply Or.inl
    apply h.congr
    rw [standing?_markUnavailable, if_neg hi]

theorem Registry.not_settled {standing : BrickStatus × Option String}
    (hs : r.standing? id = some standing)
    (hne : standing ≠ (.unavailable, some userDisconnectReason)) : ¬ r.Settled id :=
  fun h => hne (settled_iff.mp h standing hs)

theorem Registry.not_settled_lose (hf : (r.find? id).isSome = true) (e : LinkError) :
    ¬ (r.markUnavailable id (Poller.lossReason e)).Settled id := by
  apply not_settled (standing?_markUnavailable_self hf _)
  intro he
  exact lossReason_ne e (Option.some.inj (Prod.mk.inj he).2)

theorem Registry.Settled.not_isLive {f : Fleet κ} (h : f.registry.Settled id) :
    ¬ Poller.IsLive f id := by
  rintro ⟨standing, hs, hl⟩
  rw [settled_iff.mp h standing hs] at hl
  cases hl

theorem Registry.Settled.not_lost (h : r.Settled id) (hk : r.Keyed) {s : BrickSnapshot}
    (hm : s ∈ r.list) (hl : s.lostLink = true) : s.id ≠ id := by
  rintro rfl
  obtain ⟨record, hr, he⟩ := hk.find?_of_mem_list hm
  have hs : s.lastError = some userDisconnectReason := by
    rw [he]
    exact (h record hr).2
  simp only [BrickSnapshot.lostLink, hs, Option.any_some, Bool.and_eq_true] at hl
  exact absurd hl.2 (by decide)

theorem Registry.settled_markUnavailable (r : Registry κ) (id : String) :
    (r.markUnavailable id userDisconnectReason).Settled id := by
  rw [settled_iff]
  intro standing hs
  rw [standing?_markUnavailable, if_pos rfl] at hs
  obtain ⟨_, -, rfl⟩ := Option.map_eq_some_iff.mp hs
  rfl

end Settled

namespace Poller

variable {κ : Type} {p q : Poller} {f g : Fleet κ} {now : Nat} {stamp id : String}
  {signals : List PollerSignal}

/-- A probe of the brick is under way, or its failure is not dealt with yet. -/
def Accuses (p : Poller) (id : String) : Prop :=
  match p.phase with
  | .probing probes => ∃ x ∈ probes, x.brick = id
  | .judging verdicts => ∃ e, (id, some e) ∈ verdicts
  | .closing brick _ _ later => brick = id ∨ ∃ e, (id, some e) ∈ later
  | _ => False

theorem verdicts?_mem {probes : List Probe} {verdicts : List (String × Option LinkError)}
    (hv : verdicts? probes = some verdicts) {verdict : String × Option LinkError}
    (hm : verdict ∈ verdicts) : ∃ x ∈ probes, verdict = (x.brick, x.fault?) := by
  induction verdicts generalizing probes with
  | nil => cases hm
  | cons first later ih =>
    obtain ⟨x, rest, rfl, rfl, hr⟩ := verdicts?_cons hv
    rcases List.mem_cons.mp hm with rfl | hm
    · exact ⟨x, List.mem_cons_self, rfl⟩
    · obtain ⟨y, hy, hb⟩ := ih hr hm
      exact ⟨y, List.mem_cons_of_mem _ hy, hb⟩

theorem accuses_afterLoss {later : List (String × Option LinkError)}
    (h : (p.afterLoss later).Accuses id) : ∃ e, (id, some e) ∈ later := by
  unfold Accuses at h
  rcases p.afterLoss_phase later with hp | hp
  · rw [hp] at h
    cases h
  · rw [hp] at h
    exact h

/-- A move asks for no reconnect of a brick that the user disconnected, and marks it only when it
deals with a failed probe of it. -/
theorem Move.settled (hm : p.Move f now stamp q g signals) (hk : f.registry.Keyed)
    (hs : f.registry.Settled id) : .reconnect id ∉ signals ∧
      (g.registry.Settled id ∨ (f.registry.find? id).isSome = true ∧ .refreshed id ∈ signals) := by
  cases hm with
  | cancel hp hc | gather hp hc hv | wake hp hc hd => exact ⟨by simp, .inl hs⟩
  | tick hp hc =>
    obtain ⟨probes, -, ha, -, hq⟩ := p.tick_spec f now
    refine ⟨fun hr => ?_, .inl (hs.congr (ha.standing id))⟩
    rcases hq _ hr with hr | ⟨_, hr⟩ <;> cases hr
  | finish hp hc =>
    obtain ⟨-, hf, hq⟩ := p.rest_spec f now
    refine ⟨fun hr => ?_, .inl (by rw [hf]; exact hs)⟩
    obtain ⟨shown, hl, hlost, he⟩ := hq _ hr
    exact hs.not_lost hk hl hlost (PollerSignal.reconnect.inj he).symm
  | praise hp hc =>
    refine ⟨by simp, .inl (hs.congr ?_)⟩
    rw [Fleet.withRegistry_registry, Registry.standing?_measure]
  | close hp hc hf => exact ⟨by simp, .inl hs⟩
  | @writeOff brick e later hp hc hf =>
    refine ⟨fun hr => ?_, ?_⟩
    · rcases List.mem_cons.mp hr with hr | hr
      · cases hr
      · exact p.reconnect_notMem_lossSignals _ _ _ hr
    · rcases hs.markUnavailable brick (lossReason e) with hr | ⟨rfl, hi⟩
      · exact .inl hr
      · exact .inr ⟨hi, List.mem_cons_of_mem _ List.mem_cons_self⟩
  | @lose brick reason link later hp hc ht =>
    refine ⟨p.reconnect_notMem_lossSignals _ _ _, ?_⟩
    rcases hs.markUnavailable brick reason with hr | ⟨rfl, hi⟩
    · exact .inl hr
    · exact .inr ⟨hi, List.mem_cons_self⟩

/-- Only a failed probe of a brick makes a move mark it. -/
theorem Move.marks (hm : p.Move f now stamp q g signals) (hr : .refreshed id ∈ signals) :
    ∃ reason later, g = f.withRegistry (·.markUnavailable id reason) ∧
      ((∃ e, p.phase = .judging ((id, some e) :: later) ∧ reason = lossReason e) ∨
        ∃ link, p.phase = .closing id reason link later) := by
  cases hm with
  | cancel hp hc | gather hp hc hv | wake hp hc hd | praise hp hc => cases hr
  | tick hp hc =>
    obtain ⟨_, -, -, -, hq⟩ := p.tick_spec f now
    rcases hq _ hr with hr | ⟨_, hr⟩ <;> cases hr
  | finish hp hc =>
    obtain ⟨_, -, -, hr⟩ := (p.rest_spec f now).2.2 _ hr
    cases hr
  | close hp hc hfind => simp at hr
  | @writeOff brick e later hp hc hfind =>
    obtain rfl : brick = id := brick_of_refreshed (List.mem_of_ne_of_mem (by simp) hr)
    exact ⟨_, later, rfl, .inl ⟨e, hp, rfl⟩⟩
  | @lose brick reason link later hp hc ht =>
    obtain rfl : brick = id := brick_of_refreshed hr
    exact ⟨reason, later, rfl, .inr ⟨link, hp⟩⟩

theorem Move.unsettled (hm : p.Move f now stamp q g signals) (hg : p.Grounded)
    (hf : (f.registry.find? id).isSome = true) (hr : .refreshed id ∈ signals) :
    ¬ g.registry.Settled id := by
  obtain ⟨reason, later, rfl, ⟨e, -, rfl⟩ | ⟨link, hp⟩⟩ := hm.marks hr
  · exact Registry.not_settled_lose hf e
  · simp only [Grounded, hp] at hg
    obtain ⟨e, rfl⟩ := hg
    exact Registry.not_settled_lose hf e

theorem Move.accuses (hm : p.Move f now stamp q g signals) (hr : .refreshed id ∈ signals) :
    p.Accuses id := by
  obtain ⟨reason, later, -, ⟨e, hp, -⟩ | ⟨link, hp⟩⟩ := hm.marks hr
  · simp only [Accuses, hp]
    exact ⟨e, List.mem_cons_self⟩
  · unfold Accuses
    rw [hp]
    exact .inl rfl

/-- No move accuses a brick anew that is not expected to be live. -/
theorem Move.accuses_of_accuses (hm : p.Move f now stamp q g signals) (hl : ¬ IsLive f id)
    (h : q.Accuses id) : p.Accuses id := by
  cases hm with
  | cancel hp hc | wake hp hc hd => cases h
  | tick hp hc =>
    obtain ⟨probes, ht, -, hx, -⟩ := p.tick_spec f now
    rw [ht] at h
    obtain ⟨x, hm, rfl⟩ := h
    exact absurd (hx x hm).2 hl
  | gather hp hc hv =>
    obtain ⟨e, he⟩ := h
    obtain ⟨x, hx, hb⟩ := verdicts?_mem hv he
    simp only [Accuses, hp]
    exact ⟨x, hx, (Prod.mk.inj hb).1.symm⟩
  | finish hp hc =>
    obtain ⟨⟨until_, hr⟩, -⟩ := p.rest_spec f now
    unfold Accuses at h
    rw [hr] at h
    cases h
  | praise hp hc =>
    obtain ⟨e, he⟩ := h
    simp only [Accuses, hp]
    exact ⟨e, List.mem_cons_of_mem _ he⟩
  | @close brick e later link hp hc hf =>
    simp only [Accuses, hp]
    rcases h with rfl | ⟨e', he⟩
    · exact ⟨e, List.mem_cons_self⟩
    · exact ⟨e', List.mem_cons_of_mem _ he⟩
  | writeOff hp hc hf =>
    obtain ⟨e, he⟩ := accuses_afterLoss h
    simp only [Accuses, hp]
    exact ⟨e, List.mem_cons_of_mem _ he⟩
  | lose hp hc ht =>
    simp only [Accuses, hp]
    exact .inr (accuses_afterLoss h)

theorem Hears.accuses (h : p.Hears q) : q.Accuses id ↔ p.Accuses id := by
  obtain ⟨probes, changed, hp, rfl, hc⟩ := h
  have hb : changed.map (·.brick) = probes.map (·.brick) := by
    have hm := congrArg (List.map (·.1)) hc
    simpa [List.map_map, Function.comp_def] using hm
  have hi : id ∈ changed.map (·.brick) ↔ id ∈ probes.map (·.brick) := by rw [hb]
  simp only [Accuses, hp]
  simpa using hi

end Poller

namespace Desk

variable {κ : Type}

/-- What the code never breaks: records stand under their ids, and losses say that they are. -/
structure Sound (c : Desk κ) : Prop where
  keyed : c.fleet.registry.Keyed
  grounded : c.poller.Grounded

/-- An act that opens a session of the brick anew, or begins to. -/
def Connects (id : String) : DeskAct κ → Prop
  | .connect brick => brick = id
  | .attach identity .. => identity.id = id
  | _ => False

/-- An act that marks the record of a brick for something that began earlier: the poller deals with
a failed probe of it, or a dial of it ends. -/
def Unsettles (c : Desk κ) (id : String) : DeskAct κ → Prop
  | .poll stamp =>
    (c.fleet.registry.find? id).isSome = true ∧
      ∃ p f signals, c.poller.step c.fleet c.now stamp = some (p, f, signals) ∧
        .refreshed id ∈ signals
  | .dialed index .. => ∃ dial entry, c.dial? index = some (dial, entry) ∧ dial.brick = id
  | .undialed index _ =>
    ∃ dial entry, c.dial? index = some (dial, entry) ∧ dial.brick = id ∧
      (dial.again = true → (c.fleet.registry.find? id).isSome = true)
  | _ => False

/-- A probe or a dial of the brick is under way. -/
def Outstanding (c : Desk κ) (id : String) : Prop :=
  (∃ dial ∈ c.dials, dial.brick = id) ∨ c.poller.Accuses id

/-- Since an earlier moment no reconnect of the brick was asked for, and its record, if there is
one, says that the user disconnected it. -/
def Rests (c : Desk κ) (id : String) (since : Desk κ) : Prop :=
  c.fleet.registry.Settled id ∧ .reconnect id ∉ c.log.drop since.log.length

section Acts

variable {c : Desk κ} {id : String} {index : Nat}

@[simp] theorem endDial_fleet (c : Desk κ) (index : Nat) : (c.endDial index).fleet = c.fleet := rfl

@[simp] theorem endDial_log (c : Desk κ) (index : Nat) : (c.endDial index).log = c.log := rfl

theorem endDial_phase (c : Desk κ) (index : Nat) :
    (c.endDial index).poller.phase = c.poller.phase := by
  unfold endDial
  dsimp only
  split <;> rfl

theorem dial?_brick {dial : PendingDial} {entry : BrickEntry}
    (h : c.dial? index = some (dial, entry)) :
    dial ∈ c.dials ∧ entry.identity.id = dial.brick := by
  simp only [dial?, bind, Option.bind_eq_some_iff, pure, Option.some.injEq, Prod.mk.injEq] at h
  obtain ⟨_, hd, _, he, rfl, rfl⟩ := h
  exact ⟨List.mem_of_getElem? hd, Settings.id_of_entry? he⟩

theorem Sound.of_phase {d : Desk κ} (h : c.Sound) (hk : d.fleet.registry.Keyed)
    (hp : d.poller.phase = c.poller.phase) : d.Sound := by
  refine ⟨hk, ?_⟩
  have hg := h.grounded
  unfold Poller.Grounded at hg ⊢
  rwa [hp]

theorem Sound.act (h : c.Sound) (act : DeskAct κ) : (c.act act).Sound := by
  cases act with
  | poll stamp =>
    cases hs : c.poller.step c.fleet c.now stamp with
    | none => simpa only [Desk.act, hs] using h
    | some result =>
      have hm := Poller.move_of_step hs
      simp only [Desk.act, hs]
      exact ⟨hm.keyed h.keyed, hm.grounded⟩
  | drive link act =>
    refine ⟨?_, ?_⟩
    · show (c.fleet.drive c.poller c.now link act).1.registry.Keyed
      rw [Fleet.drive_registry]
      exact h.keyed
    · show (c.fleet.drive c.poller c.now link act).2.Grounded
      rcases Poller.drive_poller_cases c.fleet c.poller c.now link act with hp | ⟨_, _, -, hq, -⟩
      · rw [hp]
        exact h.grounded
      · rw [hq]
        exact True.intro
  | startPoller options interval =>
    simp only [Desk.act]
    split
    · exact ⟨h.keyed, True.intro⟩
    · exact h
  | connect id =>
    cases he : c.settings.entry? id with
    | none => simpa only [Desk.act, he] using h
    | some entry =>
      simp only [Desk.act, he]
      exact ⟨h.keyed.connecting _, h.grounded⟩
  | attach identity config line handle stamp =>
    refine ⟨?_, h.grounded⟩
    show (c.fleet.open identity config line handle stamp).registry.Keyed
    rw [open_registry]
    exact h.keyed.ready ..
  | dialed index config line handle stamp =>
    cases hd : c.dial? index with
    | none => simpa only [Desk.act, hd] using h
    | some result =>
      simp only [Desk.act, hd]
      refine h.of_phase ?_ (c.endDial_phase index)
      rw [open_registry]
      exact h.keyed.ready ..
  | undialed index e =>
    cases hd : c.dial? index with
    | none => simpa only [Desk.act, hd] using h
    | some result =>
      simp only [Desk.act, hd]
      refine h.of_phase ?_ (c.endDial_phase index)
      split
      · exact h.keyed.markUnavailable _ _
      · exact h.keyed.markError _ _
  | abandon index => exact h.of_phase h.keyed (c.endDial_phase index)
  | disconnect id =>
    refine ⟨?_, h.grounded⟩
    show (c.fleet.removeSession id).1.registry.Keyed
    rw [Fleet.removeSession_registry]
    exact h.keyed
  | disconnected index =>
    cases hr : c.returning index with
    | none => simpa only [Desk.act, hr] using h
    | some id =>
      simp only [Desk.act, hr]
      exact ⟨h.keyed.markUnavailable _ _, h.grounded⟩
  | closeAll =>
    refine ⟨?_, h.grounded⟩
    show c.fleet.removeSessions.1.registry.Keyed
    rw [Fleet.removeSessions_registry]
    exact h.keyed
  | endShutdown => exact ⟨h.keyed.markAllUnavailable _, h.grounded⟩
  | stopPoller => exact ⟨h.keyed, h.grounded⟩
  | forget id => exact ⟨h.keyed.remove id, h.grounded⟩
  | activate id => exact ⟨h.keyed.setActive id, h.grounded⟩
  | measure id metrics => exact ⟨h.keyed.measure id metrics, h.grounded⟩
  | note id operation stamp => exact ⟨h.keyed.note id operation stamp, h.grounded⟩

theorem Sound.wait (h : c.Sound) (ms : Nat) : (c.wait ms).Sound :=
  ⟨h.keyed, h.grounded⟩

theorem start_sound (settings : Settings) : (start settings : Desk κ).Sound := by
  refine ⟨⟨List.nodup_nil, fun entry he => ?_⟩, True.intro⟩
  cases he

theorem Sound.run (h : c.Sound) (acts : List (Nat × DeskAct κ)) : (c.run acts).Sound := by
  induction acts generalizing c with
  | nil => exact h
  | cons timed rest ih =>
    exact ih ((h.wait timed.1).act timed.2)

theorem act_log (h : c.Sound) (hs : c.fleet.registry.Settled id) (act : DeskAct κ) :
    ∃ shown, (c.act act).log = c.log ++ shown ∧ .reconnect id ∉ shown := by
  have hquiet : ∀ d : Desk κ, d.log = c.log →
      ∃ shown, d.log = c.log ++ shown ∧ .reconnect id ∉ shown :=
    fun d hd => ⟨[], by rw [hd, List.append_nil], by simp⟩
  cases act with
  | poll stamp =>
    cases hp : c.poller.step c.fleet c.now stamp with
    | none => exact hquiet _ (by simp only [Desk.act, hp])
    | some result =>
      have hm := Poller.move_of_step hp
      simp only [Desk.act, hp]
      exact ⟨_, rfl, (hm.settled h.keyed hs).1⟩
  | startPoller options interval =>
    apply hquiet
    simp only [Desk.act]
    split <;> rfl
  | connect brick =>
    apply hquiet
    simp only [Desk.act]
    split <;> rfl
  | dialed index config line handle stamp | undialed index e =>
    apply hquiet
    simp only [Desk.act]
    split <;> rfl
  | disconnected index =>
    apply hquiet
    simp only [Desk.act]
    split <;> rfl
  | _ => exact hquiet _ rfl

theorem act_settled (h : c.Sound) (hs : c.fleet.registry.Settled id) {act : DeskAct κ}
    (hc : ¬ Connects id act) (hu : ¬ c.Unsettles id act) :
    (c.act act).fleet.registry.Settled id := by
  cases act with
  | poll stamp =>
    cases hp : c.poller.step c.fleet c.now stamp with
    | none => simpa only [Desk.act, hp] using hs
    | some result =>
      have hm := Poller.move_of_step hp
      simp only [Desk.act, hp]
      rcases (hm.settled h.keyed hs).2 with hr | ⟨hf, hr⟩
      · exact hr
      · exact absurd ⟨hf, _, _, _, hp, hr⟩ hu
  | drive link act =>
    show (c.fleet.drive c.poller c.now link act).1.registry.Settled id
    rw [Fleet.drive_registry]
    exact hs
  | startPoller options interval =>
    simp only [Desk.act]
    split <;> exact hs
  | connect brick =>
    cases he : c.settings.entry? brick with
    | none => simpa only [Desk.act, he] using hs
    | some entry =>
      simp only [Desk.act, he]
      apply hs.congr
      have hi : id ≠ entry.identity.id := by
        rw [Settings.id_of_entry? he]
        exact fun hi => hc hi.symm
      exact (Registry.standing?_connecting _ _ _).trans (if_neg hi)
  | attach identity config line handle stamp =>
    apply hs.congr
    show (c.fleet.open identity config line handle stamp).registry.standing? id = _
    rw [open_registry, Registry.standing?_ready, if_neg (fun hi => hc hi.symm)]
  | dialed index config line handle stamp =>
    cases hd : c.dial? index with
    | none => simpa only [Desk.act, hd] using hs
    | some result =>
      obtain ⟨dial, entry⟩ := result
      simp only [Desk.act, hd]
      apply hs.congr
      have hi : id ≠ entry.identity.id := by
        rw [(dial?_brick hd).2]
        exact fun hi => hu ⟨dial, entry, hd, hi.symm⟩
      rw [open_registry, Registry.standing?_ready, if_neg hi]
  | undialed index e =>
    cases hd : c.dial? index with
    | none => simpa only [Desk.act, hd] using hs
    | some result =>
      obtain ⟨dial, entry⟩ := result
      simp only [Desk.act, hd]
      by_cases ha : dial.again = true
      · rw [if_pos ha]
        rcases hs.markUnavailable dial.brick (Poller.lossReason e) with hr | ⟨hi, hf⟩
        · exact hr
        · exact absurd ⟨dial, entry, hd, hi, fun _ => hf⟩ hu
      · rw [if_neg ha]
        have hi : id ≠ dial.brick := fun hi =>
          hu ⟨dial, entry, hd, hi.symm, fun hn => absurd hn ha⟩
        apply hs.congr
        exact (Registry.standing?_markError _ _ _ _).trans (if_neg hi)
  | disconnect brick =>
    show (c.fleet.removeSession brick).1.registry.Settled id
    rw [Fleet.removeSession_registry]
    exact hs
  | disconnected index =>
    cases hr : c.returning index with
    | none => simpa only [Desk.act, hr] using hs
    | some brick =>
      simp only [Desk.act, hr]
      by_cases hi : id = brick
      · rw [hi]
        exact Registry.settled_markUnavailable _ _
      · apply hs.congr
        exact (Registry.standing?_markUnavailable _ _ _ _).trans (if_neg hi)
  | closeAll =>
    show c.fleet.removeSessions.1.registry.Settled id
    rw [Fleet.removeSessions_registry]
    exact hs
  | endShutdown =>
    refine hs.congr (h.keyed.standing?_markAllUnavailable _ (fun record hr => ?_))
    rw [(hs record hr).1]
    rfl
  | forget brick =>
    intro record hr
    have hr' : (c.fleet.registry.remove brick).find? id = some record := hr
    rw [Registry.find?_remove] at hr'
    split at hr'
    · cases hr'
    · exact hs record hr'
  | activate brick => exact hs.congr (Registry.standing?_setActive _ _ _)
  | measure brick metrics => exact hs.congr (Registry.standing?_measure _ _ _ _)
  | note brick operation stamp => exact hs.congr (Registry.standing?_note _ _ _ _ _)
  | stopPoller | abandon index => exact hs

theorem act_not_settled (h : c.Sound) {act : DeskAct κ} (hu : c.Unsettles id act) :
    ¬ (c.act act).fleet.registry.Settled id := by
  cases act with
  | poll stamp =>
    obtain ⟨hf, p, f, signals, hs, hr⟩ := hu
    simp only [Desk.act, hs]
    exact (Poller.move_of_step hs).unsettled h.grounded hf hr
  | dialed index config line handle stamp =>
    obtain ⟨dial, entry, hd, rfl⟩ := hu
    simp only [Desk.act, hd]
    rw [open_registry]
    have hs := Registry.standing?_ready c.fleet.registry entry.identity handle handle stamp
      dial.brick
    rw [if_pos (dial?_brick hd).2.symm] at hs
    exact Registry.not_settled hs (by simp)
  | undialed index e =>
    obtain ⟨dial, entry, hd, rfl, hf⟩ := hu
    simp only [Desk.act, hd]
    by_cases ha : dial.again = true
    · rw [if_pos ha]
      exact Registry.not_settled_lose (hf ha) e
    · rw [if_neg ha]
      have hs := Registry.standing?_markError c.fleet.registry dial.brick e.message dial.brick
      rw [if_pos rfl] at hs
      exact Registry.not_settled hs (by simp)
  | _ => cases hu

theorem not_unsettles (ho : ¬ c.Outstanding id) (act : DeskAct κ) : ¬ c.Unsettles id act := by
  intro hu
  cases act with
  | poll stamp =>
    obtain ⟨-, p, f, signals, hs, hr⟩ := hu
    exact ho (.inr ((Poller.move_of_step hs).accuses hr))
  | dialed index config line handle stamp =>
    obtain ⟨dial, entry, hd, hb⟩ := hu
    exact ho (.inl ⟨dial, (dial?_brick hd).1, hb⟩)
  | undialed index e =>
    obtain ⟨dial, entry, hd, hb, -⟩ := hu
    exact ho (.inl ⟨dial, (dial?_brick hd).1, hb⟩)
  | _ => cases hu

theorem outstanding_endDial {d : Desk κ} (hd : d.dials = (c.endDial index).dials)
    (hp : d.poller.phase = (c.endDial index).poller.phase) (h : d.Outstanding id) :
    c.Outstanding id := by
  rcases h with ⟨dial, hm, hb⟩ | ha
  · refine .inl ⟨dial, ?_, hb⟩
    rw [hd] at hm
    exact List.mem_of_mem_eraseIdx hm
  · refine .inr ?_
    unfold Poller.Accuses at ha ⊢
    rwa [hp, endDial_phase] at ha

theorem mem_redials {signals : List PollerSignal} {dial : PendingDial}
    (h : dial ∈ signals.filterMap PollerSignal.redial?) : .reconnect dial.brick ∈ signals := by
  obtain ⟨signal, hs, hd⟩ := List.mem_filterMap.mp h
  cases signal with
  | reconnect brick =>
    cases hd
    exact hs
  | _ => cases hd

theorem act_not_outstanding (h : c.Sound) (hs : c.fleet.registry.Settled id) {act : DeskAct κ}
    (hc : ¬ Connects id act) (ho : ¬ c.Outstanding id) : ¬ (c.act act).Outstanding id := by
  cases act with
  | poll stamp =>
    cases hp : c.poller.step c.fleet c.now stamp with
    | none => simpa only [Desk.act, hp] using ho
    | some result =>
      have hm := Poller.move_of_step hp
      simp only [Desk.act, hp]
      rintro (⟨dial, hd, rfl⟩ | ha)
      · rcases List.mem_append.mp hd with hd | hd
        · exact ho (.inl ⟨dial, hd, rfl⟩)
        · exact (hm.settled h.keyed hs).1 (mem_redials hd)
      · exact ho (.inr (hm.accuses_of_accuses hs.not_isLive ha))
  | drive link act =>
    rintro (hd | ha)
    · exact ho (.inl hd)
    · have ha' : (c.fleet.drive c.poller c.now link act).2.Accuses id := ha
      rcases Poller.drive_poller_cases c.fleet c.poller c.now link act with hp | hp
      · rw [hp] at ha'
        exact ho (.inr ha')
      · exact ho (.inr (hp.accuses.mp ha'))
  | startPoller options interval =>
    simp only [Desk.act]
    split
    · rintro (hd | ha)
      · exact ho (.inl hd)
      · cases ha
    · exact ho
  | connect brick =>
    cases he : c.settings.entry? brick with
    | none => simpa only [Desk.act, he] using ho
    | some entry =>
      simp only [Desk.act, he]
      rintro (⟨dial, hd, hb⟩ | ha)
      · rcases List.mem_append.mp hd with hd | hd
        · exact ho (.inl ⟨dial, hd, hb⟩)
        · obtain rfl := List.mem_singleton.mp hd
          exact hc hb
      · exact ho (.inr ha)
  | dialed index config line handle stamp | undialed index e =>
    cases hd : c.dial? index with
    | none => simpa only [Desk.act, hd] using ho
    | some result =>
      simp only [Desk.act, hd]
      exact fun hn => ho (outstanding_endDial rfl rfl hn)
  | abandon index => exact fun hn => ho (outstanding_endDial rfl rfl hn)
  | disconnected index =>
    simp only [Desk.act]
    split <;> exact ho
  | _ => exact ho

end Acts

section Runs

variable {c d : Desk κ} {id : String}

theorem Rests.act (hd : d.Sound) (h : d.Rests id c) (hlog : c.log <+: d.log) {act : DeskAct κ}
    (hc : ¬ Connects id act) (hu : ¬ d.Unsettles id act) :
    (d.act act).Rests id c ∧ c.log <+: (d.act act).log := by
  obtain ⟨shown, hl, hr⟩ := act_log hd h.1 act
  refine ⟨⟨act_settled hd h.1 hc hu, ?_⟩, ?_⟩
  · rw [hl, List.drop_append_of_le_length hlog.length_le]
    exact fun hm => (List.mem_append.mp hm).elim h.2 hr
  · rw [hl]
    exact hlog.trans (List.prefix_append _ _)

/-- A brick rests as long as no act unsettles it. -/
theorem Rests.run (hd : d.Sound) (h : d.Rests id c) (hlog : c.log <+: d.log)
    {late : List (Nat × DeskAct κ)} (hc : ∀ timed ∈ late, ¬ Connects id timed.2)
    (hu : ∀ part ms act, part ++ [(ms, act)] <+: late → ¬ ((d.run part).wait ms).Unsettles id act) :
    (d.run late).Rests id c := by
  induction late generalizing d with
  | nil => exact h
  | cons timed rest ih =>
    have hw : (d.wait timed.1).Sound := hd.wait timed.1
    have hfirst : ¬ (d.wait timed.1).Unsettles id timed.2 :=
      hu [] timed.1 timed.2 (by simp [List.prefix_cons_iff])
    have hrest : (d.wait timed.1).Rests id c := h
    obtain ⟨hnext, hlog'⟩ := hrest.act hw hlog (hc timed List.mem_cons_self) hfirst
    refine ih (hw.act timed.2) hnext hlog' (fun t ht => hc t (List.mem_cons_of_mem _ ht)) ?_
    intro part ms act hp
    exact hu (timed :: part) ms act (List.cons_prefix_cons.mpr ⟨rfl, hp⟩)

theorem run_not_outstanding (hd : d.Sound) (h : d.fleet.registry.Settled id)
    (ho : ¬ d.Outstanding id) {part : List (Nat × DeskAct κ)}
    (hc : ∀ timed ∈ part, ¬ Connects id timed.2) : ¬ (d.run part).Outstanding id := by
  induction part generalizing d with
  | nil => exact ho
  | cons timed rest ih =>
    have hw : (d.wait timed.1).Sound := hd.wait timed.1
    have hs : (d.wait timed.1).fleet.registry.Settled id := h
    have how : ¬ (d.wait timed.1).Outstanding id := ho
    have hone := hc timed List.mem_cons_self
    exact ih (hw.act timed.2) (act_settled hw hs hone (not_unsettles how timed.2))
      (act_not_outstanding hw hs hone how) (fun t ht => hc t (List.mem_cons_of_mem _ ht))

end Runs

end Desk

/-- In every course, from the moment the disconnect of a brick has returned and as long as the brick
is not connected or attached, it rests exactly if no verdict and no dial that was under way marks
it; and it does rest if none was under way then. -/
theorem user_disconnect_rests_iff {κ : Type} (settings : Settings)
    (early late : List (Nat × DeskAct κ)) (ms index : Nat) (id : String)
    (hr : (((Desk.start settings).run early).wait ms).returning index = some id)
    (hl : ∀ timed ∈ late, ¬ Desk.Connects id timed.2) :
    let c := ((Desk.start settings).run early).after ms (.disconnected index)
    ((∀ part, part <+: late → (c.run part).Rests id c) ↔
      ∀ part ms act, part ++ [(ms, act)] <+: late →
        ¬ ((c.run part).wait ms).Unsettles id act) ∧
    (¬ c.Outstanding id → ∀ part, part <+: late → (c.run part).Rests id c) := by
  intro c
  have hc : c.Sound := (((Desk.start_sound settings).run early).wait ms).act _
  have hs : c.fleet.registry.Settled id := by
    simp only [c, Desk.after, Desk.act, hr]
    exact Registry.settled_markUnavailable _ _
  have hrest : c.Rests id c := ⟨hs, by simp⟩
  have hrun : ∀ {part}, part <+: late →
      (∀ p ms act, p ++ [(ms, act)] <+: part → ¬ ((c.run p).wait ms).Unsettles id act) →
      (c.run part).Rests id c := fun hp hu =>
    hrest.run hc List.prefix_rfl (fun timed ht => hl timed (hp.subset ht)) hu
  refine ⟨⟨fun hall part ms act hp hu => ?_, fun hno part hp => ?_⟩, fun ho part hp => ?_⟩
  · have hafter := (hall _ hp).1
    rw [Desk.run_append] at hafter
    exact Desk.act_not_settled ((hc.run part).wait ms) hu hafter
  · exact hrun hp (fun p ms act hpa => hno p ms act (hpa.trans hp))
  · refine hrun hp (fun p ms act hpa => Desk.not_unsettles ?_ act)
    have hsub : p <+: part := (List.prefix_append _ _).trans hpa
    exact Desk.run_not_outstanding hc hs ho (fun timed ht => hl timed ((hsub.trans hp).subset ht))

/-- A brick is disconnected before the poller looks at it. -/
theorem idle_disconnect_rests :
    ∃ (early late : List (Nat × DeskAct Unit)),
      (((Desk.start {}).run early).wait 0).returning 0 = some "a" ∧ late ≠ [] ∧
        let c := ((Desk.start {}).run early).after 0 (.disconnected 0)
        ∀ part, part <+: late → (c.run part).Rests "a" c := by
  let attach : DeskAct Unit :=
    .attach { id := "a", displayName := "a", transport := .mock } {} (.ofCapacity 64) () ""
  let early := [attach, .disconnect "a", .drive 0 .move, .drive 0 .move, .drive 0 .move].map ((0, ·))
  let late : List (Nat × DeskAct Unit) :=
    [(0, .startPoller { reconnects := true } (.ofMillis 1000)), (0, .poll ""), (0, .poll "")]
  have hr : (((Desk.start {}).run early).wait 0).returning 0 = some "a" := by decide +kernel
  refine ⟨early, late, hr, by simp [late], ?_⟩
  refine (user_disconnect_rests_iff {} early late 0 0 "a" hr ?_).2 ?_
  · simp [late, Desk.Connects]
  · rintro (⟨dial, hd, -⟩ | ha)
    · cases hd
    · cases ha

/-- The probes of two bricks are on the wire when one of them is disconnected. The disconnect
returns while the poller waits for the other probe, and afterwards the brick counts as lost. -/
theorem late_verdict_unsettles_disconnected_brick :
    ∃ (early late : List (Nat × DeskAct Unit)),
      (((Desk.start {}).run early).wait 0).returning 0 = some "a" ∧
        (∀ timed ∈ late, ¬ Desk.Connects "a" timed.2) ∧
        let c := ((Desk.start {}).run early).after 0 (.disconnected 0)
        ¬ (c.run late).Rests "a" c ∧
          (c.run late).fleet.registry.standing? "a" =
            some (.unavailable, some "Connection lost: scheduler disposed") := by
  let attach (id : String) : DeskAct Unit :=
    .attach { id := id, displayName := id, transport := .mock } {} (.ofCapacity 64) () ""
  let early := [attach "a", attach "b", .startPoller {} (.ofMillis 1000), .poll "",
    .disconnect "a", .drive 0 .move, .drive 0 .move].map ((0, ·))
  let late : List (Nat × DeskAct Unit) :=
    [.drive 1 .dispose, .drive 1 .move, .poll "", .poll ""].map ((0, ·))
  have hr : (((Desk.start {}).run early).wait 0).returning 0 = some "a" := by decide +kernel
  refine ⟨early, late, hr, by simp [late, Desk.Connects], ?_⟩
  intro c
  have hs : (c.run late).fleet.registry.standing? "a" =
      some (.unavailable, some "Connection lost: scheduler disposed") := by decide +kernel
  exact ⟨fun h => Registry.not_settled hs (by decide) h.1, hs⟩

end BrickHost
