import BrickHost.Proofs.Monitor.Rest
import BrickHost.Proofs.Poller.Losses
import BrickHost.Proofs.Poller.Reconnects
import BrickHost.Proofs.Registry.History

/-! Reconnects that come too late. A dial takes its time, so the brick may have been regained when
it fails; a failed reconnect marks the brick all the same. -/

namespace BrickHost

/-- What a record says of a brick whose link was lost. -/
def isLossStanding (standing : BrickStatus × Option String) : Bool :=
  standing.1 == .unavailable && standing.2.any isLinkLoss

theorem isLossStanding_lossReason (e : LinkError) :
    isLossStanding (.unavailable, some (Poller.lossReason e)) = true := by
  simp [isLossStanding, isLinkLoss_lossReason]

namespace Registry

variable {κ : Type} {r s : Registry κ} {id brick : String}

theorem lost_iff_standing? :
    r.Lost id ↔ ∃ standing, r.standing? id = some standing ∧ isLossStanding standing = true := by
  cases hf : r.find? id with
  | none => simp [Lost, standing?, hf]
  | some record =>
    simp [Lost, standing?, hf, isLossStanding, BrickRecord.standing, Option.any_eq_true]

/-- The brick is known, and does not count as lost. -/
def Regained (r : Registry κ) (id : String) : Prop :=
  ∃ standing, r.standing? id = some standing ∧ isLossStanding standing = false

theorem regained_congr (hs : s.standing? id = r.standing? id) : s.Regained id ↔ r.Regained id := by
  rw [Regained, hs]
  rfl

theorem not_regained_iff : ¬ r.Regained id ↔ r.Lost id ∨ r.find? id = none := by
  unfold Regained
  rw [lost_iff_standing?]
  unfold standing?
  cases hf : r.find? id with
  | none => simp
  | some record => cases hl : isLossStanding record.standing <;> simp [hl]

theorem Regained.isSome (h : r.Regained id) : (r.find? id).isSome = true := by
  obtain ⟨_, hs, -⟩ := h
  obtain ⟨record, hf, -⟩ := Option.map_eq_some_iff.mp hs
  rw [hf]
  rfl

/-- Of a brick that is entered anew, or fails. -/
theorem regained_entered_iff {standing : BrickStatus × Option String}
    (hs : s.standing? id = if id = brick then some standing else r.standing? id)
    (hl : isLossStanding standing = false) : s.Regained id ↔ brick = id ∨ r.Regained id := by
  unfold Regained
  rw [hs]
  by_cases hi : id = brick
  · simp [hi, hl]
  · simp [hi, Ne.symm hi]

theorem regained_markUnavailable_iff (r : Registry κ) (brick reason id : String) :
    (r.markUnavailable brick reason).Regained id ↔
      if id = brick then (r.find? id).isSome = true ∧ isLinkLoss reason = false
      else r.Regained id := by
  unfold Regained
  rw [standing?_markUnavailable]
  by_cases hi : id = brick
  · rw [hi]
    cases hf : r.find? brick <;> simp [standing?, hf, isLossStanding]
  · simp [hi]

theorem not_regained_lose (r : Registry κ) (id : String) (e : LinkError) :
    ¬ (r.markUnavailable id (Poller.lossReason e)).Regained id := by
  rw [regained_markUnavailable_iff, if_pos rfl]
  simp [isLinkLoss_lossReason]

theorem regained_lose_iff (r : Registry κ) (brick id : String) (e : LinkError) :
    (r.markUnavailable brick (Poller.lossReason e)).Regained id ↔ r.Regained id ∧ brick ≠ id := by
  by_cases hi : id = brick
  · simp [hi, r.not_regained_lose brick e]
  · rw [regained_markUnavailable_iff, if_neg hi]
    simp [Ne.symm hi]

theorem regained_remove_iff (r : Registry κ) (brick id : String) :
    (r.remove brick).Regained id ↔ r.Regained id ∧ brick ≠ id := by
  unfold Regained standing?
  rw [find?_remove]
  by_cases hi : id = brick
  · simp [hi]
  · simp [hi, Ne.symm hi]

/-- A brick that counted as lost when everything stopped still does. -/
theorem Keyed.regained_markAllUnavailable_iff (h : r.Keyed) {reason : String}
    (hr : isLinkLoss reason = false) (id : String) :
    (r.markAllUnavailable reason).Regained id ↔ r.Regained id := by
  unfold Regained standing?
  rw [h.find?_markAllUnavailable]
  cases hf : r.find? id with
  | none => simp
  | some record =>
    cases hl : record.status.isLive with
    | false => simp [hl]
    | true =>
      have hlive : isLossStanding record.standing = false := by
        cases hs : record.status <;> simp [hs, BrickStatus.isLive] at hl <;>
          simp [isLossStanding, BrickRecord.standing, hs]
      have hmarked : isLossStanding (record.lose reason).standing = false := by
        simp [isLossStanding, BrickRecord.standing, BrickRecord.lose, hr]
      simp [hl, hlive, hmarked]

end Registry

namespace Desk

variable {κ : Type}

/-- The brick is dialed or attached anew, its first dial fails, or the user has disconnected it. -/
def Regains (c : Desk κ) (id : String) : DeskAct κ → Prop
  | .connect brick => brick = id ∧ (c.settings.entry? brick).isSome = true
  | .attach identity .. => identity.id = id
  | .dialed index .. => ∃ dial entry, c.dial? index = some (dial, entry) ∧ dial.brick = id
  | .undialed index _ =>
    ∃ dial entry, c.dial? index = some (dial, entry) ∧ dial.brick = id ∧ dial.again = false
  | .disconnected index => c.returning index = some id ∧ (c.fleet.registry.find? id).isSome = true
  | _ => False

/-- A probe of the brick or a reconnect has failed, or the brick is forgotten. -/
def Relapses (c : Desk κ) (id : String) : DeskAct κ → Prop
  | .poll stamp => ∃ p f signals, c.poller.step c.fleet c.now stamp = some (p, f, signals) ∧
      .refreshed id ∈ signals
  | .undialed index _ =>
    ∃ dial entry, c.dial? index = some (dial, entry) ∧ dial.brick = id ∧ dial.again = true
  | .forget brick => brick = id
  | _ => False

theorem failReconnect_registry (f : Fleet κ) (id : String) (e : LinkError) :
    (Monitor.failReconnect f id e).registry =
      f.registry.markUnavailable id (Poller.lossReason e) := rfl

section Acts

variable {c : Desk κ} {id : String}

/-- An act that neither regains the brick nor is its relapse leaves its record as it was. -/
theorem regained_aside {act : DeskAct κ}
    (hs : (c.act act).fleet.registry.standing? id = c.fleet.registry.standing? id)
    (hg : ¬ c.Regains id act) (hr : ¬ c.Relapses id act) :
    (c.act act).fleet.registry.Regained id ↔
      c.Regains id act ∨ c.fleet.registry.Regained id ∧ ¬ c.Relapses id act := by
  rw [Registry.regained_congr hs]
  simp [hg, hr]

theorem regained_poll_iff (h : c.Sound) (id stamp : String) :
    (c.act (.poll stamp)).fleet.registry.Regained id ↔
      c.fleet.registry.Regained id ∧ ¬ c.Relapses id (.poll stamp) := by
  cases hs : c.poller.step c.fleet c.now stamp with
  | none => simp [Desk.act, Relapses, hs]
  | some result =>
    obtain ⟨q, g, signals⟩ := result
    have hm := Poller.move_of_step hs
    simp only [Desk.act, hs]
    rcases hm.bearing h.grounded id with ⟨hn, hb⟩ | ⟨hr, e, hb⟩
    · have hsame : g.registry.standing? id = c.fleet.registry.standing? id := by
        rw [Registry.standing?_eq_bearing?, hb, ← Registry.standing?_eq_bearing?]
      rw [Registry.regained_congr hsame]
      simp [Relapses, hs, hn]
    · have hlost : ¬ g.registry.Regained id := by
        rintro ⟨standing, hstanding, hl⟩
        rw [Registry.standing?_eq_bearing?, hb, Option.map_map] at hstanding
        obtain ⟨_, -, rfl⟩ := Option.map_eq_some_iff.mp hstanding
        cases (isLossStanding_lossReason e).symm.trans hl
      simp [hlost, Relapses, hs, hr]

theorem regained_undialed_iff (c : Desk κ) (id : String) (index : Nat) (e : LinkError) :
    (c.act (.undialed index e)).fleet.registry.Regained id ↔ c.Regains id (.undialed index e) ∨
      c.fleet.registry.Regained id ∧ ¬ c.Relapses id (.undialed index e) := by
  cases hd : c.dial? index with
  | none => simp [Desk.act, Regains, Relapses, hd]
  | some result =>
    obtain ⟨⟨brick, again⟩, entry⟩ := result
    cases again with
    | true =>
      simp only [Desk.act, hd, if_true, failReconnect_registry, Registry.regained_lose_iff]
      simp [Regains, Relapses, hd]
    | false =>
      have hs := Registry.standing?_markError c.fleet.registry brick e.message id
      simp only [Desk.act, hd, Bool.false_eq_true, if_false, Monitor.failConnect,
        Fleet.withRegistry_registry, Registry.regained_entered_iff hs rfl]
      simp [Regains, Relapses, hd]

theorem regained_disconnected_iff (c : Desk κ) (id : String) (index : Nat) :
    (c.act (.disconnected index)).fleet.registry.Regained id ↔
      c.Regains id (.disconnected index) ∨ c.fleet.registry.Regained id := by
  cases hr : c.returning index with
  | none => simp [Desk.act, Regains, hr]
  | some brick =>
    have huser : isLinkLoss userDisconnectReason = false := by decide
    simp only [Desk.act, hr, Monitor.endDisconnect, Fleet.withRegistry_registry,
      Registry.regained_markUnavailable_iff]
    by_cases hi : id = brick
    · simp only [Regains, hr, hi, huser]
      simpa using Registry.Regained.isSome
    · simp [Regains, hr, hi, Ne.symm hi]

/-- One act leaves a brick regained exactly if it regains it, or if it was so and does not relapse. -/
theorem regained_act_iff (h : c.Sound) (id : String) (act : DeskAct κ) :
    (c.act act).fleet.registry.Regained id ↔
      c.Regains id act ∨ c.fleet.registry.Regained id ∧ ¬ c.Relapses id act := by
  cases act with
  | poll stamp => simpa [Regains] using regained_poll_iff h id stamp
  | undialed index e => exact regained_undialed_iff c id index e
  | disconnected index => simpa [Relapses] using regained_disconnected_iff c id index
  | connect brick =>
    cases he : c.settings.entry? brick with
    | none => simp [Desk.act, Regains, Relapses, he]
    | some entry =>
      have hs := Registry.standing?_connecting c.fleet.registry entry.identity id
      rw [Settings.id_of_entry? he] at hs
      simp only [Desk.act, he, Monitor.beginConnect, Fleet.withRegistry_registry,
        Registry.regained_entered_iff hs rfl]
      simp [Regains, Relapses, he]
  | attach identity config line handle stamp =>
    have hs := Registry.standing?_ready c.fleet.registry identity handle handle stamp id
    simp only [Desk.act, open_registry, Registry.regained_entered_iff hs rfl]
    simp [Regains, Relapses]
  | dialed index config line handle stamp =>
    cases hd : c.dial? index with
    | none => simp [Desk.act, Regains, Relapses, hd]
    | some result =>
      obtain ⟨dial, entry⟩ := result
      have hs := Registry.standing?_ready c.fleet.registry entry.identity handle handle stamp id
      rw [(dial?_brick hd).2] at hs
      simp only [Desk.act, hd, open_registry, Registry.regained_entered_iff hs rfl]
      simp [Regains, Relapses, hd]
  | endShutdown =>
    have hstop : isLinkLoss Monitor.stopReason = false := by decide
    have hi := h.keyed.regained_markAllUnavailable_iff hstop id
    simp only [Desk.act, Monitor.endShutdown, Fleet.withRegistry_registry, hi]
    simp [Regains, Relapses]
  | forget brick =>
    simp only [Desk.act, Fleet.withRegistry_registry, Registry.regained_remove_iff]
    simp [Regains, Relapses]
  | startPoller options interval =>
    refine regained_aside ?_ not_false not_false
    simp only [Desk.act]
    split <;> rfl
  | drive link act =>
    refine regained_aside ?_ not_false not_false
    show (c.fleet.drive c.poller c.now link act).1.registry.standing? id = _
    rw [Fleet.drive_registry]
  | disconnect brick =>
    refine regained_aside ?_ not_false not_false
    show (c.fleet.removeSession brick).1.registry.standing? id = _
    rw [Fleet.removeSession_registry]
  | closeAll =>
    refine regained_aside ?_ not_false not_false
    show c.fleet.removeSessions.1.registry.standing? id = _
    rw [Fleet.removeSessions_registry]
  | activate brick => exact regained_aside (Registry.standing?_setActive ..) not_false not_false
  | measure brick metrics =>
    exact regained_aside (Registry.standing?_measure ..) not_false not_false
  | note brick operation stamp =>
    exact regained_aside (Registry.standing?_note ..) not_false not_false
  | abandon index => exact regained_aside rfl not_false not_false
  | stopPoller => exact regained_aside rfl not_false not_false

/-- In a course from here the brick is regained, and has not relapsed since. -/
def HasRegained (c : Desk κ) (id : String) (acts : List (Nat × DeskAct κ)) : Prop :=
  ∃ early timed late, acts = early ++ timed :: late ∧
    ((c.run early).wait timed.1).Regains id timed.2 ∧
    ∀ part next rest, late = part ++ next :: rest →
      ¬ ((c.run (early ++ timed :: part)).wait next.1).Relapses id next.2

/-- A brick that counts as lost is regained after a course exactly if the course regains it. -/
theorem regained_run_iff (h : c.Sound) (hn : ¬ c.fleet.registry.Regained id)
    (acts : List (Nat × DeskAct κ)) :
    (c.run acts).fleet.registry.Regained id ↔ c.HasRegained id acts := by
  induction acts using List.reverseRecOn with
  | nil => exact iff_of_false hn (by simp [HasRegained])
  | append_singleton acts timed ih =>
    have hsnoc := exists_since_prefix_snoc_iff
      (fun early x => ((c.run early).wait x.1).Regains id x.2)
      (fun early y => ¬ ((c.run early).wait y.1).Relapses id y.2) acts timed
    rw [run_snoc, regained_act_iff ((h.run acts).wait timed.1), HasRegained, hsnoc, and_comm]
    exact or_congr_right (and_congr_right' ih)

/-- The poller asks for reconnects of lost bricks only. -/
theorem lost_of_asked (h : c.Sound) {stamp : String}
    (ha : .reconnect id ∈ (c.act (.poll stamp)).log.drop c.log.length) :
    (c.act (.poll stamp)).fleet.registry.Lost id := by
  cases hs : c.poller.step c.fleet c.now stamp with
  | none => simp [Desk.act, hs] at ha
  | some result =>
    obtain ⟨q, g, signals⟩ := result
    have hr : .reconnect id ∈ signals := by simpa [Desk.act, hs] using ha
    simp only [Desk.act, hs]
    rcases (Poller.move_of_step hs).memory_cases with ⟨-, -, rfl, rfl⟩ | ⟨-, -, hn⟩
    · obtain ⟨-, -, hasked⟩ := c.poller.rest_spec c.fleet c.now
      obtain ⟨s, hl, hlost, he⟩ := hasked _ hr
      cases he
      rw [← Poller.isLost_iff]
      exact h.keyed.mem_lost_iff.mp (List.mem_map.mpr ⟨s, List.mem_filter.mpr ⟨hl, hlost⟩, rfl⟩)
    · exact absurd hr (hn id)

end Acts

/-- What a failed reconnect may do: a brick that counts as lost still does, and the record of any
other is left alone. -/
structure Spares (c d : Desk κ) (id : String) : Prop where
  lost : c.fleet.registry.Lost id → d.fleet.registry.Lost id
  record : ¬ c.fleet.registry.Lost id →
    d.fleet.registry.find? id = c.fleet.registry.find? id ∧
      d.fleet.registry.active = c.fleet.registry.active
  pool : d.fleet.pool = c.fleet.pool

section Failure

variable {c d : Desk κ} {id : String}

theorem after_undialed_again {ms index : Nat} {entry : BrickEntry}
    (hd : (c.wait ms).dial? index = some (⟨id, true⟩, entry)) (e : LinkError) :
    (c.after ms (.undialed index e)).fleet = Monitor.failReconnect c.fleet id e := by
  simp only [after, Desk.act, hd, if_true]
  rfl

theorem standing?_failReconnect (f : Fleet κ) (id : String) (e : LinkError) :
    (Monitor.failReconnect f id e).registry.standing? id =
      (f.registry.standing? id).map fun _ => (.unavailable, some (Poller.lossReason e)) := by
  rw [failReconnect_registry, Registry.standing?_markUnavailable, if_pos rfl]

/-- Only a brick that was regained is not spared. -/
theorem spares_iff {e : LinkError} (hd : d.fleet = Monitor.failReconnect c.fleet id e) :
    c.Spares d id ↔ ¬ c.fleet.registry.Regained id := by
  have hstanding : d.fleet.registry.standing? id =
      (c.fleet.registry.standing? id).map fun _ => (.unavailable, some (Poller.lossReason e)) := by
    rw [hd, standing?_failReconnect]
  constructor
  · rintro h ⟨standing, hs, hl⟩
    have hnot : ¬ c.fleet.registry.Lost id := fun hlost =>
      Registry.not_regained_iff.mpr (.inl hlost) ⟨standing, hs, hl⟩
    have hsame : d.fleet.registry.standing? id = c.fleet.registry.standing? id := by
      rw [Registry.standing?, (h.record hnot).1]
      rfl
    rw [hstanding, hs, Option.map_some] at hsame
    have hlost := isLossStanding_lossReason e
    rw [Option.some.inj hsame, hl] at hlost
    cases hlost
  · intro h
    refine ⟨fun hlost => ?_, fun hnot => ?_, by rw [hd]; rfl⟩
    · obtain ⟨standing, hs, -⟩ := Registry.lost_iff_standing?.mp hlost
      rw [Registry.lost_iff_standing?, hstanding, hs]
      exact ⟨_, rfl, isLossStanding_lossReason e⟩
    · have hnone := (Registry.not_regained_iff.mp h).resolve_left hnot
      have hsame : d.fleet.registry = c.fleet.registry := by
        simp [hd, failReconnect_registry, Registry.markUnavailable, hnone]
      rw [hsame]
      exact ⟨rfl, rfl⟩

end Failure

end Desk

/-- Whatever the registry says, a reconnect that fails spares the brick exactly if the brick was not
regained when it failed. If it was, its record says that the link was lost, and it is not active any
more. Of a brick whose reconnect the poller asked for, what was done to it since decides. -/
theorem failed_reconnect_spares_iff {κ : Type} (first : Desk κ) (acts : List (Nat × DeskAct κ))
    (ms index : Nat) (e : LinkError) {id : String} {entry : BrickEntry}
    (hd : ((first.run acts).wait ms).dial? index = some (⟨id, true⟩, entry)) :
    let c := first.run acts
    let d := c.after ms (.undialed index e)
    (c.Spares d id ↔ ¬ c.fleet.registry.Regained id) ∧
    (c.fleet.registry.Regained id →
      d.fleet.registry.standing? id =
        some (.unavailable, some ("Connection lost: " ++ e.message)) ∧
      d.fleet.registry.active ≠ some id ∧ d.fleet.pool = c.fleet.pool) ∧
    (first.Sound → ∀ early ms' stamp late, acts = early ++ (ms', .poll stamp) :: late →
      let asking := (first.run early).after ms' (.poll stamp)
      .reconnect id ∈ asking.log.drop (first.run early).log.length →
        (c.fleet.registry.Regained id ↔ asking.HasRegained id late)) := by
  intro c d
  have hfailed : d.fleet = Monitor.failReconnect c.fleet id e := Desk.after_undialed_again hd e
  refine ⟨Desk.spares_iff hfailed, ?_, ?_⟩
  · intro hregained
    have hknown : c.fleet.registry.contains id = true := hregained.isSome
    obtain ⟨standing, hs, -⟩ := hregained
    refine ⟨?_, ?_, by rw [hfailed]; rfl⟩
    · rw [hfailed, Desk.standing?_failReconnect, hs, Option.map_some, Poller.lossReason_eq]
    · rw [hfailed, Desk.failReconnect_registry, Registry.markUnavailable_active]
      split
      · simp
      · next hn => exact fun ha => hn ⟨hknown, ha⟩
  · rintro hfirst early ms' stamp late hacts asking ha
    have hturn : ((first.run early).wait ms').Sound := (hfirst.run early).wait ms'
    have hlost : asking.fleet.registry.Lost id := Desk.lost_of_asked hturn ha
    have hrun : c = asking.run late := by
      simp only [c, hacts, Desk.run_append]
      rfl
    rw [hrun]
    exact Desk.regained_run_iff (hturn.act _) (Registry.not_regained_iff.mpr (.inl hlost)) late

/-- The session of a brick ends by itself, and the poller asks for a reconnect, which fails. -/
theorem lost_brick_spared :
    ∃ (settings : Settings) (acts : List (Nat × DeskAct Unit)) (entry : BrickEntry),
      (((Desk.start settings).run acts).wait 0).dial? 0 = some (⟨"a", true⟩, entry) ∧
        let c := (Desk.start settings).run acts
        c.fleet.registry.Lost "a" ∧ c.Spares (c.after 0 (.undialed 0 (.transport "refused"))) "a" := by
  let entry : BrickEntry := { id := "a", host := "localhost" }
  let settings : Settings := { bricks := [entry] }
  let early : List (Nat × DeskAct Unit) :=
    [.attach entry.identity {} (.ofCapacity 64) () "",
      .startPoller { reconnects := true } (.ofMillis 1000), .drive 0 .dispose, .drive 0 .move,
      .drive 0 .move, .drive 0 .move, .poll "", .poll "", .poll "", .poll ""].map ((0, ·))
  let acts := early ++ [(0, .poll "")]
  have hd : (((Desk.start settings).run acts).wait 0).dial? 0 = some (⟨"a", true⟩, entry) := by
    decide +kernel
  have hs : ((Desk.start settings).run acts).fleet.registry.standing? "a" =
      some (.unavailable, some "Connection lost: scheduler disposed") := by decide +kernel
  have ha : ((Desk.start settings).run acts).log.drop ((Desk.start settings).run early).log.length =
      [.reconnect "a"] := by decide +kernel
  obtain ⟨hspares, -, hsince⟩ :=
    failed_reconnect_spares_iff (Desk.start settings) acts 0 0 (.transport "refused") hd
  rw [Desk.run_snoc] at ha
  have hregained := hsince (Desk.start_sound settings) early 0 "" [] rfl (ha.symm ▸ List.mem_cons_self)
  refine ⟨settings, acts, entry, hd, Registry.lost_iff_standing?.mpr ⟨_, hs, by decide⟩,
    hspares.mpr fun h => ?_⟩
  obtain ⟨_, _, _, hsplit, -⟩ := hregained.mp h
  simp at hsplit

/-- A brick is attached again while the poller's dial is under way. When the dial fails, the brick
that is ready becomes unavailable, as if its new link had been lost. -/
theorem late_failure_marks_regained_brick :
    ∃ (settings : Settings) (acts : List (Nat × DeskAct Unit)) (entry : BrickEntry),
      (((Desk.start settings).run acts).wait 0).dial? 0 = some (⟨"a", true⟩, entry) ∧
        let c := (Desk.start settings).run acts
        let d := c.after 0 (.undialed 0 (.transport "refused"))
        c.fleet.registry.standing? "a" = some (.ready, none) ∧ ¬ c.fleet.registry.Lost "a" ∧
          d.fleet.registry.standing? "a" =
            some (.unavailable, some "Connection lost: transport error: refused") ∧
          (d.fleet.pool.find? "a").isSome = true ∧ ¬ c.Spares d "a" := by
  let entry : BrickEntry := { id := "a", host := "localhost" }
  let settings : Settings := { bricks := [entry] }
  let attach : DeskAct Unit := .attach entry.identity {} (.ofCapacity 64) () ""
  let acts : List (Nat × DeskAct Unit) :=
    [attach, .startPoller { reconnects := true } (.ofMillis 1000), .drive 0 .dispose,
      .drive 0 .move, .drive 0 .move, .drive 0 .move, .poll "", .poll "", .poll "", .poll "",
      .poll "", attach].map ((0, ·))
  have hd : (((Desk.start settings).run acts).wait 0).dial? 0 = some (⟨"a", true⟩, entry) := by
    decide +kernel
  have hready : ((Desk.start settings).run acts).fleet.registry.standing? "a" =
      some (.ready, none) := by decide +kernel
  have hregained : ((Desk.start settings).run acts).fleet.registry.Regained "a" :=
    ⟨_, hready, by decide⟩
  have hnot : ¬ ((Desk.start settings).run acts).Spares
      (((Desk.start settings).run acts).after 0 (.undialed 0 (.transport "refused"))) "a" :=
    fun h => (Desk.spares_iff (Desk.after_undialed_again hd _)).mp h hregained
  exact ⟨settings, acts, entry, hd, hready,
    fun h => Registry.not_regained_iff.mpr (.inl h) hregained, by decide +kernel,
    by decide +kernel, hnot⟩

end BrickHost
