import Mathlib.Data.List.Basic
import Mathlib.Data.List.Induction
import BrickHost.Proofs.Registry.History

/-! The record of a brick, told from what happened to this brick alone. Each part of a record is what
the last change of its kind left. -/

namespace BrickHost

theorem exists_since_snoc_iff {α : Type} (P Q : α → Prop) {acts : List α} {act : α} :
    (∃ early x late, acts ++ [act] = early ++ x :: late ∧ P x ∧ ∀ y ∈ late, Q y) ↔
      P act ∨ Q act ∧ ∃ early x late, acts = early ++ x :: late ∧ P x ∧ ∀ y ∈ late, Q y := by
  have hall : ∀ late : List α, (∀ y ∈ late, Q y) ↔ ∀ part y rest, late = part ++ y :: rest → Q y := by
    intro late
    constructor
    · rintro h part y rest rfl
      exact h y (by simp)
    · intro h y hy
      obtain ⟨part, rest, rfl⟩ := List.append_of_mem hy
      exact h part y rest rfl
  simp only [hall]
  exact exists_since_prefix_snoc_iff (fun _ => P) (fun _ => Q) acts act

/-- Something that took effect on one brick. -/
inductive Change (κ : Type) where
  | connecting (identity : BrickIdentity)
  | ready (identity : BrickIdentity) (files control : κ) (stamp : String)
  | lost (reason : String)
  | failed (reason : String)
  | measured (metrics : RuntimeMetrics)
  | noted (operation stamp : String)

namespace Change

variable {κ : Type}

@[simp] def identity? : Change κ → Option BrickIdentity
  | connecting identity | ready identity .. => some identity
  | _ => none

/-- The status that it leaves, and the reason. -/
@[simp] def standing? : Change κ → Option (BrickStatus × Option String)
  | connecting _ => some (.connecting, none)
  | ready .. => some (.ready, none)
  | lost reason => some (.unavailable, some reason)
  | failed reason => some (.error, some reason)
  | measured _ | noted .. => none

/-- The handles that it leaves; whatever changes the status takes older ones away. -/
@[simp] def handles? : Change κ → Option (Option (κ × κ))
  | ready _ files control _ => some (some (files, control))
  | connecting _ | lost _ | failed _ => some none
  | measured _ | noted .. => none

@[simp] def busy? : Change κ → Option Nat
  | connecting _ | ready .. | lost _ => some 0
  | measured metrics => metrics.busy
  | failed _ | noted .. => none

@[simp] def schedulerState? : Change κ → Option (Option SchedulerState)
  | connecting _ | ready .. | lost _ => some none
  | measured metrics => metrics.schedulerState.map some
  | failed _ | noted .. => none

@[simp] def operation? : Change κ → Option (String × String)
  | noted operation stamp => some (operation, stamp)
  | _ => none

@[simp] def seen? : Change κ → Option String
  | ready _ _ _ stamp | noted _ stamp => some stamp
  | measured metrics => metrics.lastSeen
  | connecting _ | lost _ | failed _ => none

end Change

/-- What has happened to a brick since it was last removed, the earliest first. -/
abbrev Chronicle (κ : Type) := List (Change κ)

namespace Chronicle

variable {κ α : Type}

/-- What the last change of a kind left. -/
def last? (f : Change κ → Option α) (c : Chronicle κ) : Option α :=
  (c.filterMap f).getLast?

@[simp] theorem last?_nil (f : Change κ → Option α) : last? f ([] : Chronicle κ) = none := rfl

@[simp] theorem last?_snoc (f : Change κ → Option α) (c : Chronicle κ) (x : Change κ) :
    last? f (c ++ [x]) = (f x).or (last? f c) := by
  cases h : f x <;> simp [last?, h]

theorem last?_eq_some_iff (f : Change κ → Option α) {c : Chronicle κ} {a : α} :
    last? f c = some a ↔
      ∃ early x late, c = early ++ x :: late ∧ f x = some a ∧ ∀ y ∈ late, f y = none := by
  induction c using List.reverseRecOn with
  | nil => simp
  | append_singleton c x ih =>
    rw [last?_snoc, Option.or_eq_some_iff, ih]
    exact (exists_since_snoc_iff (fun x => f x = some a) fun y => f y = none).symm

def standing (c : Chronicle κ) : Option (BrickStatus × Option String) :=
  c.last? Change.standing?

/-- The record of a brick to which this has happened. -/
def record? (c : Chronicle κ) (id : String) : Option (BrickRecord κ) :=
  c.standing.map fun (status, reason) => {
    identity := (c.last? Change.identity?).getD { id := id, displayName := id, transport := .mock }
    status := status
    lastError := reason
    lastSeen := c.last? Change.seen?
    lastOperation := (c.last? Change.operation?).map (·.1)
    lastOperationAt := (c.last? Change.operation?).map (·.2)
    busy := (c.last? Change.busy?).getD 0
    schedulerState := (c.last? Change.schedulerState?).join
    files := (c.last? Change.handles?).join.map (·.1)
    control := (c.last? Change.handles?).join.map (·.2) }

end Chronicle

namespace RegistryAct

variable {κ : Type}

/-- The brick that an act names, `none` if it is about all of them. -/
def brick? : RegistryAct κ → Option String
  | connecting identity | ready identity .. => some identity.id
  | unavailable id _ | error id _ | remove id | activate id | measure id _ | note id .. => some id
  | allUnavailable _ => none

def concerns (id : String) (act : RegistryAct κ) : Bool :=
  act.brick?.all (· == id)

/-- The act enters the brick if it has no record. -/
def Enters (id : String) : RegistryAct κ → Prop
  | connecting identity | ready identity .. => identity.id = id
  | error brick _ => brick = id
  | _ => False

/-- What an act changes about a brick that it concerns and that stands so. Being marked with all
others changes only a live brick. -/
def change? (standing : Option (BrickStatus × Option String)) : RegistryAct κ → Option (Change κ)
  | connecting identity => some (.connecting identity)
  | ready identity files control stamp => some (.ready identity files control stamp)
  | unavailable _ reason => if standing.isSome then some (.lost reason) else none
  | error _ reason => some (.failed reason)
  | allUnavailable reason => if standing.any (·.1.isLive) then some (.lost reason) else none
  | measure _ metrics => if standing.isSome then some (.measured metrics) else none
  | note _ operation stamp => if standing.isSome then some (.noted operation stamp) else none
  | remove _ | activate _ => none

end RegistryAct

namespace Chronicle

variable {κ : Type} {c : Chronicle κ} {id : String}

def extend (id : String) (c : Chronicle κ) (act : RegistryAct κ) : Chronicle κ :=
  if act.concerns id then
    match act with
    | .remove _ => []
    | act => c ++ (act.change? c.standing).toList
  else c

/-- The chronicle of a brick in a history of the registry. -/
def ofActs (id : String) (acts : List (RegistryAct κ)) : Chronicle κ :=
  acts.foldl (extend id) []

theorem ofActs_snoc (id : String) (acts : List (RegistryAct κ)) (act : RegistryAct κ) :
    ofActs id (acts ++ [act]) = (ofActs id acts).extend id act := by
  simp [ofActs]

/-- Nothing counts but what concerns the brick. -/
theorem ofActs_filter (id : String) (acts : List (RegistryAct κ)) :
    ofActs id (acts.filter (·.concerns id)) = ofActs id acts := by
  rw [ofActs, List.foldl_filter]
  congr
  funext c act
  by_cases hc : act.concerns id = true <;> simp [extend, hc]

section Snoc

theorem standing_snoc (x : Change κ) : standing (c ++ [x]) = x.standing?.or c.standing :=
  last?_snoc ..

theorem standing_eq_map (id : String) : c.standing = (c.record? id).map (·.standing) := by
  rw [record?, Option.map_map]
  exact Option.map_id'.symm

theorem record?_snoc_connecting (identity : BrickIdentity) :
    record? (c ++ [Change.connecting identity]) id = some {
      identity := identity
      status := .connecting
      lastSeen := c.last? Change.seen?
      lastOperation := (c.last? Change.operation?).map (·.1)
      lastOperationAt := (c.last? Change.operation?).map (·.2) } := by
  simp [record?, standing_snoc]

theorem record?_snoc_ready (identity : BrickIdentity) (files control : κ) (stamp : String) :
    record? (c ++ [Change.ready identity files control stamp]) id = some {
      identity := identity
      status := .ready
      lastSeen := some stamp
      lastOperation := (c.last? Change.operation?).map (·.1)
      lastOperationAt := (c.last? Change.operation?).map (·.2)
      files := some files
      control := some control } := by
  simp [record?, standing_snoc]

theorem record?_snoc_lost (hc : c.standing.isSome = true) (reason : String) :
    record? (c ++ [Change.lost reason]) id = (c.record? id).map (·.lose reason) := by
  obtain ⟨stands, hs⟩ := Option.isSome_iff_exists.mp hc
  simp [record?, standing_snoc, hs, BrickRecord.lose]

theorem record?_snoc_failed (hc : c.standing.isSome = true) (reason : String) :
    record? (c ++ [Change.failed reason]) id = (c.record? id).map (·.fail reason) := by
  obtain ⟨stands, hs⟩ := Option.isSome_iff_exists.mp hc
  simp [record?, standing_snoc, hs, BrickRecord.fail]

theorem record?_snoc_measured (m : RuntimeMetrics) :
    record? (c ++ [Change.measured m]) id = (c.record? id).map (·.measure m) := by
  have hbusy : (m.busy.or (c.last? Change.busy?)).getD 0 =
      m.busy.getD ((c.last? Change.busy?).getD 0) := by
    cases m.busy <;> rfl
  have hstate : ((m.schedulerState.map some).or (c.last? Change.schedulerState?)).join =
      m.schedulerState.or (c.last? Change.schedulerState?).join := by
    cases m.schedulerState <;> rfl
  simp [record?, standing_snoc, BrickRecord.measure, Function.comp_def, hbusy, hstate]

theorem record?_snoc_noted (operation stamp : String) :
    record? (c ++ [Change.noted operation stamp]) id =
      (c.record? id).map (·.note operation stamp) := by
  simp [record?, standing_snoc, BrickRecord.note, Function.comp_def]

end Snoc

/-- A brick has a status as soon as anything has happened to it. -/
def Begun (c : Chronicle κ) : Prop :=
  c.standing = none → c = []

theorem Begun.snoc {x : Change κ} (hx : (x.standing?.or c.standing).isSome = true) :
    Begun (c ++ [x]) := by
  intro hn
  rw [standing_snoc] at hn
  rw [hn] at hx
  cases hx

/-- What the record of a brick hands on to the next one. -/
theorem Begun.handed_on (h : c.Begun) (id : String) :
    (c.record? id).bind (·.lastSeen) = c.last? Change.seen? ∧
    (c.record? id).bind (·.lastOperation) = (c.last? Change.operation?).map (·.1) ∧
    (c.record? id).bind (·.lastOperationAt) = (c.last? Change.operation?).map (·.2) := by
  cases hs : c.standing with
  | none =>
    rw [h hs]
    exact ⟨rfl, rfl, rfl⟩
  | some stands => simp [record?, hs]

theorem record?_eq_none_iff : c.record? id = none ↔ c.standing = none := by
  simp [record?]

theorem find?_setActive (r : Registry κ) (brick id : String) :
    (r.setActive brick).find? id = r.find? id := by
  unfold Registry.setActive
  split <;> rfl

theorem find?_act_of_not_concerns {r : Registry κ} {act : RegistryAct κ}
    (h : act.concerns id = false) : (r.act act).find? id = r.find? id := by
  have hne : ∀ {other : String}, act.brick? = some other → id ≠ other := by
    rintro other hb rfl
    simp [RegistryAct.concerns, hb] at h
  cases act with
  | connecting identity => exact (r.find?_put ..).trans (if_neg (hne rfl))
  | ready identity files control stamp => exact (r.find?_put ..).trans (if_neg (hne rfl))
  | unavailable other reason => exact (r.find?_markUnavailable ..).trans (if_neg (hne rfl))
  | error other reason => exact (r.find?_put ..).trans (if_neg (hne rfl))
  | allUnavailable reason => simp [RegistryAct.concerns, RegistryAct.brick?] at h
  | remove other => exact (r.find?_remove ..).trans (if_neg (hne rfl))
  | activate other => exact find?_setActive r other id
  | measure other metrics => exact (r.find?_revise ..).trans (if_neg (hne rfl))
  | note other operation stamp => exact (r.find?_revise ..).trans (if_neg (hne rfl))

/-- The chronicle of a brick tells the record that the brick has. -/
structure Tells (id : String) (r : Registry κ) (c : Chronicle κ) : Prop where
  begun : c.Begun
  record : r.find? id = c.record? id

namespace Tells

variable {r s : Registry κ}

theorem snoc {x : Change κ} (hx : (x.standing?.or c.standing).isSome = true)
    (hs : s.find? id = record? (c ++ [x]) id) : Tells id s (c ++ [x]) :=
  ⟨.snoc hx, hs⟩

theorem snoc_if (h : Tells id r c) {x : Change κ} {p : Bool}
    (hp : p = true → c.standing.isSome = true ∧ s.find? id = record? (c ++ [x]) id)
    (hn : p = false → s.find? id = r.find? id) :
    Tells id s (c ++ (if p then some x else none).toList) := by
  cases p with
  | true =>
    obtain ⟨hc, hs⟩ := hp rfl
    exact snoc (by simp [hc]) hs
  | false =>
    have hr : s.find? id = c.record? id := (hn rfl).trans h.record
    simpa using ⟨h.begun, hr⟩

/-- A change of a record there is counts from when there is one. -/
theorem snoc_revised (h : Tells id r c) {x : Change κ} {change : BrickRecord κ → BrickRecord κ}
    (hs : s.find? id = (r.find? id).map change)
    (hx : c.standing.isSome = true → record? (c ++ [x]) id = (c.record? id).map change) :
    Tells id s (c ++ (if c.standing.isSome then some x else none).toList) := by
  refine h.snoc_if (fun hc => ⟨hc, ?_⟩) fun hc => ?_
  · rw [hs, hx hc, h.record]
  · have hn : r.find? id = none := by
      rw [h.record, record?_eq_none_iff]
      simpa using hc
    rw [hs, hn]
    rfl

theorem standing (h : Tells id r c) : c.standing = (r.find? id).map (·.standing) := by
  rw [standing_eq_map id, h.record]

/-- Being marked with all others counts for a live brick. -/
theorem snoc_all (h : Tells id r c) (hr : r.Keyed) (reason : String) :
    Tells id (r.markAllUnavailable reason)
      (c ++ (if c.standing.any (·.1.isLive) then some (Change.lost reason) else none).toList) := by
  have hf := hr.find?_markAllUnavailable reason id
  rw [h.standing]
  cases hrec : r.find? id with
  | none =>
    refine h.snoc_if (fun hl => by simp at hl) fun _ => ?_
    rw [hf, hrec]
    rfl
  | some record =>
    have hc : c.standing.isSome = true := by
      rw [h.standing, hrec]
      rfl
    rw [hrec] at hf
    refine h.snoc_if (fun hl => ⟨hc, ?_⟩) fun hl => ?_
    · have hl : record.status.isLive = true := hl
      rw [record?_snoc_lost hc, ← h.record, hrec, hf]
      simp [hl]
    · have hl : record.status.isLive = false := hl
      rw [hf, hrec]
      simp [hl]

/-- Each act adds to the chronicle what it makes of the record. -/
theorem act (h : Tells id r c) (hr : r.Keyed) (act : RegistryAct κ) :
    Tells id (r.act act) (c.extend id act) := by
  by_cases hc : act.concerns id = true
  swap
  · have hc : act.concerns id = false := by simpa using hc
    have he : c.extend id act = c := by simp [extend, hc]
    rw [he]
    exact ⟨h.begun, (find?_act_of_not_concerns hc).trans h.record⟩
  have hid : ∀ {other : String}, act.brick? = some other → other = id := by
    intro other hb
    simpa [RegistryAct.concerns, hb] using hc
  obtain ⟨hseen, hop, hat⟩ := h.begun.handed_on id
  unfold extend
  rw [if_pos hc]
  cases act with
  | connecting identity =>
    have hi : identity.id = id := hid rfl
    refine snoc rfl ?_
    rw [record?_snoc_connecting, ← hseen, ← hop, ← hat, ← h.record, ← hi]
    exact (r.find?_put ..).trans (if_pos rfl)
  | ready identity files control stamp =>
    have hi : identity.id = id := hid rfl
    refine snoc rfl ?_
    rw [record?_snoc_ready, ← hop, ← hat, ← h.record, ← hi]
    exact (r.find?_put ..).trans (if_pos rfl)
  | unavailable other reason =>
    obtain rfl : id = other := (hid rfl).symm
    exact h.snoc_revised ((r.find?_markUnavailable ..).trans (if_pos rfl))
      fun hc => record?_snoc_lost hc reason
  | error other reason =>
    obtain rfl : id = other := (hid rfl).symm
    refine snoc rfl ((r.find?_put ..).trans ((if_pos rfl).trans ?_))
    rw [h.record]
    cases hs : c.standing with
    | none =>
      -- the record of its own that an unknown brick gets
      rw [h.begun hs]
      rfl
    | some stands =>
      have hsome : c.standing.isSome = true := by rw [hs]; rfl
      rw [record?_snoc_failed hsome]
      cases hrec : c.record? id with
      | none => rw [record?_eq_none_iff.mp hrec] at hs; cases hs
      | some record => rfl
  | allUnavailable reason =>
    exact h.snoc_all hr reason
  | remove other =>
    obtain rfl : id = other := (hid rfl).symm
    exact ⟨fun _ => rfl, (r.find?_remove ..).trans (if_pos rfl)⟩
  | activate other =>
    simpa [RegistryAct.change?] using ⟨h.begun, (find?_setActive r other id).trans h.record⟩
  | measure other metrics =>
    obtain rfl : id = other := (hid rfl).symm
    exact h.snoc_revised ((r.find?_revise ..).trans (if_pos rfl))
      fun _ => record?_snoc_measured metrics
  | note other operation stamp =>
    obtain rfl : id = other := (hid rfl).symm
    exact h.snoc_revised ((r.find?_revise ..).trans (if_pos rfl))
      fun _ => record?_snoc_noted operation stamp

theorem run (acts : List (RegistryAct κ)) : Tells id (Registry.run {} acts) (ofActs id acts) := by
  induction acts using List.reverseRecOn with
  | nil => exact ⟨fun _ => rfl, rfl⟩
  | append_singleton acts act ih =>
    rw [Registry.run_snoc, ofActs_snoc]
    exact ih.act (Registry.coherent_empty.run acts).keyed act

/-- Whether a reconnection is due can be read off the chronicle. -/
theorem lostLink_iff (h : Tells id r c) :
    (r.snapshot? id).any (·.lostLink) = true ↔
      ∃ early reason late, c = early ++ Change.lost reason :: late ∧
        linkLossStart.toList <+: reason.toList ∧ ∀ x ∈ late, x.standing? = none := by
  have hlast : (r.snapshot? id).any (·.lostLink) = true ↔
      ∃ reason, c.last? Change.standing? = some (.unavailable, some reason) ∧
        linkLossStart.toList <+: reason.toList := by
    show _ ↔ ∃ reason, c.standing = _ ∧ _
    rw [h.standing, Registry.snapshot?]
    cases r.find? id with
    | none => simp
    | some record =>
      cases hreason : record.lastError <;>
        simp [BrickSnapshot.lostLink, BrickRecord.snapshot, BrickRecord.standing, isLinkLoss, hreason]
  rw [hlast]
  constructor
  · rintro ⟨reason, hs, hr⟩
    obtain ⟨early, x, late, rfl, hx, hlate⟩ := (last?_eq_some_iff _).mp hs
    cases x with
    | lost other =>
      cases hx
      exact ⟨early, reason, late, rfl, hr, hlate⟩
    | connecting | ready | failed | measured | noted => cases hx
  · rintro ⟨early, reason, late, rfl, hr, hlate⟩
    exact ⟨reason, (last?_eq_some_iff _).mpr ⟨early, _, late, rfl, rfl, hlate⟩, hr⟩

end Tells

theorem isSome_standing_extend (c : Chronicle κ) (act : RegistryAct κ) :
    (c.extend id act).standing.isSome = true ↔
      act.Enters id ∨ c.standing.isSome = true ∧ act ≠ .remove id := by
  by_cases hc : act.concerns id = true
  swap
  · have hne : act ≠ .remove id := by
      rintro rfl
      simp [RegistryAct.concerns, RegistryAct.brick?] at hc
    have he : ¬act.Enters id := by
      cases act <;> simp_all [RegistryAct.concerns, RegistryAct.brick?, RegistryAct.Enters]
    simp [extend, hc, hne, he]
  have hid : ∀ {other : String}, act.brick? = some other → other = id := by
    intro other hb
    simpa [RegistryAct.concerns, hb] using hc
  unfold extend
  rw [if_pos hc]
  cases act with
  | connecting | ready | error =>
    refine iff_of_true ?_ (.inl (hid rfl))
    simp [RegistryAct.change?, standing_snoc]
  | remove other =>
    obtain rfl : id = other := (hid rfl).symm
    simp [RegistryAct.Enters, standing]
  | activate => simp [RegistryAct.Enters, RegistryAct.change?]
  | unavailable | measure | note =>
    cases hs : c.standing <;>
      simp [RegistryAct.Enters, RegistryAct.change?, standing_snoc, hs]
  | allUnavailable reason =>
    cases hs : c.standing with
    | none => simp [RegistryAct.Enters, RegistryAct.change?, hs]
    | some stands =>
      by_cases hl : stands.1.isLive = true <;>
        simp [RegistryAct.Enters, RegistryAct.change?, standing_snoc, hs, hl]

/-- A brick has a status from when it is entered to when it is removed. -/
theorem isSome_standing_iff (acts : List (RegistryAct κ)) :
    (ofActs id acts).standing.isSome = true ↔
      ∃ early act late, acts = early ++ act :: late ∧ act.Enters id ∧
        ∀ later ∈ late, later ≠ .remove id := by
  induction acts using List.reverseRecOn with
  | nil => simp [ofActs, standing]
  | append_singleton acts act ih =>
    rw [ofActs_snoc, isSome_standing_extend, ih, and_comm]
    exact (exists_since_snoc_iff (RegistryAct.Enters id) (· ≠ RegistryAct.remove id)).symm

end Chronicle

/-- However a registry came about from empty, the record of a brick is the one that the brick's own
chronicle tells, which is made of the acts that name the brick and of the ones on all. There is a
record exactly if the brick was entered and not removed since, and its link counts as lost exactly
if the last change of its status was a loss for such a reason. The live bricks are marked in any
order with the same outcome. -/
theorem record_is_chronicled {κ : Type} (acts : List (RegistryAct κ)) (id : String) :
    let r := Registry.run {} acts
    let c := Chronicle.ofActs id acts
    r.find? id = c.record? id ∧
    Chronicle.ofActs id (acts.filter (·.concerns id)) = c ∧
    ((r.find? id).isSome = true ↔
      ∃ early act late, acts = early ++ act :: late ∧ act.Enters id ∧
        ∀ later ∈ late, later ≠ .remove id) ∧
    ((r.snapshot? id).any (·.lostLink) = true ↔
      ∃ early reason late, c = early ++ Change.lost reason :: late ∧
        linkLossStart.toList <+: reason.toList ∧ ∀ x ∈ late, x.standing? = none) ∧
    ∀ reason order, order.Perm r.liveIds → r.markEach reason order = r.markAllUnavailable reason := by
  intro r c
  have htells : Chronicle.Tells id r c := .run acts
  refine ⟨htells.record, Chronicle.ofActs_filter id acts, ?_, htells.lostLink_iff,
    fun reason order => (Registry.coherent_empty.run acts).keyed.markEach_perm reason⟩
  rw [← Chronicle.isSome_standing_iff, htells.standing, Option.isSome_map]

end BrickHost
