import Mathlib.Data.List.Basic
import BrickHost.Proofs.Registry.Records

/-! Histories of a registry, from empty on: whatever is done to it and in whatever order, its records
and the active brick fit together. -/

namespace BrickHost

/-- In a history, something has happened at some point and nothing but the like since, where it may
matter what was before. -/
theorem exists_since_prefix_snoc_iff {α : Type} (P Q : List α → α → Prop) (acts : List α)
    (act : α) :
    (∃ early x late, acts ++ [act] = early ++ x :: late ∧ P early x ∧
      ∀ part y rest, late = part ++ y :: rest → Q (early ++ x :: part) y) ↔
    P acts act ∨ Q acts act ∧ ∃ early x late, acts = early ++ x :: late ∧ P early x ∧
      ∀ part y rest, late = part ++ y :: rest → Q (early ++ x :: part) y := by
  constructor
  · rintro ⟨early, x, late, hacts, hx, hlate⟩
    -- Either the last act is the one that counts, or it came before and the last act is the like.
    rcases late.eq_nil_or_concat' with rfl | ⟨late, z, rfl⟩
    · obtain ⟨rfl, hax⟩ := List.append_inj' hacts rfl
      cases hax
      exact .inl hx
    · rw [← List.cons_append, ← List.append_assoc] at hacts
      obtain ⟨rfl, haz⟩ := List.append_inj' hacts rfl
      cases haz
      refine .inr ⟨hlate late act [] rfl, early, x, late, rfl, hx, ?_⟩
      rintro part y rest rfl
      exact hlate part y (rest ++ [act]) (by simp)
  · rintro (hx | ⟨hact, early, x, late, rfl, hx, hlate⟩)
    · exact ⟨acts, act, [], rfl, hx, by simp⟩
    · refine ⟨early, x, late ++ [act], by simp, hx, fun part y rest he => ?_⟩
      rcases rest.eq_nil_or_concat' with rfl | ⟨rest, z, rfl⟩
      · obtain ⟨rfl, hz⟩ := List.append_inj' he rfl
        cases hz
        exact hact
      · rw [← List.cons_append, ← List.append_assoc] at he
        obtain ⟨rfl, -⟩ := List.append_inj' he rfl
        exact hlate part y rest rfl

/-- Everything that changes a registry. -/
inductive RegistryAct (κ : Type) where
  | connecting (identity : BrickIdentity)
  | ready (identity : BrickIdentity) (files control : κ) (stamp : String)
  | unavailable (id reason : String)
  | error (id reason : String)
  | allUnavailable (reason : String)
  | remove (id : String)
  | activate (id : String)
  | measure (id : String) (metrics : RuntimeMetrics)
  | note (id operation stamp : String)

@[simp] theorem BrickRecord.lose_lose {κ : Type} (record : BrickRecord κ) (early late : String) :
    (record.lose early).lose late = record.lose late := rfl

namespace Registry

variable {κ : Type} {r : Registry κ} {id : String} {record : BrickRecord κ}

def act (r : Registry κ) : RegistryAct κ → Registry κ
  | .connecting identity => r.connecting identity
  | .ready identity files control stamp => r.ready identity files control stamp
  | .unavailable id reason => r.markUnavailable id reason
  | .error id reason => r.markError id reason
  | .allUnavailable reason => r.markAllUnavailable reason
  | .remove id => r.remove id
  | .activate id => r.setActive id
  | .measure id metrics => r.measure id metrics
  | .note id operation stamp => r.note id operation stamp

def run (r : Registry κ) (acts : List (RegistryAct κ)) : Registry κ :=
  acts.foldl act r

theorem run_snoc (r : Registry κ) (acts : List (RegistryAct κ)) (act : RegistryAct κ) :
    r.run (acts ++ [act]) = (r.run acts).act act := by
  simp [run]

section Bulk

/-- The bricks that are marked when all become unavailable. -/
def liveIds (r : Registry κ) : List String :=
  (r.records.filter fun entry => entry.2.status.isLive).map (·.2.identity.id)

def markEach (r : Registry κ) (reason : String) (ids : List String) : Registry κ :=
  ids.foldl (fun r id => r.markUnavailable id reason) r

theorem markAllUnavailable_eq (r : Registry κ) (reason : String) :
    r.markAllUnavailable reason = r.markEach reason r.liveIds := rfl

theorem Keyed.mem_liveIds (h : r.Keyed) :
    id ∈ r.liveIds ↔ ∃ record, r.find? id = some record ∧ record.status.isLive = true := by
  constructor
  · intro hm
    obtain ⟨entry, he, rfl⟩ := List.mem_map.mp hm
    obtain ⟨hr, hl⟩ := List.mem_filter.mp he
    refine ⟨entry.2, h.find?_of_mem ?_, hl⟩
    rw [h.own entry hr]
    exact hr
  · rintro ⟨record, hr, hl⟩
    refine List.mem_map.mpr ⟨(id, record), ?_, h.id_of_find? hr⟩
    exact List.mem_filter.mpr ⟨mem_of_find? hr, hl⟩

theorem find?_markEach (r : Registry κ) (reason : String) (ids : List String) (id : String) :
    (r.markEach reason ids).find? id =
      if id ∈ ids then (r.find? id).map (·.lose reason) else r.find? id := by
  induction ids generalizing r with
  | nil => rfl
  | cons first rest ih =>
    have hstep : r.markEach reason (first :: rest) = (r.markUnavailable first reason).markEach
      reason rest := rfl
    rw [hstep, ih, find?_markUnavailable]
    by_cases hf : id = first
    · subst hf
      by_cases hr : id ∈ rest <;> simp [hr, Function.comp_def]
    · by_cases hr : id ∈ rest <;> simp [hf, hr]

/-- Exactly the bricks that are live then become unavailable. -/
theorem Keyed.find?_markAllUnavailable (h : r.Keyed) (reason id : String) :
    (r.markAllUnavailable reason).find? id =
      (r.find? id).map fun record =>
        if record.status.isLive then record.lose reason else record := by
  rw [markAllUnavailable_eq, find?_markEach]
  cases hr : r.find? id with
  | none => simp
  | some record =>
    have hm : id ∈ r.liveIds ↔ record.status.isLive = true := by simp [h.mem_liveIds, hr]
    by_cases hl : record.status.isLive = true <;> simp [hm, hl]

theorem putIn_eq_map {records : List (String × BrickRecord κ)} (hn : (records.map (·.1)).Nodup)
    (hm : id ∈ records.map (·.1)) :
    putIn id record records =
      records.map fun entry => if entry.1 = id then (id, record) else entry := by
  induction records with
  | nil => simp at hm
  | cons first rest ih =>
    obtain ⟨key, old⟩ := first
    obtain ⟨hk, hr⟩ := List.nodup_cons.mp hn
    by_cases he : key = id
    · have hrest : ∀ entry ∈ rest, entry.1 ≠ id := by
        rintro ⟨_, value⟩ hentry rfl
        exact hk (he ▸ List.mem_map_of_mem (f := (·.1)) hentry)
      have hmap : (rest.map fun entry => if entry.1 = id then (id, record) else entry) = rest := by
        rw [List.map_congr_left fun entry hentry => if_neg (hrest entry hentry), List.map_id']
      simp [putIn, he, hmap]
    · have hi : id ∈ rest.map (·.1) := by
        rcases List.mem_cons.mp hm with hi | hi
        · exact absurd hi.symm he
        · exact hi
      simp [putIn, he, ih hr hi]

theorem Keyed.records_markUnavailable (h : r.Keyed) (id reason : String) :
    (r.markUnavailable id reason).records =
      r.records.map fun entry => if entry.1 = id then (id, entry.2.lose reason) else entry := by
  rw [markUnavailable_records, Registry.revise]
  cases hf : r.find? id with
  | none =>
    have hne : ∀ entry ∈ r.records, entry.1 ≠ id := by
      rintro entry he rfl
      rw [h.find?_of_mem he] at hf
      cases hf
    rw [List.map_congr_left fun entry he => if_neg (hne entry he), List.map_id']
  | some record =>
    have hm : id ∈ r.records.map (·.1) := List.mem_map_of_mem (mem_of_find? hf)
    refine (putIn_eq_map h.nodup hm).trans ?_
    refine List.map_congr_left fun entry he => ?_
    split
    · next hi =>
      subst hi
      cases (h.find?_of_mem he).symm.trans hf
      rfl
    · rfl

theorem Keyed.records_markEach (h : r.Keyed) (reason : String) (ids : List String) :
    (r.markEach reason ids).records =
      r.records.map fun entry =>
        if entry.1 ∈ ids then (entry.1, entry.2.lose reason) else entry := by
  induction ids generalizing r with
  | nil => simp [markEach]
  | cons first rest ih =>
    show ((r.markUnavailable first reason).markEach reason rest).records = _
    rw [ih (h.markUnavailable first reason), h.records_markUnavailable, List.map_map]
    refine List.map_congr_left fun entry _ => ?_
    by_cases hf : entry.1 = first <;> by_cases hr : entry.1 ∈ rest <;>
      simp [hf, hr]

theorem markUnavailable_active (r : Registry κ) (id reason : String) :
    (r.markUnavailable id reason).active =
      if r.contains id = true ∧ r.active = some id then none else r.active := by
  unfold markUnavailable contains
  cases hf : r.find? id with
  | none => simp
  | some record =>
    by_cases ha : r.active = some id <;> simp [deactivate, isActive, put, ha]

theorem markEach_active (r : Registry κ) (reason : String) (ids : List String) :
    (r.markEach reason ids).active =
      if ∃ id ∈ ids, r.contains id = true ∧ r.active = some id then none else r.active := by
  induction ids generalizing r with
  | nil => simp [markEach]
  | cons first rest ih =>
    show ((r.markUnavailable first reason).markEach reason rest).active = _
    have hc : ∀ id, (r.markUnavailable first reason).contains id = r.contains id := by
      intro id
      unfold contains
      rw [find?_markUnavailable]
      split
      · next hi => rw [hi, Option.isSome_map]
      · rfl
    rw [ih]
    simp only [hc, markUnavailable_active, List.mem_cons]
    by_cases hf : r.contains first = true ∧ r.active = some first
    · simp [hf]
    · simp [hf]

theorem eq_of_fields {s : Registry κ} (hr : r.records = s.records) (ha : r.active = s.active) :
    r = s := by
  cases r
  cases s
  cases hr
  cases ha
  rfl

/-- In whatever order the live bricks are visited, the outcome is the same. -/
theorem Keyed.markEach_perm (h : r.Keyed) (reason : String) {order : List String}
    (hp : order.Perm r.liveIds) : r.markEach reason order = r.markAllUnavailable reason := by
  have hr : (r.markEach reason order).records = (r.markAllUnavailable reason).records := by
    rw [markAllUnavailable_eq, h.records_markEach, h.records_markEach]
    simp only [hp.mem_iff]
  have ha : (r.markEach reason order).active = (r.markAllUnavailable reason).active := by
    rw [markAllUnavailable_eq, markEach_active, markEach_active]
    simp only [hp.mem_iff]
  exact eq_of_fields hr ha

end Bulk

end Registry

/-- A record has its handles exactly while the brick is ready, and a reason exactly while the brick
is unavailable or in error. -/
structure BrickRecord.Consistent {κ : Type} (record : BrickRecord κ) : Prop where
  files : record.files.isSome = true ↔ record.status = .ready
  control : record.control.isSome = true ↔ record.status = .ready
  reason : record.lastError.isSome = true ↔ record.status = .unavailable ∨ record.status = .error

namespace BrickRecord.Consistent

variable {κ : Type} {record : BrickRecord κ}

theorem lose (record : BrickRecord κ) (reason : String) : (record.lose reason).Consistent := by
  constructor <;> simp [BrickRecord.lose]

theorem fail (record : BrickRecord κ) (reason : String) : (record.fail reason).Consistent := by
  constructor <;> simp [BrickRecord.fail]

theorem measure (h : record.Consistent) (m : RuntimeMetrics) : (record.measure m).Consistent :=
  ⟨h.files, h.control, h.reason⟩

theorem note (h : record.Consistent) (operation now : String) :
    (record.note operation now).Consistent :=
  ⟨h.files, h.control, h.reason⟩

end BrickRecord.Consistent

namespace Registry

variable {κ : Type} {r : Registry κ} {id : String} {record : BrickRecord κ}

/-- The records stand under their ids and are consistent, and an active brick has one. -/
structure Coherent (r : Registry κ) : Prop where
  keyed : r.Keyed
  active : ∀ id, r.active = some id → r.contains id = true
  consistent : ∀ id record, r.find? id = some record → record.Consistent

section Coherent

theorem coherent_empty : ({} : Registry κ).Coherent where
  keyed := ⟨List.nodup_nil, fun _ he => nomatch he⟩
  active _ ha := nomatch ha
  consistent _ _ hf := nomatch hf

theorem Coherent.put (h : r.Coherent) (hi : record.identity.id = id) (hc : record.Consistent) :
    (r.put id record).Coherent where
  keyed := h.keyed.put hi
  active other ha := by
    have hother : r.contains other = true := h.active other ha
    unfold contains at hother ⊢
    rw [find?_put]
    split
    · rfl
    · exact hother
  consistent other found hf := by
    rw [find?_put] at hf
    split at hf
    · cases hf
      exact hc
    · exact h.consistent other found hf

theorem Coherent.activate (h : r.Coherent) (hc : r.contains id = true) :
    ({ r with active := some id } : Registry κ).Coherent where
  keyed := h.keyed.activate _
  active other ha := by
    cases ha
    exact hc
  consistent := h.consistent

theorem Coherent.deactivate (h : r.Coherent) (id : String) : (r.deactivate id).Coherent := by
  unfold Registry.deactivate
  split
  · exact ⟨h.keyed.activate none, fun _ ha => (nomatch ha), h.consistent⟩
  · exact h

theorem contains_put (r : Registry κ) (id : String) (record : BrickRecord κ) :
    (r.put id record).contains id = true := by
  simp [contains]

theorem Coherent.revise (h : r.Coherent) (id : String) {change : BrickRecord κ → BrickRecord κ}
    (hi : ∀ record, (change record).identity = record.identity)
    (hc : ∀ record, record.Consistent → (change record).Consistent) :
    (r.revise id change).Coherent := by
  unfold Registry.revise
  cases hf : r.find? id with
  | none => exact h
  | some record =>
    refine h.put ?_ (hc record (h.consistent id record hf))
    rw [hi]
    exact h.keyed.id_of_find? hf

theorem markUnavailable_eq (r : Registry κ) (id reason : String) :
    r.markUnavailable id reason =
      if r.contains id = true then (r.revise id (·.lose reason)).deactivate id else r := by
  unfold markUnavailable revise contains
  cases r.find? id <;> rfl

theorem Coherent.markUnavailable (h : r.Coherent) (id reason : String) :
    (r.markUnavailable id reason).Coherent := by
  rw [markUnavailable_eq]
  split
  · have hr : (r.revise id (·.lose reason)).Coherent :=
      h.revise id (fun _ => rfl) fun record _ => .lose record reason
    exact hr.deactivate id
  · exact h

theorem Coherent.markEach (h : r.Coherent) (reason : String) (ids : List String) :
    (r.markEach reason ids).Coherent := by
  induction ids generalizing r with
  | nil => exact h
  | cons first rest ih => exact ih (h.markUnavailable first reason)

theorem Coherent.markError (h : r.Coherent) (id reason : String) :
    (r.markError id reason).Coherent := by
  refine h.put ?_ (.fail _ reason)
  show ((r.find? id).getD _).identity.id = id
  cases hf : r.find? id with
  | none => rfl
  | some record => exact h.keyed.id_of_find? hf

theorem remove_active (r : Registry κ) (id : String) :
    (r.remove id).active =
      if r.contains id = true ∧ r.active = some id then none else r.active := by
  unfold remove
  by_cases hc : r.contains id = true <;> by_cases ha : r.active = some id <;>
    simp [deactivate, isActive, hc, ha]

theorem Coherent.remove (h : r.Coherent) (id : String) : (r.remove id).Coherent where
  keyed := h.keyed.remove id
  active other ha := by
    rw [remove_active] at ha
    split at ha
    · cases ha
    · next hn =>
      have hother : r.contains other = true := h.active other ha
      have hne : other ≠ id := by
        rintro rfl
        exact hn ⟨hother, ha⟩
      unfold contains at hother ⊢
      rwa [find?_remove, if_neg hne]
  consistent other record hf := by
    rw [find?_remove] at hf
    split at hf
    · cases hf
    · exact h.consistent other record hf

/-- Every act keeps a registry coherent. -/
theorem Coherent.act (h : r.Coherent) (act : RegistryAct κ) : (r.act act).Coherent := by
  cases act with
  | connecting identity =>
    apply Coherent.activate
    · refine h.put rfl ?_
      constructor <;> simp
    · exact contains_put ..
  | ready identity files control stamp =>
    apply Coherent.activate
    · refine h.put rfl ?_
      constructor <;> simp
    · exact contains_put ..
  | unavailable id reason => exact h.markUnavailable id reason
  | error id reason => exact h.markError id reason
  | allUnavailable reason => exact h.markEach reason r.liveIds
  | remove id => exact h.remove id
  | activate id =>
    show (r.setActive id).Coherent
    unfold Registry.setActive
    split
    · next hc => exact h.activate hc
    · exact h
  | measure id metrics => exact h.revise id (fun _ => rfl) fun record hc => hc.measure metrics
  | note id operation stamp => exact h.revise id (fun _ => rfl) fun record hc => hc.note operation stamp

theorem Coherent.run (h : r.Coherent) (acts : List (RegistryAct κ)) : (r.run acts).Coherent := by
  induction acts generalizing r with
  | nil => exact h
  | cons act rest ih => exact ih (h.act act)

theorem Keyed.ids_list_perm (h : r.Keyed) : (r.list.map (·.id)).Perm (r.records.map (·.1)) := by
  have hs : r.snapshots.map (·.id) = r.records.map (·.1) := by
    rw [snapshots, List.map_map]
    exact List.map_congr_left fun entry he => h.own entry he
  rw [← hs]
  exact (List.mergeSort_perm _ _).map _

theorem contains_iff_mem : r.contains id = true ↔ id ∈ r.records.map (·.1) := by
  rw [contains, find?, List.lookup_isSome_iff]
  simp

theorem isActive_of_mem_list (h : r.Keyed) {s : BrickSnapshot} (hm : s ∈ r.list) :
    s.isActive = true ↔ r.active = some s.id := by
  obtain ⟨record, -, he⟩ := h.find?_of_mem_list hm
  have hs : s.isActive = r.isActive s.id := congrArg BrickSnapshot.isActive he
  rw [hs]
  simp [isActive]

theorem Coherent.active_ne (h : r.Coherent) {p : Prop} [Decidable p]
    (hp : r.contains id = true → r.active = some id → p) :
    (if p then none else r.active) ≠ some id := by
  intro ha
  split at ha
  · cases ha
  · next hn => exact hn (hp (h.active id ha) ha)

theorem Coherent.ready_of_resolve (h : r.Coherent) {α : Type} {kind : κ → Option α}
    (hr : r.resolveFiles kind id ≠ none ∨ r.resolveControl kind id ≠ none) :
    ∃ record, r.find? id = some record ∧ record.status = .ready := by
  cases hf : r.find? id with
  | none => simp [resolveFiles, resolveControl, hf] at hr
  | some record =>
    have hc := h.consistent id record hf
    refine ⟨record, rfl, ?_⟩
    rcases hr with hr | hr
    · apply hc.files.mp
      cases hh : record.files with
      | none => simp [resolveFiles, hf, hh] at hr
      | some handle => rfl
    · apply hc.control.mp
      cases hh : record.control with
      | none => simp [resolveControl, hf, hh] at hr
      | some handle => rfl

end Coherent

end Registry

/-- However a registry came about from empty: the active brick, if there is one, has a record; the
list shows each brick once, and as active exactly the active one; every record stands under its own
id and has its handles exactly while ready, so that none is resolved otherwise, and a reason exactly
while unavailable or in error; and a brick that has just been marked, by itself or with all others,
or removed, is not active. -/
theorem registry_stays_coherent {κ : Type} (acts : List (RegistryAct κ)) :
    let r := Registry.run {} acts
    (∀ id, r.active = some id → r.contains id = true) ∧
    ((r.list.map (·.id)).Nodup ∧ (∀ id, id ∈ r.list.map (·.id) ↔ r.contains id = true) ∧
      ∀ s ∈ r.list, s.isActive = true ↔ r.active = some s.id) ∧
    (∀ entry ∈ r.records, entry.2.identity.id = entry.1 ∧ entry.2.Consistent) ∧
    (∀ (α : Type) (kind : κ → Option α) id,
      r.resolveFiles kind id ≠ none ∨ r.resolveControl kind id ≠ none →
        ∃ record, r.find? id = some record ∧ record.status = .ready) ∧
    ∀ id reason, (r.markUnavailable id reason).active ≠ some id ∧ (r.remove id).active ≠ some id ∧
      (id ∈ r.liveIds → (r.markAllUnavailable reason).active ≠ some id) := by
  intro r
  have h : r.Coherent := Registry.coherent_empty.run acts
  have hperm := h.keyed.ids_list_perm
  refine ⟨h.active, ⟨hperm.nodup_iff.mpr h.keyed.nodup, fun id => ?_, fun s => ?_⟩, fun entry he => ?_,
    fun α kind id => h.ready_of_resolve, fun id reason => ⟨?_, ?_, fun hl => ?_⟩⟩
  · rw [hperm.mem_iff, Registry.contains_iff_mem]
  · exact Registry.isActive_of_mem_list h.keyed
  · exact ⟨h.keyed.own entry he, h.consistent entry.1 entry.2 (h.keyed.find?_of_mem he)⟩
  · rw [Registry.markUnavailable_active]
    exact h.active_ne fun hc ha => ⟨hc, ha⟩
  · rw [Registry.remove_active]
    exact h.active_ne fun hc ha => ⟨hc, ha⟩
  · rw [Registry.markAllUnavailable_eq, Registry.markEach_active]
    exact h.active_ne fun hc ha => ⟨id, hl, hc, ha⟩

end BrickHost
