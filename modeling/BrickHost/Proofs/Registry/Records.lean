import BrickHost.Registry.Basic

/-! What each operation of a registry does to the record of a brick. Every record stands under the
id of its brick, and no id has two. -/

namespace BrickHost

section Lookup

variable {α : Type} {other : String}

theorem lookup_cons_eq (key : String) (value : α) (rest : List (String × α)) :
    ((key, value) :: rest).lookup other = if other = key then some value else rest.lookup other := by
  by_cases ho : other = key
  · simp [ho]
  · have hb : (other == key) = false := by simpa using ho
    simp [List.lookup_cons, hb, ho]

theorem mem_of_lookup {entries : List (String × α)} {value : α}
    (h : entries.lookup other = some value) : (other, value) ∈ entries := by
  obtain ⟨before, after, he, -⟩ := List.lookup_eq_some_iff.mp h
  rw [he]
  simp

theorem lookup_filter (keep : String → Bool) (entries : List (String × α)) :
    (entries.filter (keep ·.1)).lookup other =
      if keep other = true then entries.lookup other else none := by
  induction entries with
  | nil => simp
  | cons entry rest ih =>
    obtain ⟨key, value⟩ := entry
    by_cases hk : keep key = true
    · by_cases ho : other = key
      · simp [hk, ho]
      · simp [hk, lookup_cons_eq, ho, ih]
    · have hne : keep other = true → other ≠ key := fun ho he => hk (he ▸ ho)
      rw [List.filter_cons_of_neg (by simpa using hk), ih]
      split
      · next ho => rw [lookup_cons_eq, if_neg (hne ho)]
      · rfl

theorem lookup_filter_ne (id : String) (entries : List (String × α)) :
    (entries.filter (·.1 != id)).lookup other = if other = id then none else entries.lookup other := by
  rw [lookup_filter (· != id)]
  by_cases ho : other = id <;> simp [ho]

end Lookup

def BrickRecord.standing {κ : Type} (r : BrickRecord κ) : BrickStatus × Option String :=
  (r.status, r.lastError)

namespace Registry

variable {κ : Type} {r : Registry κ} {id other : String} {record : BrickRecord κ}

def standing? (r : Registry κ) (id : String) : Option (BrickStatus × Option String) :=
  (r.find? id).map (·.standing)

theorem lookup_putIn (records : List (String × BrickRecord κ)) :
    (putIn id record records).lookup other =
      if other = id then some record else records.lookup other := by
  induction records with
  | nil => exact lookup_cons_eq id record []
  | cons entry rest ih =>
    obtain ⟨key, old⟩ := entry
    by_cases hk : key = id
    · by_cases ho : other = id <;> simp [putIn, lookup_cons_eq, hk, ho]
    · by_cases ho : other = key
      · simp [putIn, hk, ho]
      · simp [putIn, lookup_cons_eq, hk, ho, ih]

@[simp] theorem find?_put (r : Registry κ) (id : String) (record : BrickRecord κ) (other : String) :
    (r.put id record).find? other = if other = id then some record else r.find? other :=
  lookup_putIn r.records

@[simp] theorem find?_deactivate (r : Registry κ) (id other : String) :
    (r.deactivate id).find? other = r.find? other := by
  unfold deactivate
  split <;> rfl

def revise (r : Registry κ) (id : String) (change : BrickRecord κ → BrickRecord κ) : Registry κ :=
  match r.find? id with
  | none => r
  | some record => r.put id (change record)

theorem find?_revise (r : Registry κ) (id : String) (change : BrickRecord κ → BrickRecord κ)
    (other : String) :
    (r.revise id change).find? other =
      if other = id then (r.find? id).map change else r.find? other := by
  unfold revise
  cases h : r.find? id with
  | none => by_cases ho : other = id <;> simp [ho, h]
  | some record => simp

theorem measure_eq (r : Registry κ) (id : String) (m : RuntimeMetrics) :
    r.measure id m = r.revise id (·.measure m) := rfl

theorem note_eq (r : Registry κ) (id operation now : String) :
    r.note id operation now = r.revise id (·.note operation now) := rfl

theorem markUnavailable_records (r : Registry κ) (id reason : String) :
    (r.markUnavailable id reason).records = (r.revise id (·.lose reason)).records := by
  unfold markUnavailable revise
  cases h : r.find? id with
  | none => rfl
  | some record =>
    unfold deactivate
    dsimp only
    split <;> rfl

theorem find?_markUnavailable (r : Registry κ) (id reason other : String) :
    (r.markUnavailable id reason).find? other =
      if other = id then (r.find? id).map (·.lose reason) else r.find? other := by
  rw [find?, markUnavailable_records]
  exact r.find?_revise id _ other

theorem find?_remove (r : Registry κ) (id other : String) :
    (r.remove id).find? other = if other = id then none else r.find? other := by
  unfold remove
  split
  · rw [find?_deactivate]
    exact lookup_filter_ne id r.records
  · next h =>
    have hn : r.find? id = none := by simpa [contains] using h
    split
    · next ho => rw [ho, hn]
    · rfl

section Standing

theorem standing?_markUnavailable (r : Registry κ) (id reason other : String) :
    (r.markUnavailable id reason).standing? other =
      if other = id then (r.standing? id).map fun _ => (.unavailable, some reason)
      else r.standing? other := by
  by_cases ho : other = id
  · simp [standing?, find?_markUnavailable, ho, Function.comp_def, BrickRecord.standing,
      BrickRecord.lose]
  · simp [standing?, find?_markUnavailable, ho]

theorem standing?_markUnavailable_self (hf : (r.find? id).isSome = true) (reason : String) :
    (r.markUnavailable id reason).standing? id = some (.unavailable, some reason) := by
  obtain ⟨record, hr⟩ := Option.isSome_iff_exists.mp hf
  rw [standing?_markUnavailable, if_pos rfl, standing?, hr]
  rfl

theorem standing?_put (r : Registry κ) (id : String) (record : BrickRecord κ) (other : String) :
    (r.put id record).standing? other =
      if other = id then some record.standing else r.standing? other := by
  by_cases ho : other = id <;> simp [standing?, ho]

theorem standing?_markError (r : Registry κ) (id reason other : String) :
    (r.markError id reason).standing? other =
      if other = id then some (.error, some reason) else r.standing? other :=
  standing?_put r id _ other

theorem standing?_connecting (r : Registry κ) (identity : BrickIdentity) (other : String) :
    (r.connecting identity).standing? other =
      if other = identity.id then some (.connecting, none) else r.standing? other :=
  standing?_put r identity.id _ other

theorem standing?_ready (r : Registry κ) (identity : BrickIdentity) (files control : κ)
    (now other : String) :
    (r.ready identity files control now).standing? other =
      if other = identity.id then some (.ready, none) else r.standing? other :=
  standing?_put r identity.id _ other

@[simp] theorem standing?_measure (r : Registry κ) (id : String) (m : RuntimeMetrics)
    (other : String) : (r.measure id m).standing? other = r.standing? other := by
  rw [measure_eq]
  by_cases ho : other = id <;>
    simp [standing?, find?_revise, ho, Function.comp_def, BrickRecord.standing,
      BrickRecord.measure]

@[simp] theorem standing?_note (r : Registry κ) (id operation now other : String) :
    (r.note id operation now).standing? other = r.standing? other := by
  rw [note_eq]
  by_cases ho : other = id <;>
    simp [standing?, find?_revise, ho, Function.comp_def, BrickRecord.standing, BrickRecord.note]

@[simp] theorem standing?_setActive (r : Registry κ) (id other : String) :
    (r.setActive id).standing? other = r.standing? other := by
  unfold setActive
  split <;> rfl

end Standing

/-- Every record stands under the id of its brick, and no id has two. -/
structure Keyed (r : Registry κ) : Prop where
  nodup : (r.records.map (·.1)).Nodup
  own : ∀ entry ∈ r.records, entry.2.identity.id = entry.1

section Keyed

theorem mem_of_find? (h : r.find? id = some record) : (id, record) ∈ r.records :=
  mem_of_lookup h

theorem Keyed.find?_of_mem (h : r.Keyed) (hm : (id, record) ∈ r.records) :
    r.find? id = some record := by
  obtain ⟨before, after, he⟩ := List.append_of_mem hm
  have hn := h.nodup
  rw [he, List.map_append, List.map_cons] at hn
  refine List.lookup_eq_some_iff.mpr ⟨before, after, he, fun entry hb => ?_⟩
  have hne := (List.nodup_append.mp hn).2.2 entry.1 (List.mem_map_of_mem hb) id List.mem_cons_self
  simpa using hne.symm

theorem Keyed.id_of_find? (h : r.Keyed) (hf : r.find? id = some record) :
    record.identity.id = id :=
  h.own _ (mem_of_find? hf)

theorem mem_putIn {records : List (String × BrickRecord κ)} {entry : String × BrickRecord κ}
    (h : entry ∈ putIn id record records) : entry = (id, record) ∨ entry ∈ records := by
  induction records with
  | nil => simpa [putIn] using h
  | cons first rest ih =>
    obtain ⟨key, old⟩ := first
    unfold putIn at h
    split at h
    · rcases List.mem_cons.mp h with h | h
      · exact .inl h
      · exact .inr (List.mem_cons_of_mem _ h)
    · rcases List.mem_cons.mp h with h | h
      · exact .inr (h ▸ List.mem_cons_self)
      · exact (ih h).imp_right (List.mem_cons_of_mem _)

theorem keys_putIn (id : String) (record : BrickRecord κ) (records : List (String × BrickRecord κ)) :
    (putIn id record records).map (·.1) =
      if id ∈ records.map (·.1) then records.map (·.1) else records.map (·.1) ++ [id] := by
  induction records with
  | nil => rfl
  | cons first rest ih =>
    obtain ⟨key, old⟩ := first
    by_cases hk : key = id
    · simp [putIn, hk]
    · have hi : id ≠ key := fun he => hk he.symm
      simp only [putIn, hk, if_false, List.map_cons, ih, List.mem_cons, hi, false_or]
      split <;> rfl

theorem Keyed.put (h : r.Keyed) (hi : record.identity.id = id) : (r.put id record).Keyed where
  nodup := by
    show ((putIn id record r.records).map (·.1)).Nodup
    rw [keys_putIn]
    split
    · exact h.nodup
    · next hm =>
      refine List.nodup_append.mpr ⟨h.nodup, by simp, fun key hk last hl he => hm ?_⟩
      rw [← List.mem_singleton.mp hl, ← he]
      exact hk
  own entry he := by
    rcases mem_putIn he with rfl | he
    · exact hi
    · exact h.own entry he

theorem Keyed.of_records {s : Registry κ} (h : r.Keyed) (hr : s.records = r.records) : s.Keyed := by
  constructor
  · rw [hr]
    exact h.nodup
  · rw [hr]
    exact h.own

theorem Keyed.activate (h : r.Keyed) (active : Option String) :
    ({ r with active := active } : Registry κ).Keyed :=
  ⟨h.nodup, h.own⟩

theorem Keyed.deactivate (h : r.Keyed) (id : String) : (r.deactivate id).Keyed := by
  unfold Registry.deactivate
  split
  · exact h.activate none
  · exact h

theorem Keyed.revise (h : r.Keyed) (id : String) {change : BrickRecord κ → BrickRecord κ}
    (hc : ∀ record, (change record).identity = record.identity) : (r.revise id change).Keyed := by
  unfold Registry.revise
  split
  · exact h
  · next record hf =>
    apply h.put
    rw [hc]
    exact h.id_of_find? hf

theorem Keyed.measure (h : r.Keyed) (id : String) (m : RuntimeMetrics) : (r.measure id m).Keyed :=
  h.revise id (fun _ => rfl)

theorem Keyed.note (h : r.Keyed) (id operation now : String) : (r.note id operation now).Keyed :=
  h.revise id (fun _ => rfl)

theorem Keyed.markUnavailable (h : r.Keyed) (id reason : String) :
    (r.markUnavailable id reason).Keyed := by
  have hr : (r.revise id (·.lose reason)).Keyed := h.revise id (fun _ => rfl)
  exact hr.of_records (r.markUnavailable_records id reason)

theorem Keyed.markError (h : r.Keyed) (id reason : String) : (r.markError id reason).Keyed := by
  apply h.put
  show ((r.find? id).getD _).identity.id = id
  cases hf : r.find? id with
  | none => rfl
  | some record => exact h.id_of_find? hf

theorem Keyed.connecting (h : r.Keyed) (identity : BrickIdentity) :
    (r.connecting identity).Keyed := by
  apply Keyed.activate
  exact h.put rfl

theorem Keyed.ready (h : r.Keyed) (identity : BrickIdentity) (files control : κ) (now : String) :
    (r.ready identity files control now).Keyed := by
  apply Keyed.activate
  exact h.put rfl

theorem Keyed.setActive (h : r.Keyed) (id : String) : (r.setActive id).Keyed := by
  unfold Registry.setActive
  split
  · exact h.activate _
  · exact h

theorem Keyed.remove (h : r.Keyed) (id : String) : (r.remove id).Keyed := by
  unfold Registry.remove
  split
  · have hf : ({ r with records := r.records.filter (·.1 != id) } : Registry κ).Keyed :=
      ⟨h.nodup.sublist (List.filter_sublist.map _),
        fun entry he => h.own entry (List.mem_filter.mp he).1⟩
    exact hf.deactivate id
  · exact h

theorem Keyed.foldl_markUnavailable (h : r.Keyed) (reason : String) (ids : List String) :
    (ids.foldl (fun r id => r.markUnavailable id reason) r).Keyed := by
  induction ids generalizing r with
  | nil => exact h
  | cons id rest ih => exact ih (h.markUnavailable id reason)

theorem Keyed.markAllUnavailable (h : r.Keyed) (reason : String) :
    (r.markAllUnavailable reason).Keyed :=
  h.foldl_markUnavailable reason _

theorem standing?_foldl_markUnavailable {ids : List String} (reason : String) (hn : id ∉ ids) :
    (ids.foldl (fun r id => r.markUnavailable id reason) r).standing? id = r.standing? id := by
  induction ids generalizing r with
  | nil => rfl
  | cons first rest ih =>
    obtain ⟨hf, hr⟩ := not_or.mp (mt List.mem_cons.mpr hn)
    rw [List.foldl_cons, ih hr, standing?_markUnavailable, if_neg hf]

/-- A brick that is not expected to be live is left alone when all others become unavailable. -/
theorem Keyed.standing?_markAllUnavailable (h : r.Keyed) (reason : String)
    (hl : ∀ record, r.find? id = some record → record.status.isLive = false) :
    (r.markAllUnavailable reason).standing? id = r.standing? id := by
  refine standing?_foldl_markUnavailable reason ?_
  intro hm
  obtain ⟨entry, he, hi⟩ := List.mem_map.mp hm
  obtain ⟨hr, hlive⟩ := List.mem_filter.mp he
  have hf : r.find? id = some entry.2 := by
    refine h.find?_of_mem ?_
    rwa [← hi, h.own entry hr]
  simp [hl _ hf] at hlive

theorem Keyed.find?_of_mem_list (h : r.Keyed) {s : BrickSnapshot} (hm : s ∈ r.list) :
    ∃ record, r.find? s.id = some record ∧ s = record.snapshot (r.isActive s.id) := by
  rw [list, List.mem_mergeSort] at hm
  obtain ⟨entry, he, rfl⟩ := List.mem_map.mp hm
  have hi : entry.2.identity.id = entry.1 := h.own entry he
  refine ⟨entry.2, h.find?_of_mem ?_, rfl⟩
  show (entry.2.identity.id, entry.2) ∈ r.records
  rwa [hi]

theorem Keyed.mem_lost_iff (h : r.Keyed) :
    id ∈ (r.list.filter (·.lostLink)).map (·.id) ↔ (r.snapshot? id).any (·.lostLink) = true := by
  constructor
  · intro hm
    obtain ⟨s, hs, rfl⟩ := List.mem_map.mp hm
    obtain ⟨hl, hlost⟩ := List.mem_filter.mp hs
    obtain ⟨record, hr, he⟩ := h.find?_of_mem_list hl
    rw [snapshot?, hr, Option.map_some, Option.any_some, ← he]
    exact hlost
  · intro hs
    cases hr : r.find? id with
    | none => simp [snapshot?, hr] at hs
    | some record =>
      rw [snapshot?, hr, Option.map_some, Option.any_some] at hs
      have hi : record.identity.id = id := h.id_of_find? hr
      refine List.mem_map.mpr ⟨record.snapshot (r.isActive record.identity.id), ?_, hi⟩
      refine List.mem_filter.mpr ⟨?_, hs⟩
      rw [list, List.mem_mergeSort]
      exact List.mem_map.mpr ⟨(id, record), mem_of_find? hr, rfl⟩

end Keyed

end Registry
end BrickHost
