import Mathlib.Data.List.Nodup
import Mathlib.Data.Prod.Lex
import Mathlib.Order.RelClasses
import BrickHost.Proofs.Registry.History
import BrickHost.Proofs.Text.ByteOrder

/-! The list of a registry. Where the records stand in the registry does not matter: ids are unique
and at most one brick is active, so that there is only one way to sort them. -/

namespace BrickHost

namespace BrickSnapshot

/-- What the list is sorted by. -/
def key (s : BrickSnapshot) : Bool ×ₗ String ×ₗ String :=
  toLex (!s.isActive, toLex (s.identity.displayName, s.id))

/-- Of two snapshots this one is strictly the first. -/
def Precedes (a b : BrickSnapshot) : Prop :=
  a.le b = true ∧ b.le a = false

/-- By the bytes of the display names, and by those of the ids where the names coincide. -/
def NamedBefore (a b : BrickSnapshot) : Prop :=
  utf8 a.identity.displayName < utf8 b.identity.displayName ∨
    a.identity.displayName = b.identity.displayName ∧ utf8 a.id < utf8 b.id

theorem le_iff_key_le {a b : BrickSnapshot} : a.le b = true ↔ a.key ≤ b.key := by
  unfold le key
  cases ha : a.isActive <;> cases hb : b.isActive <;>
    simp [Prod.Lex.toLex_le_toLex]

theorem precedes_iff_key_lt {a b : BrickSnapshot} : a.Precedes b ↔ a.key < b.key := by
  rw [Precedes, ← Bool.not_eq_true, le_iff_key_le, le_iff_key_le, lt_iff_le_not_ge]

theorem le_trans {a b c : BrickSnapshot} (hab : a.le b = true) (hbc : b.le c = true) :
    a.le c = true := by
  rw [le_iff_key_le] at hab hbc ⊢
  exact hab.trans hbc

theorem le_or_ge (a b : BrickSnapshot) : (a.le b || b.le a) = true := by
  rw [Bool.or_eq_true, le_iff_key_le, le_iff_key_le]
  exact le_total _ _

theorem id_eq_of_key_eq {a b : BrickSnapshot} (h : a.key = b.key) : a.id = b.id := by
  have hname : toLex (a.identity.displayName, a.id) = toLex (b.identity.displayName, b.id) :=
    (Prod.ext_iff.mp (toLex.injective h)).2
  exact (Prod.ext_iff.mp (toLex.injective hname)).2

theorem isActive_of_le {a b : BrickSnapshot} (h : a.le b = true) (hb : b.isActive = true) :
    a.isActive = true := by
  cases ha : a.isActive with
  | true => rfl
  | false => simp [le, ha, hb] at h

theorem namedBefore_of_precedes {a b : BrickSnapshot} (ha : a.isActive = false)
    (hb : b.isActive = false) (h : a.Precedes b) : a.NamedBefore b := by
  rw [precedes_iff_key_lt, key, key, ha, hb] at h
  simpa [Prod.Lex.toLex_lt_toLex, NamedBefore, ← lt_iff_utf8_lt] using h

end BrickSnapshot

/-- A list in which what has a property comes before what has not falls into these two parts. -/
theorem eq_filter_append_filter_not {α : Type} {p : α → Bool} {l : List α}
    (h : l.Pairwise fun a b => p b = true → p a = true) :
    l = l.filter p ++ l.filter (! p ·) := by
  induction l with
  | nil => rfl
  | cons a l ih =>
    obtain ⟨ha, hl⟩ := List.pairwise_cons.mp h
    have hi := ih hl
    by_cases hp : p a = true
    · rw [List.filter_cons_of_pos hp, List.filter_cons_of_neg (by simp [hp]), List.cons_append, ← hi]
    · have hnone : l.filter p = [] := by
        rw [List.filter_eq_nil_iff]
        intro b hb hpb
        exact hp (ha b hb hpb)
      rw [hnone, List.nil_append] at hi
      rw [List.filter_cons_of_neg hp, List.filter_cons_of_pos (by simp [hp]), hnone,
        List.nil_append, ← hi]

namespace Registry

variable {κ : Type} {r : Registry κ}

theorem list_perm (r : Registry κ) : r.list.Perm r.snapshots :=
  List.mergeSort_perm _ _

theorem list_sorted (r : Registry κ) : r.list.Pairwise fun a b => a.le b = true := by
  have htrans : ∀ a b c : BrickSnapshot, a.le b = true → b.le c = true → a.le c = true :=
    fun _ _ _ => BrickSnapshot.le_trans
  exact List.pairwise_mergeSort htrans BrickSnapshot.le_or_ge r.snapshots

/-- A snapshot in the list is known by its id. -/
theorem Keyed.eq_of_id_eq (h : r.Keyed) {s t : BrickSnapshot} (hs : s ∈ r.list) (ht : t ∈ r.list)
    (hi : s.id = t.id) : s = t := by
  obtain ⟨record, hr, he⟩ := h.find?_of_mem_list hs
  obtain ⟨other, ho, hf⟩ := h.find?_of_mem_list ht
  rw [hi, ho] at hr
  cases hr
  rw [he, hf, hi]

theorem Keyed.eq_of_key_eq (h : r.Keyed) {s t : BrickSnapshot} (hs : s ∈ r.list) (ht : t ∈ r.list)
    (hk : s.key = t.key) : s = t :=
  h.eq_of_id_eq hs ht (BrickSnapshot.id_eq_of_key_eq hk)

theorem Keyed.list_nodup (h : r.Keyed) : r.list.Nodup :=
  List.Nodup.of_map (·.id) (h.ids_list_perm.nodup_iff.mpr h.nodup)

/-- The list does not depend on the order of the records. -/
theorem Keyed.list_of_perm (h : r.Keyed) {records : List (String × BrickRecord κ)}
    (hp : records.Perm r.records) : ({ r with records := records } : Registry κ).list = r.list := by
  let s : Registry κ := { r with records := records }
  have hsnapshots : s.snapshots.Perm r.snapshots := hp.map _
  have hlist : s.list.Perm r.list := s.list_perm.trans (hsnapshots.trans r.list_perm.symm)
  refine hlist.eq_of_pairwise (fun a b ha hb hab hba => ?_) s.list_sorted r.list_sorted
  have hk : a.key = b.key :=
    le_antisymm (BrickSnapshot.le_iff_key_le.mp hab) (BrickSnapshot.le_iff_key_le.mp hba)
  exact h.eq_of_key_eq (hlist.subset ha) hb hk

theorem Keyed.list_strictly_sorted (h : r.Keyed) : r.list.Pairwise BrickSnapshot.Precedes := by
  have hboth := r.list_sorted.and h.list_nodup
  refine hboth.imp_of_mem fun {a b} ha hb hab => ?_
  rw [BrickSnapshot.precedes_iff_key_lt]
  refine lt_of_le_of_ne (BrickSnapshot.le_iff_key_le.mp hab.1) fun hk => ?_
  exact hab.2 (h.eq_of_key_eq ha hb hk)

theorem Keyed.active_length_le (h : r.Keyed) : (r.list.filter (·.isActive)).length ≤ 1 := by
  have hsame : ∀ s ∈ r.list.filter (·.isActive), ∀ t ∈ r.list.filter (·.isActive), s = t := by
    intro s hs t ht
    obtain ⟨hls, has⟩ := List.mem_filter.mp hs
    obtain ⟨hlt, hat⟩ := List.mem_filter.mp ht
    have hids := ((isActive_of_mem_list h hls).mp has).symm.trans ((isActive_of_mem_list h hlt).mp hat)
    exact h.eq_of_id_eq hls hlt (Option.some.inj hids)
  have hnodup : (r.list.filter (·.isActive)).Nodup := h.list_nodup.filter _
  generalize r.list.filter (·.isActive) = active at hsame hnodup ⊢
  rcases active with _ | ⟨s, _ | ⟨t, rest⟩⟩
  · simp
  · simp
  · have he := hsame s (by simp) t (by simp)
    simp [he] at hnodup

/-- The active records of the list are the one that the registry points to. -/
theorem Coherent.list_active (h : r.Coherent) :
    r.list.filter (·.isActive) = (r.active.bind r.snapshot?).toList := by
  have hlen := h.keyed.active_length_le
  have hmem : ∀ s ∈ r.list.filter (·.isActive), r.active = some s.id := by
    intro s hs
    obtain ⟨hl, ha⟩ := List.mem_filter.mp hs
    exact (isActive_of_mem_list h.keyed hl).mp ha
  cases hactive : r.active with
  | none =>
    rw [Option.bind_none, Option.toList_none, List.eq_nil_iff_forall_not_mem]
    intro s hs
    have ha := hmem s hs
    rw [hactive] at ha
    cases ha
  | some id =>
    obtain ⟨record, hr⟩ := Option.isSome_iff_exists.mp (h.active id hactive)
    have hi : record.identity.id = id := h.keyed.id_of_find? hr
    have hs : r.snapshot? id = some (record.snapshot true) := by
      simp [snapshot?, hr, isActive, hactive]
    have hin : record.snapshot true ∈ r.list.filter (·.isActive) := by
      refine List.mem_filter.mpr ⟨?_, rfl⟩
      rw [list, List.mem_mergeSort]
      refine List.mem_map.mpr ⟨(id, record), mem_of_find? hr, ?_⟩
      simp [isActive, hactive, hi]
    rw [Option.bind_some, hs, Option.toList_some]
    generalize r.list.filter (·.isActive) = active at hin hlen ⊢
    rcases active with _ | ⟨s, _ | ⟨t, rest⟩⟩
    · simp at hin
    · rw [List.mem_singleton.mp hin]
    · simp at hlen

/-- The active record alone, and then the others by name and id. -/
theorem Coherent.list_eq (h : r.Coherent) : ∃ rest,
    r.list = (r.active.bind r.snapshot?).toList ++ rest ∧ (∀ s ∈ rest, s.isActive = false) ∧
      rest.Pairwise BrickSnapshot.NamedBefore := by
  have hsplit := eq_filter_append_filter_not
    (r.list_sorted.imp fun hab hb => BrickSnapshot.isActive_of_le hab hb)
  have hrest : ∀ s ∈ r.list.filter (! ·.isActive), s.isActive = false := by
    intro s hs
    simpa using (List.mem_filter.mp hs).2
  refine ⟨r.list.filter (! ·.isActive), ?_, hrest, ?_⟩
  · rw [← h.list_active]
    exact hsplit
  · refine (h.keyed.list_strictly_sorted.filter _).imp_of_mem fun {a b} ha hb hab => ?_
    exact BrickSnapshot.namedBefore_of_precedes (hrest a ha) (hrest b hb) hab

theorem Keyed.precedes_strictTotal (h : r.Keyed) :
    IsStrictTotalOrder { s // s ∈ r.snapshots } fun s t => s.1.Precedes t.1 := by
  have hmem : ∀ s : { s // s ∈ r.snapshots }, s.1 ∈ r.list := fun s => r.list_perm.mem_iff.mpr s.2
  simp only [BrickSnapshot.precedes_iff_key_lt]
  exact {
    trichotomous := fun s t hst hts => Subtype.ext <|
      h.eq_of_key_eq (hmem s) (hmem t) (le_antisymm (not_lt.mp hts) (not_lt.mp hst))
    irrefl := fun s => lt_irrefl s.1.key
    trans := fun s t u hst htu => hst.trans htu }

end Registry

/-- However a registry came about from empty, and in whatever order its records are gone through:
the list is always the same. It holds each record once, the active one first if there is one, and
then the others, strictly increasing by the bytes of name and id; and the order in which it is
sorted leaves no two of its records undecided. -/
theorem list_independent_of_record_order {κ : Type} (acts : List (RegistryAct κ)) :
    let r := Registry.run {} acts
    (∀ records : List (String × BrickRecord κ), records.Perm r.records →
      ({ r with records := records } : Registry κ).list = r.list) ∧
    r.list.Perm r.snapshots ∧
    (∃ rest, r.list = (r.active.bind r.snapshot?).toList ++ rest ∧
      (∀ s ∈ rest, s.isActive = false) ∧ rest.Pairwise BrickSnapshot.NamedBefore) ∧
    IsStrictTotalOrder { s // s ∈ r.snapshots } fun s t => s.1.Precedes t.1 := by
  intro r
  have h : r.Coherent := Registry.coherent_empty.run acts
  refine ⟨fun records hp => ?_, r.list_perm, h.list_eq, h.keyed.precedes_strictTotal⟩
  exact h.keyed.list_of_perm hp

end BrickHost
