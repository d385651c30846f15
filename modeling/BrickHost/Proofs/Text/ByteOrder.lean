import Mathlib.Data.String.Basic

/-! The order of texts is the order of their bytes. -/

namespace BrickHost

/-- The bytes of a text. -/
def utf8 (s : String) : List UInt8 :=
  s.toByteArray.data.toList

theorem utf8_eq_flatMap (s : String) : utf8 s = s.toList.flatMap String.utf8EncodeChar := by
  rw [utf8, ← String.utf8Encode_toList, List.utf8Encode, List.data_toByteArray]

theorem quotient_lt_or (base : Nat) {v w : Nat} (h : v < w) :
    v / base < w / base ∨ v / base = w / base ∧ v % base < w % base := by
  have hv := Nat.div_add_mod v base
  have hw := Nat.div_add_mod w base
  rcases Nat.lt_or_eq_of_le (Nat.div_le_div_right (c := base) h.le) with hq | hq
  · exact .inl hq
  · refine .inr ⟨hq, ?_⟩
    rw [hq] at hv
    omega

/-- The bytes of two characters differ before either comes to an end, so what follows them does not
matter. -/
theorem utf8EncodeChar_append_lt {c d : Char} (h : c < d) (p q : List UInt8) :
    String.utf8EncodeChar c ++ p < String.utf8EncodeChar d ++ q := by
  have hlt : c.val.toNat < d.val.toNat := h
  have hd : d.val.toNat < 0x110000 := by
    have hvalid := d.valid
    unfold UInt32.isValidChar Nat.isValidChar at hvalid
    omega
  generalize hv : c.val.toNat = v at hlt
  generalize hw : d.val.toNat = w at hlt hd
  -- Bytes behind the first are digits to the base 64, so the numbers are compared digit by digit.
  have hfirst := quotient_lt_or 64 hlt
  have hsecond := fun h => quotient_lt_or 64 (v := v / 64) (w := w / 64) h
  have hthird := fun h => quotient_lt_or 64 (v := v / 64 / 64) (w := w / 64 / 64) h
  have hsquare : ∀ n, n / 4096 = n / 64 / 64 := fun n => (Nat.div_div_eq_div_mul n 64 64).symm
  have hcube : ∀ n, n / 262144 = n / 64 / 64 / 64 := fun n => by
    rw [Nat.div_div_eq_div_mul, Nat.div_div_eq_div_mul]
  have hdigit : ∀ n, n % 64 < 64 := fun n => Nat.mod_lt _ (by decide)
  unfold String.utf8EncodeChar
  simp only [hv, hw, hsquare, hcube]
  split_ifs <;>
    simp (disch := omega) only [List.cons_append, List.nil_append, List.cons_lt_cons_iff,
      UInt8.lt_iff_toNat_lt, ← UInt8.toNat_inj, UInt8.toNat_ofNat', Nat.mod_eq_of_lt]
  all_goals omega

theorem flatMap_utf8EncodeChar_lt {l m : List Char} (h : l < m) :
    l.flatMap String.utf8EncodeChar < m.flatMap String.utf8EncodeChar := by
  induction l generalizing m with
  | nil =>
    cases m with
    | nil => exact absurd h (List.lt_irrefl _)
    | cons d m =>
      have hlen : 0 < (String.utf8EncodeChar d).length := by
        rw [String.length_utf8EncodeChar]
        exact d.utf8Size_pos
      cases hd : String.utf8EncodeChar d with
      | nil => simp [hd] at hlen
      | cons b rest =>
        rw [List.flatMap_nil, List.flatMap_cons, hd, List.cons_append]
        exact List.nil_lt_cons _ _
  | cons c l ih =>
    cases m with
    | nil => exact absurd h (List.not_lt_nil _)
    | cons d m =>
      rw [List.flatMap_cons, List.flatMap_cons]
      rcases List.cons_lt_cons_iff.mp h with hc | ⟨rfl, hl⟩
      · exact utf8EncodeChar_append_lt hc _ _
      · exact List.append_left_lt (ih hl)

theorem lt_iff_utf8_lt (s t : String) : s < t ↔ utf8 s < utf8 t := by
  have hmono : ∀ {s t : String}, s < t → utf8 s < utf8 t := by
    intro s t h
    rw [utf8_eq_flatMap, utf8_eq_flatMap]
    exact flatMap_utf8EncodeChar_lt (String.lt_iff_toList_lt.mp h)
  constructor
  · exact hmono
  · intro h
    rcases lt_trichotomy s t with hst | rfl | hts
    · exact hst
    · exact absurd h (List.lt_irrefl _)
    · exact absurd (List.lt_trans h (hmono hts)) (List.lt_irrefl _)

end BrickHost
