import BrickHost.Json.Parser
import BrickHost.Json.Printer
import Mathlib.Data.List.TakeDrop

/-! JSON read back. The text of a document, whatever stands behind it, is taken apart into the same
document: escapes into the characters they stand for, digits into their number, lists and tables
part by part. So no two documents that JSON can show share a text. -/

namespace BrickHost.Json

section Strings

variable {c : Char} {rest : List Char}

/-- A character is escaped by a letter, by its number, or not at all. -/
theorem escapeChar_cases (c : Char) :
    (∃ letter, letter ≠ 'u' ∧ simpleEscape? letter = some c.toNat ∧
      escapeChar c = ['\\', letter]) ∨
    (c.toNat < 0x20 ∧ escapeChar c = '\\' :: 'u' :: hexQuad c.toNat) ∨
    (0x20 ≤ c.toNat ∧ c ≠ '"' ∧ c ≠ '\\' ∧ escapeChar c = [c]) := by
  unfold escapeChar
  split
  next h =>
    subst h
    exact .inl ⟨'"', by decide, rfl, rfl⟩
  split
  next h =>
    subst h
    exact .inl ⟨'\\', by decide, rfl, rfl⟩
  split
  next h =>
    subst h
    exact .inl ⟨'b', by decide, rfl, rfl⟩
  split
  next h =>
    subst h
    exact .inl ⟨'f', by decide, rfl, rfl⟩
  split
  next h =>
    subst h
    exact .inl ⟨'n', by decide, rfl, rfl⟩
  split
  next h =>
    subst h
    exact .inl ⟨'r', by decide, rfl, rfl⟩
  split
  next h =>
    subst h
    exact .inl ⟨'t', by decide, rfl, rfl⟩
  split
  next h => exact .inr (.inl ⟨h, rfl⟩)
  next hquote hslash _ _ _ _ _ h => exact .inr (.inr ⟨Nat.not_lt.mp h, hquote, hslash, rfl⟩)

theorem hexNumber?_hexQuad :
    ∀ n < 0x20, (hexQuad n).length = 4 ∧ hexNumber? (hexQuad n) = some n := by
  decide

theorem units?_letter {letter : Char} {n : Nat} (hu : letter ≠ 'u')
    (hn : simpleEscape? letter = some n) :
    units? ('\\' :: letter :: rest) =
      (units? rest).map fun (units, rest) => (n :: units, rest) := by
  rw [units?, hn]
  · cases units? rest <;> rfl
  · simp [hu]

theorem units?_hexQuad {n : Nat} (hn : n < 0x20) :
    units? ('\\' :: 'u' :: (hexQuad n ++ rest)) =
      (units? rest).map fun (units, rest) => (n :: units, rest) := by
  obtain ⟨hlength, hvalue⟩ := hexNumber?_hexQuad n hn
  obtain ⟨a, b, c, d, hdigits⟩ : ∃ a b c d, hexQuad n = [a, b, c, d] := by
    match hexQuad n, hlength with
    | [a, b, c, d], _ => exact ⟨a, b, c, d, rfl⟩
  rw [hdigits] at hvalue ⊢
  simp only [List.cons_append, List.nil_append, units?, hvalue]
  cases units? rest <;> rfl

theorem units?_bare (hquote : c ≠ '"') (hslash : c ≠ '\\') (hc : 0x20 ≤ c.toNat) :
    units? (c :: rest) = (units? rest).map fun (units, rest) => (c.toNat :: units, rest) := by
  rw [units?, if_neg (Nat.not_lt.mpr hc)]
  · cases units? rest <;> rfl
  · simp [hquote]
  · simp [hslash]
  · simp [hslash]

theorem units?_escapeChar (c : Char) (rest : List Char) :
    units? (escapeChar c ++ rest) =
      (units? rest).map fun (units, rest) => (c.toNat :: units, rest) := by
  rcases escapeChar_cases c with ⟨letter, hu, hn, he⟩ | ⟨hc, he⟩ | ⟨hc, hquote, hslash, he⟩
  · rw [he]
    exact units?_letter hu hn
  · rw [he]
    exact units?_hexQuad hc
  · rw [he]
    exact units?_bare hquote hslash hc

theorem units?_flatMap_escapeChar (cs rest : List Char) :
    units? (cs.flatMap escapeChar ++ '"' :: rest) = some (cs.map Char.toNat, rest) := by
  induction cs with
  | nil => rfl
  | cons c cs ih =>
    rw [List.flatMap_cons, List.append_assoc, units?_escapeChar, ih]
    rfl

/-- No character is half of a pair. -/
theorem joinUnits?_map_toNat (cs : List Char) : joinUnits? (cs.map Char.toNat) = some cs := by
  induction cs with
  | nil => rfl
  | cons c cs ih =>
    have hvalid : c.toNat < 0xd800 ∨ 0xdfff < c.toNat ∧ c.toNat < 0x110000 := c.valid
    have hlead : isLead c.toNat = false := by
      simp [isLead]
      omega
    have htrail : isTrail c.toNat = false := by
      simp [isTrail]
      omega
    rw [List.map_cons, joinUnits?.eq_def]
    simp [hlead, htrail, ih]

theorem toList_string (s : String) :
    (string s).toList = '"' :: (s.toList.flatMap escapeChar ++ ['"']) := by
  rw [string, String.toList_ofList]

theorem string?_string (s : String) (rest : List Char) :
    string? (s.toList.flatMap escapeChar ++ '"' :: rest) = some (.text s, rest) := by
  unfold string?
  rw [units?_flatMap_escapeChar]
  simp [joinUnits?_map_toNat]

end Strings

/-- What may stand behind a value. None of it could be taken for a part of a number. -/
def Follows (rest : List Char) : Prop :=
  ∀ c ∈ rest.head?, c = ',' ∨ c = ']' ∨ c = '\x7d'

theorem follows_cons {c : Char} {s : List Char} (hc : c = ',' ∨ c = ']' ∨ c = '\x7d') :
    Follows (c :: s) := fun _ h => Option.some.inj h ▸ hc

section Numbers

variable {n : Nat} {rest : List Char}

theorem toDigits_eq_cons (n : Nat) :
    ∃ c digits, Nat.toDigits 10 n = c :: digits ∧ c.isDigit := by
  obtain ⟨c, digits, hd⟩ := List.exists_cons_of_ne_nil (Nat.toDigits_ne_nil (n := n) (b := 10))
  have hc : c ∈ Nat.toDigits 10 n := hd ▸ List.mem_cons_self
  exact ⟨c, digits, hd, Nat.isDigit_of_mem_toDigits (by decide) (by decide) hc⟩

theorem head?_toDigits_ne_zero (hn : n ≠ 0) : (Nat.toDigits 10 n).head? ≠ some '0' := by
  induction n using Nat.strongRecOn with
  | _ n ih =>
    by_cases hlt : n < 10
    · rw [Nat.toDigits_of_lt_base hlt]
      simp [hn]
    · -- The first digit is that of the number without its last digit.
      have hhead := ih (n / 10) (by omega) (by omega)
      obtain ⟨c, digits, hd, -⟩ := toDigits_eq_cons (n / 10)
      rw [Nat.toDigits_of_base_le (by decide) (by omega), hd]
      rw [hd] at hhead
      exact hhead

theorem toDigits_ne_padded (n : Nat) :
    ¬ ((Nat.toDigits 10 n).head? = some '0' ∧ 1 < (Nat.toDigits 10 n).length) := by
  rintro ⟨hhead, hlength⟩
  by_cases hn : n = 0
  · subst hn
    simp at hlength
  · exact head?_toDigits_ne_zero hn hhead

theorem decimalValue_toDigits (n : Nat) : decimalValue (Nat.toDigits 10 n) = n :=
  Nat.ofDigitChars_ten_toDigits

theorem digits?_toDigits (hrest : Follows rest) :
    digits? (Nat.toDigits 10 n ++ rest) = some (Nat.toDigits 10 n, rest) := by
  have hall : ∀ c ∈ Nat.toDigits 10 n, c.isDigit := fun c hc =>
    Nat.isDigit_of_mem_toDigits (by decide) (by decide) hc
  have hspan : (Nat.toDigits 10 n ++ rest).span Char.isDigit = (Nat.toDigits 10 n, rest) := by
    rw [List.span_eq_takeWhile_dropWhile, List.takeWhile_append_of_pos hall,
      List.dropWhile_append_of_pos hall]
    cases rest with
    | nil => simp
    | cons c rest =>
      have hc : c.isDigit = false := by
        rcases hrest c rfl with rfl | rfl | rfl <;> rfl
      simp [hc]
  unfold digits?
  rw [hspan]
  obtain ⟨c, digits, hd, -⟩ := toDigits_eq_cons n
  rw [hd]

theorem skipFraction?_of_follows (hrest : Follows rest) :
    skipFraction? rest = some (false, rest) := by
  unfold skipFraction?
  split
  next rest => rcases hrest '.' rfl with h | h | h <;> cases h
  · rfl

theorem skipExponent?_of_follows (hrest : Follows rest) :
    skipExponent? rest = some (false, rest) := by
  unfold skipExponent?
  split
  next rest => rcases hrest 'e' rfl with h | h | h <;> cases h
  next rest => rcases hrest 'E' rfl with h | h | h <;> cases h
  · rfl

theorem number?_toDigits (hrest : Follows rest) :
    number? (Nat.toDigits 10 n ++ rest) = some (.integer n, rest) := by
  have hdigits := digits?_toDigits (n := n) hrest
  have hvalue := decimalValue_toDigits n
  obtain ⟨c, digits, hd, hc⟩ := toDigits_eq_cons n
  have hminus : c ≠ '-' := by
    rintro rfl
    cases hc
  have hpadded : c = '0' → digits = [] := by simpa [hd] using toDigits_ne_padded n
  rw [hd] at hdigits hvalue ⊢
  rw [List.cons_append] at hdigits ⊢
  simpa [number?, hminus, hdigits, hvalue, skipFraction?_of_follows hrest,
    skipExponent?_of_follows hrest] using hpadded

theorem number?_minus (hn : n ≠ 0) (hrest : Follows rest) :
    number? ('-' :: (Nat.toDigits 10 n ++ rest)) = some (.integer (-n), rest) := by
  have hdigits := digits?_toDigits (n := n) hrest
  simp [number?, hdigits, toDigits_ne_padded, skipFraction?_of_follows hrest,
    skipExponent?_of_follows hrest, decimalValue_toDigits, hn]

theorem number?_toString (n : Int) (hrest : Follows rest) :
    number? ((toString n).toList ++ rest) = some (.integer n, rest) := by
  rw [Int.toString_eq_repr, Int.repr_eq_if]
  split
  next hn =>
    rw [Nat.repr_eq_ofList_toDigits, String.toList_ofList, number?_toDigits hrest,
      Int.toNat_of_nonneg hn]
  next hn =>
    have hne : (-n).toNat ≠ 0 := by omega
    have hminus : ((-n).toNat : Int) = -n := Int.toNat_of_nonneg (by omega)
    have hnumber := number?_minus hne hrest
    rw [hminus, Int.neg_neg] at hnumber
    rw [Nat.repr_eq_ofList_toDigits, String.toList_append, String.toList_ofList,
      String.toList_ofList]
    exact hnumber

end Numbers

/-- What JSON can show: all but numbers that are not whole, texts of no characters, and moments. -/
inductive IsPlain : Document → Prop
  | null : IsPlain .null
  | bool (value : Bool) : IsPlain (.bool value)
  | integer (value : Int) : IsPlain (.integer value)
  | text (s : String) : IsPlain (.text s)
  | list {items : List Document} (h : ∀ d ∈ items, IsPlain d) : IsPlain (.list items)
  | table {fields : List (String × Document)} (h : ∀ f ∈ fields, IsPlain f.2) :
    IsPlain (.table fields)

theorem isPlain_ofFields {fields : List (String × Option Document)}
    (h : ∀ f ∈ fields, ∀ d, f.2 = some d → IsPlain d) : IsPlain (.ofFields fields) := by
  refine .table fun f hf => ?_
  obtain ⟨field, hfield, hsome⟩ := List.mem_filterMap.mp hf
  obtain ⟨d, hd, rfl⟩ := Option.map_eq_some_iff.mp hsome
  exact h field hfield d hd

section Texts

variable {c : Char} {s : List Char}

def chars (d : Document) : List Char :=
  (text d).toList

def fieldChars (f : String × Document) : List Char :=
  (string f.1).toList ++ ':' :: chars f.2

/-- What stands behind the first part of a list or table: the other parts, and its end. -/
def closed (close : Char) : List (List Char) → List Char
  | [] => [close]
  | part :: rest => ',' :: (part ++ closed close rest)

theorem texts_eq_map (items : List Document) : texts items = items.map text := by
  induction items with
  | nil => rfl
  | cons d items ih => rw [texts, ih, List.map_cons]

theorem map_toList_fieldTexts (fields : List (String × Document)) :
    (fieldTexts fields).map String.toList = fields.map fieldChars := by
  induction fields with
  | nil => rfl
  | cons f fields ih =>
    rw [fieldTexts, List.map_cons, ih, List.map_cons]
    simp [fieldChars, chars]

theorem toList_intercalate (part : String) (parts : List String) (close : Char) :
    (String.intercalate "," (part :: parts)).toList ++ [close] =
      part.toList ++ closed close (parts.map String.toList) := by
  induction parts generalizing part with
  | nil => simp [closed]
  | cons next parts ih =>
    rw [String.intercalate_cons_cons]
    simp [closed, ← ih]

theorem chars_list (d : Document) (items : List Document) :
    chars (.list (d :: items)) = '[' :: (chars d ++ closed ']' (items.map chars)) := by
  have h := toList_intercalate (text d) (items.map text) ']'
  rw [List.map_map] at h
  rw [chars, text, texts_eq_map, String.toList_append, String.toList_append, List.append_assoc]
  exact congrArg ('[' :: ·) h

theorem chars_table (f : String × Document) (fields : List (String × Document)) :
    chars (.table (f :: fields)) =
      '\x7b' :: (fieldChars f ++ closed '\x7d' (fields.map fieldChars)) := by
  have h := toList_intercalate (string f.1 ++ ":" ++ text f.2) (fieldTexts fields) '\x7d'
  have hf : (string f.1 ++ ":" ++ text f.2).toList = fieldChars f := by
    simp [fieldChars, chars]
  rw [map_toList_fieldTexts, hf] at h
  rw [chars, text, fieldTexts, String.toList_append, String.toList_append, List.append_assoc]
  exact congrArg ('\x7b' :: ·) h

theorem chars_integer (n : Int) :
    ∃ c s, chars (.integer n) = c :: s ∧ (c.isDigit ∨ c = '-') := by
  rw [chars, text, Int.toString_eq_repr, Int.repr_eq_if]
  split
  · obtain ⟨c, digits, hd, hc⟩ := toDigits_eq_cons n.toNat
    exact ⟨c, digits, by rw [Nat.repr_eq_ofList_toDigits, String.toList_ofList, hd], .inl hc⟩
  · exact ⟨'-', _, String.toList_append, .inr rfl⟩

/-- No document begins with a blank, or like the end of a list. -/
theorem chars_eq_cons (d : Document) :
    ∃ c s, chars d = c :: s ∧ c ∉ [' ', '\n', '\t', '\r', ']'] := by
  cases d with
  | bool value => cases value <;> exact ⟨_, _, rfl, by decide⟩
  | integer n =>
    obtain ⟨c, s, hs, hc⟩ := chars_integer n
    refine ⟨c, s, hs, fun hm => ?_⟩
    simp only [List.mem_cons, List.not_mem_nil, or_false] at hm
    rcases hm with rfl | rfl | rfl | rfl | rfl <;> revert hc <;> decide
  | text s => exact ⟨_, _, toList_string s, by decide⟩
  | list items =>
    exact ⟨'[', (String.intercalate "," (texts items) ++ "]").toList, by simp [chars, text],
      by decide⟩
  | table fields =>
    exact ⟨'\x7b', (String.intercalate "," (fieldTexts fields) ++ "\x7d").toList,
      by simp [chars, text], by decide⟩
  | _ => exact ⟨_, _, rfl, by decide⟩

theorem skipBlanks_cons (hc : c ∉ [' ', '\n', '\t', '\r']) : skipBlanks (c :: s) = c :: s := by
  simp only [List.mem_cons, List.not_mem_nil, or_false, not_or] at hc
  simp [skipBlanks, hc]

end Texts

section Values

variable {fuel : Nat} {c : Char} {s rest : List Char} {d : Document} {f : String × Document}

theorem value?_of_number (hc : c.isDigit ∨ c = '-') :
    value? (fuel + 1) (c :: s) = number? (c :: s) := by
  have hother : c ∉ [' ', '\n', '\t', '\r', 'n', 't', 'f', '"', '[', '\x7b'] := by
    intro hm
    simp only [List.mem_cons, List.not_mem_nil, or_false] at hm
    rcases hm with rfl | rfl | rfl | rfl | rfl | rfl | rfl | rfl | rfl | rfl <;>
      revert hc <;> decide
  have hblank : skipBlanks (c :: s) = c :: s :=
    skipBlanks_cons fun hm => hother (List.mem_append_left ['n', 't', 'f', '"', '[', '\x7b'] hm)
  simp only [List.mem_cons, List.not_mem_nil, or_false, not_or] at hother
  simp [value?, hblank, hother]

theorem value?_bracket (hc : c ∉ [' ', '\n', '\t', '\r', ']']) :
    value? (fuel + 1) ('[' :: c :: s) =
      (items? fuel (c :: s)).map fun (items, rest) => (.list items, rest) := by
  have hblank : c ∉ [' ', '\n', '\t', '\r'] := fun hm => hc (List.mem_append_left [']'] hm)
  have hclose : c ≠ ']' := by
    rintro rfl
    exact hc (by decide)
  simp [value?, skipBlanks_cons hblank, skipBlanks_cons (c := '['), hclose]

theorem value?_brace :
    value? (fuel + 1) ('\x7b' :: '"' :: s) =
      (fields? fuel ('"' :: s)).map fun (fields, rest) => (tableOf fields, rest) := by
  simp [value?, skipBlanks]

/-- A document is read from its text if there is fuel for every character. -/
def IsRead (d : Document) : Prop :=
  ∀ fuel rest, (chars d).length ≤ fuel → Follows rest →
    value? fuel (chars d ++ rest) = some (d, rest)

theorem isRead_of_succ (h : ∀ fuel rest, (chars d).length ≤ fuel + 1 → Follows rest →
    value? (fuel + 1) (chars d ++ rest) = some (d, rest)) : IsRead d := by
  intro fuel rest hfuel hrest
  cases fuel with
  | zero =>
    obtain ⟨c, s, hd, -⟩ := chars_eq_cons d
    rw [hd] at hfuel
    cases hfuel
  | succ fuel => exact h fuel rest hfuel hrest

theorem items?_last (hd : IsRead d) (hfuel : (chars d).length ≤ fuel) :
    items? (fuel + 1) (chars d ++ ']' :: rest) = some ([d], rest) := by
  rw [items?, hd fuel (']' :: rest) hfuel (follows_cons (.inr (.inl rfl)))]
  rfl

theorem items?_next {later : List Document} (hd : IsRead d) (hfuel : (chars d).length ≤ fuel)
    (hlater : items? fuel s = some (later, rest)) :
    items? (fuel + 1) (chars d ++ ',' :: s) = some (d :: later, rest) := by
  rw [items?, hd fuel (',' :: s) hfuel (follows_cons (.inl rfl))]
  simp [skipBlanks, hlater]

theorem items?_chars {items : List Document} (rest : List Char)
    (hitems : ∀ d' ∈ d :: items, IsRead d')
    (hfuel : (chars d ++ closed ']' (items.map chars)).length ≤ fuel) :
    items? fuel (chars d ++ closed ']' (items.map chars) ++ rest) = some (d :: items, rest) := by
  have hd := hitems d List.mem_cons_self
  induction items generalizing d fuel with
  | nil =>
    rw [List.map_nil, closed, List.length_append, List.length_singleton] at hfuel
    obtain ⟨fuel, rfl⟩ : ∃ n, fuel = n + 1 := ⟨fuel - 1, by omega⟩
    rw [List.append_assoc]
    exact items?_last hd (by omega)
  | cons next items ih =>
    rw [List.map_cons, closed, List.length_append, List.length_cons] at hfuel
    obtain ⟨fuel, rfl⟩ : ∃ n, fuel = n + 1 := ⟨fuel - 1, by omega⟩
    have hnext : ∀ d' ∈ next :: items, IsRead d' := fun d' h =>
      hitems d' (List.mem_cons_of_mem d h)
    rw [List.append_assoc]
    exact items?_next hd (by omega) (ih hnext (by omega) (hnext next List.mem_cons_self))

theorem fields?_last (hf : IsRead f.2) (hfuel : (fieldChars f).length ≤ fuel) :
    fields? (fuel + 1) (fieldChars f ++ '\x7d' :: rest) = some ([(some f.1, f.2)], rest) := by
  rw [fieldChars, List.length_append, List.length_cons] at hfuel
  have hvalue := hf fuel ('\x7d' :: rest) (by omega) (follows_cons (.inr (.inr rfl)))
  rw [fieldChars, toList_string]
  simp [fields?, skipBlanks, string?_string, key?, hvalue]

theorem fields?_next {later : List (Option String × Document)} (hf : IsRead f.2)
    (hfuel : (fieldChars f).length ≤ fuel) (hlater : fields? fuel s = some (later, rest)) :
    fields? (fuel + 1) (fieldChars f ++ ',' :: s) =
      some ((some f.1, f.2) :: later, rest) := by
  rw [fieldChars, List.length_append, List.length_cons] at hfuel
  have hvalue := hf fuel (',' :: s) (by omega) (follows_cons (.inl rfl))
  rw [fieldChars, toList_string]
  simp [fields?, skipBlanks, string?_string, key?, hvalue, hlater]

theorem fields?_chars {fields : List (String × Document)} (rest : List Char)
    (hfields : ∀ f' ∈ f :: fields, IsRead f'.2)
    (hfuel : (fieldChars f ++ closed '\x7d' (fields.map fieldChars)).length ≤ fuel) :
    fields? fuel (fieldChars f ++ closed '\x7d' (fields.map fieldChars) ++ rest) =
      some ((f :: fields).map fun f => (some f.1, f.2), rest) := by
  have hf := hfields f List.mem_cons_self
  induction fields generalizing f fuel with
  | nil =>
    rw [List.map_nil, closed, List.length_append, List.length_singleton] at hfuel
    obtain ⟨fuel, rfl⟩ : ∃ n, fuel = n + 1 := ⟨fuel - 1, by omega⟩
    rw [List.append_assoc]
    exact fields?_last hf (by omega)
  | cons next fields ih =>
    rw [List.map_cons, closed, List.length_append, List.length_cons] at hfuel
    obtain ⟨fuel, rfl⟩ : ∃ n, fuel = n + 1 := ⟨fuel - 1, by omega⟩
    have hnext : ∀ f' ∈ next :: fields, IsRead f'.2 := fun f' h =>
      hfields f' (List.mem_cons_of_mem f h)
    rw [List.append_assoc]
    exact fields?_next hf (by omega) (ih hnext (by omega) (hnext next List.mem_cons_self))

theorem tableOf_map_some (fields : List (String × Document)) :
    tableOf (fields.map fun f => (some f.1, f.2)) = .table fields := by
  have h : (fields.map fun f => (some f.1, f.2)).mapM
      (fun (f : Option String × Document) => f.1.map (·, f.2)) = some fields := by
    induction fields with
    | nil => rfl
    | cons f fields ih => simp [ih]
  unfold tableOf
  rw [h]

theorem isRead_list {items : List Document} (h : ∀ d ∈ items, IsRead d) :
    IsRead (.list items) := by
  refine isRead_of_succ fun fuel rest hfuel _ => ?_
  cases items with
  | nil => rfl
  | cons d items =>
    rw [chars_list, List.length_cons] at hfuel
    have hitems := items?_chars rest h (Nat.le_of_succ_le_succ hfuel)
    obtain ⟨c, s, hd, hc⟩ := chars_eq_cons d
    rw [hd, List.cons_append, List.cons_append] at hitems
    rw [chars_list, hd, List.cons_append, List.cons_append, List.cons_append, value?_bracket hc,
      hitems]
    rfl

theorem isRead_table {fields : List (String × Document)} (h : ∀ f ∈ fields, IsRead f.2) :
    IsRead (.table fields) := by
  refine isRead_of_succ fun fuel rest hfuel _ => ?_
  cases fields with
  | nil => rfl
  | cons f fields =>
    rw [chars_table, List.length_cons] at hfuel
    have hfields := fields?_chars rest h (Nat.le_of_succ_le_succ hfuel)
    obtain ⟨s, hs⟩ : ∃ s, fieldChars f = '"' :: s := ⟨_, by rw [fieldChars, toList_string]; rfl⟩
    rw [hs, List.cons_append, List.cons_append] at hfields
    rw [chars_table, hs, List.cons_append, List.cons_append, List.cons_append, value?_brace,
      hfields]
    exact congrArg (fun table => some (table, rest)) (tableOf_map_some (f :: fields))

theorem isRead_of_isPlain (h : IsPlain d) : IsRead d := by
  induction h with
  | null => exact isRead_of_succ fun _ _ _ _ => rfl
  | bool value => cases value <;> exact isRead_of_succ fun _ _ _ _ => rfl
  | integer n =>
    refine isRead_of_succ fun fuel rest _ hrest => ?_
    have hn := number?_toString n hrest
    obtain ⟨c, s, hs, hc⟩ := chars_integer n
    rw [show (toString n).toList = c :: s from hs] at hn
    rw [hs, List.cons_append, value?_of_number hc]
    exact hn
  | text s =>
    refine isRead_of_succ fun fuel rest _ _ => ?_
    rw [chars, text, toList_string]
    simp [value?, skipBlanks, string?_string]
  | list _ ih => exact isRead_list ih
  | table _ ih => exact isRead_table ih

end Values

/-- Whatever JSON can show is read back from its text. -/
theorem parse_text {d : Document} (h : IsPlain d) : parse (text d) = some d := by
  have hd := isRead_of_isPlain h (2 * (chars d).length + 2) [] (by omega) (by simp [Follows])
  rw [List.append_nil] at hd
  simp only [chars] at hd
  rw [parse, hd]
  rfl

end BrickHost.Json
