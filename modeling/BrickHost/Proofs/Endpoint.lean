import BrickHost.Endpoint

/-! The grammar of addresses. A port is a decimal number, perhaps behind a plus sign; what stands
before the last colon is the host, whatever other colons it holds. So the text of an endpoint is an
address of it as soon as there is a host. -/

namespace BrickHost.Endpoint

/-- Digits, at least one, and the number they stand for. -/
def IsDecimal (digits : List Char) (n : Nat) : Prop :=
  digits ≠ [] ∧ (∀ c ∈ digits, c.isDigit) ∧ Nat.ofDigitChars 10 digits 0 = n

/-- A number as an address may write it, perhaps behind a plus sign. -/
def IsNumeral (p : List Char) (n : Nat) : Prop :=
  ∃ digits, (p = digits ∨ p = '+' :: digits) ∧ IsDecimal digits n

/-- The grammar of addresses: a text, and the host and the port it stands for. -/
inductive IsAddress : String → String → UInt16 → Prop
  | plain {host : String} (hne : host ≠ "") (hcolon : ':' ∉ host.toList) :
    IsAddress host host 5555
  /-- The host may hold colons, the port does not. -/
  | withPort {host p : String} {port : UInt16} (hne : host ≠ "") (hcolon : ':' ∉ p.toList)
    (hn : IsNumeral p.toList port.toNat) : IsAddress (host ++ ":" ++ p) host port

theorem digit?_eq (c : Char) :
    digit? c = if c.isDigit then some (c.toNat - '0'.toNat) else none := by
  have h : ('0' ≤ c ∧ c ≤ '9') ↔ c.isDigit = true := by
    simp [Char.isDigit, Char.le_def]
  unfold digit?
  simp only [h]
  rfl

theorem le_ofDigitChars (n : Nat) (digits : List Char) : n ≤ Nat.ofDigitChars 10 digits n := by
  induction digits generalizing n with
  | nil => exact Nat.le_refl n
  | cons c rest ih =>
    rw [Nat.ofDigitChars_cons]
    have hrest := ih (10 * n + (c.toNat - '0'.toNat))
    omega

theorem portDigits_eq_ok_iff {n m : Nat} {digits : List Char} (hn : n ≤ 65535) :
    portDigits n digits = .ok m ↔
      (∀ c ∈ digits, c.isDigit) ∧ Nat.ofDigitChars 10 digits n = m ∧ m ≤ 65535 := by
  induction digits generalizing n with
  | nil =>
    simp only [portDigits, Except.ok.injEq, Nat.ofDigitChars_nil]
    constructor
    · rintro rfl
      exact ⟨by simp, rfl, hn⟩
    · rintro ⟨-, hm, -⟩
      exact hm
  | cons c rest ih =>
    rw [Nat.ofDigitChars_cons, portDigits, digit?_eq]
    by_cases hc : c.isDigit
    · simp only [hc, if_true, List.forall_mem_cons, true_and]
      have hgrow := le_ofDigitChars (10 * n + (c.toNat - '0'.toNat)) rest
      by_cases hl : 65535 < 10 * n + (c.toNat - '0'.toNat)
      · -- Digits only add to a number, so one that is too large stays too large.
        simp only [hl, if_true, reduceCtorEq, false_iff]
        omega
      · simp only [hl, if_false]
        exact ih (by omega)
    · simp [hc]

theorem portDigits_eq_ok_iff_isDecimal {digits : List Char} {n : Nat} (hne : digits ≠ []) :
    portDigits 0 digits = .ok n ↔ IsDecimal digits n ∧ n ≤ 65535 := by
  rw [portDigits_eq_ok_iff (Nat.zero_le _), IsDecimal]
  simp only [hne, ne_eq, not_false_eq_true, true_and, and_assoc]

theorem portNumber_eq_ok_iff {p : List Char} {n : Nat} :
    portNumber p = .ok n ↔ IsNumeral p n ∧ n ≤ 65535 := by
  cases p with
  | nil => simp [portNumber, IsNumeral, IsDecimal]
  | cons c rest =>
    by_cases hc : c = '+'
    · -- A plus sign is no digit, so it is the sign of the number.
      subst hc
      have hsigned : IsNumeral ('+' :: rest) n ↔ IsDecimal rest n := by
        simp [IsNumeral, IsDecimal]
      rw [hsigned]
      cases rest with
      | nil => simp [portNumber, IsDecimal]
      | cons d rest => exact portDigits_eq_ok_iff_isDecimal (List.cons_ne_nil d rest)
    · have hplain : IsNumeral (c :: rest) n ↔ IsDecimal (c :: rest) n := by
        simp [IsNumeral, hc]
      have hport : portNumber (c :: rest) = portDigits 0 (c :: rest) := by
        unfold portNumber
        split <;> simp_all
      rw [hplain, hport]
      exact portDigits_eq_ok_iff_isDecimal (List.cons_ne_nil c rest)

section SplitLast

variable {sep : Char} {s front back : List Char}

theorem splitLast?_eq_none_iff : splitLast? sep s = none ↔ sep ∉ s := by
  induction s with
  | nil => simp [splitLast?]
  | cons c rest ih =>
    cases hr : splitLast? sep rest with
    | none =>
      have hrest := ih.mp hr
      by_cases hc : c = sep
      · simp [splitLast?, hr, hc]
      · simp [splitLast?, hr, hc, hrest, Ne.symm hc]
    | some parts =>
      have hrest : ¬ sep ∉ rest := fun hn => by simp [ih.mpr hn] at hr
      simp only [splitLast?, hr, reduceCtorEq, List.mem_cons, false_iff]
      exact fun hn => hrest fun hm => hn (.inr hm)

theorem eq_append_of_splitLast? (h : splitLast? sep s = some (front, back)) :
    s = front ++ sep :: back ∧ sep ∉ back := by
  induction s generalizing front with
  | nil => simp [splitLast?] at h
  | cons c rest ih =>
    cases hr : splitLast? sep rest with
    | none =>
      by_cases hc : c = sep
      · simp only [splitLast?, hr, hc, if_true, Option.some.injEq, Prod.mk.injEq] at h
        obtain ⟨rfl, rfl⟩ := h
        exact ⟨by rw [hc]; rfl, splitLast?_eq_none_iff.mp hr⟩
      · simp [splitLast?, hr, hc] at h
    | some parts =>
      obtain ⟨p, q⟩ := parts
      simp only [splitLast?, hr, Option.some.injEq, Prod.mk.injEq] at h
      obtain ⟨rfl, rfl⟩ := h
      obtain ⟨rfl, hq⟩ := ih hr
      exact ⟨rfl, hq⟩

theorem splitLast?_append (front : List Char) (h : sep ∉ back) :
    splitLast? sep (front ++ sep :: back) = some (front, back) := by
  induction front with
  | nil => simp [splitLast?, splitLast?_eq_none_iff.mpr h]
  | cons c front ih => simp [splitLast?, ih]

end SplitLast

section Parse

variable {s host p : String} {e : Endpoint}

theorem parse_of_no_colon (h : ':' ∉ s.toList) :
    parse s = .ok e ↔ s ≠ "" ∧ e = { host := s, port := 5555 } := by
  rw [parse, splitLast?_eq_none_iff.mpr h]
  by_cases hs : s = ""
  · simp [hs]
  · have hempty : ¬ s.isEmpty := by simpa using hs
    rw [and_iff_right hs]
    dsimp only
    rw [if_neg hempty, Except.ok.injEq]
    exact eq_comm

theorem parse_of_colon (hs : s = host ++ ":" ++ p) (hp : ':' ∉ p.toList) :
    parse s = .ok e ↔
      host ≠ "" ∧ IsNumeral p.toList e.port.toNat ∧ e = { host := host, port := e.port } := by
  have hsplit : splitLast? ':' s.toList = some (host.toList, p.toList) := by
    subst hs
    simpa using splitLast?_append host.toList hp
  have hnumeral : IsNumeral p.toList e.port.toNat ↔ portNumber p.toList = .ok e.port.toNat := by
    have hlt := e.port.toNat_lt
    rw [portNumber_eq_ok_iff, and_iff_left (by omega)]
  rw [parse, hsplit, hnumeral]
  dsimp only
  cases hn : portNumber p.toList with
  | error cause => simp
  | ok n =>
    have hle := (portNumber_eq_ok_iff.mp hn).2
    by_cases hh : host = ""
    · simp [hh]
    · have hempty : ¬ host.toList.isEmpty := by simpa using hh
      dsimp only
      rw [if_neg hempty, String.ofList_toList, and_iff_right hh, Except.ok.injEq, Except.ok.injEq]
      constructor
      · rintro rfl
        exact ⟨(UInt16.toNat_ofNat_of_lt (Nat.lt_succ_of_le hle)).symm, rfl⟩
      · rintro ⟨rfl, he⟩
        rw [UInt16.ofNat_toNat]
        exact he.symm

end Parse

theorem parse_eq_ok_iff {s : String} {e : Endpoint} :
    parse s = .ok e ↔ IsAddress s e.host e.port ∧ e.serial = none := by
  constructor
  · intro h
    cases hs : splitLast? ':' s.toList with
    | none =>
      have hcolon := splitLast?_eq_none_iff.mp hs
      obtain ⟨hne, rfl⟩ := (parse_of_no_colon hcolon).mp h
      exact ⟨.plain hne hcolon, rfl⟩
    | some parts =>
      obtain ⟨front, back⟩ := parts
      obtain ⟨hlist, hback⟩ := eq_append_of_splitLast? hs
      have hsplit : s = String.ofList front ++ ":" ++ String.ofList back := by
        rw [← String.toList_inj, hlist]
        simp
      have hcolon : ':' ∉ (String.ofList back).toList := by simpa using hback
      obtain ⟨hne, hn, he⟩ := (parse_of_colon hsplit hcolon).mp h
      rw [he, hsplit]
      exact ⟨.withPort hne hcolon hn, rfl⟩
  · obtain ⟨host, port, serial⟩ := e
    rintro ⟨ha, rfl⟩
    cases ha with
    | plain hne hcolon => exact (parse_of_no_colon hcolon).mpr ⟨hne, rfl⟩
    | withPort hne hcolon hn => exact (parse_of_colon rfl hcolon).mpr ⟨hne, hn, rfl⟩

/-- Whatever is understood begins with the host, and there is one. -/
theorem IsAddress.begins_with_host {s host : String} {port : UInt16} (h : IsAddress s host port) :
    host.toList ≠ [] ∧ host.toList <+: s.toList := by
  cases h with
  | plain hne hcolon => exact ⟨by simpa using hne, List.prefix_refl _⟩
  | withPort hne hcolon hn => exact ⟨by simpa using hne, by simp⟩

theorem isNumeral_toString (n : Nat) : IsNumeral (toString n).toList n := by
  rw [Nat.toString_eq_ofList_toDigits, String.toList_ofList]
  exact ⟨_, .inl rfl, Nat.toDigits_ne_nil,
    fun c hc => Nat.isDigit_of_mem_toDigits (by decide) (by decide) hc,
    Nat.ofDigitChars_ten_toDigits⟩

theorem IsNumeral.no_colon {p : List Char} {n : Nat} (h : IsNumeral p n) : ':' ∉ p := by
  obtain ⟨digits, hp, -, hdigits, -⟩ := h
  have hno : ':' ∉ digits := fun hm => absurd (hdigits ':' hm) (by decide)
  rcases hp with rfl | rfl
  · exact hno
  · simpa using hno

theorem parse_text_eq_ok_iff (e : Endpoint) :
    parse e.text = .ok { e with serial := none } ↔ e.host ≠ "" := by
  have hn := isNumeral_toString e.port.toNat
  have hparse := parse_of_colon (e := { e with serial := none }) (rfl : e.text = _) hn.no_colon
  rw [hparse]
  exact ⟨fun h => h.1, fun h => ⟨h, hn, rfl⟩⟩

/-- Exactly the texts of the grammar are understood, each as the endpoint it stands for; and an
endpoint is read back from its own text exactly if it has a host, with colons in it or without. Its
serial number is no part of the text. -/
theorem addresses_understood (s : String) (e : Endpoint) :
    (parse s = .ok e ↔ IsAddress s e.host e.port ∧ e.serial = none) ∧
    (parse e.text = .ok { e with serial := none } ↔ e.host ≠ "") :=
  ⟨parse_eq_ok_iff, parse_text_eq_ok_iff e⟩

example : (parse "fe80::1:+080").toOption = some { host := "fe80::1", port := 80 } := by
  decide +kernel

end BrickHost.Endpoint
