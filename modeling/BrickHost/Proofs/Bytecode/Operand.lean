import BrickHost.Bytecode.Operand
import Mathlib.Data.List.Forall2

/-! Operands read back. The tag byte of an operand tells how far it reaches, so a row of operands
can be read without anything between them; and the encodings that choose among the sizes take the
least one. -/

namespace BrickHost

namespace Operand

/-- The number that bytes stand for, the low byte first. -/
def littleEndian : List UInt8 → Nat
  | [] => 0
  | b :: rest => b.toNat + 256 * littleEndian rest

/-- The constant that a number stands for in two's complement. -/
def signed (modulus n : Nat) : OperandMeaning :=
  .const (Int.bmod n modulus)

/-- What a tag below 128 stands for: six bits of a constant, or five of an offset. -/
def shortMeaning (tag : UInt8) : OperandMeaning :=
  if tag.toNat < 0x40 then signed 64 tag.toNat
  else if tag.toNat < 0x60 then .localAt (tag.toNat - 0x40)
  else .globalAt (tag.toNat - 0x60)

/-- Reads a number of so many bytes. -/
def readNumber? (size : Nat) (mean : Nat → OperandMeaning) (bytes : List UInt8) :
    Option (OperandMeaning × List UInt8) :=
  if bytes.length < size then none
  else some (mean (littleEndian (bytes.take size)), bytes.drop size)

/-- Reads a text up to its closing zero byte. -/
def readText? (bytes : List UInt8) : Option (OperandMeaning × List UInt8) :=
  match String.fromUTF8? ⟨(bytes.takeWhile (· != 0)).toArray⟩, bytes.dropWhile (· != 0) with
  | some s, _ :: rest => some (.text s, rest)
  | _, _ => none

def readLong? (tag : UInt8) (bytes : List UInt8) : Option (OperandMeaning × List UInt8) :=
  match tag with
  | 0x81 => readNumber? 1 (signed 256) bytes
  | 0x82 => readNumber? 2 (signed 65536) bytes
  | 0x83 => readNumber? 4 (signed 4294967296) bytes
  | 0x84 => readText? bytes
  | 0xc1 => readNumber? 1 .localAt bytes
  | 0xc2 => readNumber? 2 .localAt bytes
  | 0xe1 => readNumber? 1 .globalAt bytes
  | 0xe2 => readNumber? 2 .globalAt bytes
  | _ => none

/-- Reads the operand at the front of a stream, and gives what follows it. -/
def read? : List UInt8 → Option (OperandMeaning × List UInt8)
  | [] => none
  | tag :: bytes =>
    if tag.toNat < 0x80 then some (shortMeaning tag, bytes) else readLong? tag bytes

theorem littleEndian_wordBytes (w : UInt16) : littleEndian (wordBytes w) = w.toNat := by
  have hw := w.toNat_lt
  simp only [wordBytes, littleEndian, UInt16.toNat_toUInt8, UInt16.toNat_shiftRight]
  show w.toNat % 2 ^ 8 + 256 * (w.toNat >>> 8 % 2 ^ 8 + 256 * 0) = w.toNat
  rw [Nat.shiftRight_eq_div_pow]
  omega

theorem littleEndian_quadBytes (w : UInt32) : littleEndian (quadBytes w) = w.toNat := by
  have hw := w.toNat_lt
  simp only [quadBytes, littleEndian, UInt32.toNat_toUInt8, UInt32.toNat_shiftRight]
  show w.toNat % 2 ^ 8 + 256 * (w.toNat >>> 8 % 2 ^ 8 +
    256 * (w.toNat >>> 16 % 2 ^ 8 + 256 * (w.toNat >>> 24 % 2 ^ 8 + 256 * 0))) = w.toNat
  simp only [Nat.shiftRight_eq_div_pow]
  omega

theorem signed_toUInt8 (v : Int8) : signed 256 v.toUInt8.toNat = .const v.toInt := by
  have h : Int.bmod v.toUInt8.toNat 256 = v.toInt := (BitVec.toInt_eq_toNat_bmod v.toBitVec).symm
  rw [signed, h]

theorem signed_toUInt16 (v : Int16) : signed 65536 v.toUInt16.toNat = .const v.toInt := by
  have h : Int.bmod v.toUInt16.toNat 65536 = v.toInt :=
    (BitVec.toInt_eq_toNat_bmod v.toBitVec).symm
  rw [signed, h]

theorem signed_toUInt32 (v : Int32) : signed 4294967296 v.toUInt32.toNat = .const v.toInt := by
  have h : Int.bmod v.toUInt32.toNat 4294967296 = v.toInt :=
    (BitVec.toInt_eq_toNat_bmod v.toBitVec).symm
  rw [signed, h]

/-- A constant is told by its low bits if it is small enough for them. -/
theorem signed_low {n m width : Nat} {v : Int} (hn : signed width n = .const v) (hd : m ∣ width)
    (hlo : -((m : Int) / 2) ≤ v) (hhi : v < ((m : Int) + 1) / 2) :
    signed m (n % m) = .const v := by
  have hv : Int.bmod n width = v := OperandMeaning.const.inj hn
  rw [signed, Int.natCast_emod, Int.emod_bmod, ← Int.bmod_bmod_of_dvd hd, hv,
    Int.bmod_eq_of_le hlo hhi]

section Short

theorem read?_of_short {tag : UInt8} (h : tag.toNat < 0x80) (rest : List UInt8) :
    read? (tag :: rest) = some (shortMeaning tag, rest) := by
  simp only [read?, h, if_true]

theorem toNat_low_bits (b : UInt8) : (b &&& 0x3f).toNat = b.toNat % 64 := by
  rw [UInt8.toNat_and]
  exact Nat.and_two_pow_sub_one_eq_mod b.toNat 6

theorem read?_shortConstant {b : UInt8} {width n : Nat} {v : Int}
    (hn : signed width n = .const v) (hd : 64 ∣ width) (hb : b.toNat % 64 = n % 64)
    (hv : isShort v) (rest : List UInt8) :
    read? ((b &&& 0x3f) :: rest) = some (.const v, rest) := by
  have htag := toNat_low_bits b
  have hlt := Nat.mod_lt n (show 64 > 0 by decide)
  simp only [isShort, Bool.and_eq_true, decide_eq_true_eq] at hv
  rw [read?_of_short (by omega), shortMeaning, if_pos (by omega), htag, hb,
    signed_low hn hd (by omega) (by omega)]

theorem toNat_tag_or {tag offset : UInt8} (ht : tag.toNat % 32 = 0) (ho : offset.toNat ≤ 31) :
    (tag ||| offset).toNat = tag.toNat + offset.toNat := by
  have hmul : tag.toNat = 2 ^ 5 * (tag.toNat / 32) := by omega
  rw [UInt8.toNat_or, hmul]
  exact (Nat.two_pow_add_eq_or_of_lt (by omega) _).symm

theorem read?_shortLocal {offset : UInt8} (ho : offset.toNat ≤ 31) (rest : List UInt8) :
    read? ((0x40 ||| offset) :: rest) = some (.localAt offset.toNat, rest) := by
  have htag : ((0x40 : UInt8) ||| offset).toNat = 0x40 + offset.toNat := toNat_tag_or rfl ho
  rw [read?_of_short (by omega), shortMeaning, if_neg (by omega), if_pos (by omega), htag,
    Nat.add_sub_cancel_left]

theorem read?_shortGlobal {offset : UInt8} (ho : offset.toNat ≤ 31) (rest : List UInt8) :
    read? ((0x60 ||| offset) :: rest) = some (.globalAt offset.toNat, rest) := by
  have htag : ((0x60 : UInt8) ||| offset).toNat = 0x60 + offset.toNat := toNat_tag_or rfl ho
  rw [read?_of_short (by omega), shortMeaning, if_neg (by omega), if_neg (by omega), htag,
    Nat.add_sub_cancel_left]

end Short

/-- A tag that announces a number of so many bytes. -/
structure Announces (tag : UInt8) (size : Nat) (mean : Nat → OperandMeaning) : Prop where
  long : ¬ tag.toNat < 0x80
  reads : ∀ bytes, readLong? tag bytes = readNumber? size mean bytes

section Long

variable {tag : UInt8} {size : Nat} {mean : Nat → OperandMeaning} (rest : List UInt8)

theorem Announces.read?_append (h : Announces tag size mean) {bytes : List UInt8}
    (hl : bytes.length = size) :
    read? (tag :: (bytes ++ rest)) = some (mean (littleEndian bytes), rest) := by
  subst hl
  rw [read?, if_neg h.long, h.reads, readNumber?]
  simp

theorem Announces.read?_byte (h : Announces tag 1 mean) (b : UInt8) :
    read? (tag :: b :: rest) = some (mean b.toNat, rest) :=
  h.read?_append rest (rfl : [b].length = 1)

theorem Announces.read?_word (h : Announces tag 2 mean) (w : UInt16) :
    read? (tag :: (wordBytes w ++ rest)) = some (mean w.toNat, rest) :=
  littleEndian_wordBytes w ▸ h.read?_append rest (rfl : (wordBytes w).length = 2)

theorem Announces.read?_quad (h : Announces tag 4 mean) (w : UInt32) :
    read? (tag :: (quadBytes w ++ rest)) = some (mean w.toNat, rest) :=
  littleEndian_quadBytes w ▸ h.read?_append rest (rfl : (quadBytes w).length = 4)

theorem byteConstant_announces : Announces 0x81 1 (signed 256) := ⟨by decide, fun _ => rfl⟩

theorem wordConstant_announces : Announces 0x82 2 (signed 65536) := ⟨by decide, fun _ => rfl⟩

theorem quadConstant_announces : Announces 0x83 4 (signed 4294967296) :=
  ⟨by decide, fun _ => rfl⟩

theorem byteLocal_announces : Announces 0xc1 1 .localAt := ⟨by decide, fun _ => rfl⟩

theorem wordLocal_announces : Announces 0xc2 2 .localAt := ⟨by decide, fun _ => rfl⟩

theorem byteGlobal_announces : Announces 0xe1 1 .globalAt := ⟨by decide, fun _ => rfl⟩

theorem wordGlobal_announces : Announces 0xe2 2 .globalAt := ⟨by decide, fun _ => rfl⟩

end Long

theorem read?_constant (value : Int32) (rest : List UInt8) :
    read? (constant value ++ rest) = some (.const value.toInt, rest) := by
  have hn := signed_toUInt32 value
  unfold constant
  dsimp only
  split
  next hs =>
    have hbyte : value.toUInt32.toUInt8.toNat % 64 = value.toUInt32.toNat % 64 := by
      rw [UInt32.toNat_toUInt8]
      omega
    exact read?_shortConstant hn (by decide) hbyte hs rest
  next =>
    split
    next hb =>
      have h := byteConstant_announces.read?_byte rest value.toUInt32.toUInt8
      rwa [UInt32.toNat_toUInt8, signed_low hn (by decide) (by omega) (by omega)] at h
    next =>
      split
      next hw =>
        have h := wordConstant_announces.read?_word rest value.toUInt32.toUInt16
        rwa [UInt32.toNat_toUInt16, signed_low hn (by decide) (by omega) (by omega)] at h
      next => exact hn ▸ quadConstant_announces.read?_quad rest value.toUInt32

theorem read?_variableAt {shortTag longTag : UInt8} {place : Nat → OperandMeaning}
    (hshort : ∀ o : UInt8, o.toNat ≤ 31 → ∀ rest,
      read? ((shortTag ||| o) :: rest) = some (place o.toNat, rest))
    (hbyte : Announces (longTag ||| 1) 1 place) (hword : Announces (longTag ||| 2) 2 place)
    (offset : UInt16) (rest : List UInt8) :
    read? (variableAt shortTag longTag offset ++ rest) = some (place offset.toNat, rest) := by
  have hlow : offset.toNat ≤ 255 → offset.toUInt8.toNat = offset.toNat := by
    intro h
    rw [UInt16.toNat_toUInt8]
    exact Nat.mod_eq_of_lt (by omega)
  unfold variableAt
  split
  next hs =>
    have h := hshort offset.toUInt8 (by rw [hlow (by omega)]; exact hs) rest
    rwa [hlow (by omega)] at h
  next =>
    split
    next hb =>
      have h := hbyte.read?_byte rest offset.toUInt8
      rwa [hlow hb] at h
    next => exact hword.read?_word rest offset

theorem eq_of_shortVariable {tag : UInt8} {name : String} {offset : UInt8} {bytes : List UInt8}
    (h : shortVariable tag name offset = .ok bytes) :
    offset.toNat ≤ 31 ∧ bytes = [tag ||| offset] := by
  unfold shortVariable at h
  split at h
  · cases h
  next hl => exact ⟨Nat.not_lt.mp hl, (Except.ok.inj h).symm⟩

theorem toListLoop_eq (bytes : ByteArray) (i : Nat) (seen : List UInt8) :
    ByteArray.toList.loop bytes i seen = seen.reverse ++ bytes.data.toList.drop i := by
  fun_induction ByteArray.toList.loop bytes i seen with
  | case1 i seen hi ih =>
    have hget : bytes.get! i = bytes.data.toList[i] := getElem!_pos bytes.data i hi
    rw [ih, List.reverse_cons, List.append_assoc, List.drop_eq_getElem_cons hi, hget]
    rfl
  | case2 i seen hi =>
    rw [List.drop_of_length_le (Nat.not_lt.mp hi), List.append_nil]

theorem fromUTF8?_toList (s : String) : String.fromUTF8? ⟨s.toUTF8.toList.toArray⟩ = some s := by
  rw [ByteArray.toList, toListLoop_eq, List.reverse_nil, List.nil_append, List.drop_zero,
    Array.toArray_toList]
  exact dif_pos s.isValidUTF8

theorem read?_text {s : String} (h : 0 ∉ s.toUTF8.toList) (rest : List UInt8) :
    read? (0x84 :: (s.toUTF8.toList ++ 0 :: rest)) = some (.text s, rest) := by
  have hall : ∀ b ∈ s.toUTF8.toList, (b != 0) = true := by
    intro b hb
    have hne : b ≠ 0 := fun he => h (he ▸ hb)
    simpa using hne
  have htake : (0 :: rest).takeWhile (· != 0) = [] := rfl
  have hdrop : (0 :: rest).dropWhile (· != 0) = 0 :: rest := rfl
  show readText? (s.toUTF8.toList ++ 0 :: rest) = _
  rw [readText?, List.takeWhile_append_of_pos hall, List.dropWhile_append_of_pos hall, htake, hdrop,
    List.append_nil, fromUTF8?_toList]

/-- Whatever follows an operand, it is read back from its bytes. -/
theorem read?_encode_append {o : Operand} {bytes : List UInt8} (h : o.encode = .ok bytes)
    (rest : List UInt8) : read? (bytes ++ rest) = some (o.meaning, rest) := by
  cases o with
  | lc0 v =>
    simp only [encode] at h
    split at h <;> cases h
    next hs => exact read?_shortConstant (signed_toUInt8 v) (by decide) rfl hs rest
  | lc1 v =>
    cases h
    exact (byteConstant_announces.read?_byte rest v.toUInt8).trans (by rw [signed_toUInt8]; rfl)
  | lc2 v =>
    cases h
    exact (wordConstant_announces.read?_word rest v.toUInt16).trans (by rw [signed_toUInt16]; rfl)
  | lc4 v =>
    cases h
    exact (quadConstant_announces.read?_quad rest v.toUInt32).trans (by rw [signed_toUInt32]; rfl)
  | lcx v =>
    cases h
    exact read?_constant v rest
  | lcs s =>
    simp only [encode] at h
    split at h <;> cases h
    next hz =>
      rw [List.cons_append, List.append_assoc]
      exact read?_text hz rest
  | lv0 o =>
    obtain ⟨ho, rfl⟩ := eq_of_shortVariable h
    exact read?_shortLocal ho rest
  | lvx o =>
    cases h
    exact read?_variableAt (fun _ => read?_shortLocal) byteLocal_announces wordLocal_announces o
      rest
  | gv0 o =>
    obtain ⟨ho, rfl⟩ := eq_of_shortVariable h
    exact read?_shortGlobal ho rest
  | gv1 o =>
    cases h
    exact byteGlobal_announces.read?_byte rest o
  | gv2 o =>
    cases h
    exact wordGlobal_announces.read?_word rest o
  | gvx o =>
    cases h
    exact read?_variableAt (fun _ => read?_shortGlobal) byteGlobal_announces wordGlobal_announces o
      rest

/-- The bytes of operands that stand one behind the other; each of them can be encoded. -/
def IsStream (ops : List Operand) (bytes : List UInt8) : Prop :=
  ∃ chunks, List.Forall₂ (fun o chunk => encode o = .ok chunk) ops chunks ∧ bytes = chunks.flatten

/-- What reading an operand after the other makes of a stream, up to its end. -/
inductive Reads : List UInt8 → List OperandMeaning → Prop
  | done : Reads [] []
  | next {bytes rest : List UInt8} {m : OperandMeaning} {ms : List OperandMeaning}
    (h : read? bytes = some (m, rest)) (hrest : Reads rest ms) : Reads bytes (m :: ms)

theorem Reads.unique {bytes : List UInt8} {ms ms' : List OperandMeaning} (h : Reads bytes ms)
    (h' : Reads bytes ms') : ms = ms' := by
  induction h generalizing ms' with
  | done =>
    cases h' with
    | done => rfl
    | next hr => simp [read?] at hr
  | next hr hrest ih =>
    cases h' with
    | done => simp [read?] at hr
    | next hr' hrest' =>
      obtain ⟨rfl, rfl⟩ := Prod.mk.inj (Option.some.inj (hr.symm.trans hr'))
      rw [ih hrest']

theorem IsStream.reads {ops : List Operand} {bytes : List UInt8} (h : IsStream ops bytes) :
    Reads bytes (ops.map meaning) := by
  obtain ⟨chunks, hall, rfl⟩ := h
  induction hall with
  | nil => exact .done
  | cons ho _ ih => exact .next (read?_encode_append ho _) ih

/-- The least number of bytes for a constant. -/
def constantWidth (v : Int) : Nat :=
  if isShort v then 1
  else if -128 ≤ v ∧ v ≤ 127 then 2
  else if -32768 ≤ v ∧ v ≤ 32767 then 3
  else 5

/-- The least number of bytes for an offset. -/
def offsetWidth (offset : Nat) : Nat :=
  if offset ≤ 31 then 1 else if offset ≤ 255 then 2 else 3

theorem constantWidth_le_two {v : Int} (hlo : -128 ≤ v) (hhi : v ≤ 127) : constantWidth v ≤ 2 := by
  unfold constantWidth
  split_ifs <;> omega

theorem constantWidth_le_three {v : Int} (hlo : -32768 ≤ v) (hhi : v ≤ 32767) :
    constantWidth v ≤ 3 := by
  unfold constantWidth
  split_ifs <;> omega

theorem constantWidth_le_five (v : Int) : constantWidth v ≤ 5 := by
  unfold constantWidth
  split_ifs <;> omega

theorem offsetWidth_le_two {offset : Nat} (h : offset ≤ 255) : offsetWidth offset ≤ 2 := by
  unfold offsetWidth
  split_ifs <;> omega

theorem offsetWidth_le_three (offset : Nat) : offsetWidth offset ≤ 3 := by
  unfold offsetWidth
  split_ifs <;> omega

theorem length_constant (value : Int32) : (constant value).length = constantWidth value.toInt := by
  simp only [constant, constantWidth]
  split_ifs <;> rfl

theorem length_variableAt (shortTag longTag : UInt8) (offset : UInt16) :
    (variableAt shortTag longTag offset).length = offsetWidth offset.toNat := by
  unfold variableAt offsetWidth
  split_ifs <;> rfl

end Operand

/-- The least number of bytes that an operand with this meaning takes. -/
def OperandMeaning.width : OperandMeaning → Nat
  | .const v => Operand.constantWidth v
  | .text s => s.toUTF8.toList.length + 2
  | .localAt offset | .globalAt offset => Operand.offsetWidth offset

namespace Operand

theorem width_le_length {o : Operand} {bytes : List UInt8} (h : o.encode = .ok bytes) :
    o.meaning.width ≤ bytes.length := by
  cases o with
  | lc0 v =>
    simp only [encode] at h
    split at h <;> cases h
    next hs => simp [meaning, OperandMeaning.width, constantWidth, hs]
  | lc1 v =>
    cases h
    exact constantWidth_le_two v.le_toInt (Int.le_of_lt_add_one v.toInt_lt)
  | lc2 v =>
    cases h
    exact constantWidth_le_three v.le_toInt (Int.le_of_lt_add_one v.toInt_lt)
  | lc4 v =>
    cases h
    exact constantWidth_le_five v.toInt
  | lcx v =>
    cases h
    exact Nat.le_of_eq (length_constant v).symm
  | lcs s =>
    simp only [encode] at h
    split at h <;> cases h
    simp [meaning, OperandMeaning.width]
  | lv0 o | gv0 o =>
    obtain ⟨ho, rfl⟩ := eq_of_shortVariable h
    simp [meaning, OperandMeaning.width, offsetWidth, ho]
  | gv1 o =>
    cases h
    exact offsetWidth_le_two (Nat.le_of_lt_succ o.toNat_lt)
  | gv2 o =>
    cases h
    exact offsetWidth_le_three o.toNat
  | lvx o | gvx o =>
    cases h
    exact Nat.le_of_eq (length_variableAt ..).symm

/-- Among all operands with the same meaning this one has the least encoding. -/
def IsShortest (o : Operand) : Prop :=
  ∃ bytes, o.encode = .ok bytes ∧
    ∀ (o' : Operand) (bytes' : List UInt8), o'.encode = .ok bytes' → o'.meaning = o.meaning →
      bytes.length ≤ bytes'.length

theorem isShortest_of_length {o : Operand} {bytes : List UInt8} (h : o.encode = .ok bytes)
    (hl : bytes.length = o.meaning.width) : o.IsShortest := by
  refine ⟨bytes, h, fun o' bytes' h' hm => ?_⟩
  calc bytes.length = o'.meaning.width := by rw [hl, hm]
    _ ≤ bytes'.length := width_le_length h'

/-- Bytes are a stream of operands in one way only, as far as what they stand for goes; and of all
operands with the same meaning the one that leaves the choice of the size to the encoder takes the
fewest bytes. -/
theorem operand_streams_unambiguous :
    (∀ ops ops' bytes, IsStream ops bytes → IsStream ops' bytes →
      ops.map meaning = ops'.map meaning) ∧
    (∀ v, (lcx v).IsShortest) ∧ (∀ o, (lvx o).IsShortest) ∧ ∀ o, (gvx o).IsShortest := by
  refine ⟨fun ops ops' bytes h h' => h.reads.unique h'.reads, fun v => ?_, fun o => ?_, fun o => ?_⟩
  · exact isShortest_of_length rfl (length_constant v)
  · exact isShortest_of_length rfl (length_variableAt 0x40 0xc0 o)
  · exact isShortest_of_length rfl (length_variableAt 0x60 0xe0 o)

/-- Sizes left open, and the same operands with the sizes set by hand. -/
theorem open_sizes_read_like_set_ones :
    ∃ bytes, IsStream [lcx (-32), lcs "a", gvx 31, lvx 256] bytes ∧
      IsStream [lc1 (-32), lcs "a", gv0 31, lvx 256] bytes ∧
      [lcx (-32), lcs "a", gvx 31, lvx 256].map meaning =
        [lc1 (-32), lcs "a", gv0 31, lvx 256].map meaning := by
  have htext : encode (lcs "a") = .ok [0x84, 97, 0] := by decide +kernel
  have hopen : IsStream [lcx (-32), lcs "a", gvx 31, lvx 256]
      [0x81, 0xe0, 0x84, 97, 0, 0x7f, 0xc2, 0, 1] :=
    ⟨_, .cons rfl (.cons htext (.cons rfl (.cons rfl .nil))), by decide⟩
  have hset : IsStream [lc1 (-32), lcs "a", gv0 31, lvx 256]
      [0x81, 0xe0, 0x84, 97, 0, 0x7f, 0xc2, 0, 1] :=
    ⟨_, .cons rfl (.cons htext (.cons rfl (.cons rfl .nil))), by decide⟩
  exact ⟨_, hopen, hset, operand_streams_unambiguous.1 _ _ _ hopen hset⟩

end Operand
end BrickHost
