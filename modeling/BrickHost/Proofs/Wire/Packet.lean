import BrickHost.Wire.Packet

/-! Packets and their bytes. The bytes of a packet determine it, and the two decoders share out the
byte strings by the third byte, which names the kind. -/

namespace BrickHost

theorem toNat_wordOfBytes (lo hi : UInt8) :
    (wordOfBytes lo hi).toNat = lo.toNat + 256 * hi.toNat := by
  have hlo := lo.toNat_lt
  have hhi := hi.toNat_lt
  have hshift : hi.toNat <<< 8 % 2 ^ 16 = hi.toNat <<< 8 := by
    rw [Nat.shiftLeft_eq]
    omega
  simp only [wordOfBytes, UInt16.toNat_or, UInt16.toNat_shiftLeft, UInt8.toNat_toUInt16]
  calc lo.toNat ||| hi.toNat <<< (UInt16.toNat 8 % 16) % 2 ^ 16
      = hi.toNat <<< 8 ||| lo.toNat := by rw [Nat.or_comm]; exact congrArg (· ||| _) hshift
    _ = hi.toNat <<< 8 + lo.toNat := (Nat.shiftLeft_add_eq_or_of_lt hlo _).symm
    _ = lo.toNat + 256 * hi.toNat := by
      rw [Nat.shiftLeft_eq]
      omega

theorem wordOfBytes_wordBytes (w : UInt16) : wordOfBytes w.toUInt8 (w >>> 8).toUInt8 = w := by
  apply UInt16.toNat_inj.mp
  have hw := w.toNat_lt
  rw [toNat_wordOfBytes, UInt16.toNat_toUInt8, UInt16.toNat_toUInt8, UInt16.toNat_shiftRight]
  show w.toNat % 2 ^ 8 + 256 * (w.toNat >>> 8 % 2 ^ 8) = w.toNat
  rw [Nat.shiftRight_eq_div_pow]
  omega

theorem wordBytes_wordOfBytes (lo hi : UInt8) : wordBytes (wordOfBytes lo hi) = [lo, hi] := by
  have hn := toNat_wordOfBytes lo hi
  have hlo := lo.toNat_lt
  have hhi := hi.toNat_lt
  have hlow : (wordOfBytes lo hi).toUInt8 = lo := by
    apply UInt8.toNat_inj.mp
    rw [UInt16.toNat_toUInt8, hn]
    omega
  have hhigh : (wordOfBytes lo hi >>> 8).toUInt8 = hi := by
    apply UInt8.toNat_inj.mp
    rw [UInt16.toNat_toUInt8, UInt16.toNat_shiftRight, hn]
    show (lo.toNat + 256 * hi.toNat) >>> 8 % 2 ^ 8 = hi.toNat
    rw [Nat.shiftRight_eq_div_pow]
    omega
  rw [wordBytes, hlow, hhigh]

namespace Header

theorem decode_encode_append (h : Header) (payload : List UInt8) :
    decode (h.encode ++ payload) = .ok h := by
  simp only [encode, wordBytes, List.cons_append, List.nil_append, decode, wordOfBytes_wordBytes]

/-- Bytes are too few for a header, or a header and a payload. -/
theorem decode_cases (bytes : List UInt8) :
    bytes.length < size ∧ decode bytes = .error (.truncated bytes.length size) ∨
      ∃ h : Header, decode bytes = .ok h ∧ bytes[2]? = some h.kind ∧
        bytes = h.encode ++ bytes.drop size := by
  rcases bytes with _ | ⟨lo, _ | ⟨hi, _ | ⟨kind, rest⟩⟩⟩
  · exact .inl ⟨by decide, rfl⟩
  · exact .inl ⟨by simp [size], rfl⟩
  · exact .inl ⟨by simp [size], rfl⟩
  · refine .inr ⟨⟨wordOfBytes lo hi, kind⟩, rfl, rfl, ?_⟩
    simp [encode, wordBytes_wordOfBytes, size]

end Header

theorem ReplyKind.ofByte?_eq_some_iff {b : UInt8} {k : ReplyKind} :
    ofByte? b = some k ↔ k.byte = b := by
  constructor
  · exact byte_of_ofByte?
  · rintro rfl
    exact ofByte?_byte k

theorem CommandKind.ofByte?_eq_some_iff {b : UInt8} {k : CommandKind} :
    ofByte? b = some k ↔ k.byte = b := by
  constructor
  · exact byte_of_ofByte?
  · rintro rfl
    exact ofByte?_byte k

namespace PacketKind

def IsReply (k : PacketKind) : Prop :=
  ∃ r, k = reply r

def IsCommand (k : PacketKind) : Prop :=
  ∃ c, k = command c

theorem byte_ne {c k : PacketKind} (hc : c.IsCommand) (hk : k.IsReply) : c.byte ≠ k.byte := by
  obtain ⟨c, rfl⟩ := hc
  obtain ⟨r, rfl⟩ := hk
  exact CommandKind.byte_ne_replyKind_byte c r

end PacketKind

namespace Packet

theorem drop_body (p : Packet) : p.body.drop Header.size = p.payload := by
  simp [body, Header.encode, wordBytes, Header.size]

theorem decode_body (p : Packet) : Header.decode p.body = .ok ⟨p.counter, p.kind.byte⟩ :=
  Header.decode_encode_append _ _

theorem toBytes_eq_ok_iff {p : Packet} {limit : Nat} {bytes : List UInt8} :
    p.toBytes limit = .ok bytes ↔ p.size ≤ limit ∧ bytes = p.body := by
  unfold toBytes
  by_cases hl : limit < p.size
  · have hn : ¬ p.size ≤ limit := by omega
    simp [hl, hn]
  · have hn : p.size ≤ limit := by omega
    simp [hl, hn, eq_comm]

theorem toBytes_eq_error_iff {p : Packet} {limit : Nat} {e : EncodeError} :
    p.toBytes limit = .error e ↔ limit < p.size ∧ e = .frameTooLarge p.size limit := by
  unfold toBytes
  by_cases hl : limit < p.size <;> simp [hl, eq_comm]

/-- Bytes are those of a packet if the packet comes to them under every limit that admits them. -/
theorem eq_body_iff_toBytes {p : Packet} {bytes : List UInt8} :
    bytes = p.body ↔ ∀ limit, bytes.length ≤ limit → p.toBytes limit = .ok bytes := by
  constructor
  · rintro rfl limit hl
    rw [length_body] at hl
    exact toBytes_eq_ok_iff.mpr ⟨hl, rfl⟩
  · intro h
    exact (toBytes_eq_ok_iff.mp (h bytes.length (Nat.le_refl _))).2

/-- A decoder of the packets whose kinds stand in a table. -/
def decodeBy (kind? : UInt8 → Option PacketKind) (bytes : List UInt8) :
    Except DecodeError Packet :=
  match Header.decode bytes with
  | .error e => .error e
  | .ok h =>
    match kind? h.kind with
    | none => .error (.unknownKind h.kind)
    | some k => .ok ⟨h.counter, k, bytes.drop Header.size⟩

theorem decodeReply_eq (bytes : List UInt8) :
    decodeReply bytes = decodeBy (fun b => (ReplyKind.ofByte? b).map .reply) bytes := by
  unfold decodeReply decodeBy
  cases Header.decode bytes with
  | error e => rfl
  | ok h =>
    dsimp only
    cases ReplyKind.ofByte? h.kind <;> rfl

theorem decodeCommand_eq (bytes : List UInt8) :
    decodeCommand bytes = decodeBy (fun b => (CommandKind.ofByte? b).map .command) bytes := by
  unfold decodeCommand decodeBy
  cases Header.decode bytes with
  | error e => rfl
  | ok h =>
    dsimp only
    cases CommandKind.ofByte? h.kind <;> rfl

section Table

variable {kind? : UInt8 → Option PacketKind} {admitted : PacketKind → Prop} {bytes : List UInt8}
  {p : Packet} {e : DecodeError}

theorem decodeBy_eq_ok_iff (hk : ∀ b k, kind? b = some k ↔ admitted k ∧ k.byte = b) :
    decodeBy kind? bytes = .ok p ↔ admitted p.kind ∧ bytes = p.body := by
  constructor
  · intro h
    rcases Header.decode_cases bytes with ⟨-, ht⟩ | ⟨hd, hok, -, hb⟩
    · simp [decodeBy, ht] at h
    · cases hq : kind? hd.kind with
      | none => simp [decodeBy, hok, hq] at h
      | some k =>
        simp only [decodeBy, hok, hq, Except.ok.injEq] at h
        subst h
        obtain ⟨ha, hbyte⟩ := (hk hd.kind k).mp hq
        refine ⟨ha, ?_⟩
        rw [body, hbyte]
        exact hb
  · rintro ⟨ha, rfl⟩
    have hq : kind? p.kind.byte = some p.kind := (hk _ _).mpr ⟨ha, rfl⟩
    simp [decodeBy, decode_body, hq, drop_body]

theorem decodeBy_eq_error (h : decodeBy kind? bytes = .error e) :
    bytes.length < 3 ∧ e = .truncated bytes.length 3 ∨
      ∃ kind, bytes[2]? = some kind ∧ e = .unknownKind kind := by
  rcases Header.decode_cases bytes with ⟨hl, ht⟩ | ⟨hd, hok, hkind, -⟩
  · simp only [decodeBy, ht, Except.error.injEq] at h
    exact .inl ⟨hl, h.symm⟩
  · cases hq : kind? hd.kind with
    | none =>
      simp only [decodeBy, hok, hq, Except.error.injEq] at h
      exact .inr ⟨hd.kind, hkind, h.symm⟩
    | some k => simp [decodeBy, hok, hq] at h

end Table

theorem decodeReply_eq_ok_iff {bytes : List UInt8} {p : Packet} :
    decodeReply bytes = .ok p ↔ p.kind.IsReply ∧ bytes = p.body := by
  rw [decodeReply_eq]
  refine decodeBy_eq_ok_iff fun b k => ?_
  simp only [Option.map_eq_some_iff, ReplyKind.ofByte?_eq_some_iff]
  constructor
  · rintro ⟨r, rfl, rfl⟩
    exact ⟨⟨r, rfl⟩, rfl⟩
  · rintro ⟨⟨r, rfl⟩, rfl⟩
    exact ⟨r, rfl, rfl⟩

theorem decodeCommand_eq_ok_iff {bytes : List UInt8} {p : Packet} :
    decodeCommand bytes = .ok p ↔ p.kind.IsCommand ∧ bytes = p.body := by
  rw [decodeCommand_eq]
  refine decodeBy_eq_ok_iff fun b k => ?_
  simp only [Option.map_eq_some_iff, CommandKind.ofByte?_eq_some_iff]
  constructor
  · rintro ⟨c, rfl, rfl⟩
    exact ⟨⟨c, rfl⟩, rfl⟩
  · rintro ⟨⟨c, rfl⟩, rfl⟩
    exact ⟨c, rfl, rfl⟩

theorem decodeReply_body (counter : UInt16) (kind : ReplyKind) (payload : List UInt8) :
    decodeReply (reply counter kind payload).body = .ok (reply counter kind payload) :=
  decodeReply_eq_ok_iff.mpr ⟨⟨kind, rfl⟩, rfl⟩

theorem kind_byte_of_body_eq {p q : Packet} (h : p.body = q.body) : p.kind.byte = q.kind.byte := by
  have hp := decode_body p
  rw [h, decode_body] at hp
  exact (Header.mk.inj (Except.ok.inj hp)).2.symm

/-- A decoder accepts exactly the bytes of the packets on its side, so that none is accepted by
both; what it rejects is too short for a header or names an unknown kind; and a packet comes to its
bytes under every limit that is not below their number. -/
theorem decoded_iff_encoded (bytes : List UInt8) (p : Packet) :
    (decodeReply bytes = .ok p ↔
      p.kind.IsReply ∧ ∀ limit, bytes.length ≤ limit → p.toBytes limit = .ok bytes) ∧
    (decodeCommand bytes = .ok p ↔
      p.kind.IsCommand ∧ ∀ limit, bytes.length ≤ limit → p.toBytes limit = .ok bytes) ∧
    (∀ q r, ¬ (decodeReply bytes = .ok q ∧ decodeCommand bytes = .ok r)) ∧
    (∀ e, decodeReply bytes = .error e ∨ decodeCommand bytes = .error e →
      bytes.length < 3 ∧ e = .truncated bytes.length 3 ∨
        ∃ kind, bytes[2]? = some kind ∧ e = .unknownKind kind) ∧
    ∀ limit e, p.toBytes limit = .error e ↔
      limit < 3 + p.payload.length ∧ e = .frameTooLarge (3 + p.payload.length) limit := by
  refine ⟨?_, ?_, ?_, ?_, fun limit e => toBytes_eq_error_iff⟩
  · rw [decodeReply_eq_ok_iff, eq_body_iff_toBytes]
  · rw [decodeCommand_eq_ok_iff, eq_body_iff_toBytes]
  · rintro q r ⟨hq, hr⟩
    obtain ⟨hreply, hbq⟩ := decodeReply_eq_ok_iff.mp hq
    obtain ⟨hcommand, hbr⟩ := decodeCommand_eq_ok_iff.mp hr
    exact PacketKind.byte_ne hcommand hreply (kind_byte_of_body_eq (hbr.symm.trans hbq))
  · rintro e (he | he)
    · exact decodeBy_eq_error (decodeReply_eq bytes ▸ he)
    · exact decodeBy_eq_error (decodeCommand_eq bytes ▸ he)

end Packet
end BrickHost
