import BrickHost.Wire.Frame

/-! Frames and streams. A stream falls apart into its frames in one way only, whatever follows
them. -/

namespace BrickHost

/-- Two splits, the second of what the first left over and more. -/
def FrameSplit.andThen (first later : FrameSplit) : FrameSplit :=
  ⟨first.frames ++ later.frames, first.error.or later.error, later.rest⟩

namespace Frame

theorem limit_le (max : Nat) : limit max ≤ 65535 :=
  Nat.min_le_right max 65535

theorem limit_widest : limit 65535 = 65535 := rfl

theorem encode_ne_nil (body : List UInt8) : encode body ≠ [] := by
  simp [encode]

theorem sizeBytes (lo hi : UInt8) :
    UInt8.ofNat (lo.toNat + 256 * hi.toNat) = lo ∧
      UInt8.ofNat ((lo.toNat + 256 * hi.toNat) / 256) = hi := by
  have hlo := lo.toNat_lt
  have hhi := hi.toNat_lt
  constructor <;> apply UInt8.toNat_inj.mp <;> simp only [UInt8.toNat_ofNat'] <;> omega

theorem scan_encode_append {max : Nat} {body : List UInt8} (h : body.length ≤ limit max)
    (rest : List UInt8) : scan max (encode body ++ rest) = .frame body rest := by
  have hl := limit_le max
  have hs : body.length % 256 + 256 * (body.length / 256 % 256) = body.length := by omega
  have hn : ¬ limit max < body.length := by omega
  simp [encode, scan, hs, hn]

theorem eq_encode_append_of_scan {max : Nat} {bytes body rest : List UInt8}
    (h : scan max bytes = .frame body rest) :
    bytes = encode body ++ rest ∧ body.length ≤ limit max := by
  unfold scan at h
  split at h
  · next lo hi later =>
    dsimp only at h
    split at h
    · cases h
    · next hsize =>
      split at h
      · cases h
      · next hlen =>
        cases h
        have hl : (later.take (lo.toNat + 256 * hi.toNat)).length = lo.toNat + 256 * hi.toNat := by
          rw [List.length_take] at hlen ⊢
          omega
        obtain ⟨hlo, hhi⟩ := sizeBytes lo hi
        refine ⟨?_, by omega⟩
        rw [encode, hl, hlo, hhi]
        simp
  · cases h

theorem encode_append_inj {body other p q : List UInt8} (hb : body.length ≤ 65535)
    (ho : other.length ≤ 65535) (h : encode body ++ p = encode other ++ q) :
    body = other ∧ p = q := by
  have hp := scan_encode_append (limit_widest.symm ▸ hb) p
  have hq := scan_encode_append (limit_widest.symm ▸ ho) q
  rw [h, hq] at hp
  cases hp
  exact ⟨rfl, rfl⟩

/-- What comes first in a stream of frames are the first of these frames. -/
theorem prefix_of_encodes {heard bodies : List (List UInt8)} {rest : List UInt8}
    (hh : ∀ b ∈ heard, b.length ≤ 65535) (hb : ∀ b ∈ bodies, b.length ≤ 65535)
    (h : heard.flatMap encode ++ rest = bodies.flatMap encode) : heard <+: bodies := by
  induction heard generalizing bodies with
  | nil => exact List.nil_prefix
  | cons first later ih =>
    cases bodies with
    | nil => simp [encode] at h
    | cons body bodies =>
      simp only [List.flatMap_cons, List.append_assoc] at h
      obtain ⟨rfl, hl⟩ := encode_append_inj (hh first List.mem_cons_self)
        (hb body List.mem_cons_self) h
      have hi := ih (fun b hm => hh b (List.mem_cons_of_mem first hm))
        (fun b hm => hb b (List.mem_cons_of_mem first hm)) hl
      exact List.cons_prefix_cons.mpr ⟨rfl, hi⟩

theorem length_rest_of_scan {max : Nat} {bytes body rest : List UInt8}
    (h : scan max bytes = .frame body rest) : rest.length < bytes.length := by
  have he := congrArg List.length (eq_encode_append_of_scan h).1
  simp only [encode, List.length_append, List.length_cons] at he
  omega

theorem splitWith_eq_split {max fuel : Nat} {bytes : List UInt8} (h : bytes.length < fuel) :
    splitWith max fuel bytes = split max bytes := by
  have fueled : ∀ fuel other bytes, bytes.length < fuel → bytes.length < other →
      splitWith max fuel bytes = splitWith max other bytes := by
    intro fuel
    induction fuel with
    | zero => intro other bytes hf; omega
    | succ fuel ih =>
      intro other bytes hf ho
      obtain ⟨other, rfl⟩ : ∃ n, other = n + 1 := ⟨other - 1, by omega⟩
      cases hs : scan max bytes with
      | short => simp [splitWith, hs]
      | oversized size => simp [splitWith, hs]
      | frame body rest =>
        have hr := length_rest_of_scan hs
        simp only [splitWith, hs, ih other rest (by omega) (by omega)]
  exact fueled fuel (bytes.length + 1) bytes h (Nat.lt_succ_self _)

theorem split_of_frame {max : Nat} {bytes body rest : List UInt8}
    (h : scan max bytes = .frame body rest) :
    split max bytes = { split max rest with frames := body :: (split max rest).frames } := by
  have hr := length_rest_of_scan h
  rw [split, splitWith, h]
  simp only [splitWith_eq_split hr]

theorem split_encodes_append {max : Nat} {bodies : List (List UInt8)}
    (h : ∀ b ∈ bodies, b.length ≤ limit max) (rest : List UInt8) :
    split max (bodies.flatMap encode ++ rest) =
      { split max rest with frames := bodies ++ (split max rest).frames } := by
  induction bodies with
  | nil => rfl
  | cons body bodies ih =>
    have hi := ih (fun b hm => h b (List.mem_cons_of_mem body hm))
    have hs := scan_encode_append (h body List.mem_cons_self) (bodies.flatMap encode ++ rest)
    rw [List.flatMap_cons, List.append_assoc, split_of_frame hs, hi]
    rfl

theorem scan_append_of_oversized {max size : Nat} {bytes : List UInt8}
    (h : scan max bytes = .oversized size) (more : List UInt8) :
    scan max (bytes ++ more) = .oversized size := by
  unfold scan at h
  split at h
  · next lo hi rest =>
    dsimp only at h
    split at h
    · next hl => simpa [scan, hl] using h
    · split at h <;> cases h
  · cases h

/-- The beginning of a frame is short, unless it is the whole frame. -/
theorem scan_of_append_eq {max : Nat} {bytes more body : List UInt8} (hl : body.length ≤ limit max)
    (h : bytes ++ more = encode body) :
    scan max bytes = .short ∨ more = [] ∧ scan max bytes = .frame body [] := by
  have hl' : body.length ≤ 65535 := Nat.le_trans hl (limit_le max)
  have hw := scan_encode_append hl []
  rw [List.append_nil, ← h] at hw
  cases hs : scan max bytes with
  | short => exact .inl rfl
  | oversized size =>
    rw [scan_append_of_oversized hs more] at hw
    cases hw
  | frame other rest =>
    obtain ⟨hb, ho⟩ := eq_encode_append_of_scan hs
    rw [hb, List.append_assoc, ← List.append_nil (encode body)] at h
    obtain ⟨rfl, hn⟩ := encode_append_inj (Nat.le_trans ho (limit_le max)) hl' h
    obtain ⟨rfl, rfl⟩ := List.append_eq_nil_iff.mp hn
    exact .inr ⟨rfl, rfl⟩

theorem split_of_short {max : Nat} {bytes : List UInt8} (h : scan max bytes = .short) :
    split max bytes = ⟨[], none, bytes⟩ := by
  simp [split, splitWith, h]

theorem split_of_oversized {max size : Nat} {bytes : List UInt8}
    (h : scan max bytes = .oversized size) :
    split max bytes = ⟨[], some (.frameTooLarge size (limit max)), bytes⟩ := by
  simp [split, splitWith, h]

/-- When more bytes come in, the split goes on with what was left over. -/
theorem split_append_eq (max : Nat) (bytes more : List UInt8) :
    split max (bytes ++ more) =
      (split max bytes).andThen (split max ((split max bytes).rest ++ more)) := by
  induction hn : bytes.length using Nat.strongRecOn generalizing bytes with
  | ind n ih =>
    cases hs : scan max bytes with
    | short => simp [split_of_short hs, FrameSplit.andThen]
    | oversized size =>
      rw [split_of_oversized hs, split_of_oversized (scan_append_of_oversized hs more)]
      rfl
    | frame body rest =>
      obtain ⟨hb, hl⟩ := eq_encode_append_of_scan hs
      have hm : scan max (bytes ++ more) = .frame body (rest ++ more) := by
        rw [hb, List.append_assoc]
        exact scan_encode_append hl (rest ++ more)
      have hr := ih rest.length (hn ▸ length_rest_of_scan hs) rest rfl
      rw [split_of_frame hs, split_of_frame hm, hr]
      rfl

/-- More bytes take nothing back: neither a frame nor that the stream is lost. -/
theorem split_append (max : Nat) (bytes more : List UInt8) :
    (split max bytes).frames <+: (split max (bytes ++ more)).frames ∧
      ((split max bytes).error.isSome = true →
        (split max (bytes ++ more)).error.isSome = true) := by
  rw [split_append_eq]
  refine ⟨List.prefix_append _ _, fun he => ?_⟩
  simp [FrameSplit.andThen, he]

/-- The frames of a stretch and what is left over make up the stretch. -/
theorem split_spec (max : Nat) (bytes : List UInt8) :
    bytes = (split max bytes).frames.flatMap encode ++ (split max bytes).rest ∧
      ∀ body ∈ (split max bytes).frames, body.length ≤ limit max := by
  induction hn : bytes.length using Nat.strongRecOn generalizing bytes with
  | ind n ih =>
    cases hs : scan max bytes with
    | short => simp [split_of_short hs]
    | oversized size => simp [split_of_oversized hs]
    | frame body rest =>
      obtain ⟨hb, hl⟩ := eq_encode_append_of_scan hs
      obtain ⟨hr, hf⟩ := ih rest.length (hn ▸ length_rest_of_scan hs) rest rfl
      rw [split_of_frame hs]
      refine ⟨?_, fun other ho => ?_⟩
      · rw [List.flatMap_cons, List.append_assoc, ← hr]
        exact hb
      · rcases List.mem_cons.mp ho with rfl | ho
        · exact hl
        · exact hf other ho

end Frame
end BrickHost
