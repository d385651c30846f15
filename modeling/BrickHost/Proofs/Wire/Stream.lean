import BrickHost.Proofs.Wire.Frame
import BrickHost.Wire.Stream

/-! Streams that come in piece by piece. Where a stream is cut makes no difference: neither to the
frames that come out of it nor to what is left over. -/

namespace BrickHost

/-- What comes out first, and what comes out later. Only the first error counts. -/
def StreamOutput.andThen (first later : StreamOutput) : StreamOutput :=
  ⟨first.frames ++ later.frames, first.error.or later.error⟩

namespace FrameStream

/-- Feeds chunks one after another and takes out after each what there is. -/
def feedAll (s : FrameStream) : List (List UInt8) → FrameStream × StreamOutput
  | [] => (s, ⟨[], none⟩)
  | chunk :: rest =>
    let (s, first) := s.feed chunk
    let (s, later) := s.feedAll rest
    (s, first.andThen later)

/-- Sends bodies one after another, up to the first that is too large. -/
def sendAll (s : FrameStream) : List (List UInt8) → FrameStream × Option LinkError
  | [] => (s, none)
  | body :: rest =>
    match s.send body with
    | (s, none) => s.sendAll rest
    | (s, some e) => (s, some e)

theorem feed_append (s : FrameStream) (bytes more : List UInt8) :
    s.feed (bytes ++ more) =
      (((s.feed bytes).1.feed more).1, (s.feed bytes).2.andThen ((s.feed bytes).1.feed more).2) := by
  simp only [feed, ← List.append_assoc, Frame.split_append_eq s.max (s.received ++ bytes) more,
    FrameSplit.andThen, StreamOutput.andThen, Option.map_or]

theorem feedAll_cons (s : FrameStream) (chunk : List UInt8) (rest : List (List UInt8)) :
    s.feedAll (chunk :: rest) = s.feed (chunk ++ rest.flatten) := by
  induction rest generalizing s chunk with
  | nil => simp [feedAll, StreamOutput.andThen]
  | cons next rest ih =>
    rw [feed_append, feedAll]
    simp only [List.flatten_cons, ih]

/-- From the start of a stream on, feeding it in chunks is feeding it whole. -/
theorem feedAll_eq_feed (max : Nat) (chunks : List (List UInt8)) :
    ({ max := max } : FrameStream).feedAll chunks =
      ({ max := max } : FrameStream).feed chunks.flatten := by
  cases chunks with
  | nil => rfl
  | cons chunk rest => exact feedAll_cons _ chunk rest

theorem sendAll_eq {s : FrameStream} {bodies : List (List UInt8)}
    (h : ∀ body ∈ bodies, body.length ≤ s.limit) :
    s.sendAll bodies = ({ s with sent := s.sent ++ bodies.flatMap Frame.encode }, none) := by
  induction bodies generalizing s with
  | nil => simp [sendAll]
  | cons body rest ih =>
    have hb : ¬ s.limit < body.length := Nat.not_lt.mpr (h body List.mem_cons_self)
    have hs : s.send body = ({ s with sent := s.sent ++ Frame.encode body }, none) := by
      simp only [send, Frame.encode?, limit] at hb ⊢
      rw [if_neg hb]
    have hr := ih (s := { s with sent := s.sent ++ Frame.encode body })
      (fun other ho => h other (List.mem_cons_of_mem _ ho))
    rw [sendAll, hs]
    simpa using hr

end FrameStream

/-- However a stream is cut into chunks, the same frames come out of it as if it had come whole, the
same first error, if any, and the same remainder. The frames are within the limit, and sending them
gives the stream up to the remainder. All that is within the limit can be sent, and when that is the
stream, it comes out as it was. -/
theorem stream_cut_makes_no_difference (max : Nat) (chunks : List (List UInt8)) :
    let fresh : FrameStream := { max := max }
    let (s, found) := fresh.feedAll chunks
    fresh.feed chunks.flatten = (s, found) ∧
      (∀ body ∈ found.frames, body.length ≤ fresh.limit) ∧
      (∃ sender, fresh.sendAll found.frames = (sender, none) ∧
        sender.sent ++ s.received = chunks.flatten) ∧
      ∀ bodies, (∀ body ∈ bodies, body.length ≤ fresh.limit) →
        ∃ sender, fresh.sendAll bodies = (sender, none) ∧
          (sender.sent = chunks.flatten → found = ⟨bodies, none⟩ ∧ s.received = []) := by
  intro fresh
  have hfeed : fresh.feedAll chunks = fresh.feed chunks.flatten :=
    FrameStream.feedAll_eq_feed max chunks
  obtain ⟨hsplit, hfits⟩ := Frame.split_spec max chunks.flatten
  rw [hfeed]
  refine ⟨rfl, hfits, ⟨_, FrameStream.sendAll_eq hfits, hsplit.symm⟩, fun bodies hb => ?_⟩
  refine ⟨_, FrameStream.sendAll_eq hb, fun hs => ?_⟩
  have hwhole : Frame.split max chunks.flatten = ⟨bodies, none, []⟩ := by
    have hc : chunks.flatten = bodies.flatMap Frame.encode ++ [] := by
      rw [← hs, List.append_nil]
      rfl
    rw [hc, Frame.split_encodes_append hb, Frame.split_of_short rfl]
    simp
  simp [fresh, hwhole]

/-- A frame and an empty one, cut within the first length, within its body, and between them. -/
theorem two_frames_in_four_chunks :
    let fresh : FrameStream := { max := 2 }
    let bodies : List (List UInt8) := [[7, 8], []]
    let chunks : List (List UInt8) := [[2], [0, 7], [8], [0, 0]]
    (∀ body ∈ bodies, body.length ≤ fresh.limit) ∧
      ∃ sender, fresh.sendAll bodies = (sender, none) ∧ sender.sent = chunks.flatten ∧
        (fresh.feedAll chunks).2 = ⟨bodies, none⟩ ∧ (fresh.feedAll chunks).1.received = [] := by
  intro fresh bodies chunks
  have hb : ∀ body ∈ bodies, body.length ≤ fresh.limit := by decide
  obtain ⟨sender, hs, hout⟩ := (stream_cut_makes_no_difference 2 chunks).2.2.2 bodies hb
  have hbytes : sender.sent = chunks.flatten := by
    cases hs
    rfl
  exact ⟨hb, sender, hs, hbytes, hout hbytes⟩

end BrickHost
