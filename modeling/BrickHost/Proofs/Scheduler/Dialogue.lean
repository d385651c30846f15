import BrickHost.Proofs.Scheduler.Counters

/-! Dialogues of a scheduler with a brick. The brick answers a request when it likes, late, again or
in another order, and what it sends comes in piece by piece. -/

namespace BrickHost

/-- A frame from the brick. If it is a reply, it bears the counter of the request with the index. -/
structure Reply where
  index : Nat
  body : List UInt8
  fits : body.length ≤ 65535
  counted : ∀ packet, Packet.decodeReply body = .ok packet → packet.counter = UInt16.ofNat index

/-- A reply is due when its request is among those that have been dispatched; noise always is. -/
def Reply.isDue (r : Reply) (count : Nat) : Bool :=
  match Packet.decodeReply r.body with
  | .ok _ => decide (r.index < count)
  | .error _ => true

def Line.deliver (l : Line) (bytes : List UInt8) : Line :=
  { l with incoming := { l.incoming with bytes := l.incoming.bytes ++ bytes } }

/-- The surroundings may change a line in any way, but they put nothing into what comes in, and take
nothing out. -/
def Act.withoutInput : Act → Act
  | .rewire change => .rewire (fun l =>
      { change l with incoming := { (change l).incoming with bytes := l.incoming.bytes } })
  | act => act

structure Dialogue where
  course : Course
  past : List Moment := []
  replies : List Reply := []
  /-- Sent by the brick and not come in yet. -/
  pending : List UInt8 := []

inductive Turn where
  | act (ms : Nat) (act : Act)
  | reply (r : Reply)
  | carry (count : Nat)

namespace Dialogue

def start (config : SchedulerConfig) (line : Line) : Dialogue where
  course := Course.start config { line with incoming := { line.incoming with bytes := [] } }

def act (d : Dialogue) (ms : Nat) (act : Act) (pending : List UInt8) : Dialogue :=
  { d with
    course := d.course.after ms act
    past := d.past ++ [d.course.moment ms act]
    pending := pending }

def turn (d : Dialogue) : Turn → Dialogue
  | .act ms act => d.act ms act.withoutInput d.pending
  | .reply r =>
    if r.isDue (dispatched d.past).length then
      { d with replies := d.replies ++ [r], pending := d.pending ++ Frame.encode r.body }
    else d
  | .carry count =>
    d.act 0 (.rewire (·.deliver (d.pending.take count))) (d.pending.drop count)

def run (d : Dialogue) (turns : List Turn) : Dialogue :=
  turns.foldl turn d

/-- A dialogue holds a course. What the brick sent was read, has come in or is pending, and was due
when it was sent. -/
structure Flows (config : SchedulerConfig) (line : Line) (d : Dialogue) : Prop where
  course : ∃ acts, d.course = (Course.start config line).run acts ∧
    d.past = (Course.start config line).moments acts
  stream : received d.past ++ d.course.scheduler.line.incoming.bytes ++ d.pending =
    (d.replies.map (·.body)).flatMap Frame.encode
  due : ∀ r ∈ d.replies, r.isDue (dispatched d.past).length = true

end Dialogue

theorem Reply.isDue_mono {r : Reply} {count more : Nat} (h : r.isDue count = true)
    (hm : count ≤ more) : r.isDue more = true := by
  unfold isDue at h ⊢
  split at h
  · simp only [decide_eq_true_eq] at h ⊢
    omega
  · rfl

namespace Dialogue

section Flows

variable {config : SchedulerConfig} {line : Line} {d : Dialogue}

theorem Flows.act (h : d.Flows config line) (ms : Nat) {act : Act} (arrived : List UInt8)
    {later : List UInt8}
    (hb : (d.course.moment ms act).intake ++ (d.course.moment ms act).after.line.incoming.bytes =
      d.course.scheduler.line.incoming.bytes ++ arrived) (hp : d.pending = arrived ++ later) :
    (d.act ms act later).Flows config line where
  course := by
    obtain ⟨acts, hc, hm⟩ := h.course
    refine ⟨acts ++ [(ms, act)], ?_, ?_⟩
    · rw [Course.run_snoc, ← hc]
      rfl
    · rw [Course.moments_snoc, ← hc, ← hm]
      rfl
  stream := by
    have hs := h.stream
    rw [hp, List.append_assoc, ← List.append_assoc _ arrived, ← hb] at hs
    simpa only [Dialogue.act, received_snoc, Course.after_eq, List.append_assoc] using hs
  due r hr := Reply.isDue_mono (h.due r hr) (length_dispatched_le _ _)

theorem Flows.turn (h : d.Flows config line) (turn : Turn) : (d.turn turn).Flows config line := by
  cases turn with
  | act ms act =>
    refine h.act ms [] ?_ rfl
    rw [List.append_nil]
    apply Moment.intake_append
    intro change hc
    cases act with
    | rewire other =>
      cases hc
      rfl
    | _ => cases hc
  | reply r =>
    by_cases hr : r.isDue (dispatched d.past).length = true
    · rw [Dialogue.turn, if_pos hr]
      refine ⟨h.course, ?_, fun other ho => ?_⟩
      · simp [← h.stream]
      · rcases List.mem_append.mp ho with ho | ho
        · exact h.due other ho
        · rwa [List.mem_singleton.mp ho]
    · rw [Dialogue.turn, if_neg hr]
      exact h
  | carry count =>
    exact h.act 0 (d.pending.take count) rfl (List.take_append_drop count d.pending).symm

theorem run_flows (config : SchedulerConfig) (line : Line) (turns : List Turn) :
    ((start config line).run turns).Flows config
      { line with incoming := { line.incoming with bytes := [] } } := by
  induction turns using List.reverseRecOn with
  | nil => exact ⟨⟨[], rfl, rfl⟩, rfl, fun r hr => by cases hr⟩
  | append_singleton turns turn ih =>
    rw [run, List.foldl_append]
    exact ih.turn turn

theorem Flows.inbound (h : d.Flows config line) : d.course.scheduler.Inbound d.past := by
  obtain ⟨acts, hc, hp⟩ := h.course
  rw [hc, hp]
  exact Course.run_inbound config line acts

/-- What the scheduler has heard are the first of the frames that the brick sent. -/
theorem Flows.heard_prefix (h : d.Flows config line) : heard d.past <+: d.replies.map (·.body) := by
  have hi := h.inbound
  have hs := h.stream
  rw [hi.stream, List.append_assoc, List.append_assoc] at hs
  refine Frame.prefix_of_encodes (fun body hb => ?_) (fun body hb => ?_) hs
  · exact (hi.fits body hb).trans (Frame.limit_le _)
  · obtain ⟨r, -, rfl⟩ := List.mem_map.mp hb
    exact r.fits

theorem Flows.frame (h : d.Flows config line) {ms : Nat} {act : Act} {body : List UInt8}
    (hf : (d.course.moment ms act).frame? = some body) :
    ∃ r, d.replies[(heard d.past).length]? = some r ∧ r.body = body := by
  cases act with
  | move =>
    have hd : (d.act ms .move d.pending).Flows config line := by
      refine h.act ms [] ?_ rfl
      rw [List.append_nil]
      apply Moment.intake_append
      intro change hc
      cases hc
    have hp : heard d.past ++ [body] <+: d.replies.map (·.body) := by
      have hp := hd.heard_prefix
      rwa [Dialogue.act, heard_snoc, hf] at hp
    have hb : (d.replies.map (·.body))[(heard d.past).length]? = some body := by
      obtain ⟨rest, hr⟩ := hp
      simp [← hr]
    rw [List.getElem?_map, Option.map_eq_some_iff] at hb
    exact hb
  | _ => cases hf

theorem Flows.resolves (h : d.Flows config line) {ms : Nat} {act : Act} {post : Submission}
    {result : CommandResult} (ho : (post, .ok result) ∈ outcomes (d.course.moment ms act).events) :
    post ∈ dispatched d.past ∧
      ∃ r, d.replies[(heard d.past).length]? = some r ∧
        Packet.decodeReply r.body = .ok result.reply ∧
        ∃ turns, dispatchIndex d.past post = r.index + 65536 * turns := by
  obtain ⟨acts, hc, hp⟩ := h.course
  have hg : d.course.scheduler.Ledger d.course.log := hc ▸ Course.run_ledger config line acts
  have hcount : d.course.scheduler.Counted d.past d.course.log :=
    hc ▸ hp ▸ Course.run_counted config line acts
  obtain ⟨left, ha⟩ := hg.accounts
  obtain ⟨job, body, hj, rfl, hf, hr⟩ := Moment.answered_of_outcome _ ha.sorted ho
  obtain ⟨hm, hlast, hw⟩ := hcount.serving_last hg.taken_nodup hj
  obtain ⟨r, hs, rfl⟩ := h.frame hf
  obtain ⟨hd, hq, -⟩ := Scheduler.decodeReply_of_answer? hr
  have hdue : r.index < (dispatched d.past).length := by
    have hdue := h.due r (List.mem_of_getElem? hs)
    simpa [Reply.isDue, hd] using hdue
  have hmod : r.index % 65536 = dispatchIndex d.past job.submission % 65536 := by
    have he := congrArg UInt16.toNat ((r.counted _ hd).symm.trans (hq.trans hw))
    simpa using he
  -- The request of the frame was dispatched by then, so it is not a later one; and the counters of
  -- the two agree.
  refine ⟨hm, r, hs, hd, (dispatchIndex d.past job.submission - r.index) / 65536, ?_⟩
  omega

end Flows

end Dialogue

/-- The counter of a request is its dispatch index modulo 65536, on the wire and in its result. If
each reply of the brick bears the counter of a request that had been dispatched when it was sent,
then the frame that resolves a request, the first of those sent that the scheduler had not looked at
yet, was sent for this request or for one that was dispatched a positive multiple of 65536 requests
earlier. -/
theorem replies_resolve_their_requests (config : SchedulerConfig) (line : Line) :
    (∀ acts,
      let c := (Course.start config line).run acts
      let past := (Course.start config line).moments acts
      (dispatched past).Nodup ∧
      (∀ x ∈ stretches c.log, ∃ counter : UInt16,
        counter.toNat = dispatchIndex past x.post % 65536 ∧
          x.bytes <+: Frame.encode (x.post.request.packet counter).body) ∧
      ∀ post result, (post, .ok result) ∈ outcomes c.log →
        post ∈ dispatched past ∧ result.counter.toNat = dispatchIndex past post % 65536) ∧
    ∀ turns ms act,
      let d := (Dialogue.start config line).run turns
      ∀ post result, (post, .ok result) ∈ outcomes (d.course.moment ms act).events →
        post ∈ dispatched d.past ∧
          ∃ r, d.replies[(heard d.past).length]? = some r ∧
            Packet.decodeReply r.body = .ok result.reply ∧
            (dispatchIndex d.past post = r.index ∨
              ∃ n, 0 < n ∧ dispatchIndex d.past post = r.index + 65536 * n) := by
  refine ⟨fun acts => ⟨?_, fun x hx => ?_, fun post result ho => ?_⟩, fun turns ms act => ?_⟩
  · have hg := Course.run_ledger config line acts
    exact (Course.run_counted config line acts).nodup hg.taken_nodup
  · have hw := (Course.run_written config line acts).within x hx
    refine ⟨x.counter, ?_, hw⟩
    simp [Course.wire_counter config line acts hx]
  · obtain ⟨hd, hc⟩ := Course.result_counter config line acts post result ho
    exact ⟨hd, by simp [hc]⟩
  · intro d post result ho
    obtain ⟨hm, r, hs, hd, n, hn⟩ := (Dialogue.run_flows config line turns).resolves ho
    refine ⟨hm, r, hs, hd, ?_⟩
    cases n with
    | zero => exact .inl hn
    | succ n => exact .inr ⟨n + 1, Nat.succ_pos n, hn⟩

/-- The reply to the first request comes too late and is passed over; the second is resolved by its
own. -/
theorem late_reply_passed_over :
    ∃ turns, let d := (Dialogue.start {} (.ofCapacity 64)).run turns
      (heard d.past).length = 1 ∧
        ∃ post result, (post, .ok result) ∈ outcomes (d.course.moment 0 .move).events ∧
          post ∈ dispatched d.past ∧
          ∃ r, d.replies[1]? = some r ∧ Packet.decodeReply r.body = .ok result.reply ∧
            (dispatchIndex d.past post = r.index ∨
              ∃ n, 0 < n ∧ dispatchIndex d.past post = r.index + 65536 * n) := by
  let r : Request :=
    { id := "", idempotent := true, timeout := some ⟨0⟩, kind := .direct, payload := [] }
  let first : Reply := ⟨0, [0, 0, 2], by decide, by intro p h; cases h; rfl⟩
  let second : Reply := ⟨1, [1, 0, 2], by decide, by intro p h; cases h; rfl⟩
  let moves := fun n => List.replicate n (Turn.act 0 .move)
  let turns := .act 0 (.submit r) :: moves 3 ++ .act 0 (.submit r) :: moves 2 ++
    [.reply first, .reply second, .carry 10] ++ moves 2
  let told : CommandResult :=
    { request := "", counter := 1, reply := .reply 1 .direct [], enqueuedAt := ⟨0⟩,
      startedAt := ⟨0⟩, finishedAt := ⟨0⟩, duration := ⟨0⟩ }
  have ho : (⟨1, r, 0⟩, .ok told) ∈ outcomes
      (((Dialogue.start {} (.ofCapacity 64)).run turns).course.moment 0 .move).events := by decide
  have hh : (heard ((Dialogue.start {} (.ofCapacity 64)).run turns).past).length = 1 := by decide
  have ht := (replies_resolve_their_requests {} (.ofCapacity 64)).2 turns 0 .move _ _ ho
  rw [hh] at ht
  exact ⟨turns, hh, _, _, ho, ht⟩

end BrickHost
