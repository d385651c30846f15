import Mathlib.Tactic.Tauto
import BrickHost.Bench.Brick
import BrickHost.Poller.Basic
import BrickHost.Proofs.Scheduler.Intake
import BrickHost.Proofs.Scheduler.Wire
import BrickHost.Proofs.Wire.Packet

/-! A link whose brick answers probes at once. Of a probe and its answer, what was written is always
somewhere between the two ends, and one of them can move until it has arrived. So no time passes
before it has, and every answer fits. -/

namespace BrickHost

/-- Both ends of a link. -/
structure Contact where
  scheduler : Scheduler
  brick : Brick

def Request.IsProbe (r : Request) : Prop :=
  ∃ brick timeout, 0 < timeout.nanos ∧ r = probeRequest brick timeout

def Pipe.IsOpen (p : Pipe) : Prop :=
  p.closed = false ∧ 0 < p.capacity

/-- Both directions are open, and no failure is in store. -/
structure Line.IsSound (l : Line) : Prop where
  incoming : l.incoming.IsOpen
  outgoing : l.outgoing.IsOpen
  takes : l.takesNothing = false
  unlimited : l.writeLimit = none
  readable : l.readFault = none

/-- The stream goes on, and a whole frame in the buffer will be looked for. -/
structure Inbox.IsCurrent (limit : Nat) (i : Inbox) : Prop where
  goesOn : i.ended = false
  seen : i.unscanned = false → Frame.scan limit i.buffer = .short

structure Scheduler.IsServing (s : Scheduler) : Prop where
  fits : 5 ≤ s.config.maxFrame
  running : s.cancelled = false
  state : s.state ≠ .disposed
  receiving : s.receiving = true
  handles : 0 < s.handles
  posts : ∀ post ∈ s.pending, post.request.IsProbe
  line : s.line.IsSound
  inbox : s.inbox.IsCurrent s.config.maxFrame

structure Brick.IsPrompt (b : Brick) : Prop where
  script : b.script = []
  inbox : b.inbox.IsCurrent Brick.frameLimit
  phase : b.phase = .reading ∨ ∃ rest, b.phase = .writing rest

/-- What the brick has still to write. -/
def Brick.left (b : Brick) : List UInt8 :=
  match b.phase with
  | .writing rest => rest
  | _ => []

def probePacket (counter : UInt16) : Packet :=
  .command counter .system (SystemCommand.probe.payload [])

def echoPacket (counter : UInt16) : Packet :=
  .reply counter .system [SystemCommand.probe.byte, 0]

namespace Contact

/-- On the way to the brick. -/
def upstream (c : Contact) : List UInt8 :=
  c.brick.inbox.buffer ++ c.scheduler.line.outgoing.bytes

/-- On the way to the scheduler. -/
def downstream (c : Contact) : List UInt8 :=
  c.scheduler.inbox.buffer ++ c.scheduler.line.incoming.bytes ++ c.brick.left

/-- What is on its way at this point of serving a probe. -/
def Stage (c : Contact) (now : Nat) : Prop :=
  match c.scheduler.phase with
  | .ready | .waiting => c.upstream = [] ∧ c.downstream = []
  | .writing job rest =>
    now < job.deadline ∧ rest ≠ [] ∧ c.downstream = [] ∧
      c.upstream ++ rest = Frame.encode (probePacket job.counter).body
  | .awaiting job =>
    now < job.deadline ∧
      (c.downstream = [] ∧ c.upstream = Frame.encode (probePacket job.counter).body ∨
        c.upstream = [] ∧ c.downstream = Frame.encode (echoPacket job.counter).body)
  | _ => False

theorem Stage.of_same {c d : Contact} {now : Nat} (h : c.Stage now)
    (hp : d.scheduler.phase = c.scheduler.phase) (hu : d.upstream = c.upstream)
    (hd : d.downstream = c.downstream) : d.Stage now := by
  simpa only [Stage, hp, hu, hd] using h

structure Engaged (c : Contact) (now : Nat) : Prop where
  serving : c.scheduler.IsServing
  prompt : c.brick.IsPrompt
  stage : c.Stage now

end Contact

section Packets

theorem length_probe_body (counter : UInt16) : (probePacket counter).body.length = 4 := rfl

theorem length_echo_body (counter : UInt16) : (echoPacket counter).body.length = 5 := rfl

theorem probe_fits (counter : UInt16) :
    (probePacket counter).body.length ≤ Frame.limit Brick.frameLimit := by
  rw [length_probe_body]
  decide

theorem le_limit {n max : Nat} (hn : n ≤ 65535) (hm : n ≤ max) : n ≤ Frame.limit max :=
  Nat.le_min.mpr ⟨hm, hn⟩

theorem toBytes_probe {max : Nat} (h : 5 ≤ max) (counter : UInt16) :
    (probePacket counter).toBytes max = .ok (probePacket counter).body := by
  have hs : ¬ max < (probePacket counter).size := by
    rw [← Packet.length_body, length_probe_body]
    omega
  simp only [Packet.toBytes, if_neg hs]

theorem encode?_probe {max : Nat} (h : 5 ≤ max) (counter : UInt16) :
    Frame.encode? max (probePacket counter).body =
      .ok (Frame.encode (probePacket counter).body) := by
  have hl : 4 ≤ Frame.limit max := le_limit (by omega) (by omega)
  have hs : ¬ Frame.limit max < (probePacket counter).body.length := by
    rw [length_probe_body]
    omega
  simp only [Frame.encode?, if_neg hs]

theorem answerTo_probe (counter : UInt16) :
    Brick.answerTo (probePacket counter).body .plain =
      some (Frame.encode (echoPacket counter).body) := by
  have hd : Header.decode (probePacket counter).body = .ok ⟨counter, 1⟩ :=
    (probePacket counter).decode_body
  simp only [Brick.answerTo, hd, Packet.drop_body]
  rfl

/-- The answer to a probe is well, and it is the one that is waited for. -/
theorem answer?_echo (now : Nat) (job : Job) :
    ∃ result, Scheduler.answer? now job (echoPacket job.counter).body = some result ∧
      result.probeFault? = none := by
  have hd : Packet.decodeReply (echoPacket job.counter).body = .ok (echoPacket job.counter) :=
    Packet.decodeReply_body _ _ _
  simp only [Scheduler.answer?, hd]
  exact ⟨_, if_pos rfl, rfl⟩

end Packets

section Inboxes

variable {limit : Nat} {i : Inbox} {p : Pipe} {body more : List UInt8}

/-- One move of an inbox to which a single frame comes in, of which more may be still to come. -/
theorem Inbox.IsCurrent.next (hi : i.IsCurrent limit) (hp : p.closed = false)
    (hl : body.length ≤ Frame.limit limit)
    (hb : i.buffer ++ p.bytes ++ more = Frame.encode body) :
    (i.next limit p = (i, p, .nothing) ∧ p.bytes = [] ∧ more ≠ []) ∨
    (∃ i' p', i.next limit p = (i', p', .progress) ∧ i'.IsCurrent limit ∧ p'.closed = p.closed ∧
      p'.capacity = p.capacity ∧ i'.buffer ++ p'.bytes = i.buffer ++ p.bytes) ∨
    (∃ i', i.next limit p = (i', p, .frame body) ∧ i'.IsCurrent limit ∧ i'.buffer = [] ∧
      p.bytes = [] ∧ more = []) := by
  rw [List.append_assoc] at hb
  have hscan := Frame.scan_of_append_eq hl hb
  cases hu : i.unscanned with
  | true =>
    rcases hscan with hs | ⟨hn, hs⟩
    · refine .inr (.inl ⟨{ i with unscanned := false }, p, ?_, ⟨hi.goesOn, fun _ => hs⟩, rfl, rfl,
        rfl⟩)
      simp [Inbox.next, Inbox.scan, hu, hs, hi.goesOn]
    · obtain ⟨hp, hm⟩ := List.append_eq_nil_iff.mp hn
      refine .inr (.inr ⟨{ i with buffer := [] }, ?_, ⟨hi.goesOn, fun hf => ?_⟩, rfl, hp, hm⟩)
      · simp [Inbox.next, Inbox.scan, hu, hs]
      · cases hu.symm.trans hf
  | false =>
    by_cases he : p.bytes = []
    · refine .inl ⟨by simp [Inbox.next, Inbox.read, hu, he, hp], he, ?_⟩
      rintro rfl
      have hwhole := Frame.scan_encode_append hl []
      rw [List.append_nil, ← hb, he, List.append_nil, List.append_nil, hi.seen hu] at hwhole
      cases hwhole
    · refine .inr (.inl ⟨{ i with buffer := i.buffer ++ p.bytes, unscanned := true },
        p.drop p.bytes.length, ?_, ⟨hi.goesOn, fun hf => by cases hf⟩, rfl, rfl, ?_⟩)
      · simp [Inbox.next, Inbox.read, hu, he]
      · simp [Pipe.drop]

/-- One move of an inbox to which nothing comes in. -/
theorem Inbox.IsCurrent.next_quiet (hi : i.IsCurrent limit) (hp : p.closed = false)
    (hb : i.buffer ++ p.bytes = []) :
    i.next limit p = (i, p, .nothing) ∨
    (∃ i' p', i.next limit p = (i', p', .progress) ∧ i'.IsCurrent limit ∧ p'.closed = p.closed ∧
      p'.capacity = p.capacity ∧ i'.buffer ++ p'.bytes = []) := by
  have hempty : i.buffer ++ p.bytes ++ Frame.encode [] = Frame.encode [] := by
    rw [hb, List.nil_append]
  rcases hi.next hp (Nat.zero_le _) hempty with
    ⟨hn, -⟩ | ⟨i', p', hn, hc, ho, hq, he⟩ | ⟨_, -, -, -, -, hm⟩
  · exact .inl hn
  · exact .inr ⟨i', p', hn, hc, ho, hq, he.trans hb⟩
  · exact absurd hm (Frame.encode_ne_nil [])

end Inboxes

namespace Scheduler

section Serving

variable {s t : Scheduler} {post : Submission}

theorem IsServing.of_same (h : s.IsServing) (hg : t.config = s.config)
    (hc : t.cancelled = s.cancelled) (hs : t.state ≠ .disposed) (hr : t.receiving = s.receiving)
    (hn : t.handles = s.handles) (hp : ∀ post ∈ t.pending, post ∈ s.pending)
    (hl : t.line = s.line) (hi : t.inbox = s.inbox) : t.IsServing where
  fits := by rw [hg]; exact h.fits
  running := by rw [hc, h.running]
  state := hs
  receiving := by rw [hr, h.receiving]
  handles := by rw [hn]; exact h.handles
  posts post hm := h.posts post (hp post hm)
  line := by rw [hl]; exact h.line
  inbox := by rw [hi, hg]; exact h.inbox

theorem IsServing.drain (h : s.IsServing) : s.drain.IsServing := by
  apply h.of_same <;> simp [drain_eq, h.state, pending, waitingIn, lane]

theorem IsServing.takeNext (h : s.IsServing) (ht : s.drain.takeNext = some (post, t)) :
    t.IsServing ∧ post.request.IsProbe := by
  obtain ⟨hp, -, hc⟩ := takeNext_pending ht
  obtain ⟨hi, hl, hg⟩ := takeNext_rest ht
  obtain ⟨hs, hr, hn⟩ : t.state = s.state ∧ t.receiving = s.receiving ∧ t.handles = s.handles := by
    rcases takeNext_cases ht with ⟨_, _, rfl⟩ | ⟨_, _, _, rfl⟩ <;> simp [drain_eq]
  refine ⟨h.of_same hg hc (hs ▸ h.state) hr hn (fun other ho => ?_) hl hi, h.posts post ?_⟩
  · rw [hp]
    exact List.mem_cons_of_mem _ ho
  · rw [hp]
    exact List.mem_cons_self

theorem IsServing.fetch (h : s.IsServing) (hf : s.fetch = some t) : t.IsServing := by
  obtain ⟨hp, -⟩ := fetch_pending hf
  obtain ⟨-, hs, hc⟩ := fetch_phase hf
  obtain ⟨hi, hl, hg⟩ := fetch_rest hf
  have hk : t.receiving = s.receiving ∧ t.handles = s.handles := by
    rcases fetch_cases hf with ⟨_, _, _, rfl⟩ | ⟨_, hn, -, -⟩
    · simp [enqueue_eq]
    · exact absurd h.handles (by omega)
  exact h.of_same hg hc (hs ▸ h.state) hk.1 hk.2 (fun post hm => hp ▸ hm) hl hi

theorem IsServing.receive_eq (h : s.IsServing) :
    s.inbox.receive s.config.maxFrame s.line =
      ((s.inbox.next s.config.maxFrame s.line.incoming).1,
        { s.line with incoming := (s.inbox.next s.config.maxFrame s.line.incoming).2.1 },
        (s.inbox.next s.config.maxFrame s.line.incoming).2.2) := by
  simp only [Inbox.receive, h.line.readable]
  cases s.inbox.unscanned <;> rfl

theorem IsServing.read (h : s.IsServing) {inbox : Inbox} {incoming : Pipe}
    (hi : inbox.IsCurrent s.config.maxFrame) (hc : incoming.closed = s.line.incoming.closed)
    (hp : incoming.capacity = s.line.incoming.capacity) :
    IsServing { s with inbox := inbox, line := { s.line with incoming := incoming } } where
  fits := h.fits
  running := h.running
  state := h.state
  receiving := h.receiving
  handles := h.handles
  posts := h.posts
  line := { h.line with incoming := ⟨hc.trans h.line.incoming.1, hp ▸ h.line.incoming.2⟩ }
  inbox := hi

/-- A look at the line when nothing comes in. -/
theorem IsServing.receive_quiet (h : s.IsServing)
    (hb : s.inbox.buffer ++ s.line.incoming.bytes = []) {inbox : Inbox} {line : Line}
    {intake : Intake} (hi : s.inbox.receive s.config.maxFrame s.line = (inbox, line, intake)) :
    intake = .nothing ∨ intake = .progress ∧ IsServing { s with inbox := inbox, line := line } ∧
      line.outgoing = s.line.outgoing ∧ inbox.buffer ++ line.incoming.bytes = [] := by
  rw [h.receive_eq] at hi
  rcases h.inbox.next_quiet h.line.incoming.1 hb with hn | ⟨i', p', hn, hc, ho, hp, he⟩
  · rw [hn] at hi
    cases hi
    exact .inl rfl
  · rw [hn] at hi
    cases hi
    exact .inr ⟨rfl, h.read hc ho hp, rfl, he⟩

/-- A look at the line when a frame comes in that fits. -/
theorem IsServing.receive_frame (h : s.IsServing) {body more : List UInt8} (hl : body.length ≤ 5)
    (hb : s.inbox.buffer ++ s.line.incoming.bytes ++ more = Frame.encode body) {inbox : Inbox}
    {line : Line} {intake : Intake}
    (hi : s.inbox.receive s.config.maxFrame s.line = (inbox, line, intake)) :
    (intake = .nothing ∧ s.line.incoming.bytes = [] ∧ more ≠ []) ∨
    (intake = .progress ∧ IsServing { s with inbox := inbox, line := line } ∧
      line.outgoing = s.line.outgoing ∧
      inbox.buffer ++ line.incoming.bytes = s.inbox.buffer ++ s.line.incoming.bytes) ∨
    (intake = .frame body ∧ IsServing { s with inbox := inbox, line := line } ∧
      line.outgoing = s.line.outgoing ∧ inbox.buffer ++ line.incoming.bytes = [] ∧ more = []) := by
  have hfits : body.length ≤ Frame.limit s.config.maxFrame :=
    le_limit (by omega) (Nat.le_trans hl h.fits)
  rw [h.receive_eq] at hi
  rcases h.inbox.next h.line.incoming.1 hfits hb with
    ⟨hn, he, hm⟩ | ⟨i', p', hn, hc, ho, hp, he⟩ | ⟨i', hn, hc, he, hp, hm⟩
  · rw [hn] at hi
    cases hi
    exact .inl ⟨rfl, he, hm⟩
  · rw [hn] at hi
    cases hi
    exact .inr (.inl ⟨rfl, h.read hc ho hp, rfl, he⟩)
  · rw [hn] at hi
    cases hi
    refine .inr (.inr ⟨rfl, h.read hc rfl rfl, rfl, ?_, hm⟩)
    show i'.buffer ++ s.line.incoming.bytes = []
    rw [he, hp, List.append_nil]

theorem IsServing.write_eq (h : s.IsServing) (bytes : List UInt8) :
    s.line.write bytes =
      if s.line.outgoing.room = 0 then (s.line, .full)
      else ({ s.line with outgoing := s.line.outgoing.push bytes },
        .accepted (Nat.min s.line.outgoing.room bytes.length)) := by
  simp [Line.write, Line.writeWithin, Line.pushOut, h.line.takes, h.line.unlimited,
    h.line.outgoing.1]

theorem packet_probe (hp : post.request.IsProbe) (counter : UInt16) :
    post.request.packet counter = probePacket counter := by
  obtain ⟨brick, timeout, -, hr⟩ := hp
  rw [hr]
  rfl

theorem nextFrame_probe (hp : post.request.IsProbe) (s : Scheduler) :
    s.nextFrame post = Frame.encode (probePacket s.nextCounter).body := by
  rw [nextFrame, packet_probe hp]

theorem lt_deadline_of_probe (hp : post.request.IsProbe) (s : Scheduler) (now : Nat) :
    now < (s.nextJob now post).deadline := by
  obtain ⟨brick, timeout, ht, hr⟩ := hp
  have hd : (s.nextJob now post).deadline = now + timeout.ceilMillis := by
    simp [nextJob, deadlineOf, hr, probeRequest]
  have hc : 0 < timeout.ceilMillis := by
    simp only [Duration.ceilMillis]
    omega
  omega

end Serving

end Scheduler

/-- A prompt brick that makes no move has nothing to read, or no room to write. -/
theorem Brick.IsPrompt.rests {b : Brick} {l : Line} {now : Nat} (h : b.IsPrompt) (hl : l.IsSound)
    (hs : b.step l now = none) :
    (b.left = [] ∧ (b.inbox.next Brick.frameLimit l.outgoing).2.2 = .nothing) ∨
      (b.left ≠ [] ∧ l.incoming.room = 0) := by
  rcases h.phase with hp | ⟨rest, hp⟩
  · rcases hn : b.inbox.next Brick.frameLimit l.outgoing with ⟨inbox, p, intake⟩
    refine .inl ⟨by simp [left, hp], ?_⟩
    cases intake with
    | nothing => rfl
    | progress => simp [Brick.step, hp, hn] at hs
    | closed why => simp [Brick.step, hp, hn] at hs
    | frame body =>
      simp only [Brick.step, hp, hn] at hs
      split at hs <;> cases hs
  · simp only [Brick.step, hp, hl.incoming.1] at hs
    by_cases he : rest = []
    · simp [he] at hs
    · by_cases hr : l.incoming.room = 0
      · exact .inr ⟨by simpa [left, hp] using he, hr⟩
      · simp [he, hr] at hs

theorem Pipe.IsOpen.room_pos {p : Pipe} (h : p.IsOpen) (he : p.bytes = []) : p.room ≠ 0 := by
  have hc := h.2
  simp only [Pipe.room, he, List.length_nil]
  omega

namespace Contact.Engaged

variable {c : Contact} {now : Nat}

theorem submit (h : c.Engaged now) {r : Request} (hr : r.IsProbe) :
    ∃ s ticket, c.scheduler.submit now r = some (s, ticket) ∧
      Contact.Engaged ⟨s, c.brick⟩ now := by
  have hd : c.scheduler.state.isDisposed = false := by
    rw [← Bool.not_eq_true, SchedulerState.isDisposed_iff]
    exact h.serving.state
  cases hsub : c.scheduler.submit now r with
  | none => simp [Scheduler.submit, hd] at hsub
  | some result =>
    simp only [Scheduler.submit, hd, Bool.false_eq_true, if_false, Option.some.injEq] at hsub
    subst hsub
    refine ⟨_, _, rfl, { h.serving with posts := fun post hp => ?_ }, h.prompt, h.stage⟩
    have hone : ∀ l, post ∈ inLane l [⟨c.scheduler.nextTicket, r, now⟩] → post.request = r := by
      intro l hl
      rw [List.mem_singleton.mp (List.mem_filter.mp hl).1]
    have hold : post ∈ c.scheduler.pending ∨ post.request = r := by
      simp only [Scheduler.pending, Scheduler.waitingIn, Scheduler.lane, inLane_append,
        List.mem_append] at hp ⊢
      have hhigh := hone .high
      have hnormal := hone .normal
      tauto
    rcases hold with hold | hold
    · exact h.serving.posts post hold
    · rw [hold]
      exact hr

/-- Time passes only while nobody has anything to do, and then no probe is under way. -/
theorem wait (h : c.Engaged now) (hs : c.scheduler.step now = none)
    (hb : c.brick.step c.scheduler.line now = none) (ms : Nat) : c.Engaged (now + ms) := by
  have hstage := h.stage
  have hrests := h.prompt.rests h.serving.line hb
  unfold Stage at hstage
  cases hp : c.scheduler.phase with
  | waiting =>
    refine ⟨h.serving, h.prompt, ?_⟩
    simpa only [Stage, hp] using hstage
  | writing job rest =>
    simp only [hp] at hstage
    obtain ⟨-, hne, hdown, hup⟩ := hstage
    -- A dispatcher at rest has no room to write, but a brick at rest has read all there was.
    have hroom : c.scheduler.line.outgoing.room = 0 := by
      by_contra hr
      simp [Scheduler.step, hp, Scheduler.stepWriting, h.serving.running, h.serving.write_eq, hr]
        at hs
    rcases hrests with ⟨-, hn⟩ | ⟨hl, -⟩
    · rcases h.prompt.inbox.next h.serving.line.outgoing.1 (probe_fits job.counter) hup with
        ⟨-, he, -⟩ | ⟨_, _, hn', -⟩ | ⟨_, hn', -⟩
      · exact absurd hroom (h.serving.line.outgoing.room_pos he)
      · cases hn.symm.trans (congrArg (·.2.2) hn')
      · cases hn.symm.trans (congrArg (·.2.2) hn')
    · exact absurd (List.append_eq_nil_iff.mp hdown).2 hl
  | awaiting job =>
    simp only [hp] at hstage
    obtain ⟨-, ⟨hdown, hup⟩ | ⟨-, hdown⟩⟩ := hstage
    · rcases hrests with ⟨-, hn⟩ | ⟨hl, -⟩
      · have hwhole : c.upstream ++ [] = Frame.encode (probePacket job.counter).body := by
          rw [List.append_nil, hup]
        rcases h.prompt.inbox.next h.serving.line.outgoing.1 (probe_fits job.counter) hwhole with
          ⟨-, -, hm⟩ | ⟨_, _, hn', -⟩ | ⟨_, hn', -⟩
        · exact absurd rfl hm
        · cases hn.symm.trans (congrArg (·.2.2) hn')
        · cases hn.symm.trans (congrArg (·.2.2) hn')
      · exact absurd (List.append_eq_nil_iff.mp hdown).2 hl
    · rcases hi : c.scheduler.inbox.receive c.scheduler.config.maxFrame c.scheduler.line with
        ⟨inbox, line, intake⟩
      rcases h.serving.receive_frame (Nat.le_of_eq (length_echo_body job.counter)) hdown hi with
        ⟨rfl, he, hm⟩ | ⟨rfl, -⟩ | ⟨rfl, -⟩
      · rcases hrests with ⟨hl, -⟩ | ⟨-, hroom⟩
        · exact absurd hl hm
        · exact absurd hroom (h.serving.line.incoming.room_pos he)
      · simp [Scheduler.step, hp, Scheduler.stepAwaiting, h.serving.running, hi] at hs
      · cases ha : Scheduler.answer? now job (echoPacket job.counter).body <;>
          simp [Scheduler.step, hp, Scheduler.stepAwaiting, h.serving.running, hi, ha] at hs
  | ready => simp [Scheduler.step, hp] at hs
  | recovering | closing | terminated =>
    simp only [hp] at hstage

/-- The contact after the scheduler has looked at its line. -/
def look (c : Contact) (inbox : Inbox) (line : Line) : Contact :=
  { c with scheduler := { c.scheduler with inbox := inbox, line := line } }

theorem look_quiet (h : c.Engaged now) (hd : c.downstream = []) {inbox : Inbox} {line : Line}
    {intake : Intake}
    (hi : c.scheduler.inbox.receive c.scheduler.config.maxFrame c.scheduler.line =
      (inbox, line, intake)) :
    intake = .nothing ∨ intake = .progress ∧ (look c inbox line).Engaged now := by
  obtain ⟨hnear, hleft⟩ := List.append_eq_nil_iff.mp hd
  rcases h.serving.receive_quiet hnear hi with hn | ⟨hn, hs, ho, hb⟩
  · exact .inl hn
  · refine .inr ⟨hn, hs, h.prompt, h.stage.of_same rfl ?_ ?_⟩
    · simp only [upstream, look, ho]
    · rw [hd]
      simp only [downstream, look, hb, hleft, List.append_nil]

/-- A look at the line while the answer to a probe is awaited. -/
theorem look_awaiting (h : c.Engaged now) {job : Job} (hp : c.scheduler.phase = .awaiting job)
    {inbox : Inbox} {line : Line} {intake : Intake}
    (hi : c.scheduler.inbox.receive c.scheduler.config.maxFrame c.scheduler.line =
      (inbox, line, intake)) :
    intake = .nothing ∨ (intake = .progress ∧ (look c inbox line).Engaged now) ∨
      (intake = .frame (echoPacket job.counter).body ∧ (look c inbox line).scheduler.IsServing ∧
        (look c inbox line).upstream = [] ∧ (look c inbox line).downstream = []) := by
  have hstage := h.stage
  simp only [Stage, hp] at hstage
  obtain ⟨-, ⟨hd, -⟩ | ⟨hu, hd⟩⟩ := hstage
  · exact (h.look_quiet hd hi).imp_right .inl
  · have hl : (echoPacket job.counter).body.length ≤ 5 :=
      Nat.le_of_eq (length_echo_body job.counter)
    rcases h.serving.receive_frame hl hd hi with
      ⟨hn, -⟩ | ⟨hn, hs, ho, hb⟩ | ⟨hn, hs, ho, hb, hm⟩
    · exact .inl hn
    · refine .inr (.inl ⟨hn, hs, h.prompt, h.stage.of_same rfl ?_ ?_⟩)
      · simp only [upstream, look, ho]
      · simp only [downstream, look, hb]
    · refine .inr (.inr ⟨hn, hs, ?_, ?_⟩)
      · rw [← hu]
        simp only [upstream, look, ho]
      · simp only [downstream, look, hb, hm, List.append_nil]

/-- The dispatcher takes up a probe. -/
theorem begin (h : c.Engaged now) {post : Submission} {t : Scheduler}
    (hp : c.scheduler.phase = .ready) (ht : c.scheduler.drain.takeNext = some (post, t)) :
    Contact.Engaged
      ⟨{ t with
          state := .running
          nextCounter := c.scheduler.nextCounter + 1
          phase := .writing (c.scheduler.nextJob now post) (c.scheduler.nextFrame post) },
        c.brick⟩ now := by
  have hstage := h.stage
  simp only [Stage, hp] at hstage
  obtain ⟨hserving, hprobe⟩ := h.serving.takeNext ht
  obtain ⟨hi, hl, -⟩ := Scheduler.takeNext_rest ht
  refine ⟨{ hserving with state := by simp }, h.prompt, ?_⟩
  refine ⟨Scheduler.lt_deadline_of_probe hprobe c.scheduler now, Frame.encode_ne_nil _, ?_, ?_⟩
  · simpa only [downstream, hi, hl] using hstage.2
  · show c.brick.inbox.buffer ++ t.line.outgoing.bytes ++ c.scheduler.nextFrame post = _
    rw [hl, Scheduler.nextFrame_probe hprobe]
    exact congrArg (· ++ Frame.encode (probePacket c.scheduler.nextCounter).body) hstage.1

/-- The dispatcher writes what there is room for, and waits for the answer when all is written. -/
theorem write (h : c.Engaged now) {job : Job} {rest : List UInt8} {line : Line} {count : Nat}
    (hp : c.scheduler.phase = .writing job rest)
    (hw : c.scheduler.line.write rest = (line, .accepted count)) :
    Contact.Engaged
      ⟨{ c.scheduler with
          line := line
          phase := if (rest.drop count).isEmpty then .awaiting job
            else .writing job (rest.drop count) },
        c.brick⟩ now := by
  have hstage := h.stage
  simp only [Stage, hp] at hstage
  obtain ⟨hdl, -, hdown, hup⟩ := hstage
  have hbytes : line.outgoing.bytes = c.scheduler.line.outgoing.bytes ++ rest.take count :=
    (Line.write_outgoing hw).1 count rfl
  have hkeep : c.brick.inbox.buffer ++ line.outgoing.bytes ++ rest.drop count =
      Frame.encode (probePacket job.counter).body := by
    rw [← hup, hbytes]
    simp only [upstream, List.append_assoc, List.take_append_drop]
  obtain rfl :
      line = { c.scheduler.line with outgoing := c.scheduler.line.outgoing.push rest } := by
    rw [h.serving.write_eq] at hw
    split at hw <;> cases hw
    rfl
  have hopen : (c.scheduler.line.outgoing.push rest).IsOpen := h.serving.line.outgoing
  refine ⟨{ h.serving with line := { h.serving.line with outgoing := hopen } }, h.prompt, ?_⟩
  by_cases hall : rest.drop count = []
  · rw [hall, List.append_nil] at hkeep
    simp only [Stage, hall, List.isEmpty_nil, if_true]
    exact ⟨hdl, .inl ⟨hdown, hkeep⟩⟩
  · simp only [Stage, List.isEmpty_iff, hall, if_false]
    exact ⟨hdl, hall, hdown, hkeep⟩

/-- A move of the dispatcher resolves no probe but with a good answer. -/
theorem move (h : c.Engaged now) {t : Scheduler} {signals : List Signal}
    (hm : c.scheduler.Move now t signals) :
    Contact.Engaged ⟨t, c.brick⟩ now ∧
      ∀ post outcome, .resolved post outcome ∈ signals → outcome.probeFault? = none := by
  have hstage := h.stage
  unfold Stage at hstage
  cases hm with
  | refuse hp ht hd => exact absurd hd h.serving.state
  | unencodable hp ht hd he =>
    obtain ⟨-, hprobe⟩ := h.serving.takeNext ht
    rw [Scheduler.packet_probe hprobe, toBytes_probe h.serving.fits] at he
    cases he
  | unframeable hp ht hd hb he =>
    obtain ⟨-, hprobe⟩ := h.serving.takeNext ht
    obtain rfl := Packet.eq_body_of_toBytes hb
    rw [Scheduler.packet_probe hprobe, encode?_probe h.serving.fits] at he
    cases he
  | begin hp ht hd hb hf => exact ⟨h.begin hp ht, by simp⟩
  | settle hp ht hr =>
    simp only [hp] at hstage
    refine ⟨⟨{ h.serving.drain with }, h.prompt, ?_⟩, by simp⟩
    simpa [Stage, upstream, downstream, Scheduler.drain_eq] using hstage
  | abandon hp ht hr =>
    rw [h.serving.receiving] at hr
    cases hr
  | fetchWaiting hp hc hf =>
    simp only [hp] at hstage
    obtain ⟨hi, hl, -⟩ := Scheduler.fetch_rest hf
    refine ⟨⟨{ h.serving.fetch hf with }, h.prompt, ?_⟩, by simp⟩
    simpa [Stage, upstream, downstream, hi, hl] using hstage
  | readWaiting hp hc hf hi =>
    simp only [hp] at hstage
    rcases h.look_quiet hstage.2 hi with hn | ⟨-, hl⟩
    · cases hn
    · exact ⟨hl, by simp⟩
  | unsolicited hp hc hf hi | endWaiting hp hc hf hi =>
    simp only [hp] at hstage
    rcases h.look_quiet hstage.2 hi with hn | ⟨hn, -⟩ <;> cases hn
  | write hp hc hw => exact ⟨h.write hp hw, by simp⟩
  | failWriting hp hc hw =>
    rw [h.serving.write_eq] at hw
    split at hw <;> cases hw
  | stall hp hc hw hd =>
    simp only [hp] at hstage
    omega
  | readAwaiting hp hc hi =>
    rcases h.look_awaiting hp hi with hn | ⟨-, hl⟩ | ⟨hn, -⟩
    · cases hn
    · exact ⟨hl, by simp⟩
    · cases hn
  | answered hp hc hi ha =>
    rcases h.look_awaiting hp hi with hn | ⟨hn, -⟩ | ⟨hn, hs, hu, hd⟩
    · cases hn
    · cases hn
    · cases hn
      obtain ⟨result, hr, hwell⟩ := answer?_echo now _
      cases ha.symm.trans hr
      have hstate : c.scheduler.state.moveTo .idle ≠ .disposed := fun he =>
        h.serving.state (SchedulerState.moveTo_idle_iff.mp he)
      refine ⟨⟨{ hs with state := hstate }, h.prompt, hu, hd⟩, fun post outcome hm => ?_⟩
      cases List.mem_singleton.mp hm
      exact hwell
  | discard hp hc hi ha =>
    rcases h.look_awaiting hp hi with hn | ⟨hn, -⟩ | ⟨hn, -⟩
    · cases hn
    · cases hn
    · cases hn
      obtain ⟨result, hr, -⟩ := answer?_echo now _
      cases ha.symm.trans hr
  | endAwaiting hp hc hi =>
    rcases h.look_awaiting hp hi with hn | ⟨hn, -⟩ | ⟨hn, -⟩ <;> cases hn
  | expire hp hc hi hd =>
    simp only [hp] at hstage
    omega
  | fetchAwaiting hp hc hi hd hf =>
    obtain ⟨hj, hl, -⟩ := Scheduler.fetch_rest hf
    have hphase : t.phase = c.scheduler.phase := (Scheduler.fetch_phase hf).1
    refine ⟨⟨h.serving.fetch hf, h.prompt, h.stage.of_same hphase ?_ ?_⟩, by simp⟩
    · simp only [upstream, hl]
    · simp only [downstream, hj, hl]
  | recover hp hr => simp only [hp] at hstage
  | terminate hp hc => simp only [hp] at hstage
  | cancelWaiting hp hc | cancelWriting hp hc | cancelAwaiting hp hc =>
    rw [h.serving.running] at hc
    cases hc

/-- One move of the inbox of the brick. -/
theorem far_next (h : c.Engaged now) {inbox : Inbox} {outgoing : Pipe} {intake : Intake}
    (hn : c.brick.inbox.next Brick.frameLimit c.scheduler.line.outgoing =
      (inbox, outgoing, intake)) :
    intake = .nothing ∨
    (inbox.IsCurrent Brick.frameLimit ∧ outgoing.IsOpen ∧
      (intake = .progress ∧ inbox.buffer ++ outgoing.bytes = c.upstream ∨
        inbox.buffer ++ outgoing.bytes = [] ∧ c.downstream = [] ∧
          ∃ job, c.scheduler.phase = .awaiting job ∧ now < job.deadline ∧
            intake = .frame (probePacket job.counter).body)) := by
  have hopen := h.serving.line.outgoing
  have hquiet : c.upstream = [] → intake = .nothing ∨
      (inbox.IsCurrent Brick.frameLimit ∧ outgoing.IsOpen ∧
        intake = .progress ∧ inbox.buffer ++ outgoing.bytes = c.upstream) := by
    intro hu
    rcases h.prompt.inbox.next_quiet hopen.1 hu with hn' | ⟨i', p', hn', hc, ho, hp, hb⟩
    · cases hn.symm.trans hn'
      exact .inl rfl
    · cases hn.symm.trans hn'
      exact .inr ⟨hc, ⟨ho.trans hopen.1, hp ▸ hopen.2⟩, rfl, hb.trans hu.symm⟩
  have hstage := h.stage
  unfold Stage at hstage
  cases hp : c.scheduler.phase with
  | ready | waiting =>
    simp only [hp] at hstage
    exact (hquiet hstage.1).imp_right fun ⟨hi, ho, hr⟩ => ⟨hi, ho, .inl hr⟩
  | writing job rest =>
    simp only [hp] at hstage
    obtain ⟨-, hne, -, hup⟩ := hstage
    rcases h.prompt.inbox.next hopen.1 (probe_fits job.counter) hup with
      ⟨hn', -⟩ | ⟨i', p', hn', hc, ho, hcap, hb⟩ | ⟨_, -, -, -, -, hm⟩
    · cases hn.symm.trans hn'
      exact .inl rfl
    · cases hn.symm.trans hn'
      exact .inr ⟨hc, ⟨ho.trans hopen.1, hcap ▸ hopen.2⟩, .inl ⟨rfl, hb⟩⟩
    · exact absurd hm hne
  | awaiting job =>
    simp only [hp] at hstage
    obtain ⟨hdl, ⟨hdown, hup⟩ | ⟨hup, -⟩⟩ := hstage
    · have hwhole : c.upstream ++ [] = Frame.encode (probePacket job.counter).body := by
        rw [List.append_nil, hup]
      rcases h.prompt.inbox.next hopen.1 (probe_fits job.counter) hwhole with
        ⟨-, -, hm⟩ | ⟨i', p', hn', hc, ho, hcap, hb⟩ | ⟨i', hn', hc, hb, hbytes, -⟩
      · exact absurd rfl hm
      · cases hn.symm.trans hn'
        exact .inr ⟨hc, ⟨ho.trans hopen.1, hcap ▸ hopen.2⟩, .inl ⟨rfl, hb⟩⟩
      · cases hn.symm.trans hn'
        refine .inr ⟨hc, hopen, .inr ⟨?_, hdown, job, rfl, hdl, rfl⟩⟩
        rw [hb, hbytes, List.append_nil]
    · exact (hquiet hup).imp_right fun ⟨hi, ho, hr⟩ => ⟨hi, ho, .inl hr⟩
  | recovering | closing | terminated => simp only [hp] at hstage

/-- The brick writes what there is room for. -/
theorem reply (h : c.Engaged now) {rest : List UInt8} (hp : c.brick.phase = .writing rest) :
    Contact.Engaged
      ⟨{ c.scheduler with
          line := { c.scheduler.line with incoming := c.scheduler.line.incoming.push rest } },
        { c.brick with phase := .writing (rest.drop c.scheduler.line.incoming.room) }⟩ now := by
  have hopen : (c.scheduler.line.incoming.push rest).IsOpen := h.serving.line.incoming
  refine ⟨{ h.serving with line := { h.serving.line with incoming := hopen } },
    { h.prompt with phase := .inr ⟨_, rfl⟩ }, h.stage.of_same rfl rfl ?_⟩
  simp only [downstream, Brick.left, hp, Pipe.push, List.append_assoc, List.take_append_drop]

/-- A move of the brick. -/
theorem answer (h : c.Engaged now) {b : Brick} {line : Line} {signals : List BrickSignal}
    (hb : c.brick.step c.scheduler.line now = some (b, line, signals)) :
    Contact.Engaged ⟨{ c.scheduler with line := line }, b⟩ now := by
  rcases h.prompt.phase with hp | ⟨rest, hp⟩
  · have hleft : c.brick.left = [] := by simp only [Brick.left, hp]
    rcases hn : c.brick.inbox.next Brick.frameLimit c.scheduler.line.outgoing with
      ⟨inbox, outgoing, intake⟩
    rcases h.far_next hn with rfl | ⟨hi, ho, ⟨rfl, hup⟩ | ⟨hup, hdown, job, hphase, hdl, rfl⟩⟩
    · simp [Brick.step, hp, hn] at hb
    · simp only [Brick.step, hp, hn, Option.some.injEq] at hb
      cases hb
      refine ⟨{ h.serving with line := { h.serving.line with outgoing := ho } },
        { h.prompt with inbox := hi, phase := .inl rfl },
        h.stage.of_same rfl hup ?_⟩
      simp only [downstream, hleft]
      rfl
    · simp only [Brick.step, hp, hn, h.prompt.script, Brick.react, if_true, Brick.act,
        answerTo_probe, Option.some.injEq] at hb
      cases hb
      refine ⟨{ h.serving with line := { h.serving.line with outgoing := ho } },
        ⟨rfl, hi, .inr ⟨_, rfl⟩⟩, ?_⟩
      have hnear := (List.append_eq_nil_iff.mp hdown).1
      simp only [Stage, hphase]
      refine ⟨hdl, .inr ⟨hup, ?_⟩⟩
      simp [downstream, Brick.left, List.append_eq_nil_iff.mp hnear]
  · simp only [Brick.step, hp, h.serving.line.incoming.1, Bool.false_eq_true, if_false] at hb
    by_cases he : rest = []
    · have hleft : c.brick.left = [] := by simp only [Brick.left, hp, he]
      simp only [he, List.isEmpty_nil, if_true, Option.some.injEq] at hb
      cases hb
      refine ⟨h.serving, { h.prompt with phase := .inl rfl },
        h.stage.of_same rfl rfl ?_⟩
      simp only [downstream, hleft]
      rfl
    · by_cases hr : c.scheduler.line.incoming.room = 0
      · simp [he, hr] at hb
      · simp only [List.isEmpty_iff, he, hr, if_false, Option.some.injEq] at hb
        cases hb
        exact h.reply hp

end Contact.Engaged
end BrickHost
