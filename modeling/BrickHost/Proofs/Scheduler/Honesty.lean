import BrickHost.Proofs.Scheduler.Fates
import BrickHost.Proofs.Scheduler.Intake

/-! What an outcome says about the wire. A caller who is told that a command was not executed can
rely on it: its frame never went out as a whole. -/

namespace BrickHost

/-- The whole frame of a request was accepted. -/
def Delivered (log : List Event) (post : Submission) : Prop :=
  ∃ x ∈ stretches log, x.post = post ∧ x.bytes = x.frame

/-- Not a byte of its frame was accepted. -/
def Untouched (log : List Event) (post : Submission) : Prop :=
  ∀ x ∈ stretches log, x.post = post → x.bytes = []

/-- The stream from the far end has ended, or nothing tells any more where its next frame starts. -/
def StreamOver (limit : Nat) (past : List Moment) : Prop :=
  (∃ m ∈ past, m.EndsStream) ∨ (Frame.split limit (received past)).error.isSome = true

/-- Since a request was taken, so much time has passed as its reply may take. -/
def Expired (config : SchedulerConfig) (past : List Moment) (now : Nat) (post : Submission) :
    Prop :=
  ∃ m ∈ past, post ∈ taken m.events ∧
    m.now + (post.request.timeout.getD config.defaultTimeout).ceilMillis ≤ now

/-- A frame that was received is the reply. -/
def Answered (limit : Nat) (past : List Moment) (reply : Packet) : Prop :=
  ∃ body ∈ (Frame.split limit (received past)).frames, Packet.decodeReply body = .ok reply

/-- What has to be so when a request is given up as orphaned. -/
def Orphaned (config : SchedulerConfig) (past : List Moment) (log : List Event) (now : Nat)
    (post : Submission) : OrphanReason → Prop
  | .timeout => Expired config past now post
  | .transportClosed => Delivered log post ∧ StreamOver config.maxFrame past

/-- What has to be so when a request is resolved with an outcome. -/
def Honest (config : SchedulerConfig) (past : List Moment) (log : List Event) (now : Nat)
    (post : Submission) : Outcome → Prop
  | .ok result => Delivered log post ∧ Answered config.maxFrame past result.reply
  | .error (.encode _) => Untouched log post
  | .error (.transport _) => ¬ Delivered log post
  | .error (.orphaned _ reason) => Orphaned config past log now post reason
  | .error .disposed => True
  | .error _ => False

/-- The outcomes that leave it open whether the brick has executed a command. -/
def LeavesOpen : Outcome → Prop
  | .ok _ | .error (.orphaned _ _) | .error .disposed => True
  | _ => False

theorem Untouched.not_delivered {log : List Event} {post : Submission} (h : Untouched log post) :
    ¬ Delivered log post := by
  rintro ⟨x, hx, hp, hb⟩
  have hn : x.frame = [] := hb ▸ h x hx hp
  exact Frame.encode_ne_nil _ hn

namespace Scheduler

/-- The log accounts for the requests and for the bytes. -/
structure Ledger (s : Scheduler) (log : List Event) : Prop where
  accounts : ∃ left, s.Accounts log left
  written : s.Written log

section Ledger

variable {s t : Scheduler} {now : Nat} {log : List Event} {signals : List Signal}
  {post : Submission}

theorem Ledger.taken_nodup (h : s.Ledger log) : (taken log).Nodup := by
  obtain ⟨left, ha⟩ := h.accounts
  have hn := ha.perm.nodup_iff.mpr ha.accepted_nodup
  rw [List.append_assoc] at hn
  exact hn.sublist (List.sublist_append_left _ _)

theorem Ledger.stretch_unique (h : s.Ledger log) {x y : Stretch} (hx : x ∈ stretches log)
    (hy : y ∈ stretches log) (he : x.post = y.post) : x = y :=
  List.inj_on_of_nodup_map (h.written.posts ▸ h.taken_nodup) hx hy he

theorem Ledger.untouched_of_not_taken (h : s.Ledger log) (hn : post ∉ taken log) :
    Untouched log post := by
  intro x hx hp
  have hm : x.post ∈ (stretches log).map (·.post) := List.mem_map_of_mem hx
  rw [h.written.posts, hp] at hm
  exact absurd hm hn

theorem Ledger.taken_of_inHand (h : s.Ledger log) (hh : s.inHand = [post]) :
    taken log = resolved log ++ [post] := by
  obtain ⟨left, ha⟩ := h.accounts
  have hs : s.isStopped = false := by
    cases hp : s.phase <;> simp_all [inHand, isStopped]
  rw [(ha.serving hs).2, hh]

theorem Ledger.last_stretch (h : s.Ledger log) (hh : s.inHand = [post]) :
    ∃ x, (stretches log).getLast? = some x ∧ x.post = post := by
  have ht := h.taken_of_inHand hh
  rw [← h.written.posts] at ht
  have hl := congrArg List.getLast? ht
  rw [List.getLast?_map, List.getLast?_append, List.getLast?_singleton, Option.some_or] at hl
  simpa using hl

theorem Ledger.delivered_of_awaiting (h : s.Ledger log) {job : Job} (hp : s.phase = .awaiting job) :
    Delivered log job.submission := by
  have hh : s.inHand = [job.submission] := by simp [inHand, hp]
  obtain ⟨x, hx, he⟩ := h.last_stretch hh
  have hl := h.written.last
  simp only [StandsAt, hp] at hl
  exact ⟨x, List.mem_of_getLast? hx, he, hl x hx⟩

theorem Ledger.not_delivered_of_writing (h : s.Ledger log) {job : Job} {rest : List UInt8}
    (hp : s.phase = .writing job rest) : ¬ Delivered log job.submission := by
  rintro ⟨y, hy, he, hb⟩
  have hl := h.written.last
  simp only [StandsAt, hp] at hl
  obtain ⟨hne, x, hx, hq, hf⟩ := hl
  obtain rfl := h.stretch_unique hy (List.mem_of_getLast? hx) (he.trans hq.symm)
  rw [← hb] at hf
  exact hne (List.append_right_eq_self.mp hf)

theorem Ledger.untouched_of_taken (h : t.Ledger (log ++ signals.map .did))
    (hm : s.Move now t signals) (ht : taken (signals.map .did) = [post]) :
    Untouched (log ++ signals.map .did) post := by
  rcases hm.taken_cases with hn | ⟨p, u, later, -, -, rfl, hl, hs⟩
  · simp [hn] at ht
  · obtain rfl : p = post := by simpa [hl] using ht
    have hstretch : stretches (log ++ (Signal.taken p :: later).map .did) =
        stretches log ++ [⟨p, UInt16.ofNat (stretches log).length, []⟩] := stretches_taken p hl hs
    have hnew : ⟨p, UInt16.ofNat (stretches log).length, []⟩ ∈
        stretches (log ++ (Signal.taken p :: later).map .did) := by
      rw [hstretch]
      simp
    intro x hx hp
    rw [h.stretch_unique hx hnew hp]

/-- The stretches of what is resolved do not change any more. -/
theorem Ledger.stretch_stays (h : s.Ledger log) (h' : t.Ledger (log ++ signals.map .did))
    (hm : s.Move now t signals) (hr : post ∈ resolved log) {x : Stretch} (hx : x.post = post) :
    x ∈ stretches (log ++ signals.map .did) ↔ x ∈ stretches log := by
  rcases hm.taken_cases with hn | ⟨p, u, later, hp, -, rfl, hl, hq⟩
  · rcases hm.sent_cases with hs | ⟨job, rest, bytes, hp, rfl⟩
    · rw [stretches_quiet hn hs]
    · -- Bytes go to the last stretch, which is that of the request in hand.
      have hh : s.inHand = [job.submission] := by simp [inHand, hp]
      obtain ⟨y, hy, hj⟩ := h.last_stretch hh
      obtain ⟨parts, he⟩ := List.getLast?_eq_some_iff.mp hy
      have hne : x.post ≠ job.submission := by
        rintro hq
        have hd := h.taken_nodup
        rw [h.taken_of_inHand hh] at hd
        exact List.disjoint_of_nodup_append hd (hq ▸ hx ▸ hr) List.mem_cons_self
      have ha : x ≠ y.add bytes := fun hq => hne (hq ▸ hj)
      have hb : x ≠ y := fun hq => hne (hq ▸ hj)
      have hnew : stretches (log ++ [Signal.sent bytes].map .did) = parts ++ [y.add bytes] :=
        stretches_sent he bytes
      rw [hnew, he]
      simp [ha, hb]
  · -- A new stretch is that of a request that was not taken before.
    have hnew : stretches (log ++ (Signal.taken p :: later).map .did) =
        stretches log ++ [⟨p, UInt16.ofNat (stretches log).length, []⟩] := stretches_taken p hl hq
    have hne : x.post ≠ p := by
      rintro rfl
      have hd := h'.taken_nodup
      have ht : taken (log ++ (Signal.taken x.post :: later).map .did) = taken log ++ [x.post] := by
        simp [hl]
      rw [ht] at hd
      obtain ⟨left, ha⟩ := h.accounts
      have hs : taken log = resolved log ++ s.inHand := (ha.serving (by simp [isStopped, hp])).2
      have hin : x.post ∈ taken log := by
        rw [hs, hx]
        exact List.mem_append_left _ hr
      exact List.disjoint_of_nodup_append hd hin List.mem_cons_self
    have ha : x ≠ ⟨p, UInt16.ofNat (stretches log).length, []⟩ := fun hq => hne (by rw [hq])
    rw [hnew]
    simp [ha]

theorem Ledger.not_taken_of_rest (h : s.Ledger log) {rest : Lane → List Submission}
    (hl : ∀ l, s.waitingIn l = inLane l (taken (signals.map .did)) ++ rest l)
    (hm : post ∈ rest .high ++ rest .normal) : post ∉ taken (log ++ signals.map .did) := by
  obtain ⟨left, ha⟩ := h.accounts
  obtain ⟨l, hp⟩ : ∃ l, post ∈ rest l :=
    (List.mem_append.mp hm).elim (fun hp => ⟨.high, hp⟩) (fun hp => ⟨.normal, hp⟩)
  have hw : post ∈ s.waitingIn l := hl l ▸ List.mem_append_right _ hp
  have hs : s.isStopped = false := by
    by_contra ho
    simp [(ha.stopped (by simpa using ho)).2.1 l] at hw
  have hleft := (ha.serving hs).1
  have hlane : post.request.lane = l := ha.lane_of_mem_left (l := l) (hleft ▸ hw)
  have hd : (inLane l (taken (log ++ signals.map .did)) ++ rest l).Nodup := by
    rw [taken_append, inLane_append, List.append_assoc, ← hl, ← hleft, ← ha.lanes l]
    exact ha.accepted_nodup.sublist List.filter_sublist
  intro ht
  exact List.disjoint_of_nodup_append hd (by simpa [inLane, hlane] using ht) hp

end Ledger

section Inbound

variable {s : Scheduler} {past : List Moment}

theorem Inbound.answered (h : s.Inbound past) {body : List UInt8} (hb : body ∈ heard past)
    {reply : Packet} (hr : Packet.decodeReply body = .ok reply) :
    Answered s.config.maxFrame past reply := by
  refine ⟨body, ?_, hr⟩
  rw [h.stream, Frame.split_encodes_append h.fits]
  exact List.mem_append_left _ hb

theorem Inbound.undecodable (h : s.Inbound past) {size : Nat}
    (hs : Frame.scan s.config.maxFrame s.inbox.buffer = .oversized size) :
    (Frame.split s.config.maxFrame (received past)).error.isSome = true := by
  rw [h.stream, Frame.split_encodes_append h.fits, Frame.split_of_oversized hs]
  rfl

end Inbound

end Scheduler

section Later

variable {config : SchedulerConfig} {past : List Moment} {log log' : List Event} {now : Nat}
  {post : Submission}

theorem StreamOver.later {limit : Nat} (h : StreamOver limit past) (m : Moment) :
    StreamOver limit (past ++ [m]) := by
  rcases h with ⟨e, he, hs⟩ | h
  · exact .inl ⟨e, List.mem_append_left _ he, hs⟩
  · rw [StreamOver, received_snoc]
    exact .inr ((Frame.split_append limit (received past) m.intake).2 h)

theorem Orphaned.later {m : Moment} {reason : OrphanReason}
    (h : Orphaned config past log now post reason) (hn : now ≤ m.now)
    (hk : ∀ x : Stretch, x.post = post → (x ∈ stretches log' ↔ x ∈ stretches log)) :
    Orphaned config (past ++ [m]) log' m.now post reason := by
  cases reason with
  | timeout =>
    obtain ⟨e, he, ht, hd⟩ := h
    exact ⟨e, List.mem_append_left _ he, ht, hd.trans hn⟩
  | transportClosed =>
    obtain ⟨⟨x, hx, hp, hb⟩, hs⟩ := h
    exact ⟨⟨x, (hk x hp).mpr hx, hp, hb⟩, hs.later m⟩

theorem Honest.later {m : Moment} {outcome : Outcome} (h : Honest config past log now post outcome)
    (hn : now ≤ m.now)
    (hk : ∀ x : Stretch, x.post = post → (x ∈ stretches log' ↔ x ∈ stretches log)) :
    Honest config (past ++ [m]) log' m.now post outcome := by
  cases outcome with
  | ok result =>
    obtain ⟨⟨x, hx, hp, hb⟩, body, hm, hr⟩ := h
    refine ⟨⟨x, (hk x hp).mpr hx, hp, hb⟩, body, ?_, hr⟩
    rw [received_snoc]
    exact (Frame.split_append config.maxFrame (received past) m.intake).1.subset hm
  | error e =>
    cases e with
    | encode _ => exact fun x hx hp => h x ((hk x hp).mp hx) hp
    | transport _ => exact fun ⟨x, hx, hp, hb⟩ => h ⟨x, (hk x hp).mp hx, hp, hb⟩
    | orphaned _ reason => exact Orphaned.later h hn hk
    | _ => exact h

theorem Honest.leavesOpen {outcome : Outcome} (h : Honest config past log now post outcome)
    (hd : Delivered log post) : LeavesOpen outcome := by
  cases outcome with
  | ok result => trivial
  | error e =>
    cases e with
    | encode _ => exact Untouched.not_delivered h hd
    | transport _ => exact h hd
    | orphaned _ _ | disposed => trivial
    | _ => exact h

end Later

namespace Scheduler

/-- Since when the reply to the job on the wire is due, and why the job that a recovery follows up
was given up. -/
structure Staged (s : Scheduler) (config : SchedulerConfig) (past : List Moment) (log : List Event)
    (now : Nat) : Prop where
  dated : ∀ job, s.serving? = some job → ∃ m ∈ past, job.submission ∈ taken m.events ∧
    job.deadline =
      m.now + (job.submission.request.timeout.getD config.defaultTimeout).ceilMillis
  lost : ∀ job reason closure, s.phase = .recovering job reason closure →
    Orphaned config past log now job.submission reason

section Staged

variable {config : SchedulerConfig} {past : List Moment} {log : List Event} {now : Nat}
  {m : Moment} {signals : List Signal} {job : Job} {reason : OrphanReason}
  {closure : Option String}

theorem Staged.expired (h : m.scheduler.Staged config past log now)
    (hj : m.scheduler.serving? = some job) (hd : job.deadline ≤ m.now) :
    Expired config (past ++ [m]) m.now job.submission := by
  obtain ⟨e, he, ht, hq⟩ := h.dated job hj
  exact ⟨e, List.mem_append_left _ he, ht, hq ▸ hd⟩

theorem Inbound.streamOver (h : m.scheduler.Inbound past) (ha : m.act = .move)
    (hm : m.scheduler.Move m.now m.after signals) (hl : m.scheduler.listens = true)
    {inbox : Inbox} {line : Line} {why : String}
    (hi : m.scheduler.inbox.receive m.scheduler.config.maxFrame m.scheduler.line =
      (inbox, line, .closed why)) : StreamOver m.scheduler.config.maxFrame (past ++ [m]) := by
  obtain ⟨line', intake, hr, -, hf⟩ := hm.listening hl
  obtain ⟨-, rfl, rfl⟩ : inbox = m.after.inbox ∧ line = line' ∧ Intake.closed why = intake := by
    simpa [hi] using hr
  rcases Inbox.receive_cases hi with ⟨⟨-, -, he | ⟨size, ho⟩⟩, -⟩ | ⟨-, -, -, hf', hn⟩
  · -- The end was read before; the inbox reports it when it holds no whole frame any more.
    obtain ⟨e, he, hq⟩ := h.ended he
    exact .inl ⟨e, List.mem_append_left _ he, hq⟩
  · exact StreamOver.later (.inr (h.undecodable ho)) m
  · refine .inl ⟨m, by simp, ?_⟩
    simp only [Moment.EndsStream, ha]
    exact .inr ⟨hf', hf.trans hn⟩

theorem Staged.given_up (h : m.scheduler.Staged config past log now)
    (hc : m.scheduler.config = config) (hb : m.scheduler.Inbound past)
    (hg : m.scheduler.Ledger log) (ha : m.act = .move)
    (hm : m.scheduler.Move m.now m.after signals) (hl : m.scheduler.Loss m.now job reason closure)
    (hk : stretches (log ++ m.events) = stretches log) :
    Orphaned config (past ++ [m]) (log ++ m.events) m.now job.submission reason := by
  cases hl with
  | stall hp hd | expire hp hd => exact h.expired (by simp [serving?, hp]) hd
  | closure hp hn hi =>
    have hl : m.scheduler.listens = true := by simp [listens, hp, hn]
    refine ⟨?_, hc ▸ hb.streamOver ha hm hl hi⟩
    rw [Delivered, hk]
    exact hg.delivered_of_awaiting hp

theorem Staged.quiet (h : m.scheduler.Staged config past log now) (hq : m.IsQuiet)
    (hn : now ≤ m.now) : m.after.Staged config (past ++ [m]) (log ++ m.events) m.now where
  dated job hj := by
    have hs : m.scheduler.serving? = some job := by simpa [serving?, hq.phase] using hj
    obtain ⟨e, he, hd⟩ := h.dated job hs
    exact ⟨e, List.mem_append_left _ he, hd⟩
  lost job reason closure hp := by
    refine (h.lost job reason closure (hq.phase ▸ hp)).later hn ?_
    intro x hx
    rw [stretches_quiet hq.taken hq.sent]

theorem Staged.move (h : m.scheduler.Staged config past log now)
    (hc : m.scheduler.config = config) (hb : m.scheduler.Inbound past)
    (hg : m.scheduler.Ledger log) (ha : m.act = .move)
    (hm : m.scheduler.Move m.now m.after signals) (he : m.events = signals.map .did) :
    m.after.Staged config (past ++ [m]) (log ++ m.events) m.now where
  dated job hj := by
    rcases hm.serving_cases hj with hs | ⟨post, -, rfl, rfl⟩
    · obtain ⟨e, hp, hd⟩ := h.dated job hs
      exact ⟨e, List.mem_append_left _ hp, hd⟩
    · refine ⟨m, by simp, by simp [he, nextJob], ?_⟩
      simp [nextJob, deadlineOf, hc]
  lost job reason closure hp := by
    rcases hm.recover_cases with ⟨j, r, k, hh⟩ | ⟨hr, -⟩
    · obtain ⟨rfl, rfl, rfl⟩ : j = job ∧ r = reason ∧ k = closure := by
        simpa [hh.phase] using hp
      refine h.given_up hc hb hg ha hm hh.loss ?_
      rw [he, hh.signals]
      exact stretches_quiet rfl rfl
    · simp [isRecovering, hp] at hr

theorem Staged.moment (h : m.scheduler.Staged config past log now)
    (hc : m.scheduler.config = config) (hb : m.scheduler.Inbound past)
    (hg : m.scheduler.Ledger log) (hn : now ≤ m.now) :
    m.after.Staged config (past ++ [m]) (log ++ m.events) m.now := by
  rcases m.cases with ⟨signals, ha, hs, he⟩ | hq
  · exact h.move hc hb hg ha (move_of_step hs) he
  · exact h.quiet hq hn

theorem Move.stretches_of_outcome {s t : Scheduler} {post : Submission} {outcome : Outcome}
    (hm : s.Move now t signals) (hp : s.phase ≠ .ready)
    (ho : (post, outcome) ∈ outcomes (signals.map .did)) :
    stretches (log ++ signals.map .did) = stretches log := by
  rcases hm.taken_cases with ht | ⟨_, _, _, hr, -⟩
  · rcases hm.sent_cases with hs | ⟨_, _, _, -, rfl⟩
    · exact stretches_quiet ht hs
    · simp at ho
  · exact absurd hr hp

theorem Staged.honest {post : Submission} {outcome : Outcome}
    (h : m.scheduler.Staged config past log now) (hc : m.scheduler.config = config)
    (hn : now ≤ m.now) (hb : m.scheduler.Inbound past) (hg : m.scheduler.Ledger log)
    (hg' : m.after.Ledger (log ++ m.events)) (ha : m.act = .move)
    (hm : m.scheduler.Move m.now m.after signals) (he : m.events = signals.map .did)
    (ho : (post, outcome) ∈ outcomes m.events) :
    Honest config (past ++ [m]) (log ++ m.events) m.now post outcome := by
  obtain ⟨left, hacc⟩ := hg.accounts
  have hk : m.scheduler.phase ≠ .ready → stretches (log ++ m.events) = stretches log := by
    intro hp
    rw [he] at ho ⊢
    exact hm.stretches_of_outcome hp ho
  -- A request that never left its lane has no stretch, one that just left it an empty one, and one
  -- that was being written a strict part of its frame.
  cases hm.fate hacc.sorted (he ▸ ho) with
  | @unserved _ why rest hl hw =>
    have hu : Untouched (log ++ m.events) post := by
      rw [he] at hg' ⊢
      exact hg'.untouched_of_not_taken (hg.not_taken_of_rest hl hw)
    cases why with
    | linkClosed why => exact hu.not_delivered
    | disposed | abandoned => trivial
  | refused ht | disposed hh => trivial
  | unencodable ht =>
    rw [he] at hg' ⊢
    exact hg'.untouched_of_taken hm ht
  | unframeable ht =>
    rw [he] at hg' ⊢
    exact (hg'.untouched_of_taken hm ht).not_delivered
  | failed hp =>
    rw [Honest, Delivered, hk (by simp [hp])]
    exact hg.not_delivered_of_writing hp
  | @answered job inbox line body result hp hn hi hr =>
    refine ⟨?_, ?_⟩
    · rw [Delivered, hk (by simp [hp])]
      exact hg.delivered_of_awaiting hp
    · have hf : m.frame? = some body := Moment.frame?_of_awaiting ha hp hn hi
      have hd : body ∈ heard (past ++ [m]) := by simp [heard_snoc, hf]
      rw [← hc, ← hm.config]
      exact hb.moment.answered hd (decodeReply_of_answer? hr).1
  | orphaned hl hq =>
    refine h.given_up hc hb hg ha hm hl (hk ?_)
    cases hl with
    | stall hp | expire hp | closure hp => simp [hp]
  | recovered hp hr =>
    refine (h.lost _ _ _ hp).later hn (fun x hx => ?_)
    rw [hk (by simp [hp])]

theorem Ledger.honest_later {post : Submission} {outcome : Outcome}
    (hg : m.scheduler.Ledger log) (hg' : m.after.Ledger (log ++ m.events))
    (ho : (post, outcome) ∈ outcomes log) (h : Honest config past log now post outcome)
    (hn : now ≤ m.now) : Honest config (past ++ [m]) (log ++ m.events) m.now post outcome := by
  refine h.later hn (fun x hx => ?_)
  rcases m.cases with ⟨signals, -, hs, he⟩ | hq
  · rw [he] at hg' ⊢
    exact hg.stretch_stays hg' (move_of_step hs) (List.mem_map_of_mem ho) hx
  · rw [stretches_quiet hq.taken hq.sent]

end Staged

end Scheduler

theorem Course.run_ledger (config : SchedulerConfig) (line : Line) (acts : List (Nat × Act)) :
    ((start config line).run acts).scheduler.Ledger ((start config line).run acts).log :=
  ⟨run_accounts config line acts, run_written config line acts⟩

structure Course.Truthful (config : SchedulerConfig) (c : Course) (past : List Moment) : Prop where
  staged : c.scheduler.Staged config past c.log c.now
  told : ∀ post outcome, (post, outcome) ∈ outcomes c.log →
    Honest config past c.log c.now post outcome

theorem Course.Truthful.after {config : SchedulerConfig} {c : Course} {past : List Moment}
    {ms : Nat} {act : Act} (h : c.Truthful config past) (hc : c.scheduler.config = config)
    (hb : c.scheduler.Inbound past)
    (hg : c.scheduler.Ledger c.log)
    (hg' : (c.after ms act).scheduler.Ledger (c.after ms act).log) :
    (c.after ms act).Truthful config (past ++ [c.moment ms act]) := by
  have hn : c.now ≤ (c.moment ms act).now := Nat.le_add_right _ _
  refine ⟨h.staged.moment (m := c.moment ms act) hc hb hg hn, fun post outcome ho => ?_⟩
  rw [after_eq] at hg' ho ⊢
  rw [outcomes_append, List.mem_append] at ho
  rcases ho with ho | ho
  · exact hg.honest_later (m := c.moment ms act) hg' ho (h.told post outcome ho) hn
  · rcases (c.moment ms act).cases with ⟨signals, ha, hs, he⟩ | hq
    · exact h.staged.honest (m := c.moment ms act) hc hn hb hg hg' ha
        (Scheduler.move_of_step hs) he ho
    · simp [hq.outcomes] at ho

theorem Course.run_truthful (config : SchedulerConfig) (line : Line) (acts : List (Nat × Act)) :
    ((start config line).run acts).Truthful config ((start config line).moments acts) := by
  refine moments_induction (P := Truthful config) ⟨⟨?_, ?_⟩, ?_⟩ ?_ acts
  · intro job hj
    cases hj
  · intro job reason closure hp
    cases hp
  · intro post outcome ho
    cases ho
  · intro acts ms act h
    have hg' := run_ledger config line (acts ++ [(ms, act)])
    rw [run_snoc] at hg'
    exact h.after (run_config config line acts) (run_inbound config line acts)
      (run_ledger config line acts) hg'

/-- From the act with which a request is resolved, what was told about it is true of the wire and of
the clock: a result means that its whole frame was accepted and that the reply came in; that it
could not be encoded, that not a byte of it was accepted; a transport error, that its frame was not
accepted as a whole; that it was given up when the link closed, that its frame was, and that nothing
more can come in; that it was given up in time, that this time was over. So a request whose whole
frame was accepted was never told that it was not executed. -/
theorem outcomes_honest (config : SchedulerConfig) (line : Line) (acts : List (Nat × Act)) :
    let c := (Course.start config line).run acts
    ∀ told ∈ outcomes c.log,
      Honest config ((Course.start config line).moments acts) c.log c.now told.1 told.2 ∧
        (Delivered c.log told.1 → LeavesOpen told.2) := by
  rintro c ⟨post, outcome⟩ ho
  have hh := (Course.run_truthful config line acts).told post outcome ho
  exact ⟨hh, hh.leavesOpen⟩

/-- The first request is not answered in time; the second is, behind the late reply to the first. -/
theorem reply_after_timeout_honest :
    ∃ acts, let c := (Course.start {} (.ofCapacity 64)).run acts
      ∃ told ∈ outcomes c.log, told.1.ticket = 1 ∧ (∃ result, told.2 = .ok result) ∧
        Honest {} ((Course.start {} (.ofCapacity 64)).moments acts) c.log c.now told.1 told.2 ∧
        (Delivered c.log told.1 → LeavesOpen told.2) := by
  let r : Request :=
    { id := "", idempotent := true, timeout := some ⟨0⟩, kind := .direct, payload := [] }
  let bytes := Frame.encode [0, 0, 2] ++ Frame.encode [1, 0, 2]
  let replies := fun l : Line => { l with incoming := { l.incoming with bytes := bytes } }
  let acts := [Act.submit r, .move, .move, .move, .submit r, .move, .move, .rewire replies, .move,
    .move, .move].map ((0, ·))
  let told : Submission × Outcome := (⟨1, r, 0⟩, .ok
    { request := "", counter := 1, reply := .reply 1 .direct [], enqueuedAt := ⟨0⟩,
      startedAt := ⟨0⟩, finishedAt := ⟨0⟩, duration := ⟨0⟩ })
  have ht : told ∈ outcomes ((Course.start {} (.ofCapacity 64)).run acts).log := by decide
  exact ⟨acts, told, ht, rfl, ⟨_, rfl⟩, outcomes_honest {} (.ofCapacity 64) acts told ht⟩

end BrickHost
