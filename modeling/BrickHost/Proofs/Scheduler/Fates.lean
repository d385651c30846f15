import BrickHost.Proofs.Scheduler.Accounts
import BrickHost.Proofs.Scheduler.Wire

/-! What a move of the dispatcher takes, gives up and resolves. Each outcome has one of a few
origins, and each origin says what the scheduler was doing. -/

namespace BrickHost

def Job.context (job : Job) (reason : OrphanReason) : OrphanContext :=
  ⟨job.submission.request.id, job.submission.request.lane, reason⟩

namespace Scheduler

/-- A move gives up the reply to a job. The link closes over it if there is a reason for that. -/
inductive Loss (s : Scheduler) (now : Nat) (job : Job) : OrphanReason → Option String → Prop
  | stall {rest : List UInt8} (hp : s.phase = .writing job rest) (hd : job.deadline ≤ now) :
      Loss s now job .timeout (some stallText)
  | expire (hp : s.phase = .awaiting job) (hd : job.deadline ≤ now) : Loss s now job .timeout none
  | closure {inbox : Inbox} {line : Line} {why : String} (hp : s.phase = .awaiting job)
      (hc : s.cancelled = false)
      (hi : s.inbox.receive s.config.maxFrame s.line = (inbox, line, .closed why)) :
      Loss s now job .transportClosed (some why)

theorem decodeReply_of_answer? {now : Nat} {job : Job} {body : List UInt8} {result : CommandResult}
    (h : answer? now job body = some result) :
    Packet.decodeReply body = .ok result.reply ∧ result.reply.counter = job.counter ∧
      result.counter = job.counter := by
  unfold answer? at h
  cases hd : Packet.decodeReply body with
  | error e => simp [hd] at h
  | ok reply =>
    by_cases hc : reply.counter = job.counter
    · simp only [hd, if_pos hc] at h
      cases h
      exact ⟨rfl, hc, rfl⟩
    · simp [hd, hc] at h

/-- The origin of an outcome among the signals of a move. -/
inductive Fate (s : Scheduler) (now : Nat) (signals : List Signal) : Submission → Outcome → Prop
  | unserved {post : Submission} {why : Exit} {rest : Lane → List Submission}
      (hl : ∀ l, s.waitingIn l = inLane l (taken (signals.map .did)) ++ rest l)
      (hm : post ∈ rest .high ++ rest .normal) : Fate s now signals post (.error why.error)
  | refused {post : Submission} (ht : taken (signals.map .did) = [post]) :
      Fate s now signals post (.error .disposed)
  | unencodable {post : Submission} {e : EncodeError} (ht : taken (signals.map .did) = [post]) :
      Fate s now signals post (.error (.encode e))
  | unframeable {post : Submission} {text : String} (ht : taken (signals.map .did) = [post]) :
      Fate s now signals post (.error (.transport text))
  | disposed {post : Submission} (hh : s.inHand = [post]) :
      Fate s now signals post (.error .disposed)
  | failed {job : Job} {rest : List UInt8} {text : String} (hp : s.phase = .writing job rest) :
      Fate s now signals job.submission (.error (.transport text))
  | answered {job : Job} {inbox : Inbox} {line : Line} {body : List UInt8} {result : CommandResult}
      (hp : s.phase = .awaiting job) (hc : s.cancelled = false)
      (hi : s.inbox.receive s.config.maxFrame s.line = (inbox, line, .frame body))
      (ha : answer? now job body = some result) : Fate s now signals job.submission (.ok result)
  | orphaned {job : Job} {reason : OrphanReason} {closure : Option String}
      (hl : s.Loss now job reason closure) (hq : job.submission.request.idempotent = true) :
      Fate s now signals job.submission (.error (.orphaned job.submission.request.id reason))
  | recovered {job : Job} {reason : OrphanReason} {closure : Option String}
      (hp : s.phase = .recovering job reason closure) (hr : s.recovered = true) :
      Fate s now signals job.submission (.error (.orphaned job.submission.request.id reason))

section Outcomes

variable {s t : Scheduler} {now : Nat} {signals : List Signal} {post : Submission}
  {outcome : Outcome}

@[simp] theorem outcomes_all_resolved (posts : List Submission) (other : Outcome) :
    outcomes (posts.map (Event.did ∘ (Signal.resolved · other))) = posts.map (·, other) := by
  simp [outcomes, List.filterMap_map, Function.comp_def]

@[simp] theorem outcomes_lastSignals (s : Scheduler) (post : Submission) (e : LinkError)
    (why : Exit) : outcomes ((s.lastSignals post e why).map .did) =
      (post, .error e) ::
        (s.waitingIn .high ++ s.waitingIn .normal).map (·, .error why.error) := by
  simp [lastSignals]

theorem Fate.of_waiting {why : Exit} (ht : taken (signals.map .did) = [])
    (h : (post, outcome) ∈
      (s.waitingIn .high ++ s.waitingIn .normal).map (·, (.error why.error : Outcome))) :
    s.Fate now signals post outcome := by
  obtain ⟨p, hp, he⟩ := List.mem_map.mp h
  cases he
  exact .unserved (fun l => by rw [ht]; rfl) hp

theorem Fate.of_last {e : LinkError} {why : Exit} (ht : taken (signals.map .did) = [])
    (hh : s.Fate now signals post (.error e)) {p : Submission}
    (h : (p, outcome) ∈ (post, .error e) ::
      (s.waitingIn .high ++ s.waitingIn .normal).map (·, (.error why.error : Outcome))) :
    s.Fate now signals p outcome := by
  rcases List.mem_cons.mp h with he | hm
  · cases he
    exact hh
  · exact Fate.of_waiting ht hm

theorem taken_orphaned (s : Scheduler) (now : Nat) (job : Job) (reason : OrphanReason)
    (closure : Option String) :
    taken ((s.orphaned now job reason closure).2.map .did) = [] := by
  cases closure <;> simp [orphaned]

theorem taken_orphan (s : Scheduler) (now : Nat) (job : Job) (reason : OrphanReason)
    (closure : Option String) : taken ((s.orphan now job reason closure).2.map .did) = [] := by
  rw [orphan_eq]
  split
  · exact s.taken_orphaned now job reason closure
  · simp

theorem Fate.of_orphaned {job : Job} {reason : OrphanReason} {closure : Option String}
    (hh : s.Fate now (s.orphaned now job reason closure).2 job.submission
      (.error (.orphaned job.submission.request.id reason)))
    (h : (post, outcome) ∈ outcomes ((s.orphaned now job reason closure).2.map .did)) :
    s.Fate now (s.orphaned now job reason closure).2 post outcome := by
  cases closure with
  | some why =>
    exact Fate.of_last (taken_orphaned ..) hh (by simpa [Scheduler.orphaned] using h)
  | none =>
    have he : (post, outcome) =
        (job.submission, .error (.orphaned job.submission.request.id reason)) := by
      simpa [Scheduler.orphaned] using h
    cases he
    exact hh

theorem Fate.of_orphan {job : Job} {reason : OrphanReason} {closure : Option String}
    (hl : s.Loss now job reason closure)
    (h : (post, outcome) ∈ outcomes ((s.orphan now job reason closure).2.map .did)) :
    s.Fate now (s.orphan now job reason closure).2 post outcome := by
  by_cases hq : job.submission.request.idempotent = true
  · have he : s.orphan now job reason closure = s.orphaned now job reason closure := by
      simp [orphan_eq, hq]
    rw [he] at h ⊢
    exact Fate.of_orphaned (.orphaned hl hq) h
  · simp [orphan_eq, hq] at h

theorem orphan_of_line (s : Scheduler) (inbox : Inbox) (line : Line) (now : Nat) (job : Job)
    (reason : OrphanReason) (closure : Option String) :
    (({ s with inbox := inbox, line := line } : Scheduler).orphan now job reason closure).2 =
      (s.orphan now job reason closure).2 := by
  cases hq : job.submission.request.idempotent <;> cases closure <;>
    simp [orphan_eq, hq, orphaned, lastSignals, waitingIn, lane]

theorem Move.fate (hm : s.Move now t signals) (h : s.Sorted)
    (ho : (post, outcome) ∈ outcomes (signals.map .did)) : s.Fate now signals post outcome := by
  cases hm with
  | @refuse p u hp ht hd =>
    have hk : taken ((Signal.taken p :: u.lastSignals p .disposed .disposed).map .did) = [p] := by
      simp
    have ho' : (post, outcome) = (p, .error .disposed) ∨ (post, outcome) ∈
        (u.waitingIn .high ++ u.waitingIn .normal).map (·, .error Exit.disposed.error) := by
      simpa using ho
    rcases ho' with he | hw
    · cases he
      exact .refused hk
    · obtain ⟨q, hq, he⟩ := List.mem_map.mp hw
      cases he
      exact .unserved (fun l => by rw [hk]; exact (takeNext_drain h ht).1 l) hq
  | @unencodable p u e hp ht hd he =>
    obtain ⟨rfl, rfl⟩ : post = p ∧ outcome = .error (.encode e) := by simpa using ho
    exact .unencodable (by simp)
  | @unframeable p u body e hp ht hd hb he =>
    obtain ⟨rfl, rfl⟩ : post = p ∧ outcome = .error (.transport (LinkError.encode e).message) := by
      simpa using ho
    exact .unframeable (by simp)
  | cancelWaiting hp hc =>
    have hw : (post, outcome) ∈
        (s.waitingIn .high ++ s.waitingIn .normal).map (·, .error Exit.disposed.error) := by
      simpa [Exit.error] using ho
    exact Fate.of_waiting (by simp) hw
  | endWaiting hp hc hf hi => exact Fate.of_waiting (by simp) (by simpa using ho)
  | @cancelWriting job _ hp hc | @cancelAwaiting job hp hc =>
    have hh : s.inHand = [job.submission] := by simp [inHand, hp]
    exact Fate.of_last (taken_lastSignals ..) (.disposed hh) (outcomes_lastSignals .. ▸ ho)
  | @failWriting job rest line text hp hc hw =>
    obtain ⟨rfl, rfl⟩ : post = job.submission ∧ outcome = .error (.transport text) := by
      simpa using ho
    exact .failed hp
  | stall hp hc hw hd => exact Fate.of_orphan (.stall hp hd) ho
  | @answered job inbox line body result hp hc hi ha =>
    obtain ⟨rfl, rfl⟩ : post = job.submission ∧ outcome = .ok result := by simpa using ho
    exact .answered hp hc hi ha
  | endAwaiting hp hc hi =>
    rw [orphan_of_line] at ho ⊢
    exact Fate.of_orphan (.closure hp hc hi) ho
  | expire hp hc hi hd => exact Fate.of_orphan (.expire hp hd) ho
  | recover hp hr => exact Fate.of_orphaned (.recovered hp hr) ho
  | _ => simp at ho

/-- A move takes at most one request, and does so before anything else. -/
theorem Move.taken_cases (hm : s.Move now t signals) :
    taken (signals.map .did) = [] ∨
    ∃ p u later, s.phase = .ready ∧ s.drain.takeNext = some (p, u) ∧
      signals = .taken p :: later ∧ taken (later.map .did) = [] ∧ sent (later.map .did) = [] := by
  cases hm with
  | refuse hp ht hd =>
    exact .inr ⟨_, _, _, hp, ht, rfl, taken_lastSignals .., by simp [lastSignals]⟩
  | unencodable hp ht hd he => exact .inr ⟨_, _, _, hp, ht, rfl, by simp, by simp⟩
  | unframeable hp ht hd hb he => exact .inr ⟨_, _, _, hp, ht, rfl, by simp, by simp⟩
  | begin hp ht hd hb hf => exact .inr ⟨_, _, _, hp, ht, rfl, rfl, rfl⟩
  | stall hp hc hw hd | expire hp hc hi hd => exact .inl (taken_orphan ..)
  | endAwaiting hp hc hi => exact .inl (taken_orphan ..)
  | recover hp hr => exact .inl (taken_orphaned ..)
  | _ => exact .inl (by simp)

theorem Move.sent_cases (hm : s.Move now t signals) :
    sent (signals.map .did) = [] ∨
      ∃ job rest bytes, s.phase = .writing job rest ∧ signals = [.sent bytes] := by
  cases hm with
  | write hp hc hw => exact .inr ⟨_, _, _, hp, rfl⟩
  | refuse hp ht hd | cancelWriting hp hc | cancelAwaiting hp hc =>
    exact .inl (by simp [lastSignals])
  | stall hp hc hw hd | expire hp hc hi hd => exact .inl (sent_orphan ..)
  | endAwaiting hp hc hi => exact .inl (sent_orphan ..)
  | recover hp hr => exact .inl (sent_orphaned ..)
  | _ => exact .inl (by simp)

end Outcomes

section Recovery

variable {s t : Scheduler} {now : Nat} {signals : List Signal} {job : Job} {reason : OrphanReason}
  {closure : Option String}

def isRecovering (s : Scheduler) : Bool :=
  match s.phase with
  | .recovering _ _ _ => true
  | _ => false

/-- The job on the wire, as long as its reply is hoped for. -/
def serving? (s : Scheduler) : Option Job :=
  match s.phase with
  | .writing job _ | .awaiting job => some job
  | _ => none

/-- A move that hands a job over to a recovery does nothing else. -/
structure HandsOver (s t : Scheduler) (now : Nat) (signals : List Signal) (job : Job)
    (reason : OrphanReason) (closure : Option String) : Prop where
  loss : s.Loss now job reason closure
  harmful : job.submission.request.idempotent = false
  phase : t.phase = .recovering job reason closure
  fresh : t.recovered = false
  signals : signals = [.recover (job.context reason)]

theorem not_recover_lastSignals (s : Scheduler) (post : Submission) (e : LinkError) (why : Exit)
    (context : OrphanContext) : Signal.recover context ∉ s.lastSignals post e why := by
  simp [lastSignals]

theorem orphaned_quiet (s : Scheduler) (now : Nat) (job : Job) (reason : OrphanReason)
    (closure : Option String) :
    (s.orphaned now job reason closure).1.isRecovering = false ∧
      ∀ context, .recover context ∉ (s.orphaned now job reason closure).2 := by
  cases closure with
  | some why => exact ⟨rfl, s.not_recover_lastSignals _ _ _⟩
  | none => exact ⟨rfl, by simp [orphaned]⟩

theorem orphan_cases {u : Scheduler} (hl : s.Loss now job reason closure) :
    s.HandsOver (u.orphan now job reason closure).1 now (u.orphan now job reason closure).2
        job reason closure ∨
      (u.orphan now job reason closure).1.isRecovering = false ∧
        ∀ context, .recover context ∉ (u.orphan now job reason closure).2 := by
  cases hq : job.submission.request.idempotent with
  | true =>
    have he : u.orphan now job reason closure = u.orphaned now job reason closure := by
      simp [orphan_eq, hq]
    rw [he]
    exact .inr (u.orphaned_quiet now job reason closure)
  | false =>
    have he : u.orphan now job reason closure =
        ({ u with phase := .recovering job reason closure, recovered := false },
          [.recover (job.context reason)]) := by
      simp [orphan_eq, hq, Job.context]
    rw [he]
    exact .inl ⟨hl, hq, rfl, rfl, rfl⟩

theorem Move.recover_cases (hm : s.Move now t signals) :
    (∃ job reason closure, s.HandsOver t now signals job reason closure) ∨
      t.isRecovering = false ∧ ∀ context, .recover context ∉ signals := by
  cases hm with
  | stall hp hc hw hd => exact (orphan_cases (.stall hp hd)).imp_left (fun h => ⟨_, _, _, h⟩)
  | endAwaiting hp hc hi =>
    exact (orphan_cases (.closure hp hc hi)).imp_left (fun h => ⟨_, _, _, h⟩)
  | expire hp hc hi hd => exact (orphan_cases (.expire hp hd)).imp_left (fun h => ⟨_, _, _, h⟩)
  | recover hp hr => exact .inr (s.orphaned_quiet ..)
  | refuse hp ht hd => exact .inr ⟨rfl, by simp [lastSignals]⟩
  | cancelWriting hp hc | cancelAwaiting hp hc =>
    exact .inr ⟨rfl, s.not_recover_lastSignals _ _ _⟩
  | @write job rest line count hp hc hw =>
    refine .inr ⟨?_, by simp⟩
    by_cases hr : (rest.drop count).isEmpty = true <;> simp [isRecovering, hr]
  | fetchAwaiting hp hc hi hd hf =>
    have ht := (fetch_phase hf).1
    exact .inr ⟨by simp [isRecovering, ht, hp], by simp⟩
  | readWaiting hp hc hf hi | readAwaiting hp hc hi | discard hp hc hi ha =>
    exact .inr ⟨by simp [isRecovering, hp], by simp⟩
  | _ => exact .inr ⟨rfl, by simp⟩

theorem orphan_serving? (s : Scheduler) (now : Nat) (job : Job) (reason : OrphanReason)
    (closure : Option String) : (s.orphan now job reason closure).1.serving? = none := by
  rw [orphan_eq]
  split
  · cases closure <;> rfl
  · rfl

/-- A job gets onto the wire when its request is taken, and is not replaced there. -/
theorem Move.serving_cases (hm : s.Move now t signals) (hj : t.serving? = some job) :
    s.serving? = some job ∨
      ∃ post, s.phase = .ready ∧ job = s.nextJob now post ∧ signals = [.taken post] := by
  cases hm with
  | begin hp ht hd hb hf => exact .inr ⟨_, hp, (Option.some.inj hj).symm, rfl⟩
  | @write other rest line count hp hc hw =>
    left
    by_cases hr : (rest.drop count).isEmpty = true <;> simpa [serving?, hr, hp] using hj
  | readWaiting hp hc hf hi | readAwaiting hp hc hi | discard hp hc hi ha => exact .inl hj
  | fetchAwaiting hp hc hi hd hf =>
    have ht := (fetch_phase hf).1
    left
    simpa [serving?, ht] using hj
  | stall hp hc hw hd | expire hp hc hi hd => simp [orphan_serving?] at hj
  | endAwaiting hp hc hi => simp [orphan_serving?] at hj
  | @recover other reason closure hp hr => cases closure <;> cases hj
  | _ => cases hj

end Recovery

end Scheduler
end BrickHost
