import BrickHost.Proofs.Scheduler.Recovery

/-! Those who wait for the outcomes of their requests, and give up when they like. The dispatcher
does not look at them. All it asks about the outside is whether anyone can still post. -/

namespace BrickHost

namespace Scheduler

variable {s : Scheduler} {now n : Nat}

def withHandles (s : Scheduler) (n : Nat) : Scheduler :=
  { s with handles := n }

section WithHandles

theorem drain_withHandles (s : Scheduler) (n : Nat) :
    (s.withHandles n).drain = s.drain.withHandles n := by
  simp only [drain_eq]
  rfl

theorem takeNext_withHandles (s : Scheduler) (n : Nat) :
    (s.withHandles n).takeNext = s.takeNext.map fun taken => (taken.1, taken.2.withHandles n) := by
  have hh : (s.withHandles n).high = s.high := rfl
  have hn : (s.withHandles n).normal = s.normal := rfl
  unfold takeNext
  rw [hh, hn]
  cases s.high with
  | cons post rest => rfl
  | nil => cases s.normal <;> rfl

theorem stop_withHandles (s : Scheduler) (now : Nat) (why : Exit) (n : Nat) :
    (s.withHandles n).stop now why = ((s.stop now why).1.withHandles n, (s.stop now why).2) := by
  simp only [stop_eq]
  rfl

theorem resolveAndStop_withHandles (s : Scheduler) (now : Nat) (post : Submission) (e : LinkError)
    (why : Exit) (n : Nat) :
    (s.withHandles n).resolveAndStop now post e why =
      ((s.resolveAndStop now post e why).1.withHandles n, (s.resolveAndStop now post e why).2) := by
  simp only [resolveAndStop_eq]
  rfl

theorem dispatch_withHandles (s : Scheduler) (now : Nat) (post : Submission) (n : Nat) :
    (s.withHandles n).dispatch now post =
      ((s.dispatch now post).1.withHandles n, (s.dispatch now post).2) := by
  unfold dispatch
  by_cases hd : s.state.isDisposed = true
  · have hd' : (s.withHandles n).state.isDisposed = true := hd
    rw [if_pos hd, if_pos hd']
    exact resolveAndStop_withHandles s now post .disposed .disposed n
  · have hd' : ¬ (s.withHandles n).state.isDisposed = true := hd
    rw [if_neg hd, if_neg hd']
    have hc : (s.withHandles n).nextCounter = s.nextCounter := rfl
    have hf : (s.withHandles n).config = s.config := rfl
    simp only [hc, hf]
    cases (post.request.packet s.nextCounter).toBytes s.config.maxFrame with
    | error e => rfl
    | ok body =>
      dsimp only
      cases Frame.encode? s.config.maxFrame body <;> rfl

theorem begin_withHandles (s : Scheduler) (now n : Nat) :
    (s.withHandles n).begin now = ((s.begin now).1.withHandles n, (s.begin now).2) := by
  unfold begin
  rw [drain_withHandles, takeNext_withHandles]
  cases s.drain.takeNext with
  | some taken =>
    obtain ⟨post, t⟩ := taken
    simp only [Option.map_some, dispatch_withHandles]
  | none =>
    have hr : (s.withHandles n).receiving = s.receiving := rfl
    simp only [Option.map_none, hr]
    split
    · rfl
    · exact stop_withHandles s now .abandoned n

theorem orphan_withHandles (s : Scheduler) (now : Nat) (job : Job) (reason : OrphanReason)
    (closure : Option String) (n : Nat) :
    (s.withHandles n).orphan now job reason closure =
      ((s.orphan now job reason closure).1.withHandles n, (s.orphan now job reason closure).2) := by
  simp only [orphan_eq]
  split
  · cases closure <;> rfl
  · rfl

theorem fetch_withHandles (hs : 0 < s.handles) (hn : 0 < n) :
    (s.withHandles n).fetch = s.fetch.map (·.withHandles n) := by
  have hm : (s.withHandles n).mailbox = s.mailbox := rfl
  unfold fetch
  rw [hm]
  cases s.mailbox with
  | nil =>
    -- Only here does the dispatcher ask whether anyone can post.
    have hn' : ¬ ((s.withHandles n).handles = 0 ∧ (s.withHandles n).receiving = true) :=
      fun h => absurd h.1 (Nat.ne_of_gt hn)
    have hs' : ¬ (s.handles = 0 ∧ s.receiving = true) := fun h => absurd h.1 (Nat.ne_of_gt hs)
    dsimp only
    rw [if_neg hn', if_neg hs']
    rfl
  | cons post rest =>
    simp only [enqueue_eq]
    rfl

theorem stepWaiting_withHandles (hs : 0 < s.handles) (hn : 0 < n) (now : Nat) :
    (s.withHandles n).stepWaiting now =
      (s.stepWaiting now).map fun result => (result.1.withHandles n, result.2) := by
  have hc : (s.withHandles n).cancelled = s.cancelled := rfl
  have hi : (s.withHandles n).inbox = s.inbox := rfl
  have hl : (s.withHandles n).line = s.line := rfl
  have hf : (s.withHandles n).config = s.config := rfl
  unfold stepWaiting
  rw [fetch_withHandles hs hn, stop_withHandles, hc, hi, hl, hf]
  split
  · rfl
  · cases s.fetch with
    | some t => rfl
    | none =>
      rcases s.inbox.receive s.config.maxFrame s.line with ⟨inbox, line, intake⟩
      cases intake with
      | nothing | progress | frame => rfl
      | closed why =>
        exact congrArg some (stop_withHandles { s with inbox := inbox, line := line } now _ n)

theorem stepWriting_withHandles (s : Scheduler) (now : Nat) (job : Job) (rest : List UInt8)
    (n : Nat) :
    (s.withHandles n).stepWriting now job rest =
      (s.stepWriting now job rest).map fun result => (result.1.withHandles n, result.2) := by
  have hc : (s.withHandles n).cancelled = s.cancelled := rfl
  have hl : (s.withHandles n).line = s.line := rfl
  unfold stepWriting
  rw [resolveAndStop_withHandles, orphan_withHandles, hc, hl]
  split
  · rfl
  · rcases s.line.write rest with ⟨line, written⟩
    cases written with
    | accepted count => rfl
    | failed text => rfl
    | full =>
      dsimp only
      split <;> rfl

theorem stepAwaiting_withHandles (hs : 0 < s.handles) (hn : 0 < n) (now : Nat) (job : Job) :
    (s.withHandles n).stepAwaiting now job =
      (s.stepAwaiting now job).map fun result => (result.1.withHandles n, result.2) := by
  have hc : (s.withHandles n).cancelled = s.cancelled := rfl
  have hi : (s.withHandles n).inbox = s.inbox := rfl
  have hl : (s.withHandles n).line = s.line := rfl
  have hf : (s.withHandles n).config = s.config := rfl
  unfold stepAwaiting
  rw [fetch_withHandles hs hn, resolveAndStop_withHandles, orphan_withHandles, hc, hi, hl, hf]
  split
  · rfl
  · rcases s.inbox.receive s.config.maxFrame s.line with ⟨inbox, line, intake⟩
    cases intake with
    | progress => rfl
    | frame body =>
      dsimp only
      cases answer? now job body <;> rfl
    | closed why =>
      exact congrArg some
        (orphan_withHandles { s with inbox := inbox, line := line } now job _ (some why) n)
    | nothing =>
      dsimp only
      split
      · rfl
      · cases s.fetch <;> rfl

/-- As long as anyone can post, it does not matter to the dispatcher how many can. -/
theorem step_withHandles (hs : 0 < s.handles) (hn : 0 < n) (now : Nat) :
    (s.withHandles n).step now =
      (s.step now).map fun result => (result.1.withHandles n, result.2) := by
  have hp : (s.withHandles n).phase = s.phase := rfl
  unfold step
  rw [hp]
  cases s.phase with
  | ready => exact congrArg some (begin_withHandles s now n)
  | waiting => exact stepWaiting_withHandles hs hn now
  | writing job rest => exact stepWriting_withHandles s now job rest n
  | awaiting job => exact stepAwaiting_withHandles hs hn now job
  | recovering job reason closure =>
    have hr : (s.withHandles n).recovered = s.recovered := rfl
    dsimp only
    rw [hr, endOrphan_eq, endOrphan_eq]
    split
    · cases closure <;> rfl
    · rfl
  | closing deadline =>
    have hl : (s.withHandles n).line = s.line := rfl
    dsimp only
    rw [hl]
    split <;> rfl
  | terminated => rfl

theorem handles_of_step (hs : 0 < s.handles) {t : Scheduler} {signals : List Signal}
    (h : s.step now = some (t, signals)) : t.handles = s.handles := by
  have hsame : s.withHandles s.handles = s := rfl
  have hstep := step_withHandles hs hs now
  rw [hsame, h, Option.map_some, Option.some.injEq, Prod.mk.injEq] at hstep
  rw [hstep.1]
  rfl

end WithHandles

end Scheduler

/-- How many can post after an act of as many as could before. -/
def Act.handles : Act → Nat → Nat
  | retain, n => n + 1
  | release, n => n - 1
  | _, n => n

namespace Scheduler

variable {s : Scheduler} {n : Nat}

theorem react_withHandles (hs : 0 < s.handles) (hn : 0 < n) (now : Nat) (act : Act) :
    (s.withHandles n).react now act =
      ((s.react now act).1.withHandles (act.handles n), (s.react now act).2) := by
  cases act with
  | move =>
    simp only [react, step_withHandles hs hn]
    cases s.step now <;> rfl
  | submit r =>
    have hd : (s.withHandles n).state = s.state := rfl
    simp only [react, submit, hd]
    cases s.state.isDisposed <;> rfl
  | dispose | retain | release | endRecovery | rewire => rfl

theorem handles_react (hs : 0 < s.handles) (now : Nat) (act : Act) :
    (s.react now act).1.handles = act.handles s.handles := by
  cases act with
  | move =>
    cases h : s.step now with
    | none =>
      simp only [react, h]
      rfl
    | some result =>
      simp only [react, h]
      exact handles_of_step hs h
  | submit r =>
    simp only [react, submit]
    cases s.state.isDisposed <;> rfl
  | dispose | retain | release | endRecovery | rewire => rfl

end Scheduler

namespace Attended

def handles (a : Attended) : Nat := a.course.scheduler.handles

def withHandles (a : Attended) (n : Nat) : Attended :=
  { a with course := { a.course with scheduler := a.course.scheduler.withHandles n } }

section WithHandles

variable {a : Attended} {n : Nat}

theorem foldl_hear_withHandles (a : Attended) (signals : List Signal) (n : Nat) :
    signals.foldl hear (a.withHandles n) = (signals.foldl hear a).withHandles n := by
  induction signals generalizing a with
  | nil => rfl
  | cons signal rest ih =>
    have hone : (a.withHandles n).hear signal = (a.hear signal).withHandles n := by
      cases signal <;> rfl
    rw [List.foldl_cons, List.foldl_cons, hone, ih]

theorem act_withHandles (ha : 0 < a.handles) (hn : 0 < n) (ms : Nat) (act : Act) :
    (a.withHandles n).act ms act = (a.act ms act).withHandles (act.handles n) := by
  by_cases he : act = .endRecovery
  · rw [he]
    rfl
  · rw [act_eq _ ms he, act_eq _ ms he, ← foldl_hear_withHandles]
    have hr := Scheduler.react_withHandles ha hn (a.course.now + ms) act
    have hm : ((a.withHandles n).course.moment ms act).events = (a.course.moment ms act).events := by
      show ((a.course.scheduler.withHandles n).react (a.course.now + ms) act).2 = _
      rw [hr]
      rfl
    have hc : (a.withHandles n).course.after ms act =
        { a.course.after ms act with
          scheduler := (a.course.after ms act).scheduler.withHandles (act.handles n) } := by
      simp only [Course.after, withHandles, hr]
    rw [hm, hc]
    rfl

theorem handles_act (ha : 0 < a.handles) (ms : Nat) (act : Act) :
    (a.act ms act).handles = act.handles a.handles := by
  by_cases he : act = .endRecovery
  · rw [he]
    rfl
  · rw [act_eq _ ms he, handles, foldl_hear_course]
    exact Scheduler.handles_react ha (a.course.now + ms) act

theorem attend_withHandles (a : Attended) (conduct : Conduct) (n : Nat) :
    (a.withHandles n).attend conduct = (a.attend conduct).withHandles n ∧
      (a.attend conduct).handles = a.handles := by
  have hr : (a.withHandles n).recovery = a.recovery := rfl
  have hf : (a.withHandles n).course.scheduler.config = a.course.scheduler.config := rfl
  have hw : (a.withHandles n).course.now = a.course.now := rfl
  unfold attend
  rw [hr, hf, hw]
  cases a.recovery with
  | none => exact ⟨rfl, rfl⟩
  | some r =>
    dsimp only
    cases r.step conduct a.course.scheduler.config.recoveryTimeout a.course.now with
    | none => exact ⟨rfl, rfl⟩
    | some step => cases step <;> exact ⟨rfl, rfl⟩

theorem handles_add {n : Nat} (hn : 0 < n) (act : Act) (extra : Nat) :
    act.handles (n + extra) = act.handles n + extra := by
  cases act <;> simp only [Act.handles] <;> omega

/-- Further handles that nobody lets go are there afterwards as well, and nothing else is
different. -/
theorem act_beside {a b : Attended} {extra : Nat} (h : b = a.withHandles (a.handles + extra))
    (ha : 0 < a.handles) (ms : Nat) (act : Act) :
    b.act ms act = (a.act ms act).withHandles ((a.act ms act).handles + extra) := by
  rw [h, act_withHandles ha (Nat.lt_add_right extra ha), handles_act ha, handles_add ha]

theorem shift_beside {a b : Attended} {extra : Nat} (h : b = a.withHandles (a.handles + extra))
    (ha : 0 < a.handles) (shift : Shift) :
    b.shift shift = (a.shift shift).withHandles ((a.shift shift).handles + extra) := by
  cases shift with
  | act ms act => exact act_beside h ha ms act
  | attend conduct =>
    show b.attend conduct = (a.attend conduct).withHandles ((a.attend conduct).handles + extra)
    obtain ⟨ht, hh⟩ := attend_withHandles a conduct (a.handles + extra)
    rw [h, ht, hh]

end WithHandles

end Attended

/-- The outcome of a request, at the moment when it is told. -/
def Happening.outcomeOf? (ticket : Nat) : Happening → Option Outcome
  | did (.resolved post outcome) => if post.ticket = ticket then some outcome else none
  | _ => none

namespace Attended

/-- Nothing happens but that time passes. -/
def pause (a : Attended) (ms : Nat) : Attended :=
  a.act ms (.rewire id)

/-- The ticket for a request, `none` if it is refused. -/
def ticket? (a : Attended) (ms : Nat) (r : Request) : Option Nat :=
  (a.course.scheduler.submit (a.course.now + ms) r).map (·.2)

theorem ticket?_withHandles (a : Attended) (n ms : Nat) (r : Request) :
    (a.withHandles n).ticket? ms r = a.ticket? ms r := by
  have hd : (a.course.scheduler.withHandles n).state = a.course.scheduler.state := rfl
  show ((a.course.scheduler.withHandles n).submit (a.course.now + ms) r).map (·.2) = _
  simp only [ticket?, Scheduler.submit, hd]
  split <;> rfl

/-- What has become of the request with this ticket. -/
def outcome? (a : Attended) (ticket : Nat) : Option Outcome :=
  a.log.findSome? (·.2.outcomeOf? ticket)

end Attended

/-- A task that waits for the outcome of its request. -/
structure Sender where
  number : Nat
  ticket : Nat
  /-- It has a handle of its own. -/
  owns : Bool

/-- An attended course, and all who have sent a request, by number. -/
structure Clientele where
  attended : Attended
  senders : List Sender := []
  sends : Nat := 0
  /-- When which send returned, and with what. -/
  received : List (Nat × Nat × Outcome) := []

inductive ClientAct where
  | shift (shift : Shift)
  | send (ms : Nat) (r : Request) (owns : Bool)
  /-- A sender sees its outcome, if there is one. -/
  | collect (ms number : Nat)
  /-- A sender is cancelled, if it still waits. -/
  | cancel (ms number : Nat)
  | wait (ms : Nat)

namespace Clientele

def start (config : SchedulerConfig) (line : Line) : Clientele where
  attended := .start config line

def sender? (c : Clientele) (number : Nat) : Option Sender :=
  c.senders.find? (·.number == number)

def pause (c : Clientele) (ms : Nat) : Clientele :=
  { c with attended := c.attended.pause ms }

/-- A sender goes, and with it its handle. -/
def leave (c : Clientele) (ms : Nat) (s : Sender) : Clientele :=
  { c with
    attended := if s.owns then c.attended.act ms .release else c.attended.pause ms
    senders := c.senders.filter (·.number != s.number) }

def send (c : Clientele) (ms : Nat) (r : Request) (owns : Bool) : Clientele :=
  let posted := c.attended.act ms (.submit r)
  match c.attended.ticket? ms r with
  | none => { c with
      attended := posted
      sends := c.sends + 1
      received := c.received ++ [(posted.course.now, c.sends, .error .disposed)] }
  | some ticket => { c with
      attended := if owns then posted.act 0 .retain else posted
      sends := c.sends + 1
      senders := c.senders ++ [⟨c.sends, ticket, owns⟩] }

def collect (c : Clientele) (ms number : Nat) : Clientele :=
  match c.sender? number with
  | none => c.pause ms
  | some s =>
    match c.attended.outcome? s.ticket with
    | none => c.pause ms
    | some outcome => { c.leave ms s with
        received := c.received ++ [(c.attended.course.now + ms, number, outcome)] }

def cancel (c : Clientele) (ms number : Nat) : Clientele :=
  match c.sender? number with
  | none => c.pause ms
  | some s => c.leave ms s

def act (c : Clientele) : ClientAct → Clientele
  | .shift shift => { c with attended := c.attended.shift shift }
  | .send ms r owns => c.send ms r owns
  | .collect ms number => c.collect ms number
  | .cancel ms number => c.cancel ms number
  | .wait ms => c.pause ms

def run (c : Clientele) (acts : List ClientAct) : Clientele :=
  acts.foldl act c

section Beside

/-- Two clienteles of which one has, besides, a sender with this number. -/
structure Beside (number : Nat) (cut full : Clientele) : Prop where
  attended : full.attended = cut.attended.withHandles
    (cut.attended.handles + if (full.sender? number).any (·.owns) then 1 else 0)
  sends : full.sends = cut.sends
  sent : number < full.sends
  senders : cut.senders = full.senders.filter (·.number != number)
  received : full.received.filter (·.2.1 != number) = cut.received.filter (·.2.1 != number)

variable {number : Nat} {cut full : Clientele}

theorem Beside.shift (h : Beside number cut full) (ha : 0 < cut.attended.handles) (shift : Shift) :
    Beside number (cut.act (.shift shift)) (full.act (.shift shift)) :=
  ⟨Attended.shift_beside h.attended ha shift, h.sends, h.sent, h.senders, h.received⟩

theorem Beside.pause (h : Beside number cut full) (ha : 0 < cut.attended.handles) (ms : Nat) :
    Beside number (cut.pause ms) (full.pause ms) :=
  h.shift ha (.act ms (.rewire id))

theorem Beside.send (h : Beside number cut full) (ha : 0 < cut.attended.handles) (ms : Nat)
    (r : Request) (owns : Bool) : Beside number (cut.send ms r owns) (full.send ms r owns) := by
  have hnew : cut.sends ≠ number := by
    rw [← h.sends]
    exact Nat.ne_of_gt h.sent
  have hsent : number < cut.sends + 1 := by
    rw [← h.sends]
    exact Nat.lt_succ_of_lt h.sent
  have hticket : full.attended.ticket? ms r = cut.attended.ticket? ms r := by
    rw [h.attended, Attended.ticket?_withHandles]
  have hposted := Attended.act_beside h.attended ha ms (.submit r)
  have hcount : (cut.attended.act ms (.submit r)).handles = cut.attended.handles :=
    Attended.handles_act ha ms (.submit r)
  unfold Clientele.send
  rw [hticket, h.sends]
  cases cut.attended.ticket? ms r with
  | none =>
    refine ⟨hposted, rfl, hsent, h.senders, ?_⟩
    simp only [List.filter_append, h.received, hposted]
    rfl
  | some ticket =>
    have hfind : (full.senders ++ [(⟨cut.sends, ticket, owns⟩ : Sender)]).find? (·.number == number) =
        full.sender? number := by
      simp [Clientele.sender?, hnew]
    refine ⟨?_, rfl, hsent, ?_, h.received⟩
    · show (if owns then _ else _) = Attended.withHandles (if owns then _ else _) _
      rw [Clientele.sender?, hfind]
      cases owns with
      | false => exact hposted
      | true => exact Attended.act_beside hposted (by rwa [hcount]) 0 .retain
    · simp only [List.filter_append, h.senders]
      simp [hnew]

theorem sender?_leave (c : Clientele) (ms : Nat) {s : Sender} (hs : s.number ≠ number) :
    (c.leave ms s).sender? number = c.sender? number := by
  unfold Clientele.leave Clientele.sender?
  rw [List.find?_filter]
  congr
  funext other
  by_cases ho : other.number = number <;> simp [ho, Ne.symm hs]

theorem Beside.leave (h : Beside number cut full) (ha : 0 < cut.attended.handles) (ms : Nat)
    {s : Sender} (hs : s.number ≠ number) : Beside number (cut.leave ms s) (full.leave ms s) := by
  refine ⟨?_, h.sends, h.sent, ?_, h.received⟩
  · rw [sender?_leave full ms hs]
    cases ho : s.owns with
    | false =>
      simp only [Clientele.leave, ho]
      exact Attended.act_beside h.attended ha ms (.rewire id)
    | true =>
      simp only [Clientele.leave, ho]
      exact Attended.act_beside h.attended ha ms .release
  · simp only [Clientele.leave, h.senders, List.filter_filter, Bool.and_comm]

theorem number_of_sender? {c : Clientele} {s : Sender} (h : c.sender? number = some s) :
    s.number = number := by
  simpa using List.find?_some h

theorem Beside.leave_last (h : Beside number cut full) (ha : 0 < cut.attended.handles) (ms : Nat)
    {s : Sender} (hs : full.sender? number = some s) :
    Beside number (cut.pause ms) (full.leave ms s) := by
  have hn := number_of_sender? hs
  have hgone : (full.leave ms s).sender? number = none := by
    simp [Clientele.leave, Clientele.sender?, hn]
  have hpause := (h.pause ha ms).attended
  have hcount : (cut.pause ms).attended.handles = cut.attended.handles :=
    Attended.handles_act ha ms (.rewire id)
  refine ⟨?_, h.sends, h.sent, ?_, h.received⟩
  · rw [hgone]
    cases ho : s.owns with
    | false =>
      have hleave : (full.leave ms s).attended = (full.pause ms).attended := by
        simp [Clientele.leave, Clientele.pause, ho]
      have hsame : (full.pause ms).sender? number = some s := hs
      rw [hleave, hpause, hsame]
      simp [ho]
    | true =>
      have hleave : (full.leave ms s).attended =
          (full.pause ms).attended.withHandles (full.attended.handles - 1) := by
        simp only [Clientele.leave, ho]
        rfl
      have hmore : full.attended.handles = cut.attended.handles + 1 := by
        rw [h.attended, hs]
        simp [ho, Attended.handles, Attended.withHandles, Scheduler.withHandles]
      rw [hleave, hpause, hmore, hcount]
      rfl
  · show cut.senders = (full.senders.filter _).filter _
    rw [h.senders, hn, List.filter_filter]
    simp

theorem Beside.sender? (h : Beside number cut full) {other : Nat} (ho : other ≠ number) :
    cut.sender? other = full.sender? other := by
  unfold Clientele.sender?
  rw [h.senders, List.find?_filter]
  congr
  funext s
  by_cases hs : s.number = other <;> simp [hs, ho]

theorem Beside.sender?_eq_none (h : Beside number cut full) : cut.sender? number = none := by
  unfold Clientele.sender?
  rw [h.senders]
  simp

theorem Beside.outcome? (h : Beside number cut full) (ticket : Nat) :
    full.attended.outcome? ticket = cut.attended.outcome? ticket := by
  rw [h.attended]
  rfl

theorem Beside.now (h : Beside number cut full) :
    full.attended.course.now = cut.attended.course.now := by
  rw [h.attended]
  rfl

theorem Beside.cancel (h : Beside number cut full) (ha : 0 < cut.attended.handles) (ms other : Nat) :
    Beside number (cut.cancel ms other) (full.cancel ms other) := by
  unfold Clientele.cancel
  by_cases ho : other = number
  · subst ho
    rw [h.sender?_eq_none]
    cases hs : full.sender? other with
    | none => exact h.pause ha ms
    | some s => exact h.leave_last ha ms hs
  · rw [h.sender? ho]
    cases hs : full.sender? other with
    | none => exact h.pause ha ms
    | some s => exact h.leave ha ms (by rwa [number_of_sender? hs])

theorem Beside.collect (h : Beside number cut full) (ha : 0 < cut.attended.handles)
    (ms other : Nat) : Beside number (cut.collect ms other) (full.collect ms other) := by
  unfold Clientele.collect
  by_cases ho : other = number
  · subst ho
    rw [h.sender?_eq_none]
    cases hs : full.sender? other with
    | none => exact h.pause ha ms
    | some s =>
      dsimp only
      cases full.attended.outcome? s.ticket with
      | none => exact h.pause ha ms
      | some outcome =>
        have hl := h.leave_last ha ms hs
        refine ⟨hl.attended, hl.sends, hl.sent, hl.senders, ?_⟩
        rw [List.filter_append, h.received]
        simp [Clientele.pause]
  · rw [h.sender? ho]
    cases hs : full.sender? other with
    | none => exact h.pause ha ms
    | some s =>
      dsimp only
      rw [h.outcome?, h.now]
      cases cut.attended.outcome? s.ticket with
      | none => exact h.pause ha ms
      | some outcome =>
        have hl := h.leave ha ms (s := s) (by rwa [number_of_sender? hs])
        refine ⟨hl.attended, hl.sends, hl.sent, hl.senders, ?_⟩
        simp only [List.filter_append, h.received]

theorem Beside.act (h : Beside number cut full) (ha : 0 < cut.attended.handles) (act : ClientAct) :
    Beside number (cut.act act) (full.act act) := by
  cases act with
  | shift shift => exact h.shift ha shift
  | send ms r owns => exact h.send ha ms r owns
  | collect ms other => exact h.collect ha ms other
  | cancel ms other => exact h.cancel ha ms other
  | wait ms => exact h.pause ha ms

theorem Beside.run (h : Beside number cut full) {acts : List ClientAct}
    (ha : ∀ part, part <+: acts → 0 < (cut.run part).attended.handles) :
    Beside number (cut.run acts) (full.run acts) := by
  induction acts generalizing cut full with
  | nil => exact h
  | cons act rest ih =>
    refine ih (h.act (ha [] List.nil_prefix) act) fun part hp => ?_
    exact ha (act :: part) (List.cons_prefix_cons.mpr ⟨rfl, hp⟩)

/-- No number is given twice. -/
def Numbered (c : Clientele) : Prop :=
  ∀ s ∈ c.senders, s.number < c.sends

variable {c : Clientele}

theorem Numbered.leave (h : c.Numbered) (ms : Nat) (s : Sender) : (c.leave ms s).Numbered :=
  fun other ho => h other (List.mem_of_mem_filter ho)

theorem Numbered.send (h : c.Numbered) (ms : Nat) (r : Request) (owns : Bool) :
    (c.send ms r owns).Numbered := by
  intro s hs
  unfold Clientele.send at hs ⊢
  cases ht : c.attended.ticket? ms r with
  | none =>
    rw [ht] at hs
    exact Nat.lt_succ_of_lt (h s hs)
  | some ticket =>
    rw [ht] at hs
    rcases List.mem_append.mp hs with hs | hs
    · exact Nat.lt_succ_of_lt (h s hs)
    · rw [List.mem_singleton.mp hs]
      exact Nat.lt_succ_self c.sends

theorem Numbered.act (h : c.Numbered) (act : ClientAct) : (c.act act).Numbered := by
  cases act with
  | shift | wait => exact h
  | send ms r owns => exact h.send ms r owns
  | collect ms number =>
    simp only [Clientele.act, Clientele.collect]
    split
    · exact h
    · split
      · exact h
      · exact h.leave ms _
  | cancel ms number =>
    simp only [Clientele.act, Clientele.cancel]
    split
    · exact h
    · exact h.leave ms _

theorem Numbered.run (h : c.Numbered) (acts : List ClientAct) : (c.run acts).Numbered := by
  induction acts generalizing c with
  | nil => exact h
  | cons act rest ih => exact ih (h.act act)

/-- A clientele from which a sender is cancelled, and the same one without that. -/
theorem beside_cancel (h : c.Numbered) {ms : Nat} {s : Sender} (hs : c.sender? number = some s)
    (ha : 0 < (c.cancel ms number).attended.handles) :
    Beside number (c.cancel ms number) (c.pause ms) := by
  have hn := number_of_sender? hs
  have hc : c.cancel ms number = c.leave ms s := by simp [Clientele.cancel, hs]
  have hkept : (c.pause ms).sender? number = some s := hs
  rw [hc] at ha ⊢
  refine ⟨?_, rfl, ?_, by simp [Clientele.leave, Clientele.pause, hn], rfl⟩
  · rw [hkept]
    cases ho : s.owns with
    | false =>
      have hleave : (c.leave ms s).attended = (c.pause ms).attended := by
        simp [Clientele.leave, Clientele.pause, ho]
      rw [hleave]
      simp [ho]
      rfl
    | true =>
      have hleave : (c.leave ms s).attended = c.attended.act ms .release := by
        simp [Clientele.leave, ho]
      rw [hleave] at ha ⊢
      have hcount : (c.attended.act ms .release).handles = c.attended.handles - 1 := rfl
      have hback : (c.attended.act ms .release).handles + 1 = c.attended.handles := by omega
      simp only [Option.any_some, ho, if_true, hback]
      rfl
  · rw [← hn]
    exact h s (List.mem_of_find?_eq_some hs)

end Beside

theorem run_append (c : Clientele) (early late : List ClientAct) :
    c.run (early ++ late) = (c.run early).run late :=
  List.foldl_append

end Clientele

/-- A sender that is cancelled disturbs nobody. As long as anyone can post, the course goes on as if
it waited on: the same bytes are written at the same moments, the same recoveries begin and end, all
that the scheduler keeps is the same but for the number of its handles, and every other send returns
the same at the same moment. -/
theorem cancelled_sender_disturbs_nobody (config : SchedulerConfig) (line : Line)
    (early late : List ClientAct) (ms number : Nat)
    (ha : ∀ part, part <+: late → 0 < ((Clientele.start config line).run
      (early ++ .cancel ms number :: part)).attended.handles) :
    let cut := (Clientele.start config line).run (early ++ .cancel ms number :: late)
    let full := (Clientele.start config line).run (early ++ .wait ms :: late)
    full.attended.log = cut.attended.log ∧
    full.attended.course.scheduler.snapshot = cut.attended.course.scheduler.snapshot ∧
    full.attended = cut.attended.withHandles full.attended.handles ∧
    full.received.filter (·.2.1 != number) = cut.received.filter (·.2.1 != number) := by
  intro cut full
  let c := (Clientele.start config line).run early
  have hnumbered : c.Numbered := by
    refine Clientele.Numbered.run ?_ early
    intro s hs
    cases hs
  have hcut : ∀ part, (Clientele.start config line).run (early ++ .cancel ms number :: part) =
      (c.cancel ms number).run part := fun part => Clientele.run_append ..
  have hfull : full = (c.pause ms).run late := Clientele.run_append ..
  cases hs : c.sender? number with
  | none =>
    have hsame : c.cancel ms number = c.pause ms := by simp [Clientele.cancel, hs]
    have hboth : full = cut := by
      rw [hfull, ← hsame]
      exact (hcut late).symm
    rw [hboth]
    exact ⟨rfl, rfl, rfl, rfl⟩
  | some s =>
    have hbeside : Clientele.Beside number (c.cancel ms number) (c.pause ms) := by
      refine Clientele.beside_cancel hnumbered hs ?_
      have hfirst := ha [] List.nil_prefix
      rwa [hcut] at hfirst
    have hrun : Clientele.Beside number cut full := by
      rw [hfull]
      show Clientele.Beside number ((Clientele.start config line).run _) _
      rw [hcut]
      refine hbeside.run fun part hp => ?_
      rw [← hcut]
      exact ha part hp
    refine ⟨?_, ?_, ?_, hrun.received⟩
    · rw [hrun.attended]
      rfl
    · rw [hrun.attended]
      rfl
    · have hhandles := congrArg Attended.handles hrun.attended
      rw [hhandles]
      exact hrun.attended

/-- A sender is cancelled while its request is on the wire. The reply to it is awaited all the same,
and the next sender gets its own. -/
theorem reply_reaches_next_sender :
    ∃ early late,
      (∀ part, part <+: late → 0 < ((Clientele.start {} (.ofCapacity 64)).run
        (early ++ .cancel 5 0 :: part)).attended.handles) ∧
      ((Clientele.start {} (.ofCapacity 64)).run
        (early ++ .cancel 5 0 :: late)).received.map (fun entry => (entry.1, entry.2.1)) =
          [(5, 1)] ∧
      ((Clientele.start {} (.ofCapacity 64)).run
        (early ++ .wait 5 :: late)).received.map (fun entry => (entry.1, entry.2.1)) =
          [(5, 0), (5, 1)] ∧
      ((Clientele.start {} (.ofCapacity 64)).run
        (early ++ .wait 5 :: late)).received.filter (·.2.1 != 0) =
          ((Clientele.start {} (.ofCapacity 64)).run
            (early ++ .cancel 5 0 :: late)).received.filter (·.2.1 != 0) := by
  let r : Request := { id := "", kind := .direct, payload := [] }
  let bytes := Frame.encode [0, 0, 2] ++ Frame.encode [1, 0, 2]
  let replies := fun l : Line => { l with incoming := { l.incoming with bytes := bytes } }
  let early : List ClientAct :=
    [.send 0 r true, .shift (.act 0 .move), .shift (.act 0 .move), .send 0 r false]
  let late : List ClientAct := .shift (.act 0 (.rewire replies)) ::
    List.replicate 5 (.shift (.act 0 .move)) ++ [.collect 0 0, .collect 0 1]
  have hall : ∀ part ∈ late.inits, 0 < ((Clientele.start {} (.ofCapacity 64)).run
      (early ++ .cancel 5 0 :: part)).attended.handles := by decide +kernel
  have ha : ∀ part, part <+: late → 0 < ((Clientele.start {} (.ofCapacity 64)).run
      (early ++ .cancel 5 0 :: part)).attended.handles :=
    fun part hp => hall part ((List.mem_inits part late).mpr hp)
  obtain ⟨-, -, -, hothers⟩ :=
    cancelled_sender_disturbs_nobody {} (.ofCapacity 64) early late 5 0 ha
  exact ⟨early, late, ha, by decide +kernel, by decide +kernel, hothers⟩

end BrickHost
