import BrickHost.Proofs.Scheduler.Intake
import BrickHost.Proofs.Scheduler.Fates
import BrickHost.Scheduler.Recovery

/-! Recoveries. A strategy that may do anything is asked once about each request whose outcome is
unknown and that must not be repeated, and the dispatcher does nothing else until that is over. -/

namespace BrickHost

inductive Happening where
  | did (signal : Signal)
  | invoked (context : OrphanContext) (conduct : Conduct)
  | ended
  | abandoned

/-- A course together with the recovery that its scheduler waits for. -/
structure Attended where
  course : Course
  recovery : Option Recovery := none
  /-- What the dispatcher and the recoveries did, and when. -/
  log : List (Nat × Happening) := []

inductive Shift where
  /-- Only a recovery ends itself; else anything may happen. -/
  | act (ms : Nat) (act : Act)
  /-- The recovery is looked at. If it begins, it will do as told. -/
  | attend (conduct : Conduct)

namespace Attended

def start (config : SchedulerConfig) (line : Line) : Attended where
  course := Course.start config line

def hear (a : Attended) : Signal → Attended
  | .recover context => { a with recovery := some { context := context } }
  | signal => { a with log := a.log ++ [(a.course.now, .did signal)] }

def act (a : Attended) (ms : Nat) : Act → Attended
  | .endRecovery => a
  | act =>
    ((a.course.moment ms act).events.filterMap Event.signal?).foldl hear
      { a with course := a.course.after ms act }

def finish (a : Attended) (how : Happening) : Attended where
  course := a.course.after 0 .endRecovery
  log := a.log ++ [(a.course.now, how)]

def attend (a : Attended) (conduct : Conduct) : Attended :=
  match a.recovery with
  | none => a
  | some r =>
    match r.step conduct a.course.scheduler.config.recoveryTimeout a.course.now with
    | none => a
    | some (.began begun) =>
      { a with
        recovery := some begun
        log := a.log ++ [(a.course.now, .invoked r.context conduct)] }
    | some .ended => a.finish .ended
    | some .abandoned => a.finish .abandoned

def shift (a : Attended) : Shift → Attended
  | .act ms act => a.act ms act
  | .attend conduct => a.attend conduct

def run (a : Attended) (shifts : List Shift) : Attended :=
  shifts.foldl shift a

end Attended

/-- How a recovery that was invoked at one moment may be over at another: it is done, or not yet and
the limit is reached. -/
def Conduct.Allows (c : Conduct) (limit began now : Nat) : Happening → Prop
  | .ended => ∃ after, c.duration? = some after ∧ began + after ≤ now
  | .abandoned => began + limit ≤ now ∧ ∀ after, c.duration? = some after → now < began + after
  | _ => False

/-- Nothing that a recovery has to come before. -/
def Signal.IsPlain : Signal → Prop
  | .recover _ => False
  | .resolved post (.error (.orphaned _ _)) => post.request.idempotent = true
  | _ => True

/-- Each orphan of a log that must not be repeated was followed up: the strategy was asked about it,
that was over, and then it was resolved. -/
inductive FollowedUp (limit : Nat) : List (Nat × Happening) → Prop
  | nil : FollowedUp limit []
  | plain {log : List (Nat × Happening)} {signal : Signal} (now : Nat) (h : FollowedUp limit log)
      (hs : signal.IsPlain) : FollowedUp limit (log ++ [(now, .did signal)])
  | orphan {log : List (Nat × Happening)} {post : Submission} {conduct : Conduct}
      {ending : Happening} {began stopped : Nat} (reason : OrphanReason) (told : Nat)
      (h : FollowedUp limit log) (hq : post.request.idempotent = false)
      (he : conduct.Allows limit began stopped ending) :
      FollowedUp limit (log ++
        [(began, .invoked ⟨post.request.id, post.request.lane, reason⟩ conduct),
          (stopped, ending),
          (told, .did (.resolved post (.error (.orphaned post.request.id reason))))])

theorem FollowedUp.plains {limit : Nat} {log : List (Nat × Happening)} {signals : List Signal}
    (now : Nat) (h : FollowedUp limit log) (hs : ∀ signal ∈ signals, signal.IsPlain) :
    FollowedUp limit (log ++ signals.map (fun signal => (now, .did signal))) := by
  induction signals generalizing log with
  | nil => simpa using h
  | cons first rest ih =>
    have hf := ih (h.plain now (hs first List.mem_cons_self))
      (fun signal hm => hs signal (List.mem_cons_of_mem first hm))
    simpa using hf

namespace Scheduler

section Plain

variable {s t : Scheduler} {now : Nat} {signals : List Signal} {job : Job} {reason : OrphanReason}
  {closure : Option String}

theorem Move.plain (hm : s.Move now t signals) (h : s.Sorted) (hs : s.isRecovering = false)
    (hn : ∀ context, .recover context ∉ signals) : ∀ signal ∈ signals, signal.IsPlain := by
  intro signal hmem
  cases signal with
  | recover context => exact absurd hmem (hn context)
  | resolved post outcome =>
    have ho : (post, outcome) ∈ outcomes (signals.map .did) :=
      List.mem_filterMap.mpr ⟨_, List.mem_map_of_mem hmem, rfl⟩
    cases hm.fate h ho with
    | @unserved _ why rest hl hw => cases why <;> trivial
    | orphaned hl hq => exact hq
    | recovered hp hr => simp [isRecovering, hp] at hs
    | _ => trivial
  | _ => trivial

theorem Move.of_recovering (hm : s.Move now t signals)
    (hp : s.phase = .recovering job reason closure) :
    s.recovered = true ∧ t = (s.orphaned now job reason closure).1 ∧
      signals = (s.orphaned now job reason closure).2 := by
  cases hm with
  | recover hp' hr =>
    rw [hp] at hp'
    cases hp'
    exact ⟨hr, rfl, rfl⟩
  | _ => simp_all

/-- The orphan is resolved first, and nothing that is told to others is about an orphan. -/
theorem orphaned_signals (s : Scheduler) (now : Nat) (job : Job) (reason : OrphanReason)
    (closure : Option String) : ∃ others, (s.orphaned now job reason closure).2 =
      .resolved job.submission (.error (.orphaned job.submission.request.id reason)) :: others ∧
      ∀ signal ∈ others, signal.IsPlain := by
  cases closure with
  | none => exact ⟨[], rfl, by simp⟩
  | some why =>
    refine ⟨_, rfl, fun signal hm => ?_⟩
    obtain ⟨post, -, rfl⟩ := List.mem_map.mp hm
    trivial

end Plain

end Scheduler

/-- A recovery that has begun is done, or is given up, or goes on. -/
theorem Recovery.step_begun (asked conduct : Conduct) (context : OrphanContext) (began : Nat)
    (limit : Duration) (now : Nat) :
    let r : Recovery :=
      ⟨context, some (asked.duration?.map (began + ·), began + limit.ceilMillis)⟩
    r.step conduct limit now = some .ended ∧
        asked.Allows limit.ceilMillis began now .ended ∨
      r.step conduct limit now = some .abandoned ∧
        asked.Allows limit.ceilMillis began now .abandoned ∨
      r.step conduct limit now = none ∧ now < began + limit.ceilMillis := by
  intro r
  by_cases hd : ∃ after, asked.duration? = some after ∧ began + after ≤ now
  · left
    obtain ⟨after, ha, hle⟩ := hd
    exact ⟨by simp [r, step, ha, hle], after, ha, hle⟩
  · right
    have hn : ∀ after, asked.duration? = some after → now < began + after := by
      intro after ha
      by_contra hle
      exact hd ⟨after, ha, by omega⟩
    have hf : (asked.duration?.map (began + ·)).any (· ≤ now) = false := by
      cases ha : asked.duration? with
      | none => rfl
      | some after => simpa using hn after ha
    by_cases hl : began + limit.ceilMillis ≤ now
    · exact .inl ⟨by simp only [r, step, hf, hl]; rfl, hl, hn⟩
    · exact .inr ⟨by simp only [r, step, hf, hl]; rfl, by omega⟩

namespace Attended

/-- How far the recovery has come that the scheduler waits for. -/
inductive Stage (limit : Nat) (a : Attended) : List (Nat × Happening) → Prop
  | calm (hp : a.course.scheduler.isRecovering = false) (hr : a.recovery = none) : Stage limit a []
  | due {job : Job} {reason : OrphanReason} {closure : Option String}
      (hp : a.course.scheduler.phase = .recovering job reason closure)
      (hq : job.submission.request.idempotent = false) (hn : a.course.scheduler.recovered = false)
      (hr : a.recovery = some ⟨job.context reason, none⟩) : Stage limit a []
  | invoked {job : Job} {reason : OrphanReason} {closure : Option String} {conduct : Conduct}
      {began : Nat} (hp : a.course.scheduler.phase = .recovering job reason closure)
      (hq : job.submission.request.idempotent = false) (hn : a.course.scheduler.recovered = false)
      (hb : began ≤ a.course.now)
      (hr : a.recovery = some ⟨job.context reason,
        some (conduct.duration?.map (began + ·), began + limit)⟩) :
      Stage limit a [(began, .invoked (job.context reason) conduct)]
  | done {job : Job} {reason : OrphanReason} {closure : Option String} {conduct : Conduct}
      {ending : Happening} {began stopped : Nat}
      (hp : a.course.scheduler.phase = .recovering job reason closure)
      (hq : job.submission.request.idempotent = false) (hn : a.course.scheduler.recovered = true)
      (he : conduct.Allows limit began stopped ending) (hr : a.recovery = none) :
      Stage limit a [(began, .invoked (job.context reason) conduct), (stopped, ending)]

/-- A log is followed up, but for what was noted at its end of the recovery that the scheduler waits
for. -/
structure Orderly (config : SchedulerConfig) (line : Line) (a : Attended) : Prop where
  course : ∃ acts, a.course = (Course.start config line).run acts
  log : ∃ whole rest, a.log = whole ++ rest ∧
    FollowedUp config.recoveryTimeout.ceilMillis whole ∧
    a.Stage config.recoveryTimeout.ceilMillis rest

section Orderly

variable {config : SchedulerConfig} {line : Line} {a : Attended} {limit ms : Nat}
  {rest : List (Nat × Happening)}

theorem act_eq (a : Attended) (ms : Nat) {act : Act} (h : act ≠ .endRecovery) :
    a.act ms act = ((a.course.moment ms act).events.filterMap Event.signal?).foldl hear
      { a with course := a.course.after ms act } := by
  cases act with
  | endRecovery => exact absurd rfl h
  | _ => rfl

theorem foldl_hear_course (a : Attended) (signals : List Signal) :
    (signals.foldl hear a).course = a.course := by
  induction signals generalizing a with
  | nil => rfl
  | cons first rest ih =>
    rw [List.foldl_cons, ih]
    cases first <;> rfl

theorem act_course (a : Attended) (ms : Nat) {act : Act} (h : act ≠ .endRecovery) :
    (a.act ms act).course = a.course.after ms act := by
  rw [act_eq a ms h, foldl_hear_course]

theorem foldl_hear (a : Attended) {signals : List Signal}
    (h : ∀ context, .recover context ∉ signals) :
    signals.foldl hear a =
      { a with log := a.log ++ signals.map (fun signal => (a.course.now, .did signal)) } := by
  induction signals generalizing a with
  | nil => simp
  | cons first rest ih =>
    have hf : a.hear first = { a with log := a.log ++ [(a.course.now, .did first)] } := by
      cases first with
      | recover context => exact absurd List.mem_cons_self (h context)
      | _ => rfl
    have hr : ∀ context, .recover context ∉ rest :=
      fun context hm => h context (List.mem_cons_of_mem first hm)
    rw [List.foldl_cons, hf, ih _ hr]
    simp

theorem Stage.aside {act : Act} (h : a.Stage limit rest)
    (hp : (a.course.after ms act).scheduler.phase = a.course.scheduler.phase)
    (hn : (a.course.after ms act).scheduler.recovered = a.course.scheduler.recovered) :
    Stage limit { a with course := a.course.after ms act } rest := by
  cases h with
  | calm hc hr => exact .calm (by simpa [Scheduler.isRecovering, hp] using hc) hr
  | due hp' hq hn' hr => exact .due (hp.trans hp') hq (hn.trans hn') hr
  | invoked hp' hq hn' hb hr =>
    exact .invoked (hp.trans hp') hq (hn.trans hn') (hb.trans (Nat.le_add_right _ _)) hr
  | done hp' hq hn' he hr => exact .done (hp.trans hp') hq (hn.trans hn') he hr

theorem Stage.move {signals : List Signal} {whole : List (Nat × Happening)} (h : a.Stage limit rest)
    (hl : a.log = whole ++ rest) (hw : FollowedUp limit whole) (hs : a.course.scheduler.Sorted)
    (hm : a.course.scheduler.Move (a.course.now + ms) (a.course.after ms .move).scheduler signals) :
    ∃ whole' rest',
      (signals.foldl hear { a with course := a.course.after ms .move }).log = whole' ++ rest' ∧
      FollowedUp limit whole' ∧
      Stage limit (signals.foldl hear { a with course := a.course.after ms .move }) rest' := by
  cases h with
  | calm hc hr =>
    rcases hm.recover_cases with ⟨job, reason, closure, hh⟩ | ⟨hn, hq⟩
    · obtain rfl := hh.signals
      exact ⟨whole, [], hl, hw, .due hh.phase hh.harmful hh.fresh rfl⟩
    · rw [foldl_hear _ hq]
      refine ⟨_, [], (List.append_nil _).symm, ?_, .calm hn hr⟩
      rw [hl, List.append_nil]
      exact hw.plains _ (hm.plain hs hc hq)
  -- While the recovery goes on, the dispatcher makes no move, not even if it is disposed.
  | due hp hq hn hr | invoked hp hq hn hb hr => simp [(hm.of_recovering hp).1] at hn
  | @done job reason closure conduct ending began stopped hp hq hn he hr =>
    obtain ⟨-, ht, rfl⟩ := hm.of_recovering hp
    obtain ⟨hc, hquiet⟩ :=
      a.course.scheduler.orphaned_quiet (a.course.now + ms) job reason closure
    rw [foldl_hear _ hquiet]
    refine ⟨_, [], (List.append_nil _).symm, ?_, .calm (ht ▸ hc) hr⟩
    obtain ⟨others, hs', hplain⟩ :=
      a.course.scheduler.orphaned_signals (a.course.now + ms) job reason closure
    have hf := (hw.orphan reason (a.course.now + ms) hq he).plains (a.course.now + ms) hplain
    rw [hs', hl]
    simpa [Job.context, Course.after_eq] using hf

theorem attend_none (h : a.recovery = none) (conduct : Conduct) : a.attend conduct = a := by
  simp [attend, h]

theorem Stage.attend (h : a.Stage limit rest)
    (hl : a.course.scheduler.config.recoveryTimeout.ceilMillis = limit) (conduct : Conduct) :
    ∃ more, (a.attend conduct).log = a.log ++ more ∧
      (a.attend conduct).Stage limit (rest ++ more) := by
  subst hl
  cases h with
  | calm hc hr =>
    rw [attend_none hr]
    exact ⟨[], (List.append_nil _).symm, .calm hc hr⟩
  | due hp hq hn hr =>
    simp only [Attended.attend, hr, Recovery.step]
    exact ⟨_, rfl, .invoked hp hq hn le_rfl rfl⟩
  | @invoked job reason closure asked began hp hq hn hb hr =>
    rcases Recovery.step_begun asked conduct (job.context reason) began
      a.course.scheduler.config.recoveryTimeout a.course.now with ⟨he, hs⟩ | ⟨he, hs⟩ | ⟨he, -⟩
    · simp only [Attended.attend, hr, he]
      exact ⟨_, rfl, .done hp hq rfl hs rfl⟩
    · simp only [Attended.attend, hr, he]
      exact ⟨_, rfl, .done hp hq rfl hs rfl⟩
    · simp only [Attended.attend, hr, he]
      exact ⟨[], (List.append_nil _).symm, .invoked hp hq hn hb hr⟩
  | done hp hq hn he hr =>
    rw [attend_none hr]
    exact ⟨[], (List.append_nil _).symm, .done hp hq hn he hr⟩

theorem Orderly.act (h : a.Orderly config line) (ms : Nat) (act : Act) :
    (a.act ms act).Orderly config line := by
  by_cases he : act = .endRecovery
  · subst he
    exact h
  · obtain ⟨acts, hc⟩ := h.course
    obtain ⟨whole, rest, hl, hw, hs⟩ := h.log
    rw [act_eq a ms he]
    refine ⟨⟨acts ++ [(ms, act)], by rw [foldl_hear_course, Course.run_snoc, ← hc]⟩, ?_⟩
    rcases (a.course.moment ms act).cases with ⟨signals, ha, hstep, hev⟩ | hq
    · obtain rfl : act = .move := ha
      have hsig : (a.course.moment ms .move).events.filterMap Event.signal? = signals := by
        simp [hev, List.filterMap_map, Function.comp_def, Event.signal?]
      obtain ⟨left, hacc⟩ := Course.run_accounts config line acts
      rw [hsig]
      exact hs.move hl hw (hc ▸ hacc.sorted) (Scheduler.move_of_step hstep)
    · rw [hq.signals]
      exact ⟨whole, rest, hl, hw, hs.aside hq.phase (hq.recovered he)⟩

theorem attend_course (a : Attended) (conduct : Conduct) :
    (a.attend conduct).course = a.course ∨
      (a.attend conduct).course = a.course.after 0 .endRecovery := by
  unfold Attended.attend
  split
  · exact .inl rfl
  · split
    · exact .inl rfl
    · exact .inl rfl
    · exact .inr rfl
    · exact .inr rfl

theorem Orderly.attend (h : a.Orderly config line) (conduct : Conduct) :
    (a.attend conduct).Orderly config line := by
  obtain ⟨acts, hc⟩ := h.course
  obtain ⟨whole, rest, hl, hw, hs⟩ := h.log
  have hlimit : a.course.scheduler.config = config := by rw [hc, Course.run_config]
  refine ⟨?_, ?_⟩
  · rcases a.attend_course conduct with he | he
    · exact ⟨acts, he.trans hc⟩
    · exact ⟨acts ++ [(0, .endRecovery)], by rw [he, Course.run_snoc, ← hc]⟩
  · obtain ⟨more, hm, hs'⟩ := hs.attend (by rw [hlimit]) conduct
    exact ⟨whole, rest ++ more, by rw [hm, hl, List.append_assoc], hw, hs'⟩

theorem run_orderly (config : SchedulerConfig) (line : Line) (shifts : List Shift) :
    ((start config line).run shifts).Orderly config line := by
  induction shifts using List.reverseRecOn with
  | nil => exact ⟨⟨[], rfl⟩, [], [], rfl, .nil, .calm rfl rfl⟩
  | append_singleton shifts shift ih =>
    rw [run, List.foldl_append]
    cases shift with
    | act ms act => exact ih.act ms act
    | attend conduct => exact ih.attend conduct

/-- The recovery is over, or has begun and is given up by then. -/
def EndsBy (a : Attended) (moment : Nat) : Prop :=
  a.course.scheduler.recovered = true ∨
    ∃ r finish last, a.recovery = some r ∧ r.bounds = some (finish, last) ∧ last ≤ moment

theorem Stage.endsBy (h : a.Stage limit rest)
    (hl : a.course.scheduler.config.recoveryTimeout.ceilMillis = limit)
    (hp : a.course.scheduler.isRecovering = true) (conduct : Conduct) :
    (a.attend conduct).EndsBy (a.course.now + limit) := by
  subst hl
  cases h with
  | calm hc hr => simp [hc] at hp
  | due hp hq hn hr =>
    right
    simp only [Attended.attend, hr, Recovery.step]
    exact ⟨_, _, _, rfl, rfl, le_rfl⟩
  | @invoked job reason closure asked began hp hq hn hb hr =>
    rcases Recovery.step_begun asked conduct (job.context reason) began
      a.course.scheduler.config.recoveryTimeout a.course.now with ⟨he, -⟩ | ⟨he, -⟩ | ⟨he, -⟩
    · exact .inl (by simp only [Attended.attend, hr, he]; rfl)
    · exact .inl (by simp only [Attended.attend, hr, he]; rfl)
    · right
      simp only [Attended.attend, hr, he]
      exact ⟨_, _, _, rfl, rfl, by omega⟩
  | done hp hq hn he hr =>
    rw [attend_none hr]
    exact .inl hn

theorem EndsBy.recovered {moment : Nat} (h : a.EndsBy moment) (hm : moment ≤ a.course.now)
    (conduct : Conduct) : (a.attend conduct).course.scheduler.recovered = true := by
  rcases h with hr | ⟨r, finish, last, hr, hb, hl⟩
  · rcases a.attend_course conduct with he | he
    · rw [he, hr]
    · rw [he]
      rfl
  · have hle : last ≤ a.course.now := hl.trans hm
    by_cases hf : finish.any (· ≤ a.course.now) = true
    · simp only [Attended.attend, hr, Recovery.step, hb, hf]
      rfl
    · simp only [Attended.attend, hr, Recovery.step, hb, hf, hle]
      rfl

theorem attend_phase (a : Attended) (conduct : Conduct) :
    (a.attend conduct).course.scheduler.phase = a.course.scheduler.phase := by
  rcases a.attend_course conduct with he | he
  · rw [he]
  · rw [he]
    rfl

theorem act_recovered {job : Job} {reason : OrphanReason} {closure : Option String}
    (hp : a.course.scheduler.phase = .recovering job reason closure)
    (hr : a.course.scheduler.recovered = true) :
    ∃ others, (a.act 0 .move).log = a.log ++ (a.course.now, .did (.resolved job.submission
      (.error (.orphaned job.submission.request.id reason)))) :: others := by
  have hs : a.course.scheduler.step a.course.now =
      some (a.course.scheduler.orphaned a.course.now job reason closure) := by
    simp [Scheduler.step, hp, hr, Scheduler.endOrphan_eq]
  obtain ⟨-, hquiet⟩ := a.course.scheduler.orphaned_quiet a.course.now job reason closure
  obtain ⟨others, ho, -⟩ := a.course.scheduler.orphaned_signals a.course.now job reason closure
  have he : (a.course.moment 0 .move).events.filterMap Event.signal? =
      (a.course.scheduler.orphaned a.course.now job reason closure).2 := by
    simp [Course.moment, Moment.events, Scheduler.react, hs, List.filterMap_map,
      Function.comp_def, Event.signal?]
  rw [act_eq a 0 (by simp), he, foldl_hear _ hquiet, ho]
  exact ⟨_, rfl⟩

/-- A recovery that is waited for is over once the limit is reached. -/
theorem Orderly.recovers (h : a.Orderly config line) {job : Job} {reason : OrphanReason}
    {closure : Option String} (hp : a.course.scheduler.phase = .recovering job reason closure)
    (first second : Conduct) (hms : config.recoveryTimeout.ceilMillis ≤ ms) :
    let b := a.run [.attend first, .act ms (.rewire id), .attend second]
    b.course.scheduler.phase = .recovering job reason closure ∧
      b.course.scheduler.recovered = true := by
  intro b
  obtain ⟨acts, hc⟩ := h.course
  obtain ⟨whole, rest, -, -, hs⟩ := h.log
  have hlimit : a.course.scheduler.config = config := by rw [hc, Course.run_config]
  have hends := hs.endsBy (by rw [hlimit]) (by simp [Scheduler.isRecovering, hp]) first
  have hnow : (a.attend first).course.now = a.course.now := by
    rcases a.attend_course first with he | he
    · rw [he]
    · rw [he]
      rfl
  let later := (a.attend first).act ms (.rewire id)
  have hlater : later.EndsBy (a.course.now + config.recoveryTimeout.ceilMillis) := hends
  have hphase : later.course.scheduler.phase = .recovering job reason closure :=
    (a.attend_phase first).trans hp
  have hlate : a.course.now + config.recoveryTimeout.ceilMillis ≤ later.course.now := by
    have hl : later.course.now = (a.attend first).course.now + ms := rfl
    omega
  exact ⟨(later.attend_phase second).trans hphase, hlater.recovered hlate second⟩

theorem Orderly.resolves (h : a.Orderly config line) {job : Job} {reason : OrphanReason}
    {closure : Option String} (hp : a.course.scheduler.phase = .recovering job reason closure)
    (first second : Conduct) (hms : config.recoveryTimeout.ceilMillis ≤ ms) :
    let b := a.run [.attend first, .act ms (.rewire id), .attend second]
    ∃ others, (b.act 0 .move).log = b.log ++ (b.course.now, .did (.resolved job.submission
      (.error (.orphaned job.submission.request.id reason)))) :: others := by
  intro b
  obtain ⟨hphase, hover⟩ := h.recovers hp first second hms
  exact act_recovered hphase hover

end Orderly

end Attended

/-- Whatever a strategy does when it is asked, it is asked once about each request that must not be
repeated and whose outcome is unknown, with its id, its lane and the reason, and about no other; it
is over, or given up at the limit, before this request is resolved as orphaned and before anything
else is done; and a recovery that is waited for is over once the limit is reached, and the request
then resolved. -/
theorem orphans_followed_up_once (config : SchedulerConfig) (line : Line) (shifts : List Shift) :
    let a := (Attended.start config line).run shifts
    let limit := config.recoveryTimeout.ceilMillis
    (∃ whole rest, a.log = whole ++ rest ∧ FollowedUp limit whole ∧ a.Stage limit rest) ∧
      ∀ job reason closure, a.course.scheduler.phase = .recovering job reason closure →
        ∀ first second ms, limit ≤ ms →
          let b := a.run [.attend first, .act ms (.rewire id), .attend second]
          ∃ others, (b.act 0 .move).log = b.log ++ (b.course.now, .did (.resolved job.submission
            (.error (.orphaned job.submission.request.id reason)))) :: others := by
  intro a limit
  have h := Attended.run_orderly config line shifts
  exact ⟨h.log, fun job reason closure hp first second ms hms => h.resolves hp first second hms⟩

/-- A strategy that never finishes is given up, and the request resolved. -/
theorem hanging_recovery_given_up :
    ∃ shifts, let a := (Attended.start {} (.ofCapacity 64)).run shifts
      let b := a.run [.attend .hangs, .act 2000 (.rewire id), .attend .hangs]
      ∃ post others, post.ticket = 0 ∧ (b.act 0 .move).log = b.log ++ (b.course.now,
        .did (.resolved post (.error (.orphaned post.request.id .timeout)))) :: others := by
  let r : Request := { id := "", timeout := some ⟨0⟩, kind := .direct, payload := [] }
  let shifts := [Act.submit r, .move, .move, .move].map (Shift.act 0)
  have hp : ((Attended.start {} (.ofCapacity 64)).run shifts).course.scheduler.phase =
      .recovering ⟨⟨0, r, 0⟩, 0, 0, 0⟩ .timeout none := by decide
  obtain ⟨others, ho⟩ := (orphans_followed_up_once {} (.ofCapacity 64) shifts).2 _ _ _ hp .hangs
    .hangs 2000 (by decide)
  exact ⟨shifts, ⟨0, r, 0⟩, others, rfl, ho⟩

end BrickHost
