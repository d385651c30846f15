import Mathlib.Data.List.Induction
import BrickHost.Proofs.Scheduler.Move

/-! Courses of a scheduler. Between two moves of the dispatcher its surroundings may do anything:
post requests, dispose, drop handles, end a recovery, change the line in any way, let time pass. -/

namespace BrickHost

inductive Act where
  | move
  | submit (r : Request)
  | dispose
  | retain
  | release
  | endRecovery
  /-- The far end works, or the line itself changes. -/
  | rewire (change : Line → Line)

inductive Event where
  | accepted (post : Submission)
  | did (signal : Signal)

namespace Event

def accepted? : Event → Option Submission
  | accepted post => some post
  | _ => none

def taken? : Event → Option Submission
  | did (.taken post) => some post
  | _ => none

def outcome? : Event → Option (Submission × Outcome)
  | did (.resolved post outcome) => some (post, outcome)
  | _ => none

def bytes : Event → List UInt8
  | did (.sent bytes) => bytes
  | _ => []

end Event

def accepted (log : List Event) : List Submission :=
  log.filterMap Event.accepted?

def taken (log : List Event) : List Submission :=
  log.filterMap Event.taken?

def outcomes (log : List Event) : List (Submission × Outcome) :=
  log.filterMap Event.outcome?

def resolved (log : List Event) : List Submission :=
  (outcomes log).map (·.1)

/-- The bytes that the transport accepted. -/
def sent (log : List Event) : List UInt8 :=
  log.flatMap Event.bytes

section Append

variable (e : Event) (p q : List Event)

@[simp] theorem accepted_nil : accepted [] = [] := rfl

@[simp] theorem taken_nil : taken [] = [] := rfl

@[simp] theorem outcomes_nil : outcomes [] = [] := rfl

@[simp] theorem resolved_nil : resolved [] = [] := rfl

@[simp] theorem sent_nil : sent [] = [] := rfl

@[simp] theorem accepted_append : accepted (p ++ q) = accepted p ++ accepted q :=
  List.filterMap_append

@[simp] theorem taken_append : taken (p ++ q) = taken p ++ taken q :=
  List.filterMap_append

@[simp] theorem outcomes_append : outcomes (p ++ q) = outcomes p ++ outcomes q :=
  List.filterMap_append

@[simp] theorem resolved_append : resolved (p ++ q) = resolved p ++ resolved q := by
  simp [resolved]

@[simp] theorem sent_append : sent (p ++ q) = sent p ++ sent q :=
  List.flatMap_append

@[simp] theorem accepted_cons : accepted (e :: p) = e.accepted?.toList ++ accepted p := by
  cases h : e.accepted? <;> simp [accepted, h]

@[simp] theorem taken_cons : taken (e :: p) = e.taken?.toList ++ taken p := by
  cases h : e.taken? <;> simp [taken, h]

@[simp] theorem outcomes_cons : outcomes (e :: p) = e.outcome?.toList ++ outcomes p := by
  cases h : e.outcome? <;> simp [outcomes, h]

@[simp] theorem resolved_cons :
    resolved (e :: p) = (e.outcome?.map (·.1)).toList ++ resolved p := by
  cases h : e.outcome? <;> simp [resolved, h]

@[simp] theorem sent_cons : sent (e :: p) = e.bytes ++ sent p := rfl

end Append

attribute [simp] Event.accepted? Event.taken? Event.outcome? Event.bytes

section Signals

variable (posts : List Submission) (outcome : Outcome)

@[simp] theorem accepted_signals (signals : List Signal) :
    accepted (signals.map Event.did) = [] := by
  simp [accepted, List.filterMap_map, Function.comp_def, Event.accepted?]

@[simp] theorem taken_all_resolved :
    taken (posts.map (Event.did ∘ (Signal.resolved · outcome))) = [] := by
  simp [taken, List.filterMap_map, Function.comp_def]

@[simp] theorem resolved_all_resolved :
    resolved (posts.map (Event.did ∘ (Signal.resolved · outcome))) = posts := by
  simp [resolved, outcomes, List.filterMap_map, Function.comp_def]

@[simp] theorem sent_all_resolved :
    sent (posts.map (Event.did ∘ (Signal.resolved · outcome))) = [] := by
  simp [sent, List.flatMap_map]

end Signals

def Scheduler.react (s : Scheduler) (now : Nat) : Act → Scheduler × List Event
  | .move =>
    match s.step now with
    | some (s', signals) => (s', signals.map .did)
    | none => (s, [])
  | .submit r =>
    match s.submit now r with
    | some (s', ticket) => (s', [.accepted ⟨ticket, r, now⟩])
    | none => (s, [])
  | .dispose => (s.dispose, [])
  | .retain => (s.retain, [])
  | .release => (s.release, [])
  | .endRecovery => (s.endRecovery, [])
  | .rewire change => ({ s with line := change s.line }, [])

/-- A move of the dispatcher, an accepted request, or a change to nothing that the dispatcher keeps
for itself. -/
theorem Scheduler.react_cases {s t : Scheduler} {now : Nat} {act : Act} {events : List Event}
    (h : s.react now act = (t, events)) :
    (∃ signals, s.Move now t signals ∧ events = signals.map .did) ∨
    (∃ post : Submission, post.ticket = s.nextTicket ∧ s.state ≠ .disposed ∧
      t = { s with
        queued := s.queued + 1
        mailbox := s.mailbox ++ [post]
        nextTicket := s.nextTicket + 1 } ∧ events = [.accepted post]) ∨
    (∃ line state cancelled handles recovered,
      (state = s.state ∧ cancelled = s.cancelled ∨ state = .disposed ∧ cancelled = true) ∧
      t = { s with
        line := line
        state := state
        cancelled := cancelled
        handles := handles
        recovered := recovered } ∧ events = []) := by
  cases act with
  | move =>
    cases hm : s.step now with
    | none =>
      simp only [react, hm] at h
      cases h
      exact .inr (.inr ⟨_, _, _, _, _, .inl ⟨rfl, rfl⟩, rfl, rfl⟩)
    | some result =>
      simp only [react, hm] at h
      cases h
      exact .inl ⟨_, move_of_step hm, rfl⟩
  | submit r =>
    by_cases hd : s.state.isDisposed = true
    · simp only [react, submit, hd, if_true] at h
      cases h
      exact .inr (.inr ⟨_, _, _, _, _, .inl ⟨rfl, rfl⟩, rfl, rfl⟩)
    · simp only [react, submit, if_neg hd] at h
      cases h
      exact .inr (.inl ⟨_, rfl, mt SchedulerState.isDisposed_iff.mpr hd, rfl, rfl⟩)
  | dispose =>
    cases h
    exact .inr (.inr ⟨_, _, _, _, _, .inr ⟨rfl, rfl⟩, rfl, rfl⟩)
  | retain | release | endRecovery | rewire _ =>
    cases h
    exact .inr (.inr ⟨_, _, _, _, _, .inl ⟨rfl, rfl⟩, rfl, rfl⟩)

structure Course where
  scheduler : Scheduler
  now : Nat := 0
  log : List Event := []

namespace Course

def start (config : SchedulerConfig) (line : Line) : Course where
  scheduler := { config := config, line := line }

def after (c : Course) (ms : Nat) (act : Act) : Course :=
  let (s, events) := c.scheduler.react (c.now + ms) act
  ⟨s, c.now + ms, c.log ++ events⟩

theorem after_move_of_step {c : Course} {ms : Nat} {s : Scheduler} {signals : List Signal}
    (h : c.scheduler.step (c.now + ms) = some (s, signals)) :
    c.after ms .move = ⟨s, c.now + ms, c.log ++ signals.map .did⟩ := by
  simp [after, Scheduler.react, h]

theorem after_move_of_still {c : Course} {ms : Nat}
    (h : c.scheduler.step (c.now + ms) = none) :
    c.after ms .move = { c with now := c.now + ms } := by
  simp [after, Scheduler.react, h]

def run (c : Course) (acts : List (Nat × Act)) : Course :=
  acts.foldl (fun c timed => c.after timed.1 timed.2) c

theorem run_induction {P : Course → Prop} {c : Course} (h : P c)
    (hs : ∀ c ms act, P c → P (c.after ms act)) (acts : List (Nat × Act)) : P (c.run acts) := by
  induction acts generalizing c with
  | nil => exact h
  | cons timed rest ih => exact ih (hs c timed.1 timed.2 h)

theorem run_append (c : Course) (p q : List (Nat × Act)) : c.run (p ++ q) = (c.run p).run q :=
  List.foldl_append

theorem run_snoc (c : Course) (acts : List (Nat × Act)) (timed : Nat × Act) :
    c.run (acts ++ [timed]) = (c.run acts).after timed.1 timed.2 := by
  simp [run]

/-- What is known of all courses so far may be used for the next act. -/
theorem reach_induction {P : Course → Prop} {c : Course} (h : P c)
    (hs : ∀ acts ms act, P (c.run acts) → P ((c.run acts).after ms act)) (acts : List (Nat × Act)) :
    P (c.run acts) := by
  induction acts using List.reverseRecOn with
  | nil => exact h
  | append_singleton acts timed ih =>
    rw [run_snoc]
    exact hs acts timed.1 timed.2 ih

end Course

end BrickHost
