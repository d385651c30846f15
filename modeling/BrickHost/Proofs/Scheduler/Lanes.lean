import BrickHost.Scheduler.Step

/-! The queues of a scheduler, read lane by lane. A lane and the part of the mailbox that is bound
for it are one queue; no move changes the order of such a queue. -/

namespace BrickHost

def inLane (l : Lane) (posts : List Submission) : List Submission :=
  posts.filter (·.request.lane == l)

@[simp] theorem inLane_nil (l : Lane) : inLane l [] = [] := rfl

@[simp] theorem inLane_append (l : Lane) (p q : List Submission) :
    inLane l (p ++ q) = inLane l p ++ inLane l q :=
  List.filter_append ..

theorem inLane_cons (l : Lane) (post : Submission) (p : List Submission) :
    inLane l (post :: p) = if post.request.lane = l then post :: inLane l p else inLane l p := by
  simp [inLane, List.filter_cons]

theorem count_inLane (post : Submission) (p : List Submission) :
    (inLane post.request.lane p).count post = p.count post :=
  List.count_filter (by simp)

theorem lane_of_mem_inLane {l : Lane} {post : Submission} {p : List Submission}
    (h : post ∈ inLane l p) : post.request.lane = l := by
  simpa [inLane] using (List.mem_filter.mp h).2

namespace Scheduler

def lane (s : Scheduler) : Lane → List Submission
  | .high => s.high
  | .normal => s.normal

/-- All that waits to be taken from a lane, in the order in which it was posted. -/
def waitingIn (s : Scheduler) (l : Lane) : List Submission :=
  s.lane l ++ inLane l s.mailbox

/-- All that waits to be taken, the high lane first. -/
def pending (s : Scheduler) : List Submission :=
  s.waitingIn .high ++ s.waitingIn .normal

def Sorted (s : Scheduler) : Prop :=
  ∀ l, ∀ post ∈ s.lane l, post.request.lane = l

theorem enqueue_eq (s : Scheduler) (post : Submission) :
    s.enqueue post =
      { s with
        high := s.high ++ inLane .high [post]
        normal := s.normal ++ inLane .normal [post] } := by
  cases h : post.request.lane <;> simp [enqueue, inLane, h]

theorem foldl_enqueue (posts : List Submission) (s : Scheduler) :
    posts.foldl enqueue s =
      { s with
        high := s.high ++ inLane .high posts
        normal := s.normal ++ inLane .normal posts } := by
  induction posts generalizing s with
  | nil => simp
  | cons post rest ih =>
    have hc : ∀ l, inLane l (post :: rest) = inLane l [post] ++ inLane l rest :=
      fun l => inLane_append l [post] rest
    simp only [List.foldl_cons, ih, enqueue_eq, hc, List.append_assoc]

theorem drain_eq (s : Scheduler) :
    s.drain = { s with
      mailbox := []
      high := s.waitingIn .high
      normal := s.waitingIn .normal } := by
  simp [drain, foldl_enqueue, waitingIn, lane]

@[simp] theorem drain_waitingIn (s : Scheduler) (l : Lane) : s.drain.waitingIn l = s.waitingIn l := by
  cases l <;> simp [drain_eq, waitingIn, lane]

theorem Sorted.drain {s : Scheduler} (h : s.Sorted) : s.drain.Sorted := by
  intro l post hp
  have hw : post ∈ s.waitingIn l := by cases l <;> simpa [drain_eq, lane] using hp
  rcases List.mem_append.mp hw with hl | hm
  · exact h l post hl
  · exact lane_of_mem_inLane hm

/-- What is taken stood first in its lane, and no lower lane is served while a higher one waits. -/
theorem takeNext_cases {s t : Scheduler} {post : Submission} (h : s.takeNext = some (post, t)) :
    (∃ rest, s.high = post :: rest ∧ t = { s with high := rest, queued := s.queued - 1 }) ∨
    (∃ rest, s.high = [] ∧ s.normal = post :: rest ∧
      t = { s with normal := rest, queued := s.queued - 1 }) := by
  unfold takeNext at h
  split at h
  · next p rest hh =>
    cases h
    exact .inl ⟨_, hh, rfl⟩
  · next p rest hh hn =>
    cases h
    exact .inr ⟨_, hh, hn, rfl⟩
  · cases h

theorem takeNext_eq_none {s : Scheduler} (h : s.takeNext = none) : s.high = [] ∧ s.normal = [] := by
  unfold takeNext at h
  split at h
  · cases h
  · cases h
  · next hh hn => exact ⟨hh, hn⟩

theorem takeNext_pending {s t : Scheduler} {post : Submission}
    (h : s.drain.takeNext = some (post, t)) :
    s.pending = post :: t.pending ∧ t.queued = s.queued - 1 ∧ t.cancelled = s.cancelled := by
  have hd : s.pending = s.drain.high ++ s.drain.normal := by simp [pending, drain_eq]
  have hk : s.drain.queued = s.queued ∧ s.drain.cancelled = s.cancelled ∧ s.drain.mailbox = [] := by
    simp [drain_eq]
  rcases takeNext_cases h with ⟨rest, hh, rfl⟩ | ⟨rest, hh, hn, rfl⟩
  · refine ⟨?_, by rw [hk.1], hk.2.1⟩
    rw [hd, hh]
    simp [hk.2.2, pending, waitingIn, lane]
  · refine ⟨?_, by rw [hk.1], hk.2.1⟩
    rw [hd, hh, hn]
    simp [hk.2.2, pending, waitingIn, lane]

theorem fetch_cases {s t : Scheduler} (h : s.fetch = some t) :
    (∃ post rest, s.mailbox = post :: rest ∧ t = ({ s with mailbox := rest }).enqueue post) ∨
    (s.mailbox = [] ∧ s.handles = 0 ∧ s.receiving = true ∧ t = { s with receiving := false }) := by
  unfold fetch at h
  split at h
  · next post rest hm =>
    cases h
    exact .inl ⟨post, rest, hm, rfl⟩
  · next hm =>
    split at h
    · next hc =>
      cases h
      exact .inr ⟨hm, hc.1, hc.2, rfl⟩
    · cases h

theorem fetch_pending {s t : Scheduler} (h : s.fetch = some t) :
    t.pending = s.pending ∧ t.queued = s.queued := by
  rcases fetch_cases h with ⟨post, rest, hm, rfl⟩ | ⟨-, -, -, rfl⟩
  · have hc : ∀ l, inLane l s.mailbox = inLane l [post] ++ inLane l rest :=
      fun l => hm ▸ inLane_append l [post] rest
    simp [enqueue_eq, pending, waitingIn, lane, hc]
  · exact ⟨rfl, rfl⟩

theorem fetch_phase {s t : Scheduler} (h : s.fetch = some t) :
    t.phase = s.phase ∧ t.state = s.state ∧ t.cancelled = s.cancelled := by
  rcases fetch_cases h with ⟨_, _, _, rfl⟩ | ⟨_, _, _, rfl⟩ <;> simp [enqueue_eq]

end Scheduler
end BrickHost
