import BrickHost.Proofs.Fleet
import BrickHost.Proofs.Registry.Chronicle
import BrickHost.Proofs.Scheduler.Disposal
import BrickHost.Proofs.Text.ByteOrder

/-! Who has a session in hand. A call to the pool changes it under a lock; what it took out it then
disposes of, and may wait for, while other calls come and go. -/

namespace BrickHost

/-- A call that changes the pool. -/
inductive PoolOp where
  | insert (id : String) (link : LinkId)
  | close (id : String)
  | closeAll
  deriving DecidableEq, Repr

namespace PoolOp

variable {κ : Type}

/-- The call sets or ends the session of a brick. -/
def Touches (id : String) : PoolOp → Prop
  | insert other _ | close other => other = id
  | closeAll => True

/-- The call returns only when all that it took out of the pool has ended. -/
def closes : PoolOp → Bool
  | insert _ _ => false
  | close _ | closeAll => true

/-- There is a scheduler to insert. -/
def isPossible (f : Fleet κ) : PoolOp → Bool
  | insert _ link => (f.scheduler? link).isSome
  | close _ | closeAll => true

/-- All that a call does before it waits. -/
def perform (f : Fleet κ) : PoolOp → Fleet κ
  | insert id link => (f.insertSession id link).1
  | close id => (f.removeSession id).1
  | closeAll => f.removeSessions.1

/-- What a call takes out of the pool. -/
def removed (f : Fleet κ) : PoolOp → List LinkId
  | insert id link => (f.insertSession id link).2.toList
  | close id => (f.removeSession id).2.toList
  | closeAll => f.removeSessions.2

/-- What a call does under the lock. -/
def detach (f : Fleet κ) : PoolOp → Fleet κ
  | insert id link => { f with pool := f.pool.insert id link }.update link (·.retain)
  | close id => { f with pool := f.pool.erase id }
  | closeAll => { f with pool := {} }

end PoolOp

/-- A call that was made, with what it has still to dispose of and whose end it has still to see. -/
structure PoolCall where
  op : PoolOp
  removed : List LinkId
  undisposed : List LinkId
  unseen : List LinkId
  deriving DecidableEq, Repr

namespace PoolCall

def dispose (link : LinkId) (call : PoolCall) : PoolCall :=
  { call with undisposed := call.undisposed.erase link }

def see (link : LinkId) (call : PoolCall) : PoolCall :=
  { call with unseen := call.unseen.erase link }

def hasReturned (call : PoolCall) : Bool :=
  call.undisposed.isEmpty && call.unseen.isEmpty

end PoolCall

inductive PoolAct where
  | start (s : Scheduler)
  | drive (link : LinkId) (act : Act)
  /-- A call is made and goes on until it waits or returns. -/
  | call (op : PoolOp)
  /-- A call is made and gives way to others as soon as it has released the lock. -/
  | begin (op : PoolOp)
  | dispose (call : Nat) (link : LinkId)
  /-- A call that waits learns that a session has ended. -/
  | see (call : Nat) (link : LinkId)

/-- A pool with the fleet it belongs to, and the calls in the order in which they had its lock. -/
structure Custody (κ : Type) where
  fleet : Fleet κ
  now : Nat := 0
  calls : List PoolCall := []

namespace Fleet

variable {κ : Type}

/-- What becomes of a session that was taken out of the pool. -/
def discard (f : Fleet κ) (link : LinkId) : Fleet κ :=
  f.update link fun s => s.dispose.release

def IsDisposed (f : Fleet κ) (link : LinkId) : Prop :=
  ∃ s, f.scheduler? link = some s ∧ s.state = .disposed

def HasEnded (f : Fleet κ) (link : LinkId) : Prop :=
  ∃ s, f.scheduler? link = some s ∧ s.isTerminated = true

end Fleet

namespace Custody

variable {κ : Type}

def start (f : Fleet κ) : Custody κ where
  fleet := { f with pool := {} }

/-- A call gets through the lock and leaves the fleet and some disposals behind. -/
def enter (c : Custody κ) (op : PoolOp) (f : Fleet κ) (undisposed : List LinkId) : Custody κ :=
  if op.isPossible c.fleet then
    let removed := op.removed c.fleet
    { c with
      fleet := f
      calls := c.calls ++ [⟨op, removed, undisposed, if op.closes then removed else []⟩] }
  else c

def dispose (c : Custody κ) (index : Nat) (link : LinkId) : Custody κ :=
  if (c.calls[index]?).any (link ∈ ·.undisposed) then
    { c with fleet := c.fleet.discard link, calls := c.calls.modify index (·.dispose link) }
  else c

def see (c : Custody κ) (index : Nat) (link : LinkId) : Custody κ :=
  if (c.calls[index]?).any (·.undisposed.isEmpty) && c.fleet.isTerminated link then
    { c with calls := c.calls.modify index (·.see link) }
  else c

def act (c : Custody κ) : PoolAct → Custody κ
  | .start s => { c with fleet := (c.fleet.start s).1 }
  | .drive link act => { c with fleet := c.fleet.update link fun s => (s.react c.now act).1 }
  | .call op => c.enter op (op.perform c.fleet) []
  | .begin op => c.enter op (op.detach c.fleet) (op.removed c.fleet)
  | .dispose index link => c.dispose index link
  | .see index link => c.see index link

def after (c : Custody κ) (ms : Nat) (act : PoolAct) : Custody κ :=
  { c with now := c.now + ms }.act act

def run (c : Custody κ) (acts : List (Nat × PoolAct)) : Custody κ :=
  acts.foldl (fun c timed => c.after timed.1 timed.2) c

/-- The calls to the pool, in the order in which they had its lock. -/
def ops (c : Custody κ) : List PoolOp :=
  c.calls.map (·.op)

/-- All that ever left the pool. -/
def lost (c : Custody κ) : List LinkId :=
  c.calls.flatMap (·.removed)

/-- A scheduler was once inserted and is the entry of no brick any more. -/
def HasLeft (c : Custody κ) (link : LinkId) : Prop :=
  (∃ id, .insert id link ∈ c.ops) ∧ ∀ id, c.fleet.pool.find? id ≠ some link

/-- A call took the scheduler out of the pool and has released the lock, but has not disposed of it
and has not begun to wait. To dispose of it is a step of its own. -/
def IsInHand (c : Custody κ) (link : LinkId) : Prop :=
  ∃ index call, c.calls[index]? = some call ∧ link ∈ call.removed ∧ link ∈ call.undisposed ∧
    (call.op.closes = true → call.unseen = call.removed) ∧
    (c.dispose index link).fleet.IsDisposed link

end Custody

section Modify

variable {α β : Type} {l : List α} {i : Nat} {change : α → α} {a : α}

theorem map_modify (f : α → β) (h : ∀ a, f (change a) = f a) (l : List α) (i : Nat) :
    (l.modify i change).map f = l.map f := by
  apply List.ext_getElem?
  intro j
  simp only [List.getElem?_map, List.getElem?_modify]
  cases l[j]? with
  | none => rfl
  | some a =>
    simp only [Option.map_eq_map, Option.map_some]
    split <;> simp [h]

theorem modify_concat (l : List α) (a : α) (change : α → α) :
    (l ++ [a]).modify l.length change = l ++ [change a] := by
  induction l with
  | nil => rfl
  | cons first rest ih => exact congrArg (first :: ·) ih

theorem mem_modify (h : a ∈ l.modify i change) : a ∈ l ∨ ∃ b, l[i]? = some b ∧ change b = a := by
  obtain ⟨j, hj⟩ := List.mem_iff_getElem?.mp h
  rw [List.getElem?_modify] at hj
  obtain ⟨b, hb, he⟩ := Option.map_eq_some_iff.mp hj
  by_cases hi : i = j
  · subst hi
    exact .inr ⟨b, hb, by simpa using he⟩
  · rw [if_neg hi] at he
    exact .inl (he ▸ List.mem_of_getElem? hb)

end Modify

namespace Scheduler

theorem isTerminated_react {s t : Scheduler} {now : Nat} {act : Act} {events : List Event}
    (h : s.isTerminated = true) (hr : s.react now act = (t, events)) : t.isTerminated = true := by
  have hp : s.phase = .terminated := by
    cases hp : s.phase <;> simp_all [isTerminated]
  rcases react_cases hr with ⟨signals, hm, -⟩ | ⟨post, -, -, rfl, -⟩ |
    ⟨line, state, cancelled, handles, recovered, -, rfl, -⟩
  · cases hm <;> simp_all
  · exact h
  · exact h

end Scheduler

namespace Fleet

variable {κ : Type} {f g : Fleet κ} {link : LinkId}

/-- The scheduler of a link is disposed and its dispatcher was told to stop. -/
def IsDoomed (f : Fleet κ) (link : LinkId) : Prop :=
  ∃ s, f.scheduler? link = some s ∧ s.Doomed

theorem IsDoomed.isDisposed (h : f.IsDoomed link) : f.IsDisposed link := by
  obtain ⟨s, hs, hd⟩ := h
  exact ⟨s, hs, hd.state⟩

/-- Time goes on: no scheduler is lost, and none that is doomed or has ended comes back. -/
def Precedes (f g : Fleet κ) : Prop :=
  ∀ link s, f.scheduler? link = some s → ∃ t, g.scheduler? link = some t ∧
    (s.Doomed → t.Doomed) ∧ (s.isTerminated = true → t.isTerminated = true)

theorem precedes_of_scheduler? (h : ∀ link, g.scheduler? link = f.scheduler? link) :
    f.Precedes g :=
  fun link s hs => ⟨s, (h link).trans hs, id, id⟩

theorem Precedes.trans {h : Fleet κ} (hf : f.Precedes g) (hg : g.Precedes h) : f.Precedes h := by
  intro link s hs
  obtain ⟨t, ht, hdoomed, hended⟩ := hf link s hs
  obtain ⟨u, hu, hdoomed', hended'⟩ := hg link t ht
  exact ⟨u, hu, hdoomed' ∘ hdoomed, hended' ∘ hended⟩

theorem precedes_update (f : Fleet κ) (link : LinkId) {change : Scheduler → Scheduler}
    (hd : ∀ s, s.Doomed → (change s).Doomed)
    (ht : ∀ s, s.isTerminated = true → (change s).isTerminated = true) :
    f.Precedes (f.update link change) := by
  intro other s hs
  rw [scheduler?_update]
  split
  · exact ⟨change s, by rw [hs, Option.map_some], hd s, ht s⟩
  · exact ⟨s, hs, id, id⟩

theorem precedes_start (f : Fleet κ) (s : Scheduler) : f.Precedes (f.start s).1 := by
  intro link t ht
  refine ⟨t, ?_, id, id⟩
  obtain ⟨hl, -⟩ := List.getElem?_eq_some_iff.mp ht
  rw [start_scheduler?, if_neg (Nat.ne_of_lt hl), ht]

theorem precedes_drive (f : Fleet κ) (link : LinkId) (now : Nat) (act : Act) :
    f.Precedes (f.update link fun s => (s.react now act).1) :=
  f.precedes_update link (fun _ hd => (hd.react rfl).1)
    (fun _ ht => Scheduler.isTerminated_react ht rfl)

theorem precedes_discard (f : Fleet κ) (link : LinkId) : f.Precedes (f.discard link) :=
  f.precedes_update link (fun _ _ => ⟨rfl, rfl⟩) (fun _ ht => ht)

theorem precedes_detach (f : Fleet κ) (op : PoolOp) : f.Precedes (op.detach f) := by
  cases op with
  | insert id link =>
    have hpool : f.Precedes { f with pool := f.pool.insert id link } :=
      precedes_of_scheduler? fun _ => rfl
    exact hpool.trans (precedes_update _ link (fun _ hd => ⟨hd.state, hd.cancelled⟩) fun _ ht => ht)
  | close id => exact precedes_of_scheduler? fun _ => rfl
  | closeAll => exact precedes_of_scheduler? fun _ => rfl

theorem Precedes.isSome (h : f.Precedes g) (hf : (f.scheduler? link).isSome = true) :
    (g.scheduler? link).isSome = true := by
  obtain ⟨s, hs⟩ := Option.isSome_iff_exists.mp hf
  obtain ⟨t, ht, -⟩ := h link s hs
  rw [ht]
  rfl

theorem Precedes.isDoomed (h : f.Precedes g) (hf : f.IsDoomed link) : g.IsDoomed link := by
  obtain ⟨s, hs, hd⟩ := hf
  obtain ⟨t, ht, hdoomed, -⟩ := h link s hs
  exact ⟨t, ht, hdoomed hd⟩

theorem Precedes.hasEnded (h : f.Precedes g) (hf : f.HasEnded link) : g.HasEnded link := by
  obtain ⟨s, hs, he⟩ := hf
  obtain ⟨t, ht, -, hended⟩ := h link s hs
  exact ⟨t, ht, hended he⟩

theorem isDoomed_discard (h : (f.scheduler? link).isSome = true) :
    (f.discard link).IsDoomed link := by
  obtain ⟨s, hs⟩ := Option.isSome_iff_exists.mp h
  refine ⟨s.dispose.release, ?_, rfl, rfl⟩
  rw [discard, scheduler?_update, if_pos rfl, hs, Option.map_some]

end Fleet

namespace PoolCall

variable {κ : Type} {f g : Fleet κ} {call : PoolCall} {link : LinkId}

/-- A call accounts for all that it took out of the pool: what it has not left to dispose of is
disposed, and what it does not wait for any more has ended. It waits only after its disposals. -/
structure Sound (call : PoolCall) (f : Fleet κ) : Prop where
  known : ∀ link ∈ call.removed, (f.scheduler? link).isSome = true
  held : ∀ link ∈ call.undisposed, link ∈ call.removed
  unwaited : call.undisposed ≠ [] → call.op.closes = true → call.unseen = call.removed
  doomed : ∀ link ∈ call.removed, link ∈ call.undisposed ∨ f.IsDoomed link
  ended : call.op.closes = true → ∀ link ∈ call.removed, link ∈ call.unseen ∨ f.HasEnded link

theorem Sound.mono (h : call.Sound f) (hg : f.Precedes g) : call.Sound g where
  known link hl := hg.isSome (h.known link hl)
  held := h.held
  unwaited := h.unwaited
  doomed link hl := (h.doomed link hl).imp_right hg.isDoomed
  ended hc link hl := (h.ended hc link hl).imp_right hg.hasEnded

theorem Sound.dispose (h : call.Sound f) (link : LinkId) :
    (call.dispose link).Sound (f.discard link) where
  known := (h.mono (f.precedes_discard link)).known
  held other hl := h.held other (List.mem_of_mem_erase hl)
  unwaited hne := h.unwaited fun he => hne (by simp [PoolCall.dispose, he])
  doomed other hl := by
    rcases eq_or_ne other link with rfl | hn
    · exact .inr (Fleet.isDoomed_discard (h.known other hl))
    · exact ((h.mono (f.precedes_discard link)).doomed other hl).imp_left
        (List.mem_erase_of_ne hn).mpr
  ended := (h.mono (f.precedes_discard link)).ended

theorem Sound.see (h : call.Sound f) (hu : call.undisposed = [])
    (ht : f.isTerminated link = true) : (call.see link).Sound f where
  known := h.known
  held := h.held
  unwaited hne := absurd hu hne
  doomed := h.doomed
  ended hc other hl := by
    rcases eq_or_ne other link with rfl | hn
    · obtain ⟨s, hs⟩ := Option.isSome_iff_exists.mp (h.known other hl)
      exact .inr ⟨s, hs, by simpa [Fleet.isTerminated, hs] using ht⟩
    · exact (h.ended hc other hl).imp_left (List.mem_erase_of_ne hn).mpr

end PoolCall

namespace PoolOp

variable {κ : Type} {f : Fleet κ} {op : PoolOp} {id : String} {link : LinkId}

theorem insertSession_of_none (h : f.pool.find? id = none) :
    f.insertSession id link = (detach f (.insert id link), none) := by
  simp [Fleet.insertSession, h, detach]

theorem insertSession_of_some {old : LinkId} (h : f.pool.find? id = some old) :
    f.insertSession id link = ((detach f (.insert id link)).discard old, some old) := by
  simp [Fleet.insertSession, h, detach, Fleet.discard]

theorem insertSession_replaced (f : Fleet κ) (id : String) (link : LinkId) :
    (f.insertSession id link).2 = f.pool.find? id := by
  cases h : f.pool.find? id with
  | none => rw [insertSession_of_none h]
  | some old => rw [insertSession_of_some h]

theorem removeSession_removed (f : Fleet κ) (id : String) :
    (f.removeSession id).2 = f.pool.find? id := by
  unfold Fleet.removeSession
  cases h : f.pool.find? id <;> rfl

/-- A call that is not interrupted disposes of all that it took out. -/
theorem perform_eq (op : PoolOp) (f : Fleet κ) :
    op.perform f = (op.removed f).foldl Fleet.discard (op.detach f) := by
  cases op with
  | insert id link =>
    cases h : f.pool.find? id with
    | none =>
      simp only [perform, removed, insertSession_of_none h]
      rfl
    | some old =>
      simp only [perform, removed, insertSession_of_some h]
      rfl
  | close id =>
    cases h : f.pool.find? id with
    | none =>
      have he : f.pool.erase id = f.pool := Pool.erase_of_find?_eq_none h
      simp [perform, removed, detach, Fleet.removeSession_of_none h, he]
    | some link =>
      simp only [perform, removed, detach, Fleet.removeSession_of_some h]
      rfl
  | closeAll => rfl

/-- What is taken out of the pool was in it. -/
theorem mem_of_removed (h : link ∈ op.removed f) : ∃ id, (id, link) ∈ f.pool.sessions := by
  cases op with
  | insert id other =>
    rw [removed, insertSession_replaced, Option.mem_toList] at h
    exact ⟨id, Pool.mem_of_find? h⟩
  | close id =>
    rw [removed, removeSession_removed, Option.mem_toList] at h
    exact ⟨id, Pool.mem_of_find? h⟩
  | closeAll =>
    obtain ⟨⟨id, other⟩, he, rfl⟩ := List.mem_map.mp h
    exact ⟨id, he⟩

/-- The session of a brick is that of the last call that set or ended it. -/
theorem detach_find?_iff :
    (op.detach f).pool.find? id = some link ↔
      op = .insert id link ∨ ¬ op.Touches id ∧ f.pool.find? id = some link := by
  cases op with
  | insert other session =>
    have hp : (detach f (.insert other session)).pool = f.pool.insert other session := rfl
    rw [hp, Pool.find?_insert]
    by_cases he : id = other
    · subst he
      simp [Touches, eq_comm]
    · simp [Touches, he, Ne.symm he]
  | close other =>
    have hp : (detach f (.close other)).pool = f.pool.erase other := rfl
    rw [hp, Pool.find?_erase]
    by_cases he : id = other
    · simp [Touches, he]
    · simp [Touches, he, Ne.symm he]
  | closeAll =>
    have hp : (detach f .closeAll).pool.find? id = none := rfl
    simp [hp, Touches]

/-- What was in the pool stays there or is taken out by the call. -/
theorem find?_or_mem_removed (h : f.pool.find? id = some link) :
    (op.detach f).pool.find? id = some link ∨ link ∈ op.removed f := by
  by_cases ht : op.Touches id
  · right
    cases op with
    | insert other session =>
      obtain rfl : other = id := ht
      rw [removed, insertSession_replaced, h]
      exact List.mem_singleton_self _
    | close other =>
      obtain rfl : other = id := ht
      rw [removed, removeSession_removed, h]
      exact List.mem_singleton_self _
    | closeAll => exact List.mem_map.mpr ⟨_, Pool.mem_of_find? h, rfl⟩
  · exact .inl (detach_find?_iff.mpr (.inr ⟨ht, h⟩))

theorem detach_sessions {entry : String × LinkId} (h : entry ∈ (op.detach f).pool.sessions) :
    op = .insert entry.1 entry.2 ∨ entry ∈ f.pool.sessions := by
  cases op with
  | insert id link => exact (Pool.mem_insertIn h).imp_left fun he => by rw [he]
  | close id => exact .inr (List.mem_of_mem_filter h)
  | closeAll => cases h

theorem detach_sorted (op : PoolOp) (h : f.pool.sessions.Pairwise fun a b => a.1 < b.1) :
    (op.detach f).pool.sessions.Pairwise fun a b => a.1 < b.1 := by
  cases op with
  | insert id link => exact Pool.insertIn_sorted h
  | close id => exact h.filter _
  | closeAll => exact List.Pairwise.nil

end PoolOp

/-- The last call that set or ended the session of a brick set it to this one. -/
def LastInserted (ops : List PoolOp) (id : String) (link : LinkId) : Prop :=
  ∃ early late, ops = early ++ .insert id link :: late ∧ ∀ op ∈ late, ¬ op.Touches id

theorem lastInserted_snoc_iff {ops : List PoolOp} {op : PoolOp} {id : String} {link : LinkId} :
    LastInserted (ops ++ [op]) id link ↔
      op = .insert id link ∨ ¬ op.Touches id ∧ LastInserted ops id link := by
  have hone : ∀ all : List PoolOp, LastInserted all id link ↔
      ∃ early x late, all = early ++ x :: late ∧ x = .insert id link ∧
        ∀ op ∈ late, ¬ op.Touches id := by
    intro all
    constructor
    · rintro ⟨early, late, rfl, hl⟩
      exact ⟨early, _, late, rfl, rfl, hl⟩
    · rintro ⟨early, _, late, rfl, rfl, hl⟩
      exact ⟨early, late, rfl, hl⟩
  rw [hone, hone]
  exact exists_since_snoc_iff (· = PoolOp.insert id link) fun op => ¬ op.Touches id

namespace Custody

variable {κ : Type} {c : Custody κ} {link : LinkId}

/-- What has once been in the pool is in it, or a call has it in hand, until it is disposed of; and
the pool is what the calls made of it, in the order of the ids. -/
structure Kept (c : Custody κ) : Prop where
  known : ∀ entry ∈ c.fleet.pool.sessions, (c.fleet.scheduler? entry.2).isSome = true
  sound : ∀ call ∈ c.calls, call.Sound c.fleet
  settled : ∀ id link, .insert id link ∈ c.ops →
    (∃ key, c.fleet.pool.find? key = some link) ∨ link ∈ c.lost
  listed : ∀ id link, c.fleet.pool.find? id = some link ↔ LastInserted c.ops id link
  sorted : c.fleet.pool.sessions.Pairwise fun a b => a.1 < b.1

theorem kept_start (f : Fleet κ) : (start f).Kept where
  known _ he := by cases he
  sound _ hc := by cases hc
  settled _ _ hi := by cases hi
  listed id link := by
    constructor
    · intro h
      cases h
    · rintro ⟨early, late, he, -⟩
      simp [start, ops] at he
  sorted := List.Pairwise.nil

/-- The calls go on, but none is made. -/
theorem Kept.change (h : c.Kept) {d : Custody κ} (hp : d.fleet.pool = c.fleet.pool)
    (hf : c.fleet.Precedes d.fleet) (ho : d.ops = c.ops) (hl : d.lost = c.lost)
    (hs : ∀ call ∈ d.calls, call.Sound d.fleet) : d.Kept where
  known entry he := hf.isSome (h.known entry (hp ▸ he))
  sound := hs
  settled id link hi := by
    rw [hp, hl]
    exact h.settled id link (ho ▸ hi)
  listed id link := by
    rw [hp, ho]
    exact h.listed id link
  sorted := hp ▸ h.sorted

theorem Kept.later (h : c.Kept) (f : Fleet κ) (hp : f.pool = c.fleet.pool)
    (hf : c.fleet.Precedes f) (now : Nat) : Kept { c with fleet := f, now := now } :=
  h.change hp hf rfl rfl fun call hc => (h.sound call hc).mono hf

theorem Kept.modify (h : c.Kept) (f : Fleet κ) (hp : f.pool = c.fleet.pool)
    (hf : c.fleet.Precedes f) {change : PoolCall → PoolCall} (index : Nat)
    (ho : ∀ call, (change call).op = call.op)
    (hl : ∀ call, (change call).removed = call.removed)
    (hs : ∀ call, c.calls[index]? = some call → (change call).Sound f) :
    Kept { c with fleet := f, calls := c.calls.modify index change } := by
  refine h.change hp hf (map_modify PoolCall.op ho c.calls index) ?_ fun call hc => ?_
  · exact congrArg List.flatten (map_modify PoolCall.removed hl c.calls index)
  · rcases mem_modify hc with hold | ⟨old, hi, rfl⟩
    · exact (h.sound call hold).mono hf
    · exact hs old hi

theorem Kept.dispose (h : c.Kept) (index : Nat) (link : LinkId) : (c.dispose index link).Kept := by
  unfold Custody.dispose
  split
  · exact h.modify (c.fleet.discard link) rfl (c.fleet.precedes_discard link) index (fun _ => rfl)
      (fun _ => rfl) fun call hi => (h.sound call (List.mem_of_getElem? hi)).dispose link
  · exact h

theorem Kept.see (h : c.Kept) (index : Nat) (link : LinkId) : (c.see index link).Kept := by
  unfold Custody.see
  split
  · next hg =>
    obtain ⟨hu, ht⟩ := Bool.and_eq_true_iff.mp hg
    refine h.modify c.fleet rfl (Fleet.precedes_of_scheduler? fun _ => rfl) index (fun _ => rfl)
      (fun _ => rfl) fun call hi => ?_
    rw [hi, Option.any_some, List.isEmpty_iff] at hu
    exact (h.sound call (List.mem_of_getElem? hi)).see hu ht
  · exact h

theorem Kept.begin (h : c.Kept) (op : PoolOp) :
    (c.enter op (op.detach c.fleet) (op.removed c.fleet)).Kept := by
  by_cases hg : op.isPossible c.fleet = true
  · rw [enter, if_pos hg]
    have hf := c.fleet.precedes_detach op
    refine ⟨fun entry he => hf.isSome ?_, fun call hc => ?_, fun id link hi => ?_,
      fun id link => ?_, PoolOp.detach_sorted op h.sorted⟩
    · rcases PoolOp.detach_sessions he with rfl | hold
      · exact hg
      · exact h.known entry hold
    · rcases List.mem_append.mp hc with hold | hnew
      · exact (h.sound call hold).mono hf
      · obtain rfl := List.mem_singleton.mp hnew
        refine ⟨fun link hl => ?_, fun _ hl => hl, fun _ hcl => if_pos hcl,
          fun link hl => .inl hl, fun hcl link hl => .inl ?_⟩
        · obtain ⟨id, he⟩ := PoolOp.mem_of_removed hl
          exact hf.isSome (h.known _ he)
        · rw [if_pos hcl]
          exact hl
    · have hlost : ∀ link, link ∈ c.lost ∨ link ∈ op.removed c.fleet → link ∈
          (c.calls ++ [(⟨op, op.removed c.fleet, op.removed c.fleet,
            if op.closes then op.removed c.fleet else []⟩ : PoolCall)]).flatMap (·.removed) := by
        intro link hl
        rw [List.flatMap_append, List.mem_append]
        exact hl.imp_right fun hr => by simpa using hr
      rw [ops, List.map_append, List.mem_append] at hi
      rcases hi with hold | hnew
      · rcases h.settled id link hold with ⟨key, hk⟩ | hl
        · exact (PoolOp.find?_or_mem_removed hk).imp (fun hd => ⟨key, hd⟩)
            fun hr => hlost link (.inr hr)
        · exact .inr (hlost link (.inl hl))
      · obtain rfl : .insert id link = op := List.mem_singleton.mp hnew
        exact .inl ⟨id, PoolOp.detach_find?_iff.mpr (.inl rfl)⟩
    · rw [ops, List.map_append, List.map_singleton, lastInserted_snoc_iff,
        PoolOp.detach_find?_iff, h.listed, ops]
  · rw [enter, if_neg hg]
    exact h

/-- Disposing of all that a call has left, one after the other, is disposing of it at once. -/
theorem foldl_dispose (links : List LinkId) (f : Fleet κ) (now : Nat) (before : List PoolCall)
    (op : PoolOp) (removed unseen : List LinkId) :
    links.foldl (fun d link => d.dispose before.length link)
        (⟨f, now, before ++ [⟨op, removed, links, unseen⟩]⟩ : Custody κ) =
      ⟨links.foldl Fleet.discard f, now, before ++ [⟨op, removed, [], unseen⟩]⟩ := by
  induction links generalizing f with
  | nil => rfl
  | cons link rest ih =>
    have hd : (⟨f, now, before ++ [⟨op, removed, link :: rest, unseen⟩]⟩ : Custody κ).dispose
        before.length link = ⟨f.discard link, now, before ++ [⟨op, removed, rest, unseen⟩]⟩ := by
      simp [dispose, modify_concat, PoolCall.dispose]
    rw [List.foldl_cons, hd, ih, List.foldl_cons]

/-- A call that is not interrupted does what it does under the lock, and then its disposals. -/
theorem call_eq (c : Custody κ) (op : PoolOp) (hg : op.isPossible c.fleet = true) :
    c.enter op (op.perform c.fleet) [] =
      (op.removed c.fleet).foldl (fun d link => d.dispose c.calls.length link)
        (c.enter op (op.detach c.fleet) (op.removed c.fleet)) := by
  simp only [enter, if_pos hg]
  rw [foldl_dispose, PoolOp.perform_eq]

theorem Kept.call (h : c.Kept) (op : PoolOp) : (c.enter op (op.perform c.fleet) []).Kept := by
  by_cases hg : op.isPossible c.fleet = true
  · rw [call_eq c op hg]
    have hall : ∀ (links : List LinkId) (d : Custody κ), d.Kept →
        (links.foldl (fun d link => d.dispose c.calls.length link) d).Kept := by
      intro links
      induction links with
      | nil => exact fun _ hd => hd
      | cons link rest ih => exact fun d hd => ih _ (hd.dispose _ link)
    exact hall _ _ (h.begin op)
  · rw [enter, if_neg hg]
    exact h

theorem Kept.act (h : c.Kept) (act : PoolAct) : (c.act act).Kept := by
  cases act with
  | start s => exact h.later (c.fleet.start s).1 rfl (c.fleet.precedes_start s) c.now
  | drive link act =>
    exact h.later (c.fleet.update link fun s => (s.react c.now act).1) rfl
      (c.fleet.precedes_drive link c.now act) c.now
  | call op => exact h.call op
  | begin op => exact h.begin op
  | dispose index link => exact h.dispose index link
  | see index link => exact h.see index link

theorem run_snoc (c : Custody κ) (acts : List (Nat × PoolAct)) (timed : Nat × PoolAct) :
    c.run (acts ++ [timed]) = (c.run acts).after timed.1 timed.2 := by
  simp [run]

theorem run_kept (f : Fleet κ) (acts : List (Nat × PoolAct)) : ((start f).run acts).Kept := by
  induction acts using List.reverseRecOn with
  | nil => exact kept_start f
  | append_singleton acts timed ih =>
    rw [run_snoc]
    have hnow : Kept { (start f).run acts with now := ((start f).run acts).now + timed.1 } :=
      ih.later _ rfl (Fleet.precedes_of_scheduler? fun _ => rfl) _
    exact hnow.act timed.2

/-- A call that is not interrupted has nothing left to dispose of when it waits or returns. -/
theorem undisposed_act (h : ∀ call ∈ c.calls, call.undisposed = []) {act : PoolAct}
    (ha : ∀ op, act ≠ .begin op) : ∀ call ∈ (c.act act).calls, call.undisposed = [] := by
  cases act with
  | start s | drive link act => exact h
  | call op =>
    intro call hc
    simp only [Custody.act, enter] at hc
    split at hc
    · rcases List.mem_append.mp hc with hold | hnew
      · exact h call hold
      · rw [List.mem_singleton.mp hnew]
    · exact h call hc
  | begin op => exact absurd rfl (ha op)
  | dispose index link | see index link =>
    intro call hc
    simp only [Custody.act, Custody.dispose, Custody.see] at hc
    split at hc
    · rcases mem_modify hc with hold | ⟨old, hi, rfl⟩
      · exact h call hold
      · have hold := h old (List.mem_of_getElem? hi)
        simp [PoolCall.dispose, PoolCall.see, hold]
    · exact h call hc

theorem run_undisposed (f : Fleet κ) (acts : List (Nat × PoolAct))
    (h : ∀ timed ∈ acts, ∀ op, timed.2 ≠ .begin op) :
    ∀ call ∈ ((start f).run acts).calls, call.undisposed = [] := by
  induction acts using List.reverseRecOn with
  | nil =>
    intro call hc
    cases hc
  | append_singleton acts timed ih =>
    have hold := ih fun t ht => h t (List.mem_append_left _ ht)
    rw [run_snoc]
    let c : Custody κ := { (start f).run acts with now := ((start f).run acts).now + timed.1 }
    exact undisposed_act (c := c) hold (h timed (by simp))

theorem Kept.disposed_or_in_hand (h : c.Kept) (hl : c.HasLeft link) :
    c.fleet.IsDisposed link ∨ c.IsInHand link := by
  obtain ⟨⟨id, hi⟩, hn⟩ := hl
  rcases h.settled id link hi with ⟨key, hk⟩ | hlost
  · exact absurd hk (hn key)
  obtain ⟨call, hc, hr⟩ := List.mem_flatMap.mp hlost
  have hs := h.sound call hc
  rcases hs.doomed link hr with hu | hd
  · obtain ⟨index, hindex⟩ := List.mem_iff_getElem?.mp hc
    have hdispose : (c.dispose index link).fleet = c.fleet.discard link := by
      rw [Custody.dispose, hindex, Option.any_some, if_pos (decide_eq_true hu)]
    refine .inr ⟨index, call, hindex, hr, hu, hs.unwaited (List.ne_nil_of_mem hu), ?_⟩
    rw [hdispose]
    exact (Fleet.isDoomed_discard (hs.known link hr)).isDisposed
  · exact .inl hd.isDisposed

end Custody

/-- Whatever calls are made to a pool and however they get between each other: a scheduler that was
once inserted and is the entry of no brick any more is disposed, unless the call that took it out
was interrupted between releasing the lock and its disposals. A call has disposed of all that it
took out of the pool before it waits or returns, and where it closes sessions, their dispatchers
have terminated when it returns. The listed bricks are in the order of the bytes of their ids, and
they are those that were inserted and not closed since. -/
theorem pool_never_loses_session {κ : Type} (f : Fleet κ) (acts : List (Nat × PoolAct)) :
    let c := (Custody.start f).run acts
    (∀ link, c.HasLeft link → c.fleet.IsDisposed link ∨ c.IsInHand link) ∧
    ((∀ timed ∈ acts, ∀ op, timed.2 ≠ .begin op) →
      ∀ link, c.HasLeft link → c.fleet.IsDisposed link) ∧
    (∀ call ∈ c.calls, call.hasReturned = true →
      (∀ link ∈ call.removed, c.fleet.IsDisposed link) ∧
        (call.op.closes = true → ∀ link ∈ call.removed, c.fleet.HasEnded link)) ∧
    (c.fleet.pool.ids.Pairwise fun a b => utf8 a < utf8 b) ∧
    ∀ id, (id ∈ c.fleet.pool.ids ↔ ∃ link, LastInserted c.ops id link) ∧
      ∀ link, c.fleet.pool.find? id = some link ↔ LastInserted c.ops id link := by
  intro c
  have h : c.Kept := Custody.run_kept f acts
  refine ⟨fun link hl => h.disposed_or_in_hand hl, fun ha link hl => ?_, fun call hc hr => ?_, ?_,
    fun id => ⟨?_, h.listed id⟩⟩
  · rcases h.disposed_or_in_hand hl with hd | ⟨index, call, hindex, -, hu, -⟩
    · exact hd
    · have hnone := Custody.run_undisposed f acts ha call (List.mem_of_getElem? hindex)
      rw [hnone] at hu
      cases hu
  · have hs := h.sound call hc
    simp only [PoolCall.hasReturned, Bool.and_eq_true, List.isEmpty_iff] at hr
    obtain ⟨hu, hw⟩ := hr
    refine ⟨fun link hl => ?_, fun hcl link hl => ?_⟩
    · rcases hs.doomed link hl with hin | hd
      · rw [hu] at hin
        cases hin
      · exact hd.isDisposed
    · rcases hs.ended hcl link hl with hin | he
      · rw [hw] at hin
        cases hin
      · exact he
  · rw [Pool.ids, List.pairwise_map]
    exact h.sorted.imp fun hlt => (lt_iff_utf8_lt _ _).mp hlt
  · rw [Pool.mem_ids_iff]
    exact exists_congr fun link => h.listed id link

/-- A session is replaced while the one before it is being closed. No call is interrupted before its
disposals, and what was closed is disposed and has ended when the call returns. -/
theorem session_replaced_while_closing :
    let scheduler : Scheduler := { config := {}, line := .ofCapacity 4 }
    let acts : List (Nat × PoolAct) := [(0, .start scheduler), (0, .start scheduler),
      (0, .call (.insert "a" 0)), (0, .call (.close "a")), (0, .call (.insert "a" 1)),
      (0, .drive 0 .move), (0, .drive 0 .move), (0, .drive 0 .move), (0, .see 1 0)]
    let c := (Custody.start ({} : Fleet Unit)).run acts
    let closing : PoolCall := { op := .close "a", removed := [0], undisposed := [], unseen := [] }
    (∀ timed ∈ acts, ∀ op, timed.2 ≠ .begin op) ∧ c.HasLeft 0 ∧ c.fleet.IsDisposed 0 ∧
      closing ∈ c.calls ∧ closing.hasReturned = true ∧ c.fleet.HasEnded 0 := by
  intro scheduler acts c closing
  obtain ⟨-, hdisposed, hreturned, -⟩ := pool_never_loses_session ({} : Fleet Unit) acts
  have hacts : ∀ timed ∈ acts, ∀ op, timed.2 ≠ .begin op := by simp [acts]
  have hpool : c.fleet.pool.sessions = [("a", 1)] := by decide
  have hleft : c.HasLeft 0 := by
    refine ⟨⟨"a", by decide⟩, fun id hid => ?_⟩
    have hmem := Pool.mem_of_find? hid
    rw [hpool] at hmem
    simp at hmem
  have hclosing : closing ∈ c.calls := by decide
  obtain ⟨-, hended⟩ := hreturned closing hclosing rfl
  exact ⟨hacts, hleft, hdisposed hacts 0 hleft, hclosing, rfl,
    hended rfl 0 (List.mem_singleton_self 0)⟩

/-- One thread closes a session: it has taken it out of the pool and released the lock, and is
interrupted before it disposes of it. -/
theorem closed_session_not_yet_disposed :
    let scheduler : Scheduler := { config := {}, line := .ofCapacity 4 }
    let acts : List (Nat × PoolAct) :=
      [(0, .start scheduler), (0, .call (.insert "a" 0)), (0, .begin (.close "a"))]
    let c := (Custody.start ({} : Fleet Unit)).run acts
    c.HasLeft 0 ∧ ¬ c.fleet.IsDisposed 0 := by
  intro scheduler acts c
  have hpool : c.fleet.pool.sessions = [] := by decide
  refine ⟨⟨⟨"a", by decide⟩, fun id hid => ?_⟩, ?_⟩
  · have hmem := Pool.mem_of_find? hid
    rw [hpool] at hmem
    cases hmem
  · rintro ⟨s, hs, hd⟩
    have hidle : (c.fleet.scheduler? 0).map (·.state) = some .idle := by decide
    rw [hs, Option.map_some, hd] at hidle
    cases hidle

end BrickHost
