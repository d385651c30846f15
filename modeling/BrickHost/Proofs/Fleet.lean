import BrickHost.Fleet
import BrickHost.Proofs.Registry.Records

/-! What the operations on the sessions of a fleet leave behind. -/

namespace BrickHost

namespace Pool

variable {σ : Type}

@[simp] theorem find?_erase (p : Pool σ) (id other : String) :
    (p.erase id).find? other = if other = id then none else p.find? other :=
  lookup_filter_ne id p.sessions

theorem lookup_insertIn (id : String) (session : σ) (sessions : List (String × σ)) (other : String) :
    (insertIn id session sessions).lookup other =
      if other = id then some session else sessions.lookup other := by
  induction sessions with
  | nil => exact lookup_cons_eq id session []
  | cons entry rest ih =>
    obtain ⟨key, old⟩ := entry
    by_cases hl : id < key
    · simp [insertIn, hl, lookup_cons_eq]
    · by_cases hk : id = key
      · by_cases ho : other = id <;> simp_all [insertIn, lookup_cons_eq]
      · by_cases ho : other = key
        · have hi : other ≠ id := fun he => hk (he.symm.trans ho)
          simp [insertIn, hl, hk, ho, Ne.symm hk]
        · simp [insertIn, hl, hk, lookup_cons_eq, ho, ih]

@[simp] theorem find?_insert (p : Pool σ) (id : String) (session : σ) (other : String) :
    (p.insert id session).find? other = if other = id then some session else p.find? other :=
  lookup_insertIn id session p.sessions other

section Entries

variable {p : Pool σ} {id : String} {session : σ} {entry : String × σ}

theorem mem_of_find? (h : p.find? id = some session) : (id, session) ∈ p.sessions :=
  mem_of_lookup h

theorem mem_ids_iff : id ∈ p.ids ↔ ∃ session, p.find? id = some session := by
  rw [← Option.isSome_iff_exists, find?, List.lookup_isSome_iff, ids]
  constructor
  · rintro h
    obtain ⟨entry, he, rfl⟩ := List.mem_map.mp h
    exact ⟨entry, he, beq_self_eq_true _⟩
  · rintro ⟨entry, he, hk⟩
    obtain rfl := eq_of_beq hk
    exact List.mem_map_of_mem he

theorem erase_of_find?_eq_none (h : p.find? id = none) : p.erase id = p := by
  have hk : p.sessions.filter (·.1 != id) = p.sessions := by
    rw [List.filter_eq_self]
    intro entry he
    rw [bne_comm]
    exact List.lookup_eq_none_iff.mp h entry he
  rw [erase, hk]

theorem mem_insertIn {sessions : List (String × σ)} (h : entry ∈ insertIn id session sessions) :
    entry = (id, session) ∨ entry ∈ sessions := by
  induction sessions with
  | nil => exact .inl (List.mem_singleton.mp h)
  | cons first rest ih =>
    obtain ⟨key, old⟩ := first
    unfold insertIn at h
    split at h
    · exact List.mem_cons.mp h
    · split at h
      · exact (List.mem_cons.mp h).imp_right (List.mem_cons_of_mem _)
      · rcases List.mem_cons.mp h with rfl | hr
        · exact .inr List.mem_cons_self
        · exact (ih hr).imp_right (List.mem_cons_of_mem _)

theorem insertIn_sorted {sessions : List (String × σ)}
    (h : sessions.Pairwise fun a b => a.1 < b.1) :
    (insertIn id session sessions).Pairwise fun a b => a.1 < b.1 := by
  induction sessions with
  | nil => exact List.pairwise_singleton _ _
  | cons first rest ih =>
    obtain ⟨key, old⟩ := first
    obtain ⟨hfirst, hrest⟩ := List.pairwise_cons.mp h
    unfold insertIn
    split
    · next hl =>
      refine List.pairwise_cons.mpr ⟨fun entry he => ?_, h⟩
      rcases List.mem_cons.mp he with rfl | hr
      · exact hl
      · exact String.lt_trans hl (hfirst entry hr)
    · next hl =>
      split
      · next he =>
        subst he
        exact List.pairwise_cons.mpr ⟨hfirst, hrest⟩
      · next he =>
        have hlt : key < id := Std.lt_of_le_of_ne (String.not_lt.mp hl) (Ne.symm he)
        refine List.pairwise_cons.mpr ⟨fun entry hm => ?_, ih hrest⟩
        rcases mem_insertIn hm with rfl | hr
        · exact hlt
        · exact hfirst entry hr

end Entries

end Pool

namespace Fleet

variable {κ : Type}

theorem scheduler?_update (f : Fleet κ) (link : LinkId) (change : Scheduler → Scheduler)
    (other : LinkId) :
    (f.update link change).scheduler? other =
      if link = other then (f.scheduler? other).map change else f.scheduler? other := by
  by_cases ho : link = other <;> simp [update, scheduler?, ho]

@[simp] theorem update_registry (f : Fleet κ) (link : LinkId) (change : Scheduler → Scheduler) :
    (f.update link change).registry = f.registry := rfl

@[simp] theorem update_pool (f : Fleet κ) (link : LinkId) (change : Scheduler → Scheduler) :
    (f.update link change).pool = f.pool := rfl

@[simp] theorem withRegistry_registry (f : Fleet κ) (change : Registry κ → Registry κ) :
    (f.withRegistry change).registry = change f.registry := rfl

@[simp] theorem withRegistry_pool (f : Fleet κ) (change : Registry κ → Registry κ) :
    (f.withRegistry change).pool = f.pool := rfl

@[simp] theorem withRegistry_scheduler? (f : Fleet κ) (change : Registry κ → Registry κ)
    (link : LinkId) : (f.withRegistry change).scheduler? link = f.scheduler? link := rfl

/-- A fleet without the session of a brick, whose scheduler was disposed of. -/
def without (f : Fleet κ) (id : String) (link : LinkId) : Fleet κ :=
  { f with pool := f.pool.erase id }.update link fun s => s.dispose.release

theorem without_scheduler? (f : Fleet κ) (id : String) (link other : LinkId) :
    (f.without id link).scheduler? other =
      if link = other then (f.scheduler? other).map (·.dispose.release)
      else f.scheduler? other :=
  scheduler?_update _ link _ other

theorem without_scheduler?_of_ne (f : Fleet κ) (id : String) {link other : LinkId}
    (h : link ≠ other) : (f.without id link).scheduler? other = f.scheduler? other := by
  rw [without_scheduler?, if_neg h]

theorem removeSession_of_some {f : Fleet κ} {id : String} {link : LinkId}
    (h : f.pool.find? id = some link) : f.removeSession id = (f.without id link, some link) := by
  simp [removeSession, h, without]

theorem removeSession_of_none {f : Fleet κ} {id : String} (h : f.pool.find? id = none) :
    f.removeSession id = (f, none) := by
  simp [removeSession, h]

@[simp] theorem removeSession_registry (f : Fleet κ) (id : String) :
    (f.removeSession id).1.registry = f.registry := by
  unfold removeSession
  split <;> rfl

@[simp] theorem removeSession_pool (f : Fleet κ) (id other : String) :
    (f.removeSession id).1.pool.find? other = if other = id then none else f.pool.find? other := by
  cases h : f.pool.find? id with
  | none =>
    rw [removeSession_of_none h]
    by_cases ho : other = id <;> simp [ho, h]
  | some link =>
    rw [removeSession_of_some h]
    exact f.pool.find?_erase id other

@[simp] theorem removeSessions_registry (f : Fleet κ) : f.removeSessions.1.registry = f.registry := by
  have hl : ∀ (links : List LinkId) (g : Fleet κ),
      (links.foldl (fun f link => f.update link fun s => s.dispose.release) g).registry =
        g.registry := by
    intro links
    induction links with
    | nil => exact fun _ => rfl
    | cons link rest ih => exact fun g => ih _
  exact hl _ _

@[simp] theorem insertSession_registry (f : Fleet κ) (id : String) (link : LinkId) :
    (f.insertSession id link).1.registry = f.registry := by
  unfold insertSession
  cases f.pool.find? id <;> rfl

@[simp] theorem insertSession_pool (f : Fleet κ) (id : String) (link : LinkId) :
    (f.insertSession id link).1.pool = f.pool.insert id link := by
  unfold insertSession
  cases f.pool.find? id <;> rfl

theorem start_scheduler? (f : Fleet κ) (s : Scheduler) (link : LinkId) :
    (f.start s).1.scheduler? link =
      if link = f.schedulers.length then some s else f.scheduler? link := by
  show (f.schedulers ++ [s])[link]? = if link = f.schedulers.length then some s
    else f.schedulers[link]?
  split
  · next hl => rw [hl, List.getElem?_concat_length]
  · next hl =>
    rcases Nat.lt_or_gt_of_ne hl with hl | hl
    · exact List.getElem?_append_left hl
    · have hout : (f.schedulers ++ [s]).length ≤ link := by
        rw [List.length_append]
        exact hl
      rw [List.getElem?_eq_none (Nat.le_of_lt hl), List.getElem?_eq_none hout]

theorem insertSession_scheduler? {f : Fleet κ} {id : String} {link other : LinkId}
    (hp : f.pool.find? id ≠ some other) :
    (f.insertSession id link).1.scheduler? other =
      if link = other then (f.scheduler? other).map (·.retain) else f.scheduler? other := by
  unfold insertSession
  cases hf : f.pool.find? id with
  | none => exact scheduler?_update _ _ _ _
  | some old =>
    have ho : old ≠ other := fun ho => hp (ho ▸ hf)
    simp only [scheduler?_update, if_neg ho]
    rfl

end Fleet
end BrickHost
