import BrickHost.Proofs.Endpoint
import BrickHost.Settings
import Mathlib.Data.List.Forall2
import Mathlib.Data.List.Induction
import Mathlib.Data.List.TakeWhile

/-! Overrides of brick addresses. Each moves the brick it names or adds it behind the others, so the
last one for a brick counts, and settings that were sound stay sound. -/

namespace BrickHost

section Trim

variable {s t rest : List Char} {c : Char}

theorem trimEnd_prefix (s : List Char) : trimEnd s <+: s := by
  have h := List.reverse_prefix.mpr (List.dropWhile_suffix isBlank (l := s.reverse))
  rwa [List.reverse_reverse] at h

theorem isBlank_head_of_trim (h : trim s = c :: rest) : isBlank c = false := by
  obtain ⟨back, hback⟩ := trimEnd_prefix (trimStart s)
  rw [← trim, h, List.cons_append] at hback
  have hhead := List.head?_dropWhile_not isBlank s
  rw [← trimStart, ← hback] at hhead
  exact hhead

/-- What a trimmed text begins with does not vanish when it is trimmed by itself. -/
theorem trim_ne_nil_of_prefix (hne : s ≠ []) (h : s <+: trim t) : trim s ≠ [] := by
  obtain ⟨back, hback⟩ := h
  cases s with
  | nil => exact absurd rfl hne
  | cons c rest =>
    have hc := isBlank_head_of_trim hback.symm
    intro htrim
    have hstart : trimStart (c :: rest) = c :: rest := by simp [trimStart, hc]
    rw [trim, hstart, trimEnd, List.reverse_eq_nil_iff, List.dropWhile_eq_nil_iff] at htrim
    have hblank := htrim c (by simp)
    simp [hc] at hblank

end Trim

/-- What an override can say of a brick: where it is to be found. -/
structure BrickEntry.IsAddressOnly (b : BrickEntry) : Prop where
  name : b.name = none
  serial : b.serial = none
  host : trim b.host.toList ≠ []

theorem BrickEntry.isAddressOnly_of_parse {arg : String} {b : BrickEntry}
    (h : parseOverride arg = .ok b) : b.IsAddressOnly := by
  unfold parseOverride at h
  split at h
  · cases h
  next id address _ =>
    split at h
    · cases h
    · split at h
      · cases h
      next e he =>
        cases h
        obtain ⟨hne, hprefix⟩ := (Endpoint.parse_eq_ok_iff.mp he).1.begins_with_host
        rw [String.toList_ofList] at hprefix
        exact ⟨rfl, rfl, trim_ne_nil_of_prefix hne hprefix⟩

namespace Settings

variable {bricks : List BrickEntry} {entry : BrickEntry} {entries : List BrickEntry} {id : String}

def ids (s : Settings) : List String :=
  s.bricks.map (·.id)

/-- The brick of an id. -/
def brick? (s : Settings) (id : String) : Option BrickEntry :=
  s.bricks.find? (·.id = id)

section Fault

theorem firstFault_eq_none_iff {seen : List String} :
    firstFault seen bricks = none ↔
      (bricks.map (·.id)).Nodup ∧ ∀ b ∈ bricks, b.id ∉ seen ∧ trim b.host.toList ≠ [] := by
  induction bricks generalizing seen with
  | nil => simp [firstFault]
  | cons b rest ih =>
    unfold firstFault
    by_cases hh : trim b.host.toList = []
    · simp [hh]
    · by_cases hs : b.id ∈ seen
      · simp [hh, hs]
      · have hempty : ¬ (trim b.host.toList).isEmpty := by simpa using hh
        rw [if_neg hempty, if_neg hs, ih, List.map_cons, List.nodup_cons, List.forall_mem_cons]
        constructor
        · rintro ⟨hnodup, hrest⟩
          have hfresh : b.id ∉ rest.map (·.id) := by
            intro hm
            obtain ⟨b', hb', hid⟩ := List.mem_map.mp hm
            exact (hrest b' hb').1 (hid ▸ List.mem_cons_self)
          exact ⟨⟨hfresh, hnodup⟩, ⟨hs, hh⟩, fun b' hb' =>
            ⟨fun hm => (hrest b' hb').1 (List.mem_cons_of_mem _ hm), (hrest b' hb').2⟩⟩
        · rintro ⟨⟨hfresh, hnodup⟩, -, hrest⟩
          refine ⟨hnodup, fun b' hb' => ⟨?_, (hrest b' hb').2⟩⟩
          have hne : b'.id ≠ b.id := fun he => hfresh (he ▸ List.mem_map_of_mem hb')
          simp [hne, (hrest b' hb').1]

theorem fault?_eq_none_iff (s : Settings) :
    s.fault? = none ↔ s.ids.Nodup ∧ ∀ b ∈ s.bricks, trim b.host.toList ≠ [] := by
  simp [fault?, firstFault_eq_none_iff, ids]

end Fault

section Override

theorem find?_overrideIn (id : String) :
    (overrideIn entry bricks).find? (·.id = id) =
      if entry.id = id then
        some (match bricks.find? (·.id = id) with
          | some b => { b with host := entry.host, port := entry.port }
          | none => entry)
      else bricks.find? (·.id = id) := by
  induction bricks with
  | nil => by_cases he : entry.id = id <;> simp [overrideIn, he]
  | cons b rest ih =>
    by_cases hb : b.id = entry.id
    · by_cases he : entry.id = id <;> simp [overrideIn, hb, he]
    · by_cases hid : b.id = id
      · have he : entry.id ≠ id := fun he => hb (hid.trans he.symm)
        simp [overrideIn, hid, he, Ne.symm he]
      · simp [overrideIn, hb, hid, ih]

theorem map_id_overrideIn :
    (overrideIn entry bricks).map (·.id) =
      if entry.id ∈ bricks.map (·.id) then bricks.map (·.id)
      else bricks.map (·.id) ++ [entry.id] := by
  induction bricks with
  | nil => simp [overrideIn]
  | cons b rest ih =>
    by_cases hb : b.id = entry.id
    · simp [overrideIn, hb]
    · simp only [overrideIn, hb, if_false, List.map_cons, ih, List.mem_cons, Ne.symm hb, false_or]
      split <;> rfl

theorem host_of_mem_overrideIn {b : BrickEntry} (h : b ∈ overrideIn entry bricks) :
    b.host = entry.host ∨ ∃ old ∈ bricks, b.host = old.host := by
  induction bricks with
  | nil => exact .inl (by rw [List.mem_singleton.mp h])
  | cons old rest ih =>
    unfold overrideIn at h
    split at h
    · rcases List.mem_cons.mp h with rfl | hm
      · exact .inl rfl
      · exact .inr ⟨b, List.mem_cons_of_mem _ hm, rfl⟩
    · rcases List.mem_cons.mp h with rfl | hm
      · exact .inr ⟨_, List.mem_cons_self, rfl⟩
      · rcases ih hm with he | ⟨old', ho, he⟩
        · exact .inl he
        · exact .inr ⟨old', List.mem_cons_of_mem _ ho, he⟩

theorem fault?_overrideIn {s : Settings} (hs : s.fault? = none) (he : entry.IsAddressOnly) :
    fault? { s with bricks := overrideIn entry s.bricks } = none := by
  obtain ⟨hnodup, hhosts⟩ := (fault?_eq_none_iff s).mp hs
  refine (fault?_eq_none_iff _).mpr ⟨?_, fun b hb => ?_⟩
  · show ((overrideIn entry s.bricks).map (·.id)).Nodup
    rw [map_id_overrideIn]
    split
    · exact hnodup
    next hnew => exact List.nodup_append.mpr ⟨hnodup, by simp, by
        rintro x hx y hy rfl
        exact hnew (List.mem_singleton.mp hy ▸ hx)⟩
  · rcases host_of_mem_overrideIn hb with hh | ⟨old, ho, hh⟩
    · rw [hh]
      exact he.host
    · rw [hh]
      exact hhosts old ho

end Override

/-- Bricks after overrides that have been read, one after the other. -/
def overrideAll (bricks entries : List BrickEntry) : List BrickEntry :=
  entries.foldl (fun bricks entry => overrideIn entry bricks) bricks

section Run

theorem applyOverrides_eq_ok {s s' : Settings} {args : List String}
    (h : s.applyOverrides args = (s', none)) :
    ∃ entries,
      List.Forall₂ (fun arg entry => BrickEntry.parseOverride arg = .ok entry) args entries ∧
      s' = { s with bricks := overrideAll s.bricks entries } := by
  induction args generalizing s with
  | nil =>
    cases h
    exact ⟨[], .nil, rfl⟩
  | cons arg rest ih =>
    unfold applyOverrides at h
    cases hp : BrickEntry.parseOverride arg with
    | error e => simp [hp] at h
    | ok entry =>
      rw [hp] at h
      obtain ⟨entries, hall, rfl⟩ := ih h
      exact ⟨entry :: entries, .cons hp hall, rfl⟩

theorem fault?_applyOverrides {s s' : Settings} {args : List String} (hs : s.fault? = none)
    (h : s.applyOverrides args = (s', none)) : s'.fault? = none := by
  induction args generalizing s with
  | nil =>
    cases h
    exact hs
  | cons arg rest ih =>
    unfold applyOverrides at h
    cases hp : BrickEntry.parseOverride arg with
    | error e => simp [hp] at h
    | ok entry =>
      rw [hp] at h
      exact ih (fault?_overrideIn hs (BrickEntry.isAddressOnly_of_parse hp)) h

theorem isAddressOnly_of_mem {args : List String}
    (h : List.Forall₂ (fun arg entry => BrickEntry.parseOverride arg = .ok entry) args entries) :
    ∀ e ∈ entries, e.IsAddressOnly := by
  induction h with
  | nil => simp
  | cons hp _ ih => exact List.forall_mem_cons.mpr ⟨BrickEntry.isAddressOnly_of_parse hp, ih⟩

theorem map_id_overrideAll :
    (overrideAll bricks entries).map (·.id) = bricks.map (·.id) ++
      ((entries.map (·.id)).filter (· ∉ bricks.map (·.id))).eraseDups := by
  induction entries generalizing bricks with
  | nil => simp [overrideAll]
  | cons entry rest ih =>
    rw [overrideAll, List.foldl_cons, ← overrideAll, ih, map_id_overrideIn, List.map_cons]
    by_cases hm : entry.id ∈ bricks.map (·.id)
    · rw [if_pos hm, List.filter_cons_of_neg (by simpa using hm)]
    · rw [if_neg hm, List.filter_cons_of_pos (by simpa using hm), List.eraseDups_cons,
        List.filter_filter, List.append_assoc, List.singleton_append]
      have hfilter : ∀ x ∈ rest.map (·.id), (decide (x ∉ bricks.map (·.id) ++ [entry.id])) =
          ((!x == entry.id) && decide (x ∉ bricks.map (·.id))) := by
        intro x _
        by_cases hx : x = entry.id <;> simp [hx]
      rw [List.filter_congr hfilter]

theorem id_of_last_or {b : BrickEntry}
    (h : (entries.filter (·.id = id)).getLast?.or (bricks.find? (·.id = id)) = some b) :
    b.id = id := by
  rcases Option.or_eq_some_iff.mp h with hlast | ⟨-, hold⟩
  · simpa using (List.mem_filter.mp (List.mem_of_getLast? hlast)).2
  · simpa using List.find?_some hold

/-- The brick of an id after overrides: the last of them that names it says where it is, the brick
that was there before what it is called. -/
theorem find?_overrideAll (hall : ∀ e ∈ entries, e.name = none ∧ e.serial = none) (id : String) :
    (overrideAll bricks entries).find? (·.id = id) =
      ((entries.filter (·.id = id)).getLast?.or (bricks.find? (·.id = id))).map fun b =>
        { b with
          name := (bricks.find? (·.id = id)).bind (·.name)
          serial := (bricks.find? (·.id = id)).bind (·.serial) } := by
  induction entries using List.reverseRecOn with
  | nil =>
    cases hb : bricks.find? (·.id = id) <;> simp [overrideAll, hb]
  | append_singleton entries entry ih =>
    have hentry := hall entry (by simp)
    have hrun : overrideAll bricks (entries ++ [entry]) =
        overrideIn entry (overrideAll bricks entries) := by
      simp [overrideAll]
    rw [hrun, find?_overrideIn, ih fun e he => hall e (List.mem_append_left _ he),
      List.filter_append]
    by_cases he : entry.id = id
    · have hlast : (entries.filter (·.id = id) ++ [entry].filter (·.id = id)).getLast? =
          some entry := by
        simp [he]
      rw [if_pos he, hlast, Option.some_or, Option.map_some]
      cases hb : (entries.filter (·.id = id)).getLast?.or (bricks.find? (·.id = id)) with
      | none =>
        have hsame : ({ entry with name := none, serial := none } : BrickEntry) = entry := by
          cases entry
          simp_all
        rw [(Option.or_eq_none_iff.mp hb).2]
        exact congrArg some hsame.symm
      | some b => rw [Option.map_some, id_of_last_or hb, ← he]
    · simp [he]

end Run

/-- However many overrides are accepted: settings that were sound stay sound, the bricks that were
there keep their places and new ones follow in the order in which they were first named, each is
found where the last override that names it says, and what it is called, and all else, stays as it
was. Settings are sound exactly if no id stands twice and no host is blank. -/
theorem overrides_readdress (s s' : Settings) (args : List String) (hs : s.fault? = none)
    (h : s.applyOverrides args = (s', none)) :
    ∃ entries,
      List.Forall₂ (fun arg entry => BrickEntry.parseOverride arg = .ok entry) args entries ∧
      s'.fault? = none ∧
      s'.ids = s.ids ++ ((entries.map (·.id)).filter (· ∉ s.ids)).eraseDups ∧
      (∀ id last, (entries.filter (·.id = id)).getLast? = some last →
        ∃ b, s'.brick? id = some b ∧ b.host = last.host ∧ b.port = last.port ∧
          b.name = (s.brick? id).bind (·.name) ∧ b.serial = (s.brick? id).bind (·.serial)) ∧
      (∀ id ∉ entries.map (·.id), s'.brick? id = s.brick? id) ∧
      s' = { s with bricks := s'.bricks } ∧
      ∀ t : Settings, t.fault? = none ↔ t.ids.Nodup ∧ ∀ b ∈ t.bricks, trim b.host.toList ≠ [] := by
  obtain ⟨entries, hall, rfl⟩ := applyOverrides_eq_ok h
  have hplain : ∀ e ∈ entries, e.name = none ∧ e.serial = none := fun e he =>
    ⟨(isAddressOnly_of_mem hall e he).name, (isAddressOnly_of_mem hall e he).serial⟩
  have hfind : ∀ id, brick? { s with bricks := overrideAll s.bricks entries } id = _ :=
    find?_overrideAll hplain
  refine ⟨entries, hall, fault?_applyOverrides hs h, map_id_overrideAll, ?_, ?_, rfl,
    fault?_eq_none_iff⟩
  · intro id last hlast
    have hb := hfind id
    rw [hlast] at hb
    exact ⟨_, hb, rfl, rfl, rfl, rfl⟩
  · intro id hid
    have hnone : entries.filter (·.id = id) = [] := by
      refine List.filter_eq_nil_iff.mpr fun e he => ?_
      have hne : e.id ≠ id := fun heq => hid (heq ▸ List.mem_map_of_mem he)
      simpa using hne
    rw [hfind id, hnone, List.getLast?_nil, Option.none_or, brick?]
    cases s.bricks.find? (·.id = id) <;> rfl

/-- Settings with one brick, and two overrides that name another. -/
theorem added_brick_moved :
    ∃ s s' : Settings, s.fault? = none ∧ s.applyOverrides ["b=y:7", " b = z"] = (s', none) ∧
      s'.fault? = none ∧ s'.ids = ["a", "b"] ∧
      ∃ b, s'.brick? "b" = some b ∧ b.host = "z" ∧ b.port = 5555 ∧ b.name = none := by
  let arm : BrickEntry := { id := "a", name := some "Arm", host := "x" }
  let s : Settings := { bricks := [arm] }
  let s' : Settings := { bricks := [arm, { id := "b", host := "z" }] }
  have hs : s.fault? = none := by decide +kernel
  have h : s.applyOverrides ["b=y:7", " b = z"] = (s', none) := by decide +kernel
  have hfirst : BrickEntry.parseOverride "b=y:7" = .ok { id := "b", host := "y", port := 7 } := by
    decide +kernel
  have hsecond : BrickEntry.parseOverride " b = z" = .ok { id := "b", host := "z" } := by
    decide +kernel
  obtain ⟨entries, hall, hsound, hids, hnamed, -⟩ := overrides_readdress s s' _ hs h
  -- What an override says is read from it, so there is but one list of them.
  cases hall with
  | cons hp hrest =>
    cases hrest with
    | cons hq hnil =>
      cases hnil
      obtain rfl := Except.ok.inj (hfirst.symm.trans hp)
      obtain rfl := Except.ok.inj (hsecond.symm.trans hq)
      obtain ⟨b, hb, hhost, hport, hname, -⟩ := hnamed "b" { id := "b", host := "z" } (by decide)
      exact ⟨s, s', hs, h, hsound, hids.trans (by decide), b, hb, hhost, hport,
        hname.trans (by decide)⟩

end Settings
end BrickHost
