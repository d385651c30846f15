import BrickHost.Document.Basic
import Mathlib.Data.List.Forall2
import Mathlib.Data.List.Nodup

/-! Records in documents. A document gives some of the fields of a record, by name or by place; a
field that is not given may have a value to fall back on. What a record is read from is said here
field by field, apart from the readers. -/

namespace BrickHost

section Parts

variable {α β : Type} {f : α → Option β} {xs : List α} {ys : List β}

theorem mapM_eq_some_iff :
    xs.mapM f = some ys ↔ List.Forall₂ (fun x y => f x = some y) xs ys := by
  induction xs generalizing ys with
  | nil => simp [eq_comm]
  | cons x xs ih =>
    simp only [List.mapM_cons, Option.bind_eq_bind, Option.bind_eq_some_iff, ih,
      List.forall₂_cons_left_iff]
    constructor
    · rintro ⟨y, hy, rest, hrest, he⟩
      exact ⟨y, rest, hy, hrest, (Option.some.inj he).symm⟩
    · rintro ⟨y, rest, hy, hrest, rfl⟩
      exact ⟨y, hy, rest, hrest, rfl⟩

theorem exists_of_mapM_eq_some (h : xs.mapM f = some ys) {x : α} (hx : x ∈ xs) :
    ∃ y, f x = some y := by
  have hall := mapM_eq_some_iff.mp h
  clear h
  induction hall with
  | nil => cases hx
  | cons hy _ ih =>
    rcases List.mem_cons.mp hx with rfl | hx
    · exact ⟨_, hy⟩
    · exact ih hx

end Parts

namespace Document

variable {how : Leniency} {names : List String} {d : Document}
  {given : String → Option Document} {name : String}

/-- What a document gives of the fields with these names. A table gives each at most once, and may
hold others besides; a list gives the first ones, in their order. -/
inductive Gives (how : Leniency) (names : List String) :
    Document → (String → Option Document) → Prop
  | table {fields : List (String × Document)} {given : String → Option Document}
    (h : ∀ name ∈ names, fields.filter (·.1 = name) = (given name).toList.map (name, ·)) :
    Gives how names (.table fields) given
  | list {items : List Document} {given : String → Option Document}
    (hlength : items.length ≤ names.length ∨ how.extraItems)
    (h : ∀ (i : Nat) (name : String), names[i]? = some name → given name = items[i]?) :
    Gives how names (.list items) given
  | moment {given : String → Option Document} (hhow : how.momentAsRecord)
    (h : ∀ name ∈ names, given name = none) : Gives how names .moment given

theorem fieldOnce_eq_some_iff {fields : List (String × Document)} {o : Option Document} :
    fieldOnce fields name = some o ↔ fields.filter (·.1 = name) = o.toList.map (name, ·) := by
  have hname : ∀ f ∈ fields.filter (·.1 = name), f.1 = name := fun f hf => by
    simpa using (List.mem_filter.mp hf).2
  unfold fieldOnce
  rw [show fields.filter (·.1 == name) = fields.filter (·.1 = name) from rfl]
  generalize fields.filter (·.1 = name) = found at hname ⊢
  rcases found with _ | ⟨⟨key, v⟩, _ | ⟨next, found⟩⟩
  · cases o <;> simp
  · obtain rfl : key = name := hname (key, v) List.mem_cons_self
    cases o <;> simp
  · cases o <;> simp

/-- The values of a list, filled up to the number of the fields. -/
theorem map_given_of_list {items : List Document}
    (h : ∀ (i : Nat) (name : String), names[i]? = some name → given name = items[i]?) :
    names.map given = (items.take names.length).map some ++
      List.replicate (names.length - ((items.take names.length).map some).length) none := by
  refine List.ext_getElem? fun i => ?_
  rw [List.getElem?_map, List.getElem?_append, List.getElem?_map, List.getElem?_take,
    List.getElem?_replicate, List.length_map, List.length_take]
  by_cases hi : i < names.length
  · rw [List.getElem?_eq_getElem hi, Option.map_some, h i _ (List.getElem?_eq_getElem hi)]
    by_cases hitem : i < items.length
    · have hmin : i < min names.length items.length := by omega
      simp [hi, hitem, hmin]
    · have hmin : ¬ i < min names.length items.length := by omega
      have hrest : i - min names.length items.length <
          names.length - min names.length items.length := by omega
      simp [hitem, hmin, hrest]
  · have hmin : ¬ i < min names.length items.length := by omega
    have hrest : ¬ i - min names.length items.length <
        names.length - min names.length items.length := by omega
    simp [hi, hmin, hrest]

theorem record?_of_gives (h : d.Gives how names given) :
    d.record? how names = some (names.map given) := by
  cases h with
  | table h =>
    refine mapM_eq_some_iff.mpr ?_
    rw [List.forall₂_map_right_iff, List.forall₂_same]
    exact fun name hname => fieldOnce_eq_some_iff.mpr (h name hname)
  | @list items _ hlength h =>
    have hfits : ¬ (names.length < items.length ∧ ¬ how.extraItems) := by
      rintro ⟨hlong, hextra⟩
      exact hlength.elim (Nat.not_le.mpr hlong) hextra
    rw [map_given_of_list h, record?, if_neg hfits]
  | moment hhow h => rw [record?, if_pos hhow, List.map_congr_left h]

theorem gives_of_record? (hnames : names.Nodup) {values : List (Option Document)}
    (h : d.record? how names = some values) : ∃ given, d.Gives how names given := by
  cases d with
  | table fields =>
    refine ⟨fun name => (fieldOnce fields name).getD none, .table fun name hname => ?_⟩
    obtain ⟨o, ho⟩ := exists_of_mapM_eq_some h hname
    rw [← fieldOnce_eq_some_iff, ho]
    rfl
  | list items =>
    rw [record?] at h
    split at h
    · cases h
    next hfits =>
      -- The names are distinct, so a name tells its place in the list.
      refine ⟨fun name => items[names.idxOf name]?, .list ?_ fun i name hi => ?_⟩
      · rw [not_and_or, Nat.not_lt, not_not] at hfits
        exact hfits
      · obtain ⟨hlt, rfl⟩ := List.getElem?_eq_some_iff.mp hi
        rw [hnames.idxOf_getElem i hlt]
  | moment =>
    rw [record?] at h
    split at h
    next hhow => exact ⟨fun _ => none, .moment hhow fun _ _ => rfl⟩
    · cases h
  | _ => cases h

theorem filter_filterMap_of_notMem {fields : List (String × Option Document)}
    (h : name ∉ fields.map (·.1)) :
    (fields.filterMap fun (name, d) => d.map (name, ·)).filter (·.1 = name) = [] := by
  refine List.filter_eq_nil_iff.mpr fun f hf => ?_
  obtain ⟨⟨key, o⟩, hmem, hkey⟩ := List.mem_filterMap.mp hf
  obtain ⟨d, -, rfl⟩ := Option.map_eq_some_iff.mp hkey
  have hne : key ≠ name := fun he => h (he ▸ List.mem_map_of_mem hmem)
  simpa using hne

theorem filter_filterMap_of_mem {fields : List (String × Option Document)} {o : Option Document}
    (hnames : (fields.map (·.1)).Nodup) (hfield : (name, o) ∈ fields) :
    (fields.filterMap fun (name, d) => d.map (name, ·)).filter (·.1 = name) =
      o.toList.map (name, ·) := by
  obtain ⟨before, after, rfl⟩ := List.append_of_mem hfield
  rw [List.map_append, List.map_cons, List.nodup_append, List.nodup_cons] at hnames
  obtain ⟨-, ⟨hafter, -⟩, hbefore⟩ := hnames
  have hname : name ∉ before.map (·.1) := fun hm => hbefore name hm name List.mem_cons_self rfl
  rw [List.filterMap_append, List.filterMap_cons, List.filter_append,
    filter_filterMap_of_notMem hname]
  cases o with
  | none => exact filter_filterMap_of_notMem hafter
  | some d => simp [filter_filterMap_of_notMem hafter]

theorem gives_ofFields (hnames : names.Nodup) (given : String → Option Document) :
    (ofFields (names.map fun name => (name, given name))).Gives how names given := by
  refine .table fun name hname => filter_filterMap_of_mem ?_ (List.mem_map_of_mem hname)
  simpa [Function.comp_def] using hnames

/-- Fields are found as they were written, those without a value as absent. -/
theorem record?_ofFields {fields : List (String × Option Document)}
    (hnames : (fields.map (·.1)).Nodup) :
    (ofFields fields).record? how (fields.map (·.1)) = some (fields.map (·.2)) := by
  refine mapM_eq_some_iff.mpr ?_
  rw [List.forall₂_map_left_iff, List.forall₂_map_right_iff, List.forall₂_same]
  rintro ⟨name, o⟩ hfield
  exact fieldOnce_eq_some_iff.mpr (filter_filterMap_of_mem hnames hfield)

theorem record?_table {fields : List (String × Document)} (hnames : (fields.map (·.1)).Nodup) :
    (table fields).record? how (fields.map (·.1)) = some (fields.map (some ·.2)) := by
  let given := fields.map fun f => (f.1, some f.2)
  have hgiven : given.map (·.1) = fields.map (·.1) := by simp [given, Function.comp_def]
  have hfields : ofFields given = table fields := by simp [given, ofFields]
  rw [← hfields, ← hgiven, record?_ofFields (hgiven ▸ hnames)]
  simp [given, Function.comp_def]

/-- The values that a field may have for what a document gives of it. -/
def Takes {α : Type} (Stands : Document → α → Prop) (fallback : Option α) :
    Option Document → α → Prop
  | some d, a => Stands d a
  | none, a => fallback = some a

section Values

variable {α : Type} {read : Document → Option α} {Stands : Document → α → Prop}
  {o : Option Document} {a : α}

@[simp] theorem required?_some (d : Document) : required? read (some d) = read d := rfl

@[simp] theorem default?_some (fallback : α) (d : Document) :
    default? read fallback (some d) = read d := rfl

theorem default?_optional?_map {write : α → Document}
    (h : ∀ a, optional? read (write a) = some (some a)) (o : Option α) :
    default? (optional? read) none (o.map write) = some o := by
  cases o with
  | none => rfl
  | some a => exact h a

theorem required?_eq_some_iff (h : ∀ {d a}, read d = some a ↔ Stands d a) :
    required? read o = some a ↔ Takes Stands none o a := by
  cases o with
  | none => simp [required?, Takes]
  | some d => exact h

theorem default?_eq_some_iff (h : ∀ {d a}, read d = some a ↔ Stands d a) {fallback : α} :
    default? read fallback o = some a ↔ Takes Stands (some fallback) o a := by
  cases o with
  | none => exact Iff.rfl
  | some d => exact h

end Values
end Document

/-- A field of a record: its name, which documents stand for which of its values, the value that it
has if it is not given (`none` if it must be given), and its place in the record. -/
structure RecordField (σ : Type) where
  {α : Type}
  name : String
  Stands : Document → α → Prop
  fallback : Option α
  get : σ → α

section Records

variable {σ : Type} {how : Leniency} {fields : List (RecordField σ)}

def RecordField.Takes (f : RecordField σ) (o : Option Document) (a : f.α) : Prop :=
  Document.Takes f.Stands f.fallback o a

/-- A document stands for a record if each field has a value that is given, or falls back. -/
def Document.IsRecord (how : Leniency) (fields : List (RecordField σ)) (d : Document) (s : σ) :
    Prop :=
  ∃ given, d.Gives how (fields.map (·.name)) given ∧
    ∀ f ∈ fields, f.Takes (given f.name) (f.get s)

theorem Document.record?_bind_eq_some_iff (fields : List (RecordField σ))
    {build : List (Option Document) → Option σ} {s : σ} {d : Document}
    (hnames : (fields.map (·.name)).Nodup)
    (hbuild : ∀ given : String → Option Document,
      build ((fields.map (·.name)).map given) = some s ↔
        ∀ f ∈ fields, f.Takes (given f.name) (f.get s)) :
    (d.record? how (fields.map (·.name))).bind build = some s ↔ d.IsRecord how fields s := by
  rw [Option.bind_eq_some_iff]
  constructor
  · rintro ⟨values, hvalues, hs⟩
    obtain ⟨given, hgiven⟩ := gives_of_record? hnames hvalues
    obtain rfl := Option.some.inj (hvalues.symm.trans (record?_of_gives hgiven))
    exact ⟨given, hgiven, (hbuild given).mp hs⟩
  · rintro ⟨given, hgiven, hs⟩
    exact ⟨_, record?_of_gives hgiven, (hbuild given).mpr hs⟩

/-- Whatever values are wished for the fields, some record has them all. -/
def RecordField.Independent (fields : List (RecordField σ)) : Prop :=
  ∀ P : (f : RecordField σ) → f.α → Prop,
    (∀ f ∈ fields, ∃ a, P f a) → ∃ s, ∀ f ∈ fields, P f (f.get s)

/-- How a reader treats documents that give only some of the fields. -/
structure FillsIn (how : Leniency) (fields : List (RecordField σ)) (other : σ)
    (read : Document → Option σ) : Prop where
  /-- Any of the fields may be given, as any documents, and the others left out. -/
  gives : ∀ given, ∃ d, Document.Gives how (fields.map (·.name)) d given
  /-- Whatever is given is read, if it stands for values at all. Fields that are not given are as
  in the other record. -/
  reads : ∀ d given, d.Gives how (fields.map (·.name)) given →
    (∀ f ∈ fields, ∀ part, given f.name = some part → ∃ a, f.Stands part a) →
    ∃ s, read d = some s ∧ ∀ f ∈ fields,
      (∀ part, given f.name = some part → f.Stands part (f.get s)) ∧
      (given f.name = none → f.get s = f.get other)
  /-- Nothing is read as anything else than what it stands for. -/
  reads_iff : ∀ d s, read d = some s ↔ d.IsRecord how fields s

theorem FillsIn.of_independent {other : σ} {read : Document → Option σ}
    (hnames : (fields.map (·.name)).Nodup)
    (hother : ∀ f ∈ fields, f.fallback = some (f.get other))
    (hfields : RecordField.Independent fields)
    (hread : ∀ {d s}, read d = some s ↔ d.IsRecord how fields s) :
    FillsIn how fields other read where
  gives given := ⟨_, Document.gives_ofFields hnames given⟩
  reads d given hgiven hparts := by
    have hvalues : ∀ f ∈ fields, ∃ a, f.Takes (given f.name) a := fun f hf => by
      cases hpart : given f.name with
      | none => exact ⟨f.get other, hother f hf⟩
      | some part => exact hparts f hf part hpart
    obtain ⟨s, hs⟩ := hfields (fun f => f.Takes (given f.name)) hvalues
    refine ⟨s, hread.mpr ⟨given, hgiven, hs⟩, fun f hf => ⟨fun part hpart => ?_, fun hnone => ?_⟩⟩
    · have htakes := hs f hf
      rwa [hpart] at htakes
    · have htakes := hs f hf
      rw [hnone] at htakes
      exact Option.some.inj (htakes.symm.trans (hother f hf))
  reads_iff _ _ := hread

end Records
end BrickHost
