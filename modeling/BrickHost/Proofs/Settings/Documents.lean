import BrickHost.Proofs.Document
import BrickHost.Proofs.Json
import BrickHost.SettingsDocument

/-! Settings, endpoints and identities as documents. What is written reads back, as a document of
any notation and as JSON text, with values that are absent and left out; and settings may be given
in part, at every level, where what is missing takes its default. -/

namespace BrickHost

section Values

variable {d : Document}

def IsText (d : Document) (s : String) : Prop :=
  d = .text s

def IsWord (d : Document) (n : UInt64) : Prop :=
  d = .integer n.toNat

def IsPort (d : Document) (port : UInt16) : Prop :=
  d = .integer port.toNat

def IsOptional {α : Type} (Stands : Document → α → Prop) (d : Document) : Option α → Prop
  | none => d = .null
  | some a => Stands d a

def IsListOf {α : Type} (Stands : Document → α → Prop) (d : Document) (values : List α) : Prop :=
  ∃ items, d = .list items ∧ List.Forall₂ Stands items values

theorem text?_eq_some_iff {s : String} : d.text? = some s ↔ IsText d s := by
  cases d <;> simp [Document.text?, IsText]

theorem word?_eq_some_iff {bits n : Nat} :
    d.word? bits = some n ↔ d = .integer n ∧ n < Nat.pow 2 bits := by
  cases d with
  | integer m =>
    rw [Document.word?]
    split
    · rw [Option.some.injEq, Document.integer.injEq]
      omega
    · simp only [reduceCtorEq, Document.integer.injEq, false_iff]
      omega
  | _ => simp [Document.word?]

/-- A type of numbers that holds just those of so many bits. -/
theorem map_word?_eq_some_iff {α : Type} {bits : Nat} {ofNat : Nat → α} {toNat : α → Nat}
    (hlt : ∀ a, toNat a < Nat.pow 2 bits) (hfits : ∀ n < Nat.pow 2 bits, toNat (ofNat n) = n)
    (hback : ∀ a, ofNat (toNat a) = a) {a : α} :
    (d.word? bits).map ofNat = some a ↔ d = .integer (toNat a) := by
  rw [Option.map_eq_some_iff]
  constructor
  · rintro ⟨n, hn, rfl⟩
    obtain ⟨rfl, hsmall⟩ := word?_eq_some_iff.mp hn
    rw [hfits n hsmall]
  · intro hd
    exact ⟨toNat a, word?_eq_some_iff.mpr ⟨hd, hlt a⟩, hback a⟩

theorem wordOfDocument?_eq_some_iff {n : UInt64} : wordOfDocument? d = some n ↔ IsWord d n :=
  map_word?_eq_some_iff UInt64.toNat_lt (fun _ => UInt64.toNat_ofNat_of_lt')
    (fun _ => UInt64.ofNat_toNat)

theorem portOfDocument?_eq_some_iff {port : UInt16} :
    Endpoint.portOfDocument? d = some port ↔ IsPort d port :=
  map_word?_eq_some_iff UInt16.toNat_lt (fun _ => UInt16.toNat_ofNat_of_lt')
    (fun _ => UInt16.ofNat_toNat)

theorem optional?_eq_some_iff {α : Type} {read : Document → Option α}
    {Stands : Document → α → Prop} (h : ∀ {d a}, read d = some a ↔ Stands d a)
    (hnull : ∀ a, ¬ Stands .null a) {o : Option α} :
    Document.optional? read d = some o ↔ IsOptional Stands d o := by
  by_cases hd : d = .null
  · subst hd
    cases o with
    | none => simp [Document.optional?, IsOptional]
    | some a => simp [Document.optional?, IsOptional, hnull]
  · have hread : Document.optional? read d = (read d).map some := by
      cases d <;> first | rfl | exact absurd rfl hd
    rw [hread, Option.map_eq_some_iff]
    cases o with
    | none => simp [IsOptional, hd]
    | some a => simp [IsOptional, h]

theorem optionalText?_eq_some_iff {o : Option String} :
    Document.optional? Document.text? d = some o ↔ IsOptional IsText d o :=
  optional?_eq_some_iff text?_eq_some_iff fun _ h => by cases h

theorem optionalWord?_eq_some_iff {o : Option UInt64} :
    Document.optional? wordOfDocument? d = some o ↔ IsOptional IsWord d o :=
  optional?_eq_some_iff wordOfDocument?_eq_some_iff fun _ h => by cases h

end Values

section Fields

def SchedulerSettings.fields : List (RecordField SchedulerSettings) :=
  let other : SchedulerSettings := {}
  [⟨"default_timeout_ms", IsWord, some other.defaultTimeout, (·.defaultTimeout)⟩,
    ⟨"recovery_timeout_ms", IsWord, some other.recoveryTimeout, (·.recoveryTimeout)⟩,
    ⟨"max_frame_size", IsWord, some other.maxFrame, (·.maxFrame)⟩,
    ⟨"connect_timeout_ms", IsWord, some other.connectTimeout, (·.connectTimeout)⟩]

def HealthSettings.fields : List (RecordField HealthSettings) :=
  let other : HealthSettings := {}
  [⟨"active_interval_ms", IsWord, some other.activeInterval, (·.activeInterval)⟩,
    ⟨"idle_interval_ms", IsWord, some other.idleInterval, (·.idleInterval)⟩,
    ⟨"probe_timeout_ms", IsWord, some other.probeTimeout, (·.probeTimeout)⟩,
    ⟨"reconnect_interval_ms", IsOptional IsWord, some other.reconnectInterval,
      (·.reconnectInterval)⟩]

def LoggingSettings.fields : List (RecordField LoggingSettings) :=
  let other : LoggingSettings := {}
  [⟨"level", IsText, some other.level, (·.level)⟩]

def BrickEntry.fields : List (RecordField BrickEntry) :=
  [⟨"id", IsText, none, (·.id)⟩, ⟨"name", IsOptional IsText, some none, (·.name)⟩,
    ⟨"host", IsText, none, (·.host)⟩, ⟨"port", IsPort, some defaultPort, (·.port)⟩,
    ⟨"serial", IsOptional IsText, some none, (·.serial)⟩]

def Settings.fields (how : Leniency) : List (RecordField Settings) :=
  let other : Settings := {}
  [⟨"scheduler", Document.IsRecord how SchedulerSettings.fields, some other.scheduler,
      (·.scheduler)⟩,
    ⟨"health", Document.IsRecord how HealthSettings.fields, some other.health, (·.health)⟩,
    ⟨"logging", Document.IsRecord how LoggingSettings.fields, some other.logging, (·.logging)⟩,
    ⟨"bricks", IsListOf (Document.IsRecord how BrickEntry.fields), some other.bricks, (·.bricks)⟩]

end Fields

section Reading

variable {how : Leniency} {d : Document}

theorem SchedulerSettings.ofDocument?_eq_some_iff {s : SchedulerSettings} :
    ofDocument? how d = some s ↔ d.IsRecord how fields s := by
  refine Document.record?_bind_eq_some_iff fields (show fieldNames.Nodup by decide) fun given => ?_
  obtain ⟨defaultTimeout, recoveryTimeout, maxFrame, connectTimeout⟩ := s
  simp [fields, RecordField.Takes, Option.bind_eq_some_iff,
    Document.default?_eq_some_iff wordOfDocument?_eq_some_iff]

theorem HealthSettings.ofDocument?_eq_some_iff {s : HealthSettings} :
    ofDocument? how d = some s ↔ d.IsRecord how fields s := by
  refine Document.record?_bind_eq_some_iff fields (show fieldNames.Nodup by decide) fun given => ?_
  obtain ⟨active, idle, probe, reconnect⟩ := s
  simp [fields, RecordField.Takes, Option.bind_eq_some_iff,
    Document.default?_eq_some_iff wordOfDocument?_eq_some_iff,
    Document.default?_eq_some_iff optionalWord?_eq_some_iff]

theorem LoggingSettings.ofDocument?_eq_some_iff {s : LoggingSettings} :
    ofDocument? how d = some s ↔ d.IsRecord how fields s := by
  refine Document.record?_bind_eq_some_iff fields (show fieldNames.Nodup by decide) fun given => ?_
  obtain ⟨level⟩ := s
  simp [fields, RecordField.Takes, Option.bind_eq_some_iff,
    Document.default?_eq_some_iff text?_eq_some_iff]

theorem BrickEntry.ofDocument?_eq_some_iff {b : BrickEntry} :
    ofDocument? how d = some b ↔ d.IsRecord how fields b := by
  refine Document.record?_bind_eq_some_iff fields (show fieldNames.Nodup by decide) fun given => ?_
  obtain ⟨id, name, host, port, serial⟩ := b
  simp [fields, RecordField.Takes, Option.bind_eq_some_iff,
    Document.required?_eq_some_iff text?_eq_some_iff,
    Document.default?_eq_some_iff optionalText?_eq_some_iff,
    Document.default?_eq_some_iff portOfDocument?_eq_some_iff]

theorem Settings.bricksOfDocument?_eq_some_iff {bricks : List BrickEntry} :
    bricksOfDocument? how d = some bricks ↔
      IsListOf (Document.IsRecord how BrickEntry.fields) d bricks := by
  unfold bricksOfDocument? IsListOf
  have hitems : ∀ items, d.items? = some items ↔ d = .list items := by
    cases d <;> simp [Document.items?]
  simp only [Option.bind_eq_some_iff, hitems, mapM_eq_some_iff, BrickEntry.ofDocument?_eq_some_iff]

theorem Settings.ofDocument?_eq_some_iff {s : Settings} :
    ofDocument? how d = some s ↔ d.IsRecord how (fields how) s := by
  refine Document.record?_bind_eq_some_iff (fields how) (show fieldNames.Nodup by decide)
    fun given => ?_
  obtain ⟨scheduler, health, logging, bricks⟩ := s
  simp [fields, RecordField.Takes, Option.bind_eq_some_iff,
    Document.default?_eq_some_iff SchedulerSettings.ofDocument?_eq_some_iff,
    Document.default?_eq_some_iff HealthSettings.ofDocument?_eq_some_iff,
    Document.default?_eq_some_iff LoggingSettings.ofDocument?_eq_some_iff,
    Document.default?_eq_some_iff bricksOfDocument?_eq_some_iff]

end Reading

section Filling

variable (how : Leniency)

theorem SchedulerSettings.independent_fields : RecordField.Independent fields := fun P h => by
  simp only [fields, List.forall_mem_cons] at h ⊢
  obtain ⟨⟨defaultTimeout, hdefault⟩, ⟨recoveryTimeout, hrecovery⟩, ⟨maxFrame, hframe⟩,
    ⟨connectTimeout, hconnect⟩, -⟩ := h
  exact ⟨⟨defaultTimeout, recoveryTimeout, maxFrame, connectTimeout⟩, hdefault, hrecovery, hframe,
    hconnect, by simp⟩

theorem HealthSettings.independent_fields : RecordField.Independent fields := fun P h => by
  simp only [fields, List.forall_mem_cons] at h ⊢
  obtain ⟨⟨active, hactive⟩, ⟨idle, hidle⟩, ⟨probe, hprobe⟩, ⟨reconnect, hreconnect⟩, -⟩ := h
  exact ⟨⟨active, idle, probe, reconnect⟩, hactive, hidle, hprobe, hreconnect, by simp⟩

theorem LoggingSettings.independent_fields : RecordField.Independent fields := fun P h => by
  simp only [fields, List.forall_mem_cons] at h ⊢
  obtain ⟨⟨level, hlevel⟩, -⟩ := h
  exact ⟨⟨level⟩, hlevel, by simp⟩

theorem Settings.independent_fields : RecordField.Independent (fields how) := fun P h => by
  simp only [fields, List.forall_mem_cons] at h ⊢
  obtain ⟨⟨scheduler, hscheduler⟩, ⟨health, hhealth⟩, ⟨logging, hlogging⟩, ⟨bricks, hbricks⟩,
    -⟩ := h
  exact ⟨⟨scheduler, health, logging, bricks⟩, hscheduler, hhealth, hlogging, hbricks, by simp⟩

theorem SchedulerSettings.fillsIn : FillsIn how fields {} (ofDocument? how) :=
  .of_independent (show fieldNames.Nodup by decide) (by simp [fields]) independent_fields
    ofDocument?_eq_some_iff

theorem HealthSettings.fillsIn : FillsIn how fields {} (ofDocument? how) :=
  .of_independent (show fieldNames.Nodup by decide) (by simp [fields]) independent_fields
    ofDocument?_eq_some_iff

theorem LoggingSettings.fillsIn : FillsIn how fields {} (ofDocument? how) :=
  .of_independent (show fieldNames.Nodup by decide) (by simp [fields]) independent_fields
    ofDocument?_eq_some_iff

theorem Settings.fillsIn : FillsIn how (fields how) {} (ofDocument? how) :=
  .of_independent (show fieldNames.Nodup by decide) (by simp [fields]) (independent_fields how)
    ofDocument?_eq_some_iff

end Filling

section Writing

variable {how : Leniency}

@[simp] theorem text?_text (s : String) : Document.text? (.text s) = some s := rfl

@[simp] theorem wordOfDocument?_wordDocument (n : UInt64) :
    wordOfDocument? (wordDocument n) = some n :=
  wordOfDocument?_eq_some_iff.mpr rfl

@[simp] theorem portOfDocument?_portDocument (port : UInt16) :
    Endpoint.portOfDocument? (Endpoint.portDocument port) = some port :=
  portOfDocument?_eq_some_iff.mpr rfl

@[simp] theorem default?_optionalText (o : Option String) :
    Document.default? (Document.optional? Document.text?) none (o.map .text) = some o :=
  Document.default?_optional?_map (fun _ => rfl) o

@[simp] theorem default?_optionalWord (o : Option UInt64) :
    Document.default? (Document.optional? wordOfDocument?) none (o.map wordDocument) = some o := by
  refine Document.default?_optional?_map (fun n => ?_) o
  exact congrArg (Option.map some) (wordOfDocument?_wordDocument n)

@[simp] theorem SchedulerSettings.ofDocument?_toDocument (s : SchedulerSettings) :
    ofDocument? how s.toDocument = some s := by
  have hfields : s.toDocument.record? how fieldNames = some _ :=
    Document.record?_table (show fieldNames.Nodup by decide)
  simp [ofDocument?, hfields]

@[simp] theorem HealthSettings.ofDocument?_toDocument (s : HealthSettings) :
    ofDocument? how s.toDocument = some s := by
  have hfields : s.toDocument.record? how fieldNames = some _ :=
    Document.record?_ofFields (show fieldNames.Nodup by decide)
  simp [ofDocument?, hfields]

@[simp] theorem LoggingSettings.ofDocument?_toDocument (s : LoggingSettings) :
    ofDocument? how s.toDocument = some s := by
  have hfields : s.toDocument.record? how fieldNames = some _ :=
    Document.record?_table (show fieldNames.Nodup by decide)
  simp [ofDocument?, hfields]

@[simp] theorem BrickEntry.ofDocument?_toDocument (b : BrickEntry) :
    ofDocument? how b.toDocument = some b := by
  have hfields : b.toDocument.record? how fieldNames = some _ :=
    Document.record?_ofFields (show fieldNames.Nodup by decide)
  simp [ofDocument?, hfields]

@[simp] theorem Settings.bricksOfDocument?_list (bricks : List BrickEntry) :
    bricksOfDocument? how (.list (bricks.map (·.toDocument))) = some bricks := by
  refine mapM_eq_some_iff.mpr ?_
  rw [List.forall₂_map_left_iff, List.forall₂_same]
  exact fun b _ => b.ofDocument?_toDocument

theorem Settings.ofDocument?_toDocument (s : Settings) : ofDocument? how s.toDocument = some s := by
  have hfields : s.toDocument.record? how fieldNames = some _ :=
    Document.record?_table (show fieldNames.Nodup by decide)
  simp [ofDocument?, hfields]

theorem Endpoint.ofDocument?_toDocument (e : Endpoint) : ofDocument? how e.toDocument = some e := by
  have hfields : e.toDocument.record? how fieldNames = some _ :=
    Document.record?_ofFields (show fieldNames.Nodup by decide)
  simp [ofDocument?, hfields]

@[simp] theorem BrickRole.ofDocument?_toDocument (r : BrickRole) :
    ofDocument? r.toDocument = some r := by
  cases r <;> rfl

@[simp] theorem TransportKind.ofDocument?_toDocument (k : TransportKind) :
    ofDocument? k.toDocument = some k := by
  cases k <;> rfl

theorem BrickIdentity.ofDocument?_toDocument (i : BrickIdentity) :
    ofDocument? how i.toDocument = some i := by
  have hfields : i.toDocument.record? how fieldNames = some _ :=
    Document.record?_table (show fieldNames.Nodup by decide)
  simp [ofDocument?, hfields]

end Writing

section Plain

open Json

theorem BrickEntry.isPlain_toDocument (b : BrickEntry) : IsPlain b.toDocument := by
  refine isPlain_ofFields ?_
  simp [Endpoint.portDocument, IsPlain.text, IsPlain.integer]

theorem SchedulerSettings.isPlain_toDocument (s : SchedulerSettings) : IsPlain s.toDocument := by
  refine .table ?_
  simp [wordDocument, IsPlain.integer]

theorem HealthSettings.isPlain_toDocument (s : HealthSettings) : IsPlain s.toDocument := by
  refine isPlain_ofFields ?_
  simp [wordDocument, IsPlain.integer]

theorem LoggingSettings.isPlain_toDocument (s : LoggingSettings) : IsPlain s.toDocument := by
  refine .table ?_
  simp [IsPlain.text]

theorem Settings.isPlain_toDocument (s : Settings) : IsPlain s.toDocument := by
  have hbricks : IsPlain (.list (s.bricks.map (·.toDocument))) := by
    refine .list fun d hd => ?_
    obtain ⟨b, -, rfl⟩ := List.mem_map.mp hd
    exact b.isPlain_toDocument
  refine .table ?_
  simp [SchedulerSettings.isPlain_toDocument, HealthSettings.isPlain_toDocument,
    LoggingSettings.isPlain_toDocument, hbricks]

theorem Endpoint.isPlain_toDocument (e : Endpoint) : IsPlain e.toDocument := by
  refine isPlain_ofFields ?_
  simp [portDocument, IsPlain.text, IsPlain.integer]

theorem BrickIdentity.isPlain_toDocument (i : BrickIdentity) : IsPlain i.toDocument := by
  refine .table ?_
  simp [BrickRole.toDocument, TransportKind.toDocument, IsPlain.text]

end Plain

/-- What is written is read back, also through JSON text. -/
structure ReadsBack {σ : Type} (write : σ → Document) (read : Leniency → Document → Option σ) :
    Prop where
  document : ∀ how s, read how (write s) = some s
  json : ∀ s, (Json.parse (Json.text (write s))).bind (read Json.leniency) = some s

theorem ReadsBack.of_plain {σ : Type} {write : σ → Document}
    {read : Leniency → Document → Option σ} (hread : ∀ how s, read how (write s) = some s)
    (hplain : ∀ s, Json.IsPlain (write s)) : ReadsBack write read where
  document := hread
  json s := by rw [Json.parse_text (hplain s), Option.bind_some, hread]

/-- Settings, bricks, endpoints and identities are read back as they were written. Settings that are
given in part are filled in with defaults, at every level and whatever the notation forgives. -/
theorem documents_read_back_and_filled_in (how : Leniency) :
    ReadsBack Settings.toDocument Settings.ofDocument? ∧
    ReadsBack BrickEntry.toDocument BrickEntry.ofDocument? ∧
    ReadsBack Endpoint.toDocument Endpoint.ofDocument? ∧
    ReadsBack BrickIdentity.toDocument BrickIdentity.ofDocument? ∧
    FillsIn how (Settings.fields how) {} (Settings.ofDocument? how) ∧
    FillsIn how SchedulerSettings.fields {} (SchedulerSettings.ofDocument? how) ∧
    FillsIn how HealthSettings.fields {} (HealthSettings.ofDocument? how) ∧
    FillsIn how LoggingSettings.fields {} (LoggingSettings.ofDocument? how) :=
  ⟨.of_plain (fun _ => Settings.ofDocument?_toDocument) Settings.isPlain_toDocument,
    .of_plain (fun _ => BrickEntry.ofDocument?_toDocument) BrickEntry.isPlain_toDocument,
    .of_plain (fun _ => Endpoint.ofDocument?_toDocument) Endpoint.isPlain_toDocument,
    .of_plain (fun _ => BrickIdentity.ofDocument?_toDocument) BrickIdentity.isPlain_toDocument,
    Settings.fillsIn how, SchedulerSettings.fillsIn how, HealthSettings.fillsIn how,
    LoggingSettings.fillsIn how⟩

/-- One interval, one brick without a port, and a field that does not matter. -/
theorem sparse_settings_filled_in :
    Settings.ofDocument? Json.leniency (.table [
      ("health", .table [("active_interval_ms", .integer 250)]),
      ("bricks", .list [.table [("id", .text "left"), ("host", .text "192.168.1.20")]]),
      ("colour", .text "blue")]) =
    some {
      health := { activeInterval := 250 }
      bricks := [{ id := "left", host := "192.168.1.20", port := 5555 }] } := by
  let healthPart : Document := .table [("active_interval_ms", .integer 250)]
  let bricksPart : Document :=
    .list [.table [("id", .text "left"), ("host", .text "192.168.1.20")]]
  let given : String → Option Document := fun name =>
    if name = "health" then some healthPart else if name = "bricks" then some bricksPart else none
  have hhealth : HealthSettings.ofDocument? Json.leniency healthPart =
      some { activeInterval := 250 } := rfl
  have hbricks : Settings.bricksOfDocument? Json.leniency bricksPart =
      some [{ id := "left", host := "192.168.1.20", port := 5555 }] := rfl
  obtain ⟨-, -, -, -, hfills, -⟩ := documents_read_back_and_filled_in Json.leniency
  obtain ⟨s, hs, hall⟩ := hfills.reads (.table [("health", healthPart), ("bricks", bricksPart),
    ("colour", .text "blue")]) given (.table (by simp [Settings.fields, given])) (by
      simp [Settings.fields, given, ← HealthSettings.ofDocument?_eq_some_iff,
        ← Settings.bricksOfDocument?_eq_some_iff, hhealth, hbricks])
  have hparts : s.scheduler = {} ∧ s.health = { activeInterval := 250 } ∧ s.logging = {} ∧
      s.bricks = [{ id := "left", host := "192.168.1.20", port := 5555 }] := by
    simpa [Settings.fields, given, ← HealthSettings.ofDocument?_eq_some_iff,
      ← Settings.bricksOfDocument?_eq_some_iff, hhealth, hbricks, eq_comm] using hall
  obtain ⟨scheduler, health, logging, bricks⟩ := s
  obtain ⟨rfl, rfl, rfl, rfl⟩ := hparts
  exact hs

end BrickHost
