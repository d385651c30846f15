import BrickHost.Settings

/-! Settings as documents. What is absent is left out when written; what is missing takes its
default when read, down to the single field. -/

namespace BrickHost

def wordDocument (n : UInt64) : Document :=
  .integer n.toNat

def wordOfDocument? (d : Document) : Option UInt64 :=
  (d.word? 64).map UInt64.ofNat

namespace BrickEntry

def fieldNames : List String := ["id", "name", "host", "port", "serial"]

def toDocument (b : BrickEntry) : Document :=
  .ofFields [("id", some (.text b.id)), ("name", b.name.map .text), ("host", some (.text b.host)),
    ("port", some (Endpoint.portDocument b.port)), ("serial", b.serial.map .text)]

def ofDocument? (how : Leniency) (d : Document) : Option BrickEntry := do
  match ← d.record? how fieldNames with
  | [id, name, host, port, serial] =>
    return {
      id := ← Document.required? Document.text? id
      name := ← Document.default? (Document.optional? Document.text?) none name
      host := ← Document.required? Document.text? host
      port := ← Document.default? Endpoint.portOfDocument? defaultPort port
      serial := ← Document.default? (Document.optional? Document.text?) none serial }
  | _ => none

end BrickEntry

namespace SchedulerSettings

def fieldNames : List String :=
  ["default_timeout_ms", "recovery_timeout_ms", "max_frame_size", "connect_timeout_ms"]

def toDocument (s : SchedulerSettings) : Document :=
  .table [("default_timeout_ms", wordDocument s.defaultTimeout),
    ("recovery_timeout_ms", wordDocument s.recoveryTimeout),
    ("max_frame_size", wordDocument s.maxFrame),
    ("connect_timeout_ms", wordDocument s.connectTimeout)]

def ofDocument? (how : Leniency) (d : Document) : Option SchedulerSettings := do
  let other : SchedulerSettings := {}
  match ← d.record? how fieldNames with
  | [defaultTimeout, recoveryTimeout, maxFrame, connectTimeout] =>
    return {
      defaultTimeout := ← Document.default? wordOfDocument? other.defaultTimeout defaultTimeout
      recoveryTimeout := ← Document.default? wordOfDocument? other.recoveryTimeout recoveryTimeout
      maxFrame := ← Document.default? wordOfDocument? other.maxFrame maxFrame
      connectTimeout := ← Document.default? wordOfDocument? other.connectTimeout connectTimeout }
  | _ => none

end SchedulerSettings

namespace HealthSettings

def fieldNames : List String :=
  ["active_interval_ms", "idle_interval_ms", "probe_timeout_ms", "reconnect_interval_ms"]

def toDocument (s : HealthSettings) : Document :=
  .ofFields [("active_interval_ms", some (wordDocument s.activeInterval)),
    ("idle_interval_ms", some (wordDocument s.idleInterval)),
    ("probe_timeout_ms", some (wordDocument s.probeTimeout)),
    ("reconnect_interval_ms", s.reconnectInterval.map wordDocument)]

def ofDocument? (how : Leniency) (d : Document) : Option HealthSettings := do
  let other : HealthSettings := {}
  match ← d.record? how fieldNames with
  | [active, idle, probe, reconnect] =>
    return {
      activeInterval := ← Document.default? wordOfDocument? other.activeInterval active
      idleInterval := ← Document.default? wordOfDocument? other.idleInterval idle
      probeTimeout := ← Document.default? wordOfDocument? other.probeTimeout probe
      reconnectInterval :=
        ← Document.default? (Document.optional? wordOfDocument?) other.reconnectInterval reconnect }
  | _ => none

end HealthSettings

namespace LoggingSettings

def fieldNames : List String := ["level"]

def toDocument (s : LoggingSettings) : Document :=
  .table [("level", .text s.level)]

def ofDocument? (how : Leniency) (d : Document) : Option LoggingSettings := do
  let other : LoggingSettings := {}
  match ← d.record? how fieldNames with
  | [level] => return { level := ← Document.default? Document.text? other.level level }
  | _ => none

end LoggingSettings

namespace Settings

def fieldNames : List String := ["scheduler", "health", "logging", "bricks"]

def toDocument (s : Settings) : Document :=
  .table [("scheduler", s.scheduler.toDocument), ("health", s.health.toDocument),
    ("logging", s.logging.toDocument), ("bricks", .list (s.bricks.map (·.toDocument)))]

def bricksOfDocument? (how : Leniency) (d : Document) : Option (List BrickEntry) :=
  d.items?.bind fun items => items.mapM (BrickEntry.ofDocument? how)

def ofDocument? (how : Leniency) (d : Document) : Option Settings := do
  match ← d.record? how fieldNames with
  | [scheduler, health, logging, bricks] =>
    return {
      scheduler := ← Document.default? (SchedulerSettings.ofDocument? how) {} scheduler
      health := ← Document.default? (HealthSettings.ofDocument? how) {} health
      logging := ← Document.default? (LoggingSettings.ofDocument? how) {} logging
      bricks := ← Document.default? (bricksOfDocument? how) [] bricks }
  | _ => none

end Settings
end BrickHost
