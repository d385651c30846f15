import BrickHost.Endpoint
import BrickHost.Identity
import BrickHost.Poller.Basic

/-! Settings of the monitor: timings, limits, and the bricks to connect to. Every value is accepted
when read; what schedulers and the health poller get is raised to usable values. -/

namespace BrickHost

/-- The characters of the Unicode property White_Space. -/
def isBlank (c : Char) : Bool :=
  let n := c.toNat
  (0x9 ≤ n && n ≤ 0xd) || n == 0x20 || n == 0x85 || n == 0xa0 || n == 0x1680 ||
    (0x2000 ≤ n && n ≤ 0x200a) || n == 0x2028 || n == 0x2029 || n == 0x202f || n == 0x205f ||
    n == 0x3000

def trimStart (s : List Char) : List Char :=
  s.dropWhile isBlank

def trimEnd (s : List Char) : List Char :=
  (s.reverse.dropWhile isBlank).reverse

def trim (s : List Char) : List Char :=
  trimEnd (trimStart s)

structure BrickEntry where
  id : String
  /-- The display name, the id unless given. -/
  name : Option String := none
  host : String
  port : UInt16 := defaultPort
  serial : Option String := none
  deriving DecidableEq, Repr

structure SchedulerSettings where
  defaultTimeout : UInt64 := 2000
  recoveryTimeout : UInt64 := 2000
  maxFrame : UInt64 := 1024
  connectTimeout : UInt64 := 3000
  deriving DecidableEq, Repr

structure HealthSettings where
  activeInterval : UInt64 := 500
  idleInterval : UInt64 := 2000
  probeTimeout : UInt64 := 700
  /-- Derived from the active interval unless given. -/
  reconnectInterval : Option UInt64 := none
  deriving DecidableEq, Repr

structure LoggingSettings where
  level : String := "info"
  deriving DecidableEq, Repr

structure Settings where
  scheduler : SchedulerSettings := {}
  health : HealthSettings := {}
  logging : LoggingSettings := {}
  bricks : List BrickEntry := []
  deriving DecidableEq, Repr

inductive SettingsError where
  | invalidOverride (arg : String)
  | duplicateBrick (id : String)
  | missingHost (id : String)
  deriving DecidableEq, Repr

namespace SettingsError

def message : SettingsError → String
  | invalidOverride arg => "invalid brick override " ++ quoted arg ++ ": expected id=host[:port]"
  | duplicateBrick id => "duplicate brick id " ++ quoted id
  | missingHost id => "brick " ++ quoted id ++ " has no host"

def diagnostic : SettingsError → String
  | invalidOverride arg => appliedText "InvalidOverride" (quoted arg)
  | duplicateBrick id => appliedText "DuplicateBrick" (quoted id)
  | missingHost id => appliedText "MissingHost" (quoted id)

end SettingsError

namespace BrickEntry

def displayName (b : BrickEntry) : String :=
  b.name.getD b.id

def endpoint (b : BrickEntry) : Endpoint where
  host := b.host
  port := b.port
  serial := b.serial

def identity (b : BrickEntry) : BrickIdentity where
  id := b.id
  displayName := b.displayName
  transport := .tcp

/-- What stands before the first `sep` and behind it. -/
def splitFirst? (sep : Char) : List Char → Option (List Char × List Char)
  | [] => none
  | c :: rest =>
    if c = sep then some ([], rest)
    else (splitFirst? sep rest).map fun (before, after) => (c :: before, after)

/-- Reads `id=host[:port]`. Blanks around the id and the address do not count. -/
def parseOverride (arg : String) : Except SettingsError BrickEntry :=
  match splitFirst? '=' arg.toList with
  | none => .error (.invalidOverride arg)
  | some (id, address) =>
    if (trim id).isEmpty then .error (.invalidOverride arg)
    else
      match Endpoint.parse (String.ofList (trim address)) with
      | .error _ => .error (.invalidOverride arg)
      | .ok e => .ok { id := String.ofList (trim id), host := e.host, port := e.port }

end BrickEntry

namespace Settings

/-- Moves the first brick of the entry's id to its address, or adds the entry behind the others. -/
def overrideIn (entry : BrickEntry) : List BrickEntry → List BrickEntry
  | [] => [entry]
  | b :: rest =>
    if b.id = entry.id then { b with host := entry.host, port := entry.port } :: rest
    else b :: overrideIn entry rest

/-- Applies overrides up to the first that cannot be read. -/
def applyOverrides (s : Settings) : List String → Settings × Option SettingsError
  | [] => (s, none)
  | arg :: rest =>
    match BrickEntry.parseOverride arg with
    | .error e => (s, some e)
    | .ok entry => applyOverrides { s with bricks := overrideIn entry s.bricks } rest

/-- The first brick that has no host or repeats an id. -/
def firstFault (seen : List String) : List BrickEntry → Option SettingsError
  | [] => none
  | b :: rest =>
    if (trim b.host.toList).isEmpty then some (.missingHost b.id)
    else if b.id ∈ seen then some (.duplicateBrick b.id)
    else firstFault (b.id :: seen) rest

def fault? (s : Settings) : Option SettingsError :=
  firstFault [] s.bricks

def leastMillis : Nat := 10

def atLeast (ms : UInt64) : Duration :=
  .ofMillis (Nat.max ms.toNat leastMillis)

def connectTimeout (s : Settings) : Duration :=
  atLeast s.scheduler.connectTimeout

/-- A frame holds at least a header and one byte, and at most what a length prefix can say. -/
def schedulerConfig (s : Settings) (label : String) : SchedulerConfig where
  label := label
  defaultTimeout := atLeast s.scheduler.defaultTimeout
  maxFrame := Nat.min (Nat.max s.scheduler.maxFrame.toNat (Header.size + 1)) 65535
  recoveryTimeout := atLeast s.scheduler.recoveryTimeout

def pollerOptions (s : Settings) : PollerOptions where
  active := atLeast s.health.activeInterval
  idle := (atLeast s.health.idleInterval).max (atLeast s.health.activeInterval)
  probeTimeout := atLeast s.health.probeTimeout
  reconnect := s.health.reconnectInterval.map atLeast

/-- The entry of an id. Of several the last counts. -/
def entry? (s : Settings) (id : String) : Option BrickEntry :=
  s.bricks.reverse.find? (·.id == id)

end Settings
end BrickHost
