import BrickHost.Document.Basic
import BrickHost.Error

/-! Addresses of bricks on the network. An address is split at its last colon, so a host may hold
colons as long as a port follows; without any colon the port is the default one. -/

namespace BrickHost

def defaultPort : UInt16 := 5555

inductive PortError where
  | empty
  | invalidDigit
  | tooLarge
  deriving DecidableEq, Repr

def PortError.message : PortError → String
  | empty => "cannot parse integer from empty string"
  | invalidDigit => "invalid digit found in string"
  | tooLarge => "number too large to fit in target type"

inductive EndpointError where
  | empty
  | missingHost (text : String)
  | invalidPort (text : String) (cause : PortError)
  deriving DecidableEq, Repr

namespace EndpointError

def message : EndpointError → String
  | empty => "empty endpoint"
  | missingHost text => "missing host in " ++ quoted text
  | invalidPort text cause => "invalid port in " ++ quoted text ++ ": " ++ cause.message

def toLinkError (e : EndpointError) : LinkError :=
  .other e.message

end EndpointError

structure Endpoint where
  host : String
  port : UInt16
  /-- The serial number that unlocks the brick, if it wants one. -/
  serial : Option String := none
  deriving DecidableEq, Repr

namespace Endpoint

def digit? (c : Char) : Option Nat :=
  if '0' ≤ c ∧ c ≤ '9' then some (c.toNat - 48) else none

/-- Reads digits onto a number. Of a bad digit and a number too large, what comes first counts. -/
def portDigits (n : Nat) : List Char → Except PortError Nat
  | [] => .ok n
  | c :: rest =>
    match digit? c with
    | none => .error .invalidDigit
    | some d => if 65535 < 10 * n + d then .error .tooLarge else portDigits (10 * n + d) rest

def portNumber (s : List Char) : Except PortError Nat :=
  match s with
  | [] => .error .empty
  | ['+'] => .error .invalidDigit
  | '+' :: digits => portDigits 0 digits
  | digits => portDigits 0 digits

/-- What stands before the last `sep` and behind it. -/
def splitLast? (sep : Char) : List Char → Option (List Char × List Char)
  | [] => none
  | c :: rest =>
    match splitLast? sep rest with
    | some (before, after) => some (c :: before, after)
    | none => if c = sep then some ([], rest) else none

def parse (s : String) : Except EndpointError Endpoint :=
  match splitLast? ':' s.toList with
  | none => if s.isEmpty then .error .empty else .ok { host := s, port := defaultPort }
  | some (host, port) =>
    match portNumber port with
    | .error cause => .error (.invalidPort s cause)
    | .ok n =>
      if host.isEmpty then .error (.missingHost s)
      else .ok { host := String.ofList host, port := UInt16.ofNat n }

def text (e : Endpoint) : String :=
  e.host ++ ":" ++ toString e.port.toNat

def portOfDocument? (d : Document) : Option UInt16 :=
  (d.word? 16).map UInt16.ofNat

def portDocument (port : UInt16) : Document :=
  .integer port.toNat

def fieldNames : List String := ["host", "port", "serial"]

def toDocument (e : Endpoint) : Document :=
  .ofFields [("host", some (.text e.host)), ("port", some (portDocument e.port)),
    ("serial", e.serial.map .text)]

def ofDocument? (how : Leniency) (d : Document) : Option Endpoint := do
  match ← d.record? how fieldNames with
  | [host, port, serial] =>
    return {
      host := ← Document.required? Document.text? host
      port := ← Document.required? portOfDocument? port
      serial := ← Document.default? (Document.optional? Document.text?) none serial }
  | _ => none

end Endpoint

/-- Looking up a host with a zero character in it fails before anything is sent. -/
def nulHostText : String := "file name contained an unexpected NUL byte"

/-- Nothing can be dialed without a network. A host that cannot even be looked up says so. -/
def Endpoint.dial (e : Endpoint) : LinkError :=
  if '\x00' ∈ e.host.toList then .transport nulHostText
  else .transport "network is unreachable"

end BrickHost
