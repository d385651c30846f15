import BrickHost.Text.Duration
import BrickHost.Wire.Error
import BrickHost.Wire.Kind

/-! How a request can fail, and what each failure says about the brick: after an encoding or
transport error the command was not executed, after an orphaned one nobody knows. -/

namespace BrickHost

inductive OrphanReason where
  | timeout
  | transportClosed
  deriving DecidableEq, Repr

namespace OrphanReason

def title : OrphanReason → String
  | timeout => "timeout"
  | transportClosed => "transport closed"

def name : OrphanReason → String
  | timeout => "Timeout"
  | transportClosed => "TransportClosed"

def ofName? (s : String) : Option OrphanReason :=
  [timeout, transportClosed].find? (·.name == s)

end OrphanReason

inductive LinkError where
  | encode (e : EncodeError)
  | decode (e : DecodeError)
  /-- Writing or connecting failed. -/
  | transport (text : String)
  /-- No reply came before the deadline or before the link closed. -/
  | orphaned (request : String) (reason : OrphanReason)
  | disposed
  /-- The brick answered and rejected the command. -/
  | protocol (kind : ReplyKind) (detail : String)
  | timeout (after : Duration)
  | other (text : String)
  deriving DecidableEq, Repr

namespace LinkError

def message : LinkError → String
  | encode e => "encode error: " ++ e.message
  | decode e => "decode error: " ++ e.message
  | transport text => "transport error: " ++ text
  | orphaned request reason => s!"request {request} orphaned ({reason.title})"
  | disposed => "scheduler disposed"
  | protocol kind detail => s!"brick rejected command ({kind.title}): {detail}"
  | timeout after => "timeout after " ++ after.text
  | other text => text

def diagnostic : LinkError → String
  | encode e => appliedText "Encode" e.diagnostic
  | decode e => appliedText "Decode" e.diagnostic
  | transport text => appliedText "Transport" (quoted text)
  | orphaned request reason =>
    recordText "Orphaned" [("request_id", quoted request), ("reason", reason.name)]
  | disposed => "Disposed"
  | protocol kind detail =>
    recordText "Protocol" [("kind", kind.name), ("detail", quoted detail)]
  | timeout after => appliedText "Timeout" after.text
  | other text => appliedText "Other" (quoted text)

/-- The brick may have executed the command. -/
def outcomeUnknown : LinkError → Bool
  | orphaned _ _ => true
  | _ => false

end LinkError

/-- What nobody can handle: there is no value to go on with, and all work ends at once. -/
inductive Fatal where
  /-- A sum is too large for the word it is counted in. -/
  | sum
  /-- Seconds and nanoseconds together are longer than the longest span. -/
  | span
  /-- Twice a span is longer than the longest span. -/
  | doubledSpan
  /-- A pipe has no room for anything. -/
  | emptyPipe
  deriving DecidableEq, Repr

def Fatal.message : Fatal → String
  | sum => "attempt to add with overflow"
  | span => "overflow in Duration::new"
  | doubledSpan => "overflow when multiplying duration by scalar"
  | emptyPipe => "`max_buf_size` must be greater than 0"

end BrickHost
