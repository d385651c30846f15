import BrickHost.Error
import BrickHost.Scheduler.Pipe
import BrickHost.Wire.Frame

/-! Streams of frames: as the inbox of a link, which fills from a pipe, and as bytes that come in at
once. Every whole frame is handed out before the end of the stream is reported. -/

namespace BrickHost

/-- The inbound side of a link: bytes read from the pipe and not yet cut into frames. -/
structure Inbox where
  buffer : List UInt8 := []
  /-- The buffer may hold a frame that was not looked for yet. -/
  unscanned : Bool := false
  ended : Bool := false
  deriving DecidableEq, Repr

/-- What one move of the inbox brings. -/
inductive Intake where
  | nothing
  | progress
  | frame (body : List UInt8)
  | closed (why : String)
  deriving DecidableEq, Repr

namespace Inbox

def endText : String := "end of stream"

/-- What a part of a frame at the end of the stream means. -/
def remainder : LinkError := .transport "bytes remaining on stream"

/-- Looks for a frame in the buffer. -/
def scan (limit : Nat) (i : Inbox) : Inbox × Intake :=
  match Frame.scan limit i.buffer with
  | .frame body rest => ({ i with buffer := rest }, .frame body)
  | .oversized size =>
    (i, .closed (LinkError.decode (.frameTooLarge size (Frame.limit limit))).message)
  | .short =>
    if i.ended then
      if i.buffer.isEmpty then (i, .closed endText) else (i, .closed remainder.message)
    else ({ i with unscanned := false }, .progress)

def read (i : Inbox) (p : Pipe) : Inbox × Pipe × Intake :=
  if p.bytes.isEmpty then
    if p.closed then ({ i with unscanned := true, ended := true }, p, .progress)
    else (i, p, .nothing)
  else
    ({ i with buffer := i.buffer ++ p.bytes, unscanned := true }, p.drop p.bytes.length, .progress)

/-- One move: a scan while the buffer is unscanned, else a read. -/
def next (limit : Nat) (i : Inbox) (p : Pipe) : Inbox × Pipe × Intake :=
  if i.unscanned then
    let (i', intake) := i.scan limit
    (i', p, intake)
  else i.read p

/-- One move at the scheduler's end of a line, where a read can be made to fail. -/
def receive (limit : Nat) (i : Inbox) (l : Line) : Inbox × Line × Intake :=
  match i.unscanned, l.readFault with
  | false, some text =>
    (i, { l with readFault := none }, .closed (LinkError.transport text).message)
  | _, _ =>
    let (i', p, intake) := i.next limit l.incoming
    (i', { l with incoming := p }, intake)

end Inbox

/-- A stream in both directions, seen from one end: frames are taken from what was received and put
behind what is to be sent. -/
structure FrameStream where
  max : Nat
  received : List UInt8 := []
  sent : List UInt8 := []
  deriving DecidableEq, Repr

/-- The frames that came out of the stream, and the error that ended it. -/
structure StreamOutput where
  frames : List (List UInt8)
  error : Option LinkError
  deriving DecidableEq, Repr

namespace FrameStream

def limit (s : FrameStream) : Nat :=
  Frame.limit s.max

def feed (s : FrameStream) (bytes : List UInt8) : FrameStream × StreamOutput :=
  let found := Frame.split s.max (s.received ++ bytes)
  ({ s with received := found.rest }, ⟨found.frames, found.error.map .decode⟩)

/-- The stream has ended; a part of a frame that is left over is an error. -/
def finish (s : FrameStream) : FrameStream × StreamOutput :=
  let (s, found) := s.feed []
  let left := if s.received.isEmpty then none else some Inbox.remainder
  (s, { found with error := found.error.or left })

def send (s : FrameStream) (body : List UInt8) : FrameStream × Option LinkError :=
  match Frame.encode? s.max body with
  | .ok bytes => ({ s with sent := s.sent ++ bytes }, none)
  | .error e => (s, some (.encode e))

end FrameStream

end BrickHost
