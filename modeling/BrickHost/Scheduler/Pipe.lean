/-! A pipe: bytes on their way in one direction, at most as many as it has room for. Either end
may close it. What was written stays readable; what is written later is refused. -/

namespace BrickHost

structure Pipe where
  capacity : Nat
  bytes : List UInt8 := []
  closed : Bool := false
  deriving DecidableEq, Repr

namespace Pipe

def room (p : Pipe) : Nat :=
  p.capacity - p.bytes.length

/-- Takes as many of the bytes as there is room for. -/
def push (p : Pipe) (bytes : List UInt8) : Pipe :=
  { p with bytes := p.bytes ++ bytes.take p.room }

def drop (p : Pipe) (n : Nat) : Pipe :=
  { p with bytes := p.bytes.drop n }

def close (p : Pipe) : Pipe :=
  { p with closed := true }

end Pipe

inductive WriteFault where
  /-- After so many more bytes one write fails with the text. -/
  | failsAfter (count : Nat) (text : String)
  /-- One write takes no bytes. -/
  | takesNothing
  deriving DecidableEq, Repr

/-- A write failure that comes after so many more bytes. -/
structure WriteLimit where
  left : Nat
  text : String
  deriving DecidableEq, Repr

/-- How closing the outgoing direction ends. -/
inductive Closing where
  | clean
  | fails
  | stalls
  deriving DecidableEq, Repr

/-- The transport that a scheduler owns: two pipes, and the failures waiting in it. -/
structure Line where
  incoming : Pipe
  outgoing : Pipe
  /-- The next write takes no bytes, whatever else is in store. -/
  takesNothing : Bool := false
  writeLimit : Option WriteLimit := none
  readFault : Option String := none
  closing : Closing := .clean
  deriving DecidableEq, Repr

inductive Written where
  | accepted (count : Nat)
  | full
  | failed (text : String)
  deriving DecidableEq, Repr

namespace Line

def ofCapacity (capacity : Nat) : Line :=
  { incoming := { capacity := capacity }, outgoing := { capacity := capacity } }

def brokenText : String := "broken pipe"

def pushOut (l : Line) (bytes : List UInt8) : Line × Written :=
  if l.outgoing.closed then (l, .failed brokenText)
  else if l.outgoing.room = 0 then (l, .full)
  else
    let count := Nat.min l.outgoing.room bytes.length
    ({ l with outgoing := l.outgoing.push bytes }, .accepted count)

/-- Puts a failure in store, one of each sort. -/
def plant (l : Line) : WriteFault → Line
  | .takesNothing => { l with takesNothing := true }
  | .failsAfter count text => { l with writeLimit := some ⟨count, text⟩ }

/-- A write within the bytes that are left before a failure. -/
def writeWithin (l : Line) (bytes : List UInt8) : Line × Written :=
  match l.writeLimit with
  | none => l.pushOut bytes
  | some ⟨0, text⟩ => ({ l with writeLimit := none }, .failed text)
  | some ⟨left + 1, text⟩ =>
    match l.pushOut (bytes.take (left + 1)) with
    | (l', .accepted count) =>
      ({ l' with writeLimit := some ⟨left + 1 - count, text⟩ }, .accepted count)
    | result => result

def write (l : Line) (bytes : List UInt8) : Line × Written :=
  if l.takesNothing then
    ({ l with takesNothing := false }, .failed "failed to write frame to transport")
  else l.writeWithin bytes

/-- Both directions end, on either side. -/
def close (l : Line) : Line :=
  { l with incoming := l.incoming.close, outgoing := l.outgoing.close }

end Line
end BrickHost
