import BrickHost.Scheduler.Basic

/-! A brick that answers by a script, at the far end of a line. It handles one command at a time
and goes through the script entry by entry; the last entry is for all further commands. -/

namespace BrickHost

inductive Answer where
  /-- Success: the echo of a system command, an empty reply to any other. -/
  | plain
  | silent
  | close
  /-- The counter of the reply is that of the command and so much more. -/
  | reply (kind : UInt8) (payload : List UInt8) (shift : UInt16)
  | body (bytes : List UInt8)
  deriving DecidableEq, Repr

structure Reaction where
  /-- In milliseconds. -/
  delay : Nat := 0
  answer : Answer := .plain
  deriving DecidableEq, Repr

inductive BrickPhase where
  | reading
  | pausing (until_ : Nat) (command : List UInt8) (answer : Answer)
  | writing (rest : List UInt8)
  | gone
  deriving DecidableEq, Repr

structure Brick where
  script : List Reaction := []
  inbox : Inbox := {}
  phase : BrickPhase := .reading
  deriving DecidableEq, Repr

inductive BrickSignal where
  | command (body : List UInt8)
  | streamEnd
  deriving DecidableEq, Repr

namespace Brick

/-- Bricks take frames of any length. -/
def frameLimit : Nat := 65535

/-- The entry for the next command, and the script for those after it. -/
def react : List Reaction → Reaction × List Reaction
  | [] => ({}, [])
  | [last] => (last, [last])
  | first :: rest => (first, rest)

def plainReply (counter : UInt16) (kind : UInt8) (payload : List UInt8) : Packet :=
  match kind, payload with
  | 1, op :: _ => Packet.reply counter .system [op, 0]
  | _, _ => Packet.reply counter .direct []

/-- The frame that answers a command, `none` for no answer. -/
def answerTo (command : List UInt8) : Answer → Option (List UInt8)
  | .silent | .close => none
  | .body bytes => some (Frame.encode bytes)
  | .plain =>
    match Header.decode command with
    | .ok h => some (Frame.encode (plainReply h.counter h.kind (command.drop Header.size)).body)
    | .error _ => none
  | .reply kind payload shift =>
    match Header.decode command with
    | .ok h => some (Frame.encode (Header.encode ⟨h.counter + shift, kind⟩ ++ payload))
    | .error _ => none

def act (b : Brick) (l : Line) (command : List UInt8) (answer : Answer) : Brick × Line :=
  match answer with
  | .close => ({ b with phase := .gone }, l.close)
  | answer =>
    match answerTo command answer with
    | some bytes => ({ b with phase := .writing bytes }, l)
    | none => ({ b with phase := .reading }, l)

/-- One move of the brick, `none` while it has to wait. -/
def step (b : Brick) (l : Line) (now : Nat) : Option (Brick × Line × List BrickSignal) :=
  match b.phase with
  | .gone => none
  | .reading =>
    match b.inbox.next frameLimit l.outgoing with
    | (_, _, .nothing) => none
    | (inbox, p, .progress) => some ({ b with inbox := inbox }, { l with outgoing := p }, [])
    | (_, _, .closed _) => some ({ b with phase := .gone }, l.close, [.streamEnd])
    | (inbox, p, .frame body) =>
      let (reaction, script) := react b.script
      let b := { b with inbox := inbox, script := script }
      let l := { l with outgoing := p }
      if reaction.delay = 0 then
        let (b, l) := b.act l body reaction.answer
        some (b, l, [.command body])
      else
        some ({ b with phase := .pausing (now + reaction.delay) body reaction.answer }, l,
          [.command body])
  | .pausing until_ command answer =>
    if until_ ≤ now then
      let (b, l) := b.act l command answer
      some (b, l, [])
    else none
  | .writing rest =>
    if l.incoming.closed then some ({ b with phase := .reading }, l, [])
    else if rest.isEmpty then some ({ b with phase := .reading }, l, [])
    else if l.incoming.room = 0 then none
    else
      some ({ b with phase := .writing (rest.drop l.incoming.room) },
        { l with incoming := l.incoming.push rest }, [])

def alarm? (b : Brick) : Option Nat :=
  match b.phase with
  | .pausing until_ _ _ => some until_
  | _ => none

end Brick
end BrickHost
