/-! The kind bytes of command and reply packets. Commands are 0 and 1, replies 2 to 5, so a kind
byte alone tells which of the two a packet is. -/

namespace BrickHost

/-- What a command asks for. Every command wants a reply. -/
inductive CommandKind where
  /-- Bytecode; the reply carries the global variables. -/
  | direct
  /-- A firmware command on files, mailboxes or handles. -/
  | system
  deriving DecidableEq, Repr

inductive ReplyKind where
  | direct
  | system
  | directError
  | systemError
  deriving DecidableEq, Repr

namespace CommandKind

def byte : CommandKind → UInt8
  | direct => 0
  | system => 1

def ofByte? (b : UInt8) : Option CommandKind :=
  if b = 0 then some direct else if b = 1 then some system else none

def title : CommandKind → String
  | direct => "direct"
  | system => "system"

def name : CommandKind → String
  | direct => "DirectReply"
  | system => "SystemReply"

theorem ofByte?_byte (k : CommandKind) : ofByte? k.byte = some k := by
  cases k <;> rfl

theorem byte_of_ofByte? {b : UInt8} {k : CommandKind} (h : ofByte? b = some k) : k.byte = b := by
  unfold ofByte? at h
  split at h
  · cases h; exact (by assumption : b = 0).symm
  · split at h
    · cases h; exact (by assumption : b = 1).symm
    · cases h

end CommandKind

namespace ReplyKind

def byte : ReplyKind → UInt8
  | direct => 2
  | system => 3
  | directError => 4
  | systemError => 5

def ofByte? (b : UInt8) : Option ReplyKind :=
  if b = 2 then some direct
  else if b = 3 then some system
  else if b = 4 then some directError
  else if b = 5 then some systemError
  else none

/-- The brick rejected the command. -/
def isError : ReplyKind → Bool
  | direct | system => false
  | directError | systemError => true

def isSystem : ReplyKind → Bool
  | system | systemError => true
  | direct | directError => false

def title : ReplyKind → String
  | direct => "direct reply"
  | system => "system reply"
  | directError => "direct reply error"
  | systemError => "system reply error"

def name : ReplyKind → String
  | direct => "DirectReply"
  | system => "SystemReply"
  | directError => "DirectReplyError"
  | systemError => "SystemReplyError"

theorem ofByte?_byte (k : ReplyKind) : ofByte? k.byte = some k := by
  cases k <;> rfl

theorem byte_of_ofByte? {b : UInt8} {k : ReplyKind} (h : ofByte? b = some k) : k.byte = b := by
  unfold ofByte? at h
  repeat' split at h
  all_goals first
    | (cases h; symm; assumption)
    | cases h

end ReplyKind

theorem CommandKind.byte_ne_replyKind_byte (c : CommandKind) (r : ReplyKind) :
    c.byte ≠ r.byte := by
  cases c <;> cases r <;> decide

end BrickHost
