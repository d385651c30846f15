import BrickHost.Bytecode.Operand

/-! Payloads of direct commands: two bytes that reserve variables, then opcodes and operands in
the order given. -/

namespace BrickHost

structure DirectCommand where
  bytes : List UInt8
  deriving DecidableEq, Repr

namespace DirectCommand

def maxGlobals : Nat := 1023

def maxLocals : Nat := 63

/-- Reserves variables: ten bits for the globals, six for the locals. -/
def reserve (globals : UInt16) (locals : UInt8) : Except EncodeError DirectCommand :=
  if maxGlobals < globals.toNat then .error (.operandOutOfRange "global allocation" globals.toNat)
  else if maxLocals < locals.toNat then
    .error (.operandOutOfRange "local allocation" locals.toNat)
  else .ok ⟨wordBytes (globals ||| (locals.toUInt16 <<< 10))⟩

def opcode (c : DirectCommand) (op : UInt8) : DirectCommand :=
  ⟨c.bytes ++ [op]⟩

def operand (c : DirectCommand) (encoded : List UInt8) : DirectCommand :=
  ⟨c.bytes ++ encoded⟩

def size (c : DirectCommand) : Nat :=
  c.bytes.length

def isEmpty (c : DirectCommand) : Bool :=
  c.bytes.isEmpty

end DirectCommand

inductive DirectPiece where
  | opcode (op : UInt8)
  /-- Bytes that are already encoded. -/
  | raw (bytes : List UInt8)
  | operand (value : Operand)
  deriving DecidableEq

namespace DirectCommand

def add (c : DirectCommand) : DirectPiece → Except EncodeError DirectCommand
  | .opcode op => .ok (c.opcode op)
  | .raw bytes => .ok (c.operand bytes)
  | .operand value => value.encode.map c.operand

/-- Adds pieces in order and gives the size after each, or the fault of the first that cannot be
encoded and how many went before it. -/
def addAll (c : DirectCommand) :
    List DirectPiece → Except (EncodeError × Nat) (DirectCommand × List Nat)
  | [] => .ok (c, [])
  | piece :: rest =>
    match c.add piece with
    | .error e => .error (e, 0)
    | .ok c =>
      match c.addAll rest with
      | .error (e, before) => .error (e, before + 1)
      | .ok (done, sizes) => .ok (done, c.size :: sizes)

end DirectCommand
end BrickHost
