import BrickHost.Document.Basic

/-! Who a brick is. -/

namespace BrickHost

inductive TransportKind where
  | usb
  | bluetooth
  | tcp
  | mock
  deriving DecidableEq, Repr

namespace TransportKind

def name : TransportKind → String
  | usb => "usb"
  | bluetooth => "bluetooth"
  | tcp => "tcp"
  | mock => "mock"

def ofName? (s : String) : Option TransportKind :=
  [usb, bluetooth, tcp, mock].find? (·.name == s)

def toDocument (k : TransportKind) : Document :=
  .text k.name

def ofDocument? (d : Document) : Option TransportKind :=
  d.case?.bind ofName?

end TransportKind

/-- The place of a brick in a daisy chain. -/
inductive BrickRole where
  | standalone
  | master
  | slave
  deriving DecidableEq, Repr

namespace BrickRole

def name : BrickRole → String
  | standalone => "standalone"
  | master => "master"
  | slave => "slave"

def ofName? (s : String) : Option BrickRole :=
  [standalone, master, slave].find? (·.name == s)

def toDocument (r : BrickRole) : Document :=
  .text r.name

def ofDocument? (d : Document) : Option BrickRole :=
  d.case?.bind ofName?

end BrickRole

structure BrickIdentity where
  id : String
  displayName : String
  role : BrickRole := .standalone
  transport : TransportKind
  rootPath : String := "/home/root/lms2012/prjs/"
  deriving DecidableEq, Repr

namespace BrickIdentity

def fieldNames : List String :=
  ["brickId", "displayName", "role", "transport", "rootPath"]

def toDocument (i : BrickIdentity) : Document :=
  .table [("brickId", .text i.id), ("displayName", .text i.displayName),
    ("role", i.role.toDocument), ("transport", i.transport.toDocument),
    ("rootPath", .text i.rootPath)]

def ofDocument? (how : Leniency) (d : Document) : Option BrickIdentity := do
  match ← d.record? how fieldNames with
  | [id, displayName, role, transport, rootPath] =>
    return {
      id := ← Document.required? Document.text? id
      displayName := ← Document.required? Document.text? displayName
      role := ← Document.required? BrickRole.ofDocument? role
      transport := ← Document.required? TransportKind.ofDocument? transport
      rootPath := ← Document.required? Document.text? rootPath }
  | _ => none

end BrickIdentity
end BrickHost
