/-! Documents: the trees that settings and snapshots are written as, whatever the notation. -/

namespace BrickHost

inductive Document where
  | null
  | bool (value : Bool)
  | integer (value : Int)
  /-- A number that is not written as a whole one. -/
  | real
  | text (value : String)
  /-- A text or table with a text in it that stands for no characters. -/
  | garbled
  | moment
  | list (items : List Document)
  | table (fields : List (String × Document))
  deriving Inhabited

/-- How much a notation forgives where a record is written as a list. -/
structure Leniency where
  /-- Items past the last field are passed over. -/
  extraItems : Bool
  /-- A date or time stands for a record without known fields. -/
  momentAsRecord : Bool

namespace Document

def text? : Document → Option String
  | text s => some s
  | _ => none

/-- A whole number that fits so many bits. -/
def word? (bits : Nat) : Document → Option Nat
  | integer n => if 0 ≤ n ∧ n.toNat < Nat.pow 2 bits then some n.toNat else none
  | _ => none

/-- An absent value is written as `null` or left out. -/
def optional? {α : Type} (read : Document → Option α) : Document → Option (Option α)
  | null => some none
  | d => (read d).map some

/-- The name of a case, alone or with an empty value behind it. -/
def case? : Document → Option String
  | text s => some s
  | table [(s, null)] => some s
  | _ => none

def items? : Document → Option (List Document)
  | list items => some items
  | _ => none

/-- The value of a field, `none` if it is written twice. -/
def fieldOnce (fields : List (String × Document)) (name : String) : Option (Option Document) :=
  match fields.filter (·.1 == name) with
  | [] => some none
  | [(_, d)] => some (some d)
  | _ => none

/-- The fields of a record in the order of their names, absent ones as `none`. A record is a table,
or a list of its values. Other fields of a table do not matter. -/
def record? (how : Leniency) (names : List String) : Document → Option (List (Option Document))
  | table fields => names.mapM (fieldOnce fields)
  | list items =>
    if names.length < items.length ∧ ¬ how.extraItems then none
    else
      let given := (items.take names.length).map some
      some (given ++ List.replicate (names.length - given.length) none)
  | moment => if how.momentAsRecord then some (names.map fun _ => none) else none
  | _ => none

def required? {α : Type} (read : Document → Option α) : Option Document → Option α
  | some d => read d
  | none => none

/-- A field with a value to fall back on when it is absent. -/
def default? {α : Type} (read : Document → Option α) (fallback : α) : Option Document → Option α
  | some d => read d
  | none => some fallback

/-- A table without the fields that have no value. -/
def ofFields (fields : List (String × Option Document)) : Document :=
  table (fields.filterMap fun (name, d) => d.map (name, ·))

def ofOption : Option String → Document
  | none => null
  | some s => text s

end Document
end BrickHost
