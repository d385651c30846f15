import BrickHost.Document.Basic

/-! Tables of a TOML text while it is read. A table may be opened by its header, implied by the
header of another one, or made by dotted keys, and this decides what may still be added to it. -/

namespace BrickHost
namespace Toml

inductive Origin where
  | header
  | implied
  | dotted
  deriving DecidableEq, Repr

inductive Draft where
  | value (d : Document)
  | table (origin : Origin) (fields : List (String × Draft))
  /-- The elements of an array of tables; only the last one still grows. -/
  | tables (earlier : List (List (String × Draft))) (last : List (String × Draft))

abbrev Fields := List (String × Draft)

/-- Puts something in the place of the field with this key, or behind the others. -/
def put (key : String) (d : Draft) : Fields → Fields
  | [] => [(key, d)]
  | (other, old) :: rest =>
    if other = key then (key, d) :: rest else (other, old) :: put key d rest

/-- Changes the table at the end of a path. Missing tables on the way are made with the given
origin. A dotted key does not reach into a table that has a header. -/
def within (made : Origin) (change : Origin → Fields → Option Fields) :
    Origin → Fields → List String → Option Fields
  | origin, fields, [] => change origin fields
  | _, fields, key :: path =>
    match fields.lookup key with
    | none => do
      let inner ← within made change made [] path
      return put key (.table made inner) fields
    | some (.table origin inner) =>
      if made = .dotted ∧ origin = .header then none
      else do
        let inner ← within made change origin inner path
        return put key (.table origin inner) fields
    | some (.tables earlier last) => do
      let last ← within made change .header last path
      return put key (.tables earlier last) fields
    | some (.value _) => none

/-- A key is written once, and a dotted one only into a table that dotted keys made. -/
def assign (path : List String) (key : String) (d : Document) (fields : Fields) : Option Fields :=
  let change := fun origin inner =>
    if (path.isEmpty ∨ origin = .dotted) ∧ (inner.lookup key).isNone then
      some (put key (.value d) inner)
    else none
  within .dotted change .header fields path

/-- Opens a table that was at most implied before. -/
def openTable (path : List String) (key : String) (fields : Fields) : Option Fields :=
  let change := fun _ inner =>
    match inner.lookup key with
    | none => some (put key (.table .header []) inner)
    | some (.table .implied old) => some (put key (.table .header old) inner)
    | some _ => none
  within .implied change .header fields path

/-- Opens one more element of an array of tables. -/
def openElement (path : List String) (key : String) (fields : Fields) : Option Fields :=
  let change := fun _ inner =>
    match inner.lookup key with
    | none => some (put key (.tables [] []) inner)
    | some (.tables earlier last) => some (put key (.tables (earlier ++ [last]) []) inner)
    | some _ => none
  within .implied change .header fields path

mutual

def Draft.document : Draft → Document
  | .value d => d
  | .table _ fields => .table (fieldDocuments fields)
  | .tables earlier last => .list (elementDocuments earlier ++ [.table (fieldDocuments last)])

def fieldDocuments : List (String × Draft) → List (String × Document)
  | [] => []
  | (key, d) :: rest => (key, d.document) :: fieldDocuments rest

def elementDocuments : List (List (String × Draft)) → List Document
  | [] => []
  | fields :: rest => .table (fieldDocuments fields) :: elementDocuments rest

end

end Toml
end BrickHost
