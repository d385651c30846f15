/-! A directory held in memory, for runs without a disk: its files, and the paths that lead to
them. -/

namespace BrickHost

structure Directory where
  /-- Paths of files, from here. -/
  files : List (String × List UInt8) := []
  deriving DecidableEq, Repr

namespace Directory

/-- The names along a path, without those that lead nowhere else. -/
def names (path : String) : List String :=
  (path.splitOn "/").filter fun name => name != "" && name != "."

/-- The directory itself, and every directory on the way to a file. -/
def holdsDirectory (d : Directory) (place : List String) : Bool :=
  place.isEmpty || d.files.any fun (path, _) =>
    let along := names path
    place.length < along.length && along.take place.length == place

/-- Walks from a place along parts of a path, each of which has to start from a directory. Nothing
is known of what lies above. -/
def walk (d : Directory) (place : List String) : List String → Option (List String)
  | [] => some place
  | part :: rest =>
    if d.holdsDirectory place then
      if part = "" ∨ part = "." then walk d place rest
      else if part = ".." then if place.isEmpty then none else walk d place.dropLast rest
      else walk d (place ++ [part]) rest
    else none

def find? (d : Directory) (path : String) : Option (List UInt8) :=
  if path.startsWith "/" then none
  else do
    let place ← d.walk [] (path.splitOn "/")
    let (_, content) ← d.files.find? fun (other, _) => names other == place
    return content

end Directory
end BrickHost
