import BrickHost.Text.Quoted

/-! The pool of sessions: at most one per brick, in the order of the brick ids. -/

namespace BrickHost

/-- `σ` is what stands for the scheduler of a session. -/
structure Pool (σ : Type) where
  sessions : List (String × σ) := []

namespace Pool

variable {σ : Type}

def find? (p : Pool σ) (id : String) : Option σ :=
  p.sessions.lookup id

/-- Puts a session where its id belongs, in the place of an older one. -/
def insertIn (id : String) (session : σ) : List (String × σ) → List (String × σ)
  | [] => [(id, session)]
  | (other, old) :: rest =>
    if id < other then (id, session) :: (other, old) :: rest
    else if id = other then (id, session) :: rest
    else (other, old) :: insertIn id session rest

def insert (p : Pool σ) (id : String) (session : σ) : Pool σ :=
  ⟨insertIn id session p.sessions⟩

def erase (p : Pool σ) (id : String) : Pool σ :=
  ⟨p.sessions.filter (·.1 != id)⟩

def ids (p : Pool σ) : List String :=
  p.sessions.map (·.1)

def contains (p : Pool σ) (id : String) : Bool :=
  (p.find? id).isSome

def size (p : Pool σ) : Nat :=
  p.sessions.length

def isEmpty (p : Pool σ) : Bool :=
  p.sessions.isEmpty

def diagnostic (p : Pool σ) : String :=
  recordText "SessionPool" [("sessions", listText (p.ids.map quoted))]

end Pool
end BrickHost
