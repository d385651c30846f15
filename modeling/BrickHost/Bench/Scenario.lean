import BrickHost.Bench.Step

/-! Scenarios: steps, and after each of them what can be seen of the bench. -/

namespace BrickHost

inductive ScenarioStep where
  | single (step : BenchStep)
  /-- Several steps that leave nobody else a turn. -/
  | batch (steps : List BenchStep)

inductive ScenarioAnswer where
  | single (answer : BenchAnswer)
  | batch (answers : List BenchAnswer)

/-- What is seen after a step: the answer, the clock, the records since the last step, and the state
of all that is left. -/
structure ScenarioView where
  answer : ScenarioAnswer
  now : Nat
  records : List BenchRecord
  pool : List String
  /-- `none` for a link whose handle was dropped. -/
  links : List (String × Option RuntimeSnapshot)
  registry : List BrickSnapshot

def BenchStep.fatal? : BenchStep → Option Fatal
  | .openLink spec => if spec.capacity = 0 then some .emptyPipe else none
  | _ => none

def ScenarioStep.fatal? : ScenarioStep → Option Fatal
  | .single step => step.fatal?
  | .batch steps => steps.findSome? (·.fatal?)

namespace Bench

/-- What bricks worked by hand have read since the last step. -/
abbrev Gathered := List (LinkId × List UInt8)

def readsAll (b : Bench) (link : LinkId) : Bool :=
  match b.farEnd? link with
  | some (.manual reads _) => reads
  | _ => false

/-- Reads all that has come to one far end. -/
def gatherAt (acc : Bench × Gathered) (link : LinkId) : Bench × Gathered :=
  let (b, gathered) := acc
  if b.readsAll link then
    let waiting := ((b.fleet.scheduler? link).map (·.line.outgoing.bytes.length)).getD 0
    if waiting = 0 then acc
    else
      let (b, data) := b.brickRead link waiting
      (b, gathered ++ [(link, data)])
  else acc

/-- Lets the bricks worked by hand read until nothing comes any more. -/
def gather : Nat → Bench × Gathered → Bench × Gathered
  | 0, acc => acc
  | fuel + 1, (b, gathered) =>
    let (b', gathered') := (List.range b.ports.length).foldl gatherAt (b, gathered)
    if gathered'.length = gathered.length then (b, gathered)
    else gather fuel (b'.run, gathered')

/-- The far end reads on, and has just come to the end of its stream. -/
def findsEnd (b : Bench) (link : LinkId) : Bool :=
  match b.farEnd? link, b.fleet.scheduler? link with
  | some (.manual true false), some s => s.line.outgoing.closed
  | _, _ => false

/-- Records what one far end has read, though it be gone since, and the end of its stream once. -/
def recordRead (gathered : Gathered) (b : Bench) (link : LinkId) : Bench :=
  let data := (gathered.filter (·.1 == link)).flatMap (·.2)
  let ended := b.findsEnd link
  if data.isEmpty ∧ ¬ ended then b
  else
    let b := b.record (.bytes (b.portName link) data ended)
    if ended then b.setFarEnd link (.manual true true) else b

def look (b : Bench) (answer : ScenarioAnswer) : Bench × ScenarioView :=
  let (b, gathered) := gather ample (b.run, [])
  let b := (List.range b.ports.length).foldl (recordRead gathered) b
  let names := (b.ports.map (·.name)).eraseDups
  let view := {
    answer := answer
    now := b.now
    records := b.records.reverse
    pool := b.fleet.pool.ids
    links := names.map fun name =>
      (name, (b.link? name).bind fun link =>
        if (b.port? link).any (·.held) then (b.fleet.scheduler? link).map (·.snapshot) else none)
    registry := b.fleet.registry.list }
  ({ b with records := [] }, view)

def performScenario (b : Bench) : List ScenarioStep → List ScenarioView
  | [] => []
  | .single step :: rest =>
    let (b, answer) := b.perform step
    let (b, view) := b.look (.single answer)
    view :: performScenario b rest
  | .batch steps :: rest =>
    let (b, answers) := b.performAll steps
    let (b, view) := b.look (.batch answers)
    view :: performScenario b rest

/-- The views of a scenario, unless one of its steps ends everything. -/
def runScenario (b : Bench) (steps : List ScenarioStep) : Except Fatal (List ScenarioView) :=
  match steps.findSome? (·.fatal?) with
  | some fault => .error fault
  | none => .ok (b.performScenario steps)

end Bench
end BrickHost
