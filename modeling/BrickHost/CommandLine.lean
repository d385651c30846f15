import BrickHost.Bench.Monitoring
import BrickHost.SettingsDocument
import BrickHost.Toml.Parser
import BrickHost.Toml.Printer

/-! The command line of the monitor. Arguments are read from left to right and the first fault
counts; an option that wants a value takes the next argument unless that looks like an option. -/

namespace BrickHost

structure Invocation where
  config : Option String := none
  bricks : List String := []
  snapshotJson : Bool := false
  genConfig : Bool := false
  deriving DecidableEq, Repr

inductive Command where
  | run (call : Invocation)
  | help
  | misuse
  deriving DecidableEq, Repr

inductive ValueOption where
  | config
  | brick
  deriving DecidableEq, Repr

namespace CommandLine

def defaultPath : String := "ev3link-monitor.toml"

/-- Takes in the value of an option. A path is given once and is not empty. -/
def accept (call : Invocation) (option : ValueOption) (value : List Char) : Option Invocation :=
  match option with
  | .config =>
    if call.config.isSome ∨ value.isEmpty then none
    else some { call with config := some (String.ofList value) }
  | .brick => some { call with bricks := call.bricks ++ [String.ofList value] }

/-- An argument that cannot be the value of an option. -/
def looksLikeOption : List Char → Bool
  | '-' :: _ :: _ => true
  | _ => false

def longValue? : List Char → Option ValueOption
  | name =>
    if name = "config".toList then some .config
    else if name = "brick".toList then some .brick
    else none

def shortValue? : Char → Option ValueOption
  | 'c' => some .config
  | 'b' => some .brick
  | _ => none

def flag? (call : Invocation) (name : List Char) : Option Invocation :=
  if name = "snapshot-json".toList then
    if call.snapshotJson then none else some { call with snapshotJson := true }
  else if name = "gen-config".toList then
    if call.genConfig then none else some { call with genConfig := true }
  else none

/-- Reads arguments. Behind a lone double dash nothing may follow. -/
def read (call : Invocation) : List (List Char) → Command
  | [] => .run call
  | ['-', '-'] :: rest => if rest.isEmpty then .run call else .misuse
  | ('-' :: '-' :: long) :: rest =>
    match BrickEntry.splitFirst? '=' long with
    | some (name, value) =>
      match (longValue? name).bind (accept call · value) with
      | some call => read call rest
      | none => .misuse
    | none =>
      if long = "help".toList then .help
      else
        match longValue? long, rest with
        | some option, value :: rest =>
          if looksLikeOption value then .misuse
          else
            match accept call option value with
            | some call => read call rest
            | none => .misuse
        | some _, [] => .misuse
        | none, rest =>
          match flag? call long with
          | some call => read call rest
          | none => .misuse
  | ('-' :: short :: attached) :: rest =>
    match shortValue? short, attached, rest with
    | none, _, _ => if short = 'h' then .help else .misuse
    | some option, [], value :: rest =>
      if looksLikeOption value then .misuse
      else
        match accept call option value with
        | some call => read call rest
        | none => .misuse
    | some _, [], [] => .misuse
    | some option, attached, rest =>
      let value := match attached with
        | '=' :: value => value
        | value => value
      match accept call option value with
      | some call => read call rest
      | none => .misuse
  | _ :: _ => .misuse

structure Report where
  exit : Nat
  output : List String := []
  complaints : List String := []
  deriving DecidableEq, Repr

/-- Reads settings; those that cannot be read are the default ones. -/
def settingsOf (content : Option (List UInt8)) : Settings :=
  let read := do
    let text ← String.fromUTF8? ⟨(← content).toArray⟩
    Settings.ofDocument? Toml.leniency (← Toml.parse text)
  read.getD {}

def settingsText (s : Settings) : String :=
  Toml.text s.toDocument

/-- The settings as a file, if all their texts can be written. -/
def dump (s : Settings) : Except Fatal String :=
  match Toml.text? s.toDocument with
  | some text => .ok text
  | none => .error .sum

def refuse (e : SettingsError) : Report :=
  { exit := 1, complaints := ["Error: " ++ e.diagnostic] }

/-- Runs a call up to its first dials. `file` looks up the content of a file, and `stamp` is what
the clock shows. -/
def carryOut (call : Invocation) (file : String → Option (List UInt8)) (stamp : String) : Report :=
  if call.genConfig then { exit := 0, output := (settingsText {}).splitOn "\n" }
  else
    let settings := settingsOf (file (call.config.getD defaultPath))
    match settings.applyOverrides call.bricks with
    | (_, some e) => refuse e
    | (settings, none) =>
      match settings.fault? with
      | some e => refuse e
      | none =>
        { exit := 0
          output := if call.snapshotJson then Bench.firstLines stamp settings else [] }

/-- What comes of the arguments. -/
def report (args : List String) (file : String → Option (List UInt8)) (stamp : String) : Report :=
  match read {} (args.map (·.toList)) with
  | .help => { exit := 0 }
  | .misuse => { exit := 2 }
  | .run call => carryOut call file stamp

end CommandLine
end BrickHost
