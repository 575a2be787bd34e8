import TaskDispatch.Isolation.Parameters
import TaskDispatch.Isolation.Services
import TaskDispatch.Scenario.Reading

/-!
# The isolated actions and services of scenarios

Four isolated actions stand for those of users: one that echoes a message and runs operations, one
that checks a greeting, one that copies files, and one that refuses to be created.  What their types
and those of their services are called is up to whoever drives a scenario.
-/

namespace TaskDispatch.Scenario

/-- The names of the types that stand for those of users. -/
structure TypeNames where
  bus : String
  greeting : String
  echo : String
  greeter : String
  copy : String
  refuse : String

/-! ## Services -/

/-- The service with a short name; its value is one of its type, whatever was written. -/
def serviceOf? (names : TypeNames) (name : String) (value : Json) : Option Service :=
  match name with
  | "bus" => some ⟨names.bus, .text "bus"⟩
  | "greeting" => some ⟨names.greeting, .text value.textOrEmpty⟩
  | "string" => some ⟨ownedText, .text value.textOrEmpty⟩
  | "u32" => some ⟨"u32", .ofInt value.integerOrZero⟩
  | "u64" => some ⟨"u64", .ofInt value.integerOrZero⟩
  | "bool" => some ⟨"bool", .boolean value.isTrue⟩
  | _ => none

/-- Services in the order of their registration. -/
def servicesOf (names : TypeNames) (items : List Json) : Services :=
  Services.ofList (items.filterMap fun item =>
    (onlyMember? item).bind fun member => serviceOf? names member.1 member.2)

/-! ## Isolated actions -/

/-- The materialized parameters of an isolated action. -/
inductive Parameters where
  | echo (message : String) (count : Nat) (operations : List Operation)
  | greeter (greeting : String)
  | copy (source : String) (files : List String)
  | refuse

/-- The documents of parameters of the echoing action. -/
def echoSchema : Json.Schema :=
  .record "EchoParams"
    [ ("message", .refused, .text),
      ("count", .default (.ofNat 0), .unsigned 32),
      ("ops", .default .null, .any) ]

/-- The documents of parameters of the copying action. -/
def copySchema : Json.Schema :=
  .record "CopyParams" [("source", .refused, .text), ("files", .refused, .list .text)]

/-- The parameters of the echoing action that a document in plain form stands for. -/
def echoOf? : Json → Option Parameters
  | .object [("message", .text message), ("count", count), ("ops", operations)] =>
      some (.echo message (count.integer?.getD 0).toNat (operationsOf operations))
  | _ => none

/-- The parameters of the copying action that a document in plain form stands for. -/
def copyOf? : Json → Option Parameters
  | .object [("source", .text source), ("files", .array files)] =>
      some (.copy source (Json.texts files))
  | _ => none

/-- The parameters of the greeting action that a document in plain form stands for. -/
def greeterOf? (plain : Json) : Option Parameters := plain.text?.map .greeter

/-- Reads a snapshot against a schema and turns its plain form into parameters. -/
def materializeWith
    (schema : Json.Schema)
    (ofPlain? : Json → Option Parameters)
    (snapshot : Json) :
    Decoding Parameters :=
  .ofRead <|
    match schema.decode snapshot with
    | .error problem => .error problem
    | .ok plain =>
        match ofPlain? plain with
        | some parameters => .ok parameters
        | none => .error .malformed

/-- The isolated action with a short name. -/
def isolatedActionOf? (names : TypeNames) : String → Option (IsolatedAction Parameters)
  | "echo" => some ⟨names.echo, materializeWith echoSchema echoOf?⟩
  | "greeter" => some ⟨names.greeter, materializeWith .text greeterOf?⟩
  | "copy" => some ⟨names.copy, materializeWith copySchema copyOf?⟩
  | "refuse" => some ⟨names.refuse, materializeWith .any fun _ => some .refuse⟩
  | _ => none

/-- Forgets which service was found. -/
def found : Except Cause Service → Except Cause Unit
  | .ok _ => .ok ()
  | .error cause => .error cause

/-- Creates the action that takes these parameters. -/
def create (names : TypeNames) (services : Services) : Parameters → Except Cause Unit
  | .echo .. => found (services.require names.bus)
  | .greeter _ => found (services.require names.greeting)
  | .copy .. => .ok ()
  | .refuse => .error ⟨"refused to start", ["not today"]⟩

end TaskDispatch.Scenario
