import TaskDispatch.Error.Cause
import TaskDispatch.Json.Basic

/-!
# Services

The services that isolated actions may ask for when they are created, one for each type.
-/

namespace TaskDispatch

/-- A service, by the name of its type. -/
structure Service where
  typeName : String
  value : Json

/-- Registered services, at most one of each type. -/
abbrev Services := List Service

namespace Services

/-- Registers a service in the place of an earlier one of the same type. -/
def register (services : Services) (service : Service) : Services :=
  services.filter (fun other => other.typeName != service.typeName) ++ [service]

/-- Registers services in order. -/
def ofList (services : List Service) : Services := services.foldl register []

/-- The service of a type. -/
def find? (services : Services) (typeName : String) : Option Service :=
  List.find? (fun service => service.typeName == typeName) services

/-- The service of a type, or the cause that it is missing. -/
def require (services : Services) (typeName : String) : Except Cause Service :=
  match services.find? typeName with
  | some service => .ok service
  | none => .error (.ofText ("No service of type " ++ typeName ++ " is registered"))

/-- Services as diagnostics show them. -/
def inspect (services : Services) : String :=
  Text.recordForm "Services" [("count", toString services.length)]

end Services

end TaskDispatch
