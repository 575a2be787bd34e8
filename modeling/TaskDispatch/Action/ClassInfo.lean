import TaskDispatch.Action.TaskType
import TaskDispatch.Error.Metadata

/-!
# Class info

The validated action metadata of a task type: which actions its tasks run, in which order, and
whether one of them takes incremental inputs.

Methods are met most derived layer first and in the order of their declaration.  Every method is
validated, also one that a more derived layer overrides.  A method whose name has been met before in
another layer is overridden and gives no action; one whose name was last met in the same layer is
an overload, and refused.
-/

namespace TaskDispatch

/-- What an action needs and how it runs. -/
inductive ActionKind where
  | standard
  | incremental
  /-- Run without the project lock, on parameters of its own. -/
  | isolated
deriving DecidableEq, Repr

namespace ActionKind

/-- The name of a kind. -/
def name : ActionKind → String
  | .standard => "standard"
  | .incremental => "incremental"
  | .isolated => "isolated"

/-- The kind with a name. -/
def ofName? : String → Option ActionKind
  | "standard" => some .standard
  | "incremental" => some .incremental
  | "isolated" => some .isolated
  | _ => none

/-- The documents of kinds. -/
def schema : Json.Schema := .choice ["standard", "incremental", "isolated"]

@[simp]
theorem ofName?_name (kind : ActionKind) : ofName? kind.name = some kind := by
  cases kind <;> rfl

end ActionKind

/-- What an action is made from: a method of a layer, or the isolated action of a whole type. -/
inductive ActionFactory (Body : Type) where
  | standard (typeName : String) (method : ActionMethod Body)
  | incremental (typeName : String) (method : ActionMethod Body)
  | isolated (typeName : String)

namespace ActionFactory

variable {Body : Type}

/-- The kind of the action. -/
def kind : ActionFactory Body → ActionKind
  | .standard .. => .standard
  | .incremental .. => .incremental
  | .isolated _ => .isolated

/-- The name of the action as messages show it. -/
def displayName : ActionFactory Body → String
  | .standard typeName method => MetadataError.methodName typeName method.name
  | .incremental typeName method => MetadataError.methodName typeName method.name
  | .isolated typeName => typeName ++ " (isolated)"

/-- True if the action takes incremental inputs. -/
def isIncremental (factory : ActionFactory Body) : Bool := factory.kind == .incremental

/-- The action of a method, if the method may be one. -/
def ofMethod
    (layer : TypeLayer Body)
    (method : ActionMethod Body) :
    Except MetadataError (ActionFactory Body) :=
  if method.isStatic then .error (.staticMethod layer.name method.name)
  else
    match method.parameters with
    | [] => .ok (.standard layer.name method)
    | [.incrementalInputs] => .ok (.incremental layer.name method)
    | [other] => .error (.invalidParameter layer.name method.name other.display)
    | _ => .error (.tooManyParameters layer.name method.name)

end ActionFactory

/-- The action metadata of a task type. -/
structure ClassInfo (Body : Type) where
  typeName : String
  cacheable : Bool
  incremental : Bool
  /-- What the actions are made from, in the order of execution. -/
  factories : List (ActionFactory Body)

/-- The actions found so far, and the layer in which each method name was last met. -/
structure ActionSearch (Body : Type) where
  owners : List (String × Identity)
  incremental : Bool
  factories : List (ActionFactory Body)

namespace ActionSearch

variable {Body : Type}

/-- Before any method is met. -/
def start : ActionSearch Body := ⟨[], false, []⟩

/-- The layer in which a name was last met. -/
def ownerOf (name : String) : List (String × Identity) → Option Identity
  | [] => none
  | (name', owner) :: rest => if name = name' then some owner else ownerOf name rest

/-- Meets a method of a layer. -/
def meet
    (concrete : String)
    (search : ActionSearch Body)
    (declaration : TypeLayer Body × ActionMethod Body) :
    Except MetadataError (ActionSearch Body) :=
  let (layer, method) := declaration
  match ActionFactory.ofMethod layer method with
  | .error error => .error error
  | .ok factory =>
      let met := { search with owners := (method.name, layer.identity) :: search.owners }
      match ownerOf method.name search.owners with
      | some owner =>
          if owner = layer.identity then .error (.duplicateOverload layer.name method.name)
          else .ok met
      | none =>
          if factory.isIncremental && search.incremental then
            .error (.multipleIncremental concrete)
          else
            .ok
              { met with
                incremental := search.incremental || factory.isIncremental
                factories := search.factories ++ [factory] }

/-- Meets methods in order, up to the first that is refused. -/
def meetAll
    (concrete : String)
    (search : ActionSearch Body) :
    List (TypeLayer Body × ActionMethod Body) → Except MetadataError (ActionSearch Body)
  | [] => .ok search
  | declaration :: declarations =>
      match search.meet concrete declaration with
      | .error error => .error error
      | .ok search => meetAll concrete search declarations

end ActionSearch

namespace ClassInfo

variable {Body : Type}

/-- The isolated action of a type, if it is isolatable. -/
def isolatedActions (type : TaskType Body) : List (ActionFactory Body) :=
  if type.isIsolatable then [.isolated type.name] else []

/-- The class info of a type, or the first violation in its declarations. -/
def build (type : TaskType Body) : Except MetadataError (ClassInfo Body) :=
  match ActionSearch.start.meetAll type.name type.declarations with
  | .error error => .error error
  | .ok search =>
      .ok
        { typeName := type.name
          cacheable := type.isCacheable
          incremental := search.incremental
          factories := search.factories ++ isolatedActions type }

end ClassInfo

end TaskDispatch
