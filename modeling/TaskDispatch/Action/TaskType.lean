import TaskDispatch.Action.Inputs
import TaskDispatch.Identity

/-!
# Task types

A task type declares action methods and extends at most one other type.  It is kept as the list of
its layers, its own one first: that list is the hierarchy in which actions are looked for.  What
the body of a method is does not matter here; it is a parameter of every definition.
-/

namespace TaskDispatch

open TaskDispatch.Text

/-- The type of a parameter of an action method. -/
inductive ParameterType where
  /-- The incremental inputs. -/
  | incrementalInputs
  /-- Any other type, by its name. -/
  | named (name : String)
deriving DecidableEq, Repr

namespace ParameterType

/-- A parameter type as messages show it. -/
def display : ParameterType → String
  | .incrementalInputs => "IncrementalInputs"
  | .named name => name

/-- A parameter type as diagnostics show it. -/
def inspect : ParameterType → String
  | .incrementalInputs => "IncrementalInputs"
  | .named name => callForm "Named" [quoted name]

end ParameterType

/-- A method declared as an action of a task. -/
structure ActionMethod (Body : Type) where
  name : String
  isStatic : Bool
  parameters : List ParameterType
  body : Body

namespace ActionMethod

variable {Body : Type}

/-- A method without parameters. -/
def standard (name : String) (body : Body) : ActionMethod Body := ⟨name, false, [], body⟩

/-- A method that takes incremental inputs. -/
def incremental (name : String) (body : Body) : ActionMethod Body :=
  ⟨name, false, [.incrementalInputs], body⟩

/-- A method as diagnostics show it. -/
def inspect (method : ActionMethod Body) : String :=
  partialRecordForm "ActionMethod"
    [ ("name", quoted method.name), ("is_static", boolForm method.isStatic),
      ("parameters", listForm (method.parameters.map ParameterType.inspect)) ]

end ActionMethod

/-- One layer of a task type: what a single type of the hierarchy declares. -/
structure TypeLayer (Body : Type) where
  identity : Identity
  name : String
  cacheable : Bool
  isolatable : Bool
  methods : List (ActionMethod Body)

/-- A task type: its own layer and those it extends, the nearest first. -/
structure TaskType (Body : Type) where
  own : TypeLayer Body
  ancestors : List (TypeLayer Body)

namespace TaskType

variable {Body : Type}

/-- The identity of a type. -/
def identity (type : TaskType Body) : Identity := type.own.identity

/-- The name of a type. -/
def name (type : TaskType Body) : String := type.own.name

/-- The layers of a type, the most derived first. -/
def hierarchy (type : TaskType Body) : List (TypeLayer Body) := type.own :: type.ancestors

/-- A type with the given layer that extends another type or none. -/
def extending (own : TypeLayer Body) (parent : Option (TaskType Body)) : TaskType Body :=
  ⟨own, parent.elim [] hierarchy⟩

/-- True if the type itself is marked as cacheable; the mark is not inherited. -/
def isCacheable (type : TaskType Body) : Bool := type.own.cacheable

/-- True if a layer of the type is isolatable. -/
def isIsolatable (type : TaskType Body) : Bool :=
  type.hierarchy.any TypeLayer.isolatable

/-- The type that a type extends. -/
def parent? (type : TaskType Body) : Option (TaskType Body) :=
  match type.ancestors with
  | [] => none
  | own :: ancestors => some ⟨own, ancestors⟩

/-- Every declared method with the layer that declares it, the most derived layer first. -/
def declarations (type : TaskType Body) : List (TypeLayer Body × ActionMethod Body) :=
  type.hierarchy.flatMap fun layer => layer.methods.map fun method => (layer, method)

/-- The layers of a type as diagnostics show them, identities replaced by `identity`. -/
def inspectLayers (identity : String) : List (TypeLayer Body) → Option String
  | [] => none
  | layer :: ancestors =>
      some (recordForm "TaskType"
        [ ("id", callForm "TaskTypeId" [identity]), ("name", quoted layer.name),
          ("parent", optionForm (inspectLayers identity ancestors)),
          ("cacheable", boolForm layer.cacheable), ("isolatable", boolForm layer.isolatable),
          ("methods", listForm (layer.methods.map ActionMethod.inspect)) ])

/-- A type as diagnostics show it. -/
def inspect (identity : String) (type : TaskType Body) : String :=
  (inspectLayers identity type.hierarchy).getD ""

@[simp]
theorem hierarchy_extending (own : TypeLayer Body) (parent : Option (TaskType Body)) :
    (extending own parent).hierarchy = own :: parent.elim [] hierarchy := rfl

end TaskType

end TaskDispatch
