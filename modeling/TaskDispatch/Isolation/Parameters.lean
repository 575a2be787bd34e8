import TaskDispatch.Error.Cause
import TaskDispatch.Json.Decoder
import TaskDispatch.Json.Pointer
import TaskDispatch.Text.Inspection

/-!
# Isolated parameters

The parameters of an isolatable task are a live graph of values, which any number of handles share,
together with the isolated action they are for.  A snapshot is the graph as it stood at one moment;
it does not change when the graph does.

How an action decodes its parameters from a snapshot is user code, like all else that it does: it
may refuse the values for any reason, and it may panic.
-/

namespace TaskDispatch

open TaskDispatch.Text

/-- What comes of decoding the values of a snapshot. -/
inductive Decoding (Parameters : Type) where
  | decoded (parameters : Parameters)
  | refused (cause : Cause)
  | panicked

namespace Decoding

variable {Parameters : Type}

/-- True if parameters were decoded. -/
def isDecoded : Decoding Parameters → Bool
  | .decoded _ => true
  | _ => false

/-- A decoding that has read a document; a problem of the document is refused in its own words. -/
def ofRead : Except Json.Problem Parameters → Decoding Parameters
  | .ok parameters => .decoded parameters
  | .error problem => .refused (.ofText problem.message)

end Decoding

/-- An isolated action, by the name of its type and how it decodes its parameters. -/
structure IsolatedAction (Parameters : Type) where
  name : String
  materialize : Json → Decoding Parameters

/-- The place of a live graph. -/
abbrev GraphId := Nat

/-- A handle to a live graph and the action its values are for. -/
structure IsolatedParameters (Parameters : Type) where
  graph : GraphId
  action : IsolatedAction Parameters

namespace LiveGraph

/-- Sets a member of a graph.  A graph that is no object becomes an object of this one member. -/
def set (key : String) (value : Json) : Json → Json
  | .object members => .object (Json.insertMember key value members)
  | _ => .object [(key, value)]

theorem member?_set (key key' : String) (value graph : Json) :
    (set key value graph).member? key' = if key' = key then some value else graph.member? key' := by
  split
  case isTrue same =>
    subst same
    cases graph with
    | object members => exact Json.memberOf_insertMember_self ..
    | _ => exact if_pos rfl
  case isFalse other =>
    cases graph with
    | object members => exact Json.memberOf_insertMember_other other ..
    | _ => exact if_neg other

/-- Replaces the value that a pointer leads to, if it leads anywhere. -/
def replace (pointer : String) (value : Json) (graph : Json) : Option (Json × Json) :=
  match Json.pointerSteps pointer with
  | none => none
  | some steps => Json.replaceAt value steps graph

/-- A graph of parameters as diagnostics show it. -/
def inspect (actionName : String) (graph : Json) : String :=
  recordForm "IsolatedParameters"
    [ ("action_type", callForm "IsolatedActionType" [quoted actionName]),
      ("values", graph.inspect) ]

/-- A snapshot as diagnostics show it. -/
def inspectSnapshot (snapshot : Json) : String :=
  recordForm "IsolatedSnapshot" [("values", snapshot.inspect)]

end LiveGraph

end TaskDispatch
