import TaskDispatch.Scenario.Expression
import TaskDispatch.Text.Inspection

/-!
# Scripts read from documents

Scripts are written as JSON values.  Reading follows the value down, and its bound is the depth of
the value, which no script exceeds.  A value that is no script of the kind asked for reads as none.
-/

namespace TaskDispatch

namespace Json

mutual

/-- The depth of a value. -/
def depth : Json → Nat
  | .array items => depthItems items + 1
  | .object members => depthMembers members + 1
  | _ => 1

/-- The greatest depth of the items of a list. -/
def depthItems : List Json → Nat
  | [] => 0
  | item :: items => max (depth item) (depthItems items)

/-- The greatest depth of the values of members. -/
def depthMembers : List (String × Json) → Nat
  | [] => 0
  | (_, value) :: members => max (depth value) (depthMembers members)

end

/-- A member of an object that is neither missing nor null. -/
def present? (json : Json) (key : String) : Option Json :=
  match json.member? key with
  | some .null => none
  | other => other

/-- A member that is a text. -/
def textAt? (json : Json) (key : String) : Option String := (json.present? key).bind text?

/-- A member that is a list; a missing one is empty. -/
def itemsAt (json : Json) (key : String) : List Json :=
  ((json.present? key).bind items?).getD []

/-- True if a value is exactly true: a flag that is written in any other way is off. -/
def isTrue : Json → Bool
  | .boolean true => true
  | _ => false

/-- The text that a value is, or the empty text. -/
def textOrEmpty (json : Json) : String := json.text?.getD ""

/-- The integer that a value is, or zero. -/
def integerOrZero (json : Json) : Int := json.integer?.getD 0

/-- True if a member is exactly true. -/
def flagAt (json : Json) (key : String) : Bool := (json.member? key).any isTrue

/-- The texts among values. -/
def texts (items : List Json) : List String := items.filterMap text?

end Json

namespace Scenario

open TaskDispatch.Text

/-- The kind of a work action; anything but `finalize` is work of its own. -/
def workKind (name : String) : WorkKind := if name = "finalize" then .finalize else .workNode

/-- The shape with a name; a container if there is none. -/
def shapeOf : Option String → Shape
  | some "tasks" => .tasks
  | some "buildable" => .buildable
  | some "transformation" => .transformation
  | _ => .container

/-- The cause written as a text or as a list of texts, the outermost first. -/
def causeOf? : Json → Option Cause
  | .text value => some (.ofText value)
  | .array items =>
      match Json.texts items with
      | [] => none
      | outermost :: wrapped => some ⟨outermost, wrapped⟩
  | _ => none

/-- The inputs written as null, as a text for a rebuild, or as a list of changes. -/
def inputsOf? : Json → Option IncrementalInputs
  | .text _ => some .rebuild
  | .array items =>
      some (.ofChanges (items.filterMap fun
        | .array [.text path, .text kind] =>
            (ChangeKind.ofName? kind).map fun kind => ⟨path, kind⟩
        | _ => none))
  | _ => none

/-! ## Values that are no dependencies -/

/-- Numbers in descriptions are positional from `0.0001` up to `10 ^ 16`, and have no sign before a
positive exponent. -/
def numberLayout : Decimal.Layout where
  tie := .upward
  positionalFrom := some (-4)
  positionalBelow := some 16
  showsFraction := true
  signsExponent := false
  nan := "NaN"
  infinity := "inf"

/-- The name of the type of owned texts. -/
def ownedText : String := "alloc::string::String"

/-- The type of lists of a type. -/
def listType (item : String) : String := "alloc::vec::Vec<" ++ item ++ ">"

/-- The type of values that may be absent. -/
def optionType (item : String) : String := "core::option::Option<" ++ item ++ ">"

/-- A number as a binary64 number. -/
def realOf : Json → Decimal.Binary64
  | .number (.integer value) => .ofInt value
  | .number (.real value) => value
  | _ => .notANumber

/-- An integer as descriptions show it. -/
def describeInteger (value : Json) : String := toString value.integerOrZero

/-- A text as descriptions show it. -/
def describeText (value : Json) : String := quoted value.textOrEmpty

/-- A text of one character as descriptions show it. -/
def describeCharacter (value : Json) : String :=
  match value.textOrEmpty.toList with
  | character :: _ => quotedCharacter character
  | [] => ""

/-- A value that may be absent as descriptions show it. -/
def describeOption (describe : Json → String) : Json → String
  | .null => optionForm none
  | value => optionForm (some (describe value))

/-- A pair of a text and an integer as descriptions show it. -/
def describePair : Json → String
  | .array [left, right] => callForm "" [describeText left, describeInteger right]
  | _ => ""

/-- A list as descriptions show it. -/
def describeList (describe : Json → String) (value : Json) : String :=
  listForm ((value.items?.getD []).map describe)

/-- The value of a kind; what it holds is of that kind, whatever was written. -/
def foreignOf? (kind : String) (value : Json) : Option ForeignValue :=
  match kind with
  | "str" => some ⟨"&str", describeText value, .text value.textOrEmpty⟩
  | "string" => some ⟨ownedText, describeText value, .text value.textOrEmpty⟩
  | "char" => some ⟨"char", describeCharacter value, value⟩
  | "bool" => some ⟨"bool", boolForm value.isTrue, .boolean value.isTrue⟩
  | "u8" => some ⟨"u8", describeInteger value, .ofInt value.integerOrZero⟩
  | "i32" => some ⟨"i32", describeInteger value, .ofInt value.integerOrZero⟩
  | "u32" => some ⟨"u32", describeInteger value, .ofInt value.integerOrZero⟩
  | "i64" => some ⟨"i64", describeInteger value, .ofInt value.integerOrZero⟩
  | "u64" => some ⟨"u64", describeInteger value, .ofInt value.integerOrZero⟩
  | "f64" => some ⟨"f64", numberLayout.number (realOf value), value⟩
  | "unit" => some ⟨"()", "()", value⟩
  | "vec_i32" => some ⟨listType "i32", describeList describeInteger value, value⟩
  | "vec_string" => some ⟨listType ownedText, describeList describeText value, value⟩
  | "option_i32" => some ⟨optionType "i32", describeOption describeInteger value, value⟩
  | "option_string" => some ⟨optionType ownedText, describeOption describeText value, value⟩
  | "pair" => some ⟨"(" ++ ownedText ++ ", i32)", describePair value, value⟩
  | _ => none

/-- The error that a scripted contributor ends with. -/
def errorOf (value : Json) : UnsupportedDependency :=
  { typeName := (value.textAt? "type_name").getD ""
    description := (value.textAt? "description").getD ""
    owner := value.textAt? "owner" }

/-! ## Expressions and calls -/

/-- The member of an object that has only one. -/
def onlyMember? : Json → Option (String × Json)
  | .object [member] => some member
  | _ => none

mutual

/-- Reads a declaration. -/
def expressionOf? : Nat → Json → Option Expression
  | 0, _ => none
  | bound + 1, json =>
      let shape := shapeOf (json.textAt? "as")
      match json.present? "script", json.textAt? "ref" with
      | some script, _ => (scriptOf? bound script).map fun script => .scripted script shape
      | none, some name => some (.reference name shape)
      | none, none =>
          match onlyMember? json with
          | some ("task", .text name) => some (.task name)
          | some ("tasks", .array names) => some (.tasks (Json.texts names))
          | some ("work", .text name) => some (.work name)
          | some ("finalize", .text description) => some (.newWork .finalize description)
          | some ("work_node", .text description) => some (.newWork .workNode description)
          | some ("set", .array values) => some (.set (values.filterMap (expressionOf? bound)))
          | some ("static_buildable", value) => (expressionOf? bound value).map .staticBuildable
          | some ("failing_buildable", .array [.text name, .text message]) =>
              some (.failingBuildable name message)
          | some ("failing_tasks", .array [.text name, .text message]) =>
              some (.failingTasks name message)
          | some ("other", value) =>
              match onlyMember? value with
              | some (kind, value) => (foreignOf? kind value).map .foreign
              | none => none
          | _ => none

/-- Reads a scripted contributor. -/
def scriptOf? : Nat → Json → Option Script
  | 0, _ => none
  | bound + 1, json =>
      some
        (.mk (json.textAt? "name") ((json.itemsAt "ops").filterMap (callOf? bound))
          ((json.present? "build").bind (expressionOf? bound))
          ((json.present? "fail").bind causeOf?) (Json.texts (json.itemsAt "tasks"))
          (json.flagAt "with_owner"))

/-- Reads a call of a scripted contributor. -/
def callOf? : Nat → Json → Option Call
  | 0, _ => none
  | bound + 1, json =>
      match onlyMember? json with
      | some ("add", value) => (expressionOf? bound value).map .add
      | some ("maybe_add", value) => (expressionOf? bound value).map .maybeAdd
      | some ("fail", value) => (causeOf? value).map .fail
      | some ("rescue", value) => (expressionOf? bound value).map .rescue
      | some ("owner", _) => some .owner
      | some ("raise", value) => some (.raise (errorOf value))
      | some ("depends_on", .array [.text task, value]) =>
          (expressionOf? bound value).map (.dependsOn task)
      | _ => none

end

/-- Reads a declaration of any depth. -/
def Expression.ofJson? (json : Json) : Option Expression := expressionOf? (2 * json.depth) json

/-- Reads an operation of a scripted body. -/
def Operation.ofJson? (json : Json) : Option Operation :=
  match onlyMember? json with
  | some ("log", value) => some (.log value)
  | some ("path", _) => some .path
  | some ("inputs", _) => some .inputs
  | some ("of_kind", .text kind) => (ChangeKind.ofName? kind).map .ofKind
  | some ("fail", value) => (causeOf? value).map .fail
  | some ("panic", _) => some .panic
  | some ("locked", .text lock) => some (.locked lock)
  | some ("record", .array [.text lock, .text task, .text action]) =>
      some (.record lock task action)
  | some ("execute", .array [.text executer, .text task]) => some (.execute executer task)
  | some ("set", .array [.text parameters, .text key, value]) => some (.set parameters key value)
  | some ("depends_on", .array [.text task, value]) =>
      (Expression.ofJson? value).map (.dependsOn task)
  | some ("clear", .text task) => some (.clear task)
  | some ("info", .array [.text store, .text type]) => some (.info store type)
  | some ("evict", .array [.text store, .text type]) => some (.evict store type)
  | _ => none

/-- Reads the operations of a scripted body; a value that is no list has none. -/
def operationsOf (json : Json) : List Operation :=
  (json.items?.getD []).filterMap Operation.ofJson?

end Scenario

end TaskDispatch
