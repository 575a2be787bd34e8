import TaskDispatch.Text.Quoted

/-!
# Inspection forms

The one-line forms in which diagnostics show the inside of a value: lists in brackets, tuples in
parentheses, and records as a name with its fields in braces.
-/

namespace TaskDispatch.Text

/-- Texts with a separator between each two. -/
def joined (separator : String) (texts : List String) : String :=
  separator.intercalate texts

/-- A list in brackets. -/
def listForm (items : List String) : String := "[" ++ joined ", " items ++ "]"

/-- A name with its arguments in parentheses. -/
def callForm (name : String) (arguments : List String) : String :=
  name ++ "(" ++ joined ", " arguments ++ ")"

/-- A named field. -/
def fieldForm (field : String × String) : String := field.1 ++ ": " ++ field.2

/-- A name with its fields in braces. -/
def recordForm (name : String) (fields : List (String × String)) : String :=
  name ++ " \x7b " ++ joined ", " (fields.map fieldForm) ++ " \x7d"

/-- A record of which only some fields are shown. -/
def partialRecordForm (name : String) (fields : List (String × String)) : String :=
  name ++ " \x7b " ++ joined ", " (fields.map fieldForm) ++ ", .. \x7d"

/-- A truth value. -/
def boolForm (value : Bool) : String := if value then "true" else "false"

/-- A value that may be absent. -/
def optionForm : Option String → String
  | none => "None"
  | some text => callForm "Some" [text]

end TaskDispatch.Text
