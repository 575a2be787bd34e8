import TaskDispatch.Json.Reader
import TaskDispatch.Text.Dictionary

/-!
# Diagnostics

A diagnostic is what a person is shown about an error: a stable code, a summary, possibly a hint,
and details under names.
-/

namespace TaskDispatch

open TaskDispatch.Text

/-- A diagnostic. -/
structure Diagnostic where
  code : String
  summary : String
  fixHint : Option String
  details : Dictionary
deriving DecidableEq, Repr

namespace Diagnostic

/-- A diagnostic without hint and details. -/
def ofSummary (code summary : String) : Diagnostic := ⟨code, summary, none, .empty⟩

/-- Sets the hint. -/
def withFixHint (diagnostic : Diagnostic) (hint : String) : Diagnostic :=
  { diagnostic with fixHint := some hint }

/-- Adds a detail. -/
def withDetail (diagnostic : Diagnostic) (name value : String) : Diagnostic :=
  { diagnostic with details := diagnostic.details.insert name value }

/-- A diagnostic as a document. -/
def toJson (diagnostic : Diagnostic) : Json :=
  .object
    [ ("code", .text diagnostic.code),
      ("summary", .text diagnostic.summary),
      ("fix_hint", .ofText? diagnostic.fixHint),
      ("context",
        .object (diagnostic.details.entries.map fun detail => (detail.1, .text detail.2))) ]

/-- The documents of diagnostics. -/
def schema : Json.Schema :=
  .record "ErrorInfo"
    [ ("code", .refused, .text),
      ("summary", .refused, .text),
      ("fix_hint", .null, .nullable .text),
      ("context", .default (.object []), .map .text) ]

/-- The text of a member of a document in plain form. -/
def detailOf : String × Json → Option (String × String)
  | (name, .text value) => some (name, value)
  | _ => none

/-- The diagnostic that a document in plain form stands for. -/
def ofJson? : Json → Option Diagnostic
  | .object
      [ ("code", .text code), ("summary", .text summary), ("fix_hint", hint),
        ("context", .object details) ] =>
      some
        { code, summary
          fixHint := hint.text?
          details := .ofList (details.filterMap detailOf) }
  | _ => none

/-- Reads a diagnostic from JSON text. -/
def ofText (written : String) : Except Json.Problem Diagnostic := schema.readValue ofJson? written

theorem filterMap_detailOf (details : List (String × String)) :
    (details.map fun detail => (detail.1, Json.text detail.2)).filterMap detailOf = details := by
  induction details with
  | nil => rfl
  | cons detail details ih => simpa [detailOf] using ih

/-- The document of a diagnostic stands for it. -/
@[simp]
theorem ofJson?_toJson (diagnostic : Diagnostic) :
    ofJson? diagnostic.toJson = some diagnostic := by
  simp only [ofJson?, toJson, filterMap_detailOf, Json.text?_ofText?, Dictionary.ofList_entries]

end Diagnostic

end TaskDispatch
