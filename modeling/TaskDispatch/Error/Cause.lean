import TaskDispatch.Text.Inspection

/-!
# Causes

A cause is a text with the causes it wraps, the outermost first.  A message shows the outermost
text only; the joined form shows all of them.
-/

namespace TaskDispatch

open TaskDispatch.Text

/-- Why something failed: the outermost text and the texts it wraps, the root last. -/
structure Cause where
  outermost : String
  wrapped : List String
deriving DecidableEq, Repr, Inhabited

namespace Cause

/-- A cause that wraps nothing. -/
def ofText (value : String) : Cause := ⟨value, []⟩

/-- All texts of a cause, the outermost first. -/
def texts (cause : Cause) : List String := cause.outermost :: cause.wrapped

/-- All texts of a cause in one line. -/
def line (cause : Cause) : String := joined ": " cause.texts

/-- Wraps a cause in another text. -/
def within (cause : Cause) (context : String) : Cause := ⟨context, cause.texts⟩

@[simp]
theorem texts_ofText (value : String) : (ofText value).texts = [value] := rfl

@[simp]
theorem texts_within (cause : Cause) (context : String) :
    (cause.within context).texts = context :: cause.texts := rfl

end Cause

end TaskDispatch
