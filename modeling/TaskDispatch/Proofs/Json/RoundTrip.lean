import Mathlib.Data.List.Sort
import TaskDispatch.Action.Inputs
import TaskDispatch.Error.Diagnostic
import TaskDispatch.Proofs.Json.Readers
import TaskDispatch.Proofs.Json.Writers

/-!
# Data is read back from its text

Changes, incremental inputs and diagnostics are read back from their text.  A text of a record may
be an object, whose members come in any order and may be joined by members that mean nothing to the
record, or the list of the values of its fields.  A diagnostic may leave out a hint or details that
it does not have.  The details of a diagnostic are a map: they come in any order, and every member
counts.

`Written` says for each type which texts are meant.  The main statement is `Json.data_read_back`.
-/

namespace TaskDispatch

open Json
open Text (Dictionary)

/-! ## Maps in any order -/

namespace Text.Dictionary

/-- A new name is put somewhere among the others. -/
theorem perm_insertEntry
    {name value : String}
    {entries : List (String × String)}
    (fresh : name ∉ entries.map Prod.fst) :
    (insertEntry name value entries).Perm ((name, value) :: entries) := by
  induction entries with
  | nil => exact .refl _
  | cons entry entries ih =>
      rw [List.map_cons, List.mem_cons, not_or] at fresh
      unfold insertEntry
      rw [if_neg fresh.1]
      split
      · exact .refl _
      · exact ((ih fresh.2).cons entry).trans (.swap _ _ _)

theorem perm_foldl_insert
    (entries : List (String × String))
    (dictionary : Dictionary)
    (distinct : ((dictionary.entries ++ entries).map Prod.fst).Nodup) :
    (entries.foldl (fun dictionary entry => dictionary.insert entry.1 entry.2)
        dictionary).entries.Perm
      (dictionary.entries ++ entries) := by
  induction entries generalizing dictionary with
  | nil => simp
  | cons entry entries ih =>
      have reordered : ((entry :: dictionary.entries) ++ entries).Perm
          (dictionary.entries ++ entry :: entries) :=
        List.perm_middle.symm
      have fresh : entry.1 ∉ dictionary.entries.map Prod.fst := by
        have distinct := ((reordered.map Prod.fst).nodup_iff.mpr distinct)
        simp only [List.cons_append, List.map_cons, List.nodup_cons] at distinct
        exact fun member => distinct.1 (by simp [List.mem_map.mp member])
      have inserted :
          (dictionary.insert entry.1 entry.2).entries.Perm (entry :: dictionary.entries) :=
        perm_insertEntry fresh
      have onward := (inserted.append_right entries).trans reordered
      exact (ih _ ((onward.map Prod.fst).nodup_iff.mpr distinct)).trans onward

/-- The entries of a dictionary make it up, in whatever order they come. -/
theorem ofList_eq_of_perm
    {entries : List (String × String)}
    {dictionary : Dictionary}
    (perm : entries.Perm dictionary.entries) :
    ofList entries = dictionary := by
  have distinct : (dictionary.entries.map Prod.fst).Nodup := by
    rw [List.Nodup, List.pairwise_map]
    exact dictionary.ordered.imp fun below same => absurd (same ▸ below) (String.lt_irrefl _)
  have gathered : (ofList entries).entries.Perm dictionary.entries :=
    (perm_foldl_insert entries empty ((perm.map Prod.fst).nodup_iff.mpr distinct)).trans perm
  refine eq_of_entries (gathered.eq_of_pairwise ?_ (ofList entries).ordered dictionary.ordered)
  intro left right _ _ below above
  exact absurd (String.lt_trans below above) (String.lt_irrefl _)

end Text.Dictionary

/-! ## Changes -/

namespace InputChange

/-- True of the texts of a change. -/
inductive Written (change : InputChange) (text : List Char) : Prop where
  | object {members : List (String × List Char)}
      (object : ObjectText members text)
      (other : OtherwiseAny ["path", "kind"] members)
      (path : Gives Quoted members "path" (some change.path))
      (kind : Gives NameText members "kind" (some change.kind.name))
  | list {path kind : List Char}
      (list : ArrayText [path, kind] text)
      (path : Quoted change.path path)
      (kind : NameText change.kind.name kind)

theorem takes
    {change : InputChange}
    {text : List Char}
    (written : change.Written text) :
    Takes schema.read change.toJson text := by
  have takesKind {text : List Char} (kind : NameText change.kind.name text) :
      Takes ChangeKind.schema.read (.text change.kind.name) text := by
    apply takes_name _ kind
    cases change.kind <;> decide
  cases written with
  | object object other path kind =>
      apply takes_object object
      · exact other
      · refine .cons ?_ (.cons ?_ .nil)
        · exact filled_of_given Json.text rfl (fun _ => takes_text rfl) path
        · exact filled_of_given Json.text rfl (fun _ => takesKind) kind
  | list list path kind =>
      apply takes_sequence list
      exact .cons (takes_text rfl path) (.cons (takesKind kind) .nil)

theorem written_toJson (change : InputChange) : change.Written (write change.toJson) :=
  .object (objectText_write _) (by simp [OtherwiseAny]) ⟨_, rfl, quoted_writeText _⟩
    ⟨_, rfl, .inl (quoted_writeText _)⟩

end InputChange

/-! ## Incremental inputs -/

namespace IncrementalInputs

/-- True of the lists of the texts of changes, in order. -/
def ChangesText (changes : List InputChange) (text : List Char) : Prop :=
  ∃ texts, ArrayText texts text ∧ List.Forall₂ InputChange.Written changes texts

/-- True of the texts of inputs. -/
inductive Written (inputs : IncrementalInputs) (text : List Char) : Prop where
  | object {members : List (String × List Char)}
      (object : ObjectText members text)
      (other : OtherwiseAny ["incremental", "changes"] members)
      (incremental : Gives BooleanText members "incremental" (some inputs.incremental))
      (changes : Gives ChangesText members "changes" (some inputs.changes))
  | list {incremental changes : List Char}
      (list : ArrayText [incremental, changes] text)
      (incremental : BooleanText inputs.incremental incremental)
      (changes : ChangesText inputs.changes changes)

/-- Changes as a list. -/
def changesJson (changes : List InputChange) : Json := .array (changes.map InputChange.toJson)

theorem takes_changes
    {changes : List InputChange}
    {text : List Char}
    (written : ChangesText changes text) :
    Takes (Schema.list InputChange.schema).read (changesJson changes) text := by
  rcases written with ⟨texts, list, each⟩
  apply takes_list list
  exact List.forall₂_map_left_iff.mpr (each.imp fun _ _ => InputChange.takes)

theorem takes
    {inputs : IncrementalInputs}
    {text : List Char}
    (written : inputs.Written text) :
    Takes schema.read inputs.toJson text := by
  cases written with
  | object object other incremental changes =>
      apply takes_object object
      · exact other
      · refine .cons ?_ (.cons ?_ .nil)
        · exact filled_of_given Json.boolean rfl (fun _ => takes_boolean) incremental
        · exact filled_of_given changesJson rfl (fun _ => takes_changes) changes
  | list list incremental changes =>
      apply takes_sequence list
      exact .cons (takes_boolean incremental) (.cons (takes_changes changes) .nil)

theorem written_toJson (inputs : IncrementalInputs) : inputs.Written (write inputs.toJson) := by
  have changes : ChangesText inputs.changes (write (changesJson inputs.changes)) := by
    refine ⟨_, arrayText_write _, ?_⟩
    rw [List.map_map, List.forall₂_map_right_iff, List.forall₂_same]
    exact fun change _ => change.written_toJson
  exact .object (objectText_write _) (by simp [OtherwiseAny]) ⟨_, rfl, booleanText_write _⟩
    ⟨_, rfl, changes⟩

end IncrementalInputs

/-! ## Diagnostics -/

namespace Diagnostic

/-- True of a hint, or of null if there is none. -/
def HintText : Option String → List Char → Prop
  | none, written => written = ['n', 'u', 'l', 'l']
  | some hint, written => Quoted hint written

/-- True of the objects that hold details, in whatever order, and nothing else. -/
def DetailsText (details : Dictionary) (text : List Char) : Prop :=
  ∃ entries members,
    entries.Perm details.entries ∧ ObjectText members text ∧
      List.Forall₂ (fun entry member => member.1 = entry.1 ∧ Quoted entry.2 member.2) entries
        members

/-- True of the texts of a diagnostic.  An object may leave out a hint or details that are not
there. -/
inductive Written (diagnostic : Diagnostic) (text : List Char) : Prop where
  | object {members : List (String × List Char)}
      {hint? : Option (Option String)}
      {details? : Option Dictionary}
      (object : ObjectText members text)
      (other : OtherwiseAny ["code", "summary", "fix_hint", "context"] members)
      (code : Gives Quoted members "code" (some diagnostic.code))
      (summary : Gives Quoted members "summary" (some diagnostic.summary))
      (hint : Gives HintText members "fix_hint" hint?)
      (hintMeant : hint?.getD none = diagnostic.fixHint)
      (details : Gives DetailsText members "context" details?)
      (detailsMeant : details?.getD .empty = diagnostic.details)
  | list {code summary hint details : List Char}
      (list : ArrayText [code, summary, hint, details] text)
      (code : Quoted diagnostic.code code)
      (summary : Quoted diagnostic.summary summary)
      (hint : HintText diagnostic.fixHint hint)
      (details : DetailsText diagnostic.details details)

theorem takes_hint
    {hint : Option String}
    {text : List Char}
    (written : HintText hint text) :
    Takes (Schema.nullable .text).read (.ofText? hint) text := by
  cases hint with
  | none =>
      cases written
      exact takes_null
  | some hint =>
      apply takes_present (takes_text rfl written)
      rcases written with ⟨spelled, -, rfl⟩
      simp

/-- A detail as a member of an object. -/
def detailMember (detail : String × String) : String × Json := (detail.1, .text detail.2)

/-- Details as an object. -/
def detailsJson (details : Dictionary) : Json := .object (details.entries.map detailMember)

theorem insertMember_map (name value : String) (entries : List (String × String)) :
    insertMember name (.text value) (entries.map detailMember) =
      (Dictionary.insertEntry name value entries).map detailMember := by
  induction entries with
  | nil => rfl
  | cons entry entries ih =>
      rw [List.map_cons, Dictionary.insertEntry, detailMember, insertMember, ih]
      split
      · rfl
      split
      · rfl
      · rfl

/-- Members are gathered in an object as details are in a dictionary. -/
theorem ofMembers_map (entries : List (String × String)) :
    ofMembers (entries.map detailMember) = detailsJson (.ofList entries) := by
  have gathered (details : Dictionary) :
      (entries.map detailMember).foldl (fun held member => insertMember member.1 member.2 held)
          (details.entries.map detailMember) =
        (entries.foldl (fun details entry => details.insert entry.1 entry.2)
          details).entries.map detailMember := by
    induction entries generalizing details with
    | nil => rfl
    | cons entry entries ih =>
        rw [List.map_cons, List.foldl_cons, List.foldl_cons, detailMember, insertMember_map]
        exact ih (details.insert entry.1 entry.2)
  exact congrArg Json.object (gathered .empty)

theorem takes_details
    {details : Dictionary}
    {text : List Char}
    (written : DetailsText details text) :
    Takes (Schema.map .text).read (detailsJson details) text := by
  rcases written with ⟨entries, members, perm, object, each⟩
  rw [← Dictionary.ofList_eq_of_perm perm, ← ofMembers_map]
  apply takes_map object
  rw [List.forall₂_map_left_iff]
  exact each.imp fun entry member here => ⟨here.1, takes_text rfl here.2⟩

theorem takes
    {diagnostic : Diagnostic}
    {text : List Char}
    (written : diagnostic.Written text) :
    Takes schema.read diagnostic.toJson text := by
  cases written with
  | object object other code summary hint hintMeant details detailsMeant =>
      unfold toJson
      rw [← hintMeant, ← detailsMeant]
      apply takes_object object
      · exact other
      · refine .cons ?_ (.cons ?_ (.cons ?_ (.cons ?_ .nil)))
        · exact filled_of_given Json.text rfl (fun _ => takes_text rfl) code
        · exact filled_of_given Json.text rfl (fun _ => takes_text rfl) summary
        · exact filled_of_gives Json.ofText? rfl (fun _ _ => takes_hint) rfl hint
        · exact filled_of_gives detailsJson rfl (fun _ _ => takes_details) rfl details
  | list list code summary hint details =>
      apply takes_sequence list
      exact .cons (takes_text rfl code) (.cons (takes_text rfl summary)
        (.cons (takes_hint hint) (.cons (takes_details details) .nil)))

theorem hintText_write (hint : Option String) : HintText hint (write (.ofText? hint)) := by
  cases hint with
  | none => rfl
  | some hint => exact quoted_writeText hint

theorem written_toJson (diagnostic : Diagnostic) :
    diagnostic.Written (write diagnostic.toJson) := by
  have details : DetailsText diagnostic.details (write (detailsJson diagnostic.details)) := by
    refine ⟨_, _, .refl _, objectText_write _, ?_⟩
    rw [List.map_map, List.forall₂_map_right_iff, List.forall₂_same]
    exact fun detail _ => ⟨rfl, quoted_writeText detail.2⟩
  exact @Written.object diagnostic _ _ (some diagnostic.fixHint) (some diagnostic.details)
    (objectText_write _) (by simp [OtherwiseAny]) ⟨_, rfl, quoted_writeText _⟩
    ⟨_, rfl, quoted_writeText _⟩ ⟨_, rfl, hintText_write _⟩ rfl ⟨_, rfl, details⟩ rfl

end Diagnostic

namespace Json

/-- Changes, inputs and diagnostics are read back from every text of theirs, and so from the text
that is written for them. -/
theorem data_read_back :
    (∀ (change : InputChange) (text : String),
      Document change.Written text → InputChange.ofText text = .ok change) ∧
    (∀ (inputs : IncrementalInputs) (text : String),
      Document inputs.Written text → IncrementalInputs.ofText text = .ok inputs) ∧
    (∀ (diagnostic : Diagnostic) (text : String),
      Document diagnostic.Written text → Diagnostic.ofText text = .ok diagnostic) ∧
    (∀ change : InputChange, InputChange.ofText (compact change.toJson) = .ok change) ∧
    (∀ inputs : IncrementalInputs, IncrementalInputs.ofText (compact inputs.toJson) = .ok inputs) ∧
    ∀ diagnostic : Diagnostic, Diagnostic.ofText (compact diagnostic.toJson) = .ok diagnostic := by
  have changes (change : InputChange) (text : String) (document : Document change.Written text) :
      InputChange.ofText text = .ok change :=
    readValue_of_takes change.ofJson?_toJson (document.imp fun _ => InputChange.takes)
  have inputs (inputs : IncrementalInputs) (text : String)
      (document : Document inputs.Written text) : IncrementalInputs.ofText text = .ok inputs :=
    readValue_of_takes inputs.ofJson?_toJson (document.imp fun _ => IncrementalInputs.takes)
  have diagnostics (diagnostic : Diagnostic) (text : String)
      (document : Document diagnostic.Written text) : Diagnostic.ofText text = .ok diagnostic :=
    readValue_of_takes diagnostic.ofJson?_toJson (document.imp fun _ => Diagnostic.takes)
  refine ⟨changes, inputs, diagnostics, ?_, ?_, ?_⟩
  · exact fun change => changes change _ (document_compact change.written_toJson)
  · exact fun value => inputs value _ (document_compact value.written_toJson)
  · exact fun diagnostic => diagnostics diagnostic _ (document_compact diagnostic.written_toJson)

/-! ## Texts in other forms -/

namespace Rearranged

def change : InputChange := ⟨"a.txt", .added⟩

/-- The kind is an object, and there is a member that means nothing. -/
def changeText : String :=
  compact
    (.object
      [ ("kind", .object [("added", .null)]), ("size", .null), ("path", .text "a.txt") ])

theorem written_change : Document change.Written changeText := by
  apply document_compact
  have other :
      OtherwiseAny ["path", "kind"]
        [ ("kind", write (.object [("added", .null)])), ("size", write .null),
          ("path", write (.text "a.txt")) ] := by
    simp [OtherwiseAny, write, WellFormed.null]
  have kind : NameText "added" (write (.object [("added", .null)])) :=
    .inr (objectText_write [("added", .null)])
  exact .object (objectText_write _) other ⟨_, rfl, quoted_writeText _⟩ ⟨_, rfl, kind⟩

def inputs : IncrementalInputs := ⟨true, [change, ⟨"b.txt", .removed⟩]⟩

/-- The inputs are a list, and so is one of the changes. -/
def inputsText : String :=
  compact
    (.array
      [ .boolean true,
        .array
          [ .array [.text "a.txt", .text "added"],
            .object [("kind", .text "removed"), ("path", .text "b.txt")] ] ])

theorem written_inputs : Document inputs.Written inputsText := by
  apply document_compact
  have first : change.Written (write (.array [.text "a.txt", .text "added"])) :=
    .list (arrayText_write [.text "a.txt", .text "added"]) (quoted_writeText _)
      (.inl (quoted_writeText _))
  have second :
      (⟨"b.txt", .removed⟩ : InputChange).Written
        (write (.object [("kind", .text "removed"), ("path", .text "b.txt")])) :=
    .object (objectText_write _) (by simp [OtherwiseAny]) ⟨_, rfl, quoted_writeText _⟩
      ⟨_, rfl, .inl (quoted_writeText _)⟩
  have changes :
      IncrementalInputs.ChangesText inputs.changes
        (write
          (.array
            [ .array [.text "a.txt", .text "added"],
              .object [("kind", .text "removed"), ("path", .text "b.txt")] ])) :=
    ⟨[_, _], arrayText_write [_, _], .cons first (.cons second .nil)⟩
  exact .list (arrayText_write [.boolean true, _]) (booleanText_write true) changes

def diagnostic : Diagnostic := ⟨"E1", "late", none, ⟨[("a", "1"), ("b", "2")], by decide⟩⟩

/-- The details are in another order, and there is no member for the hint. -/
def diagnosticText : String :=
  compact
    (.object
      [ ("context", .object [("b", .text "2"), ("a", .text "1")]),
        ("summary", .text "late"), ("code", .text "E1") ])

theorem written_diagnostic : Document diagnostic.Written diagnosticText := by
  apply document_compact
  have details :
      Diagnostic.DetailsText diagnostic.details
        (write (.object [("b", .text "2"), ("a", .text "1")])) :=
    ⟨_, _, .swap _ _ _, objectText_write _,
      .cons ⟨rfl, quoted_writeText _⟩ (.cons ⟨rfl, quoted_writeText _⟩ .nil)⟩
  exact @Diagnostic.Written.object diagnostic _ _ none (some diagnostic.details)
    (objectText_write _) (by simp [OtherwiseAny]) ⟨_, rfl, quoted_writeText _⟩
    ⟨_, rfl, quoted_writeText _⟩ rfl rfl ⟨_, rfl, details⟩ rfl

theorem read_back_rearranged :
    Document change.Written changeText ∧
      Document inputs.Written inputsText ∧
      Document diagnostic.Written diagnosticText ∧
      InputChange.ofText changeText = .ok change ∧
      IncrementalInputs.ofText inputsText = .ok inputs ∧
      Diagnostic.ofText diagnosticText = .ok diagnostic := by
  rcases data_read_back with ⟨changes, allInputs, diagnostics, -⟩
  exact
    ⟨written_change, written_inputs, written_diagnostic,
      changes _ _ written_change, allInputs _ _ written_inputs,
      diagnostics _ _ written_diagnostic⟩

end Rearranged

end Json

end TaskDispatch
