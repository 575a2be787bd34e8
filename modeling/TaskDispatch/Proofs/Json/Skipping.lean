import TaskDispatch.Json.Reader
import TaskDispatch.Proofs.Json.Tokens

/-!
# Any value can be passed over

Whatever value is written, of any depth, it is skipped to its end and no further
(`skipValue_of_wellFormed`).  The loops over the elements of lists and objects all look for the
closing bracket or the next element first; `Turns` is a list or an object as such a loop meets it.
-/

namespace TaskDispatch.Json

/-! ## Elements, one turn after the other -/

/-- True of the text of elements up to the closing bracket if a loop meets them: in each turn it
finds the bracket or the next element. -/
inductive Turns (closing : Char) : Bool → List (List Char) → List Char → Prop where
  | closed {first : Bool} {body : List Char}
      (ends : ∀ rest, skipSpace (body ++ rest) = closing :: rest)
      (nonempty : 0 < body.length) :
      Turns closing first [] body
  | element {first : Bool} {element later body : List Char} {elements : List (List Char)}
      (turn :
        ∀ rest, continuation closing first (body ++ rest) = .element (element ++ (later ++ rest)))
      (within : element.length + later.length ≤ body.length)
      (shorter : later.length < body.length)
      (stops : ∀ rest, Stops (later ++ rest))
      (onward : Turns closing false elements later) :
      Turns closing first (element :: elements) body

section Elements

variable
  {closing : Char}
  {first : Bool}
  {elements : List (List Char)}
  {body : List Char}

theorem Turns.nonempty (turns : Turns closing first elements body) : 0 < body.length := by
  induction turns with
  | closed _ nonempty => exact nonempty
  | element _ _ shorter _ _ ih => omega

/-- After an element comes a blank, a comma or the closing bracket. -/
theorem Listed.stops
    (listed : Listed closing false elements body)
    (bracket : closing ∈ [']', '\x7d'])
    (rest : List Char) :
    Stops (body ++ rest) := by
  have closes : ∀ closing ∈ [']', '\x7d'], closing ∈ separators := by simp [separators]
  cases listed with
  | close blank =>
      rw [List.append_assoc]
      exact (stops_cons (closes closing bracket) _).gap blank
  | next blankBefore =>
      rw [List.append_assoc]
      exact (stops_cons (by decide) _).gap blankBefore

theorem skipSpace_close
    {gap : List Char}
    (blank : Gap gap)
    (bracket : closing ∈ [']', '\x7d'])
    (rest : List Char) :
    skipSpace (gap ++ closing :: rest) = closing :: rest := by
  have visible : ∀ closing ∈ [']', '\x7d'], isSpace closing = false := by simp [isSpace]
  rw [skipSpace_gap blank, skipSpace_cons (visible closing bracket)]

theorem continuation_closed
    {characters rest : List Char}
    (ends : skipSpace characters = closing :: rest)
    (first : Bool) :
    continuation closing first characters = .closed rest := by
  simp [continuation, ends]

theorem continuation_first
    {gap element : List Char}
    (blank : Gap gap)
    (starts : Starts element)
    (bracket : closing ∈ [']', '\x7d'])
    (rest : List Char) :
    continuation closing true (gap ++ (element ++ rest)) = .element (element ++ rest) := by
  rw [continuation, skipSpace_gap blank, starts.skipSpace]
  rcases starts with ⟨character, tail, rfl, other⟩
  have : character ≠ closing := by
    rintro rfl
    simp_all
  simp [this]

theorem continuation_next
    {before after element : List Char}
    (blankBefore : Gap before)
    (blankAfter : Gap after)
    (starts : Starts element)
    (bracket : closing ∈ [']', '\x7d'])
    (rest : List Char) :
    continuation closing false (before ++ ',' :: (after ++ (element ++ rest))) =
      .element (element ++ rest) := by
  have notComma : ∀ closing ∈ [']', '\x7d'], ',' ≠ closing := by simp
  rw [continuation, skipSpace_gap blankBefore, skipSpace_cons (by decide)]
  simp only [if_neg (notComma closing bracket), Bool.false_eq_true, if_false, if_true]
  rw [skipSpace_gap blankAfter, starts.skipSpace]
  rcases starts with ⟨character, tail, rfl, other⟩
  have : character ≠ closing := by
    rintro rfl
    simp_all
  simp [this]

theorem Listed.turns
    (listed : Listed closing first elements body)
    (bracket : closing ∈ [']', '\x7d'])
    (starts : ∀ element ∈ elements, Starts element) :
    Turns closing first elements body := by
  induction listed with
  | close blank =>
      refine .closed (fun rest => ?_) (by simp)
      rw [List.append_assoc]
      exact skipSpace_close blank bracket rest
  | first blank listed ih =>
      have startsHere := starts _ List.mem_cons_self
      have nonempty := startsHere.length_pos
      refine .element (fun rest => ?_) ?_ ?_ (listed.stops bracket) (ih ?_)
      · rw [List.append_assoc, List.append_assoc]
        exact continuation_first blank startsHere bracket _
      · simp only [List.length_append]
        omega
      · simp only [List.length_append]
        omega
      · exact fun element member => starts element (List.mem_cons_of_mem _ member)
  | next blankBefore blankAfter listed ih =>
      have startsHere := starts _ List.mem_cons_self
      refine .element (fun rest => ?_) ?_ ?_ (listed.stops bracket) (ih ?_)
      · simp only [List.append_assoc, List.cons_append]
        exact continuation_next blankBefore blankAfter startsHere bracket _
      · simp only [List.length_append, List.length_cons]
        omega
      · simp only [List.length_append, List.length_cons]
        omega
      · exact fun element member => starts element (List.mem_cons_of_mem _ member)

end Elements

theorem dropColon_append {gap : List Char} (blank : Gap gap) (rest : List Char) :
    dropColon (gap ++ ':' :: rest) = .ok rest := by
  rw [dropColon, skipSpace_gap blank, skipSpace_cons (by decide)]
  rfl

/-! ## Values passed over -/

/-- True of the text of a value that is skipped to its end. -/
def Skips (text : List Char) : Prop :=
  Starts text ∧
    ∀ steps gap rest, text.length ≤ steps → Gap gap → Stops rest →
      skipValue steps (gap ++ (text ++ rest)) = .ok rest

/-- A value is skipped to its end if this is so without blanks before it. -/
theorem Skips.of_steps
    {text : List Char}
    (starts : Starts text)
    (skips :
      ∀ steps rest, text.length ≤ steps + 1 → Stops rest →
        skipValue (steps + 1) (text ++ rest) = .ok rest) :
    Skips text := by
  refine ⟨starts, fun steps gap rest enough blank stops => ?_⟩
  cases steps with
  | zero =>
      rcases starts with ⟨character, tail, rfl, -⟩
      cases enough
  | succ steps =>
      rw [← skips steps rest enough stops]
      simp only [skipValue, skipSpace_gap blank]

-- The bound on the steps of a loop is counted in characters: a turn takes at least one of them, and
-- the value that it meets is no longer than what is left (`within` and `shorter` of a turn).

theorem skipItems_of_turns
    {first : Bool}
    {items : List (List Char)}
    {body : List Char}
    (turns : Turns ']' first items body)
    (each : ∀ item ∈ items, Skips item)
    {steps : Nat}
    (enough : body.length ≤ steps)
    (rest : List Char) :
    skipItems steps first (body ++ rest) = .ok rest := by
  induction turns generalizing steps with
  | closed ends nonempty =>
      cases steps with
      | zero => omega
      | succ steps => rw [skipItems, continuation_closed (ends rest)]
  | @element first item later body items turn within shorter stops onward ih =>
      have nonempty := onward.nonempty
      cases steps with
      | zero => omega
      | succ steps =>
          have skips := (each item List.mem_cons_self).2
          have skipped := skips steps [] _ (by omega) gap_nil (stops rest)
          rw [List.nil_append] at skipped
          simp only [skipItems, turn, skipped]
          exact ih (fun other member => each other (List.mem_cons_of_mem _ member)) (by omega)

theorem skipMembers_of_turns
    {first : Bool}
    {elements : List (List Char)}
    {body : List Char}
    (turns : Turns '\x7d' first elements body)
    (each :
      ∀ element ∈ elements, ∃ key value,
        Unchecked key ∧ Skips value ∧ MemberText ('"' :: (key ++ ['"'])) value element)
    {steps : Nat}
    (enough : body.length ≤ steps)
    (rest : List Char) :
    skipMembers steps first (body ++ rest) = .ok rest := by
  induction turns generalizing steps with
  | closed ends nonempty =>
      cases steps with
      | zero => omega
      | succ steps => rw [skipMembers, continuation_closed (ends rest)]
  | @element first element later body elements turn within shorter stops onward ih =>
      have nonempty := onward.nonempty
      cases steps with
      | zero => omega
      | succ steps =>
          rcases each element List.mem_cons_self with
            ⟨key, value, unchecked, ⟨-, skips⟩, before, after, blankBefore, blankAfter, rfl⟩
          simp only [List.length_append, List.length_cons] at within
          have skipped := skips steps after _ (by omega) blankAfter (stops rest)
          rw [skipMembers, turn]
          simp only [List.cons_append, List.append_assoc, List.nil_append,
            skipString_of_unchecked unchecked, dropColon_append blankBefore, skipped]
          exact ih (fun other member => each other (List.mem_cons_of_mem _ member)) (by omega)

theorem not_mem_of_startsNumber
    {character : Char}
    (first : character = '-' ∨ isDigit character = true) :
    character ∉ [' ', '\n', '\t', '\r', ']', '\x7d', '"', '[', '\x7b', 'n', 't', 'f'] := by
  intro member
  revert first
  revert character
  simp [isDigit]

theorem skips_of_numberText {text : List Char} (number : NumberText text) : Skips text := by
  rcases number.head with ⟨character, tail, rfl, first⟩
  have other := not_mem_of_startsNumber first
  have starts : Starts (character :: tail) := ⟨_, _, rfl, by simp_all⟩
  refine .of_steps starts fun steps rest _ stops => ?_
  rcases readSigned_of_numberText number stops with ⟨parts, read⟩
  simp only [skipValue, starts.skipSpace]
  rw [List.cons_append] at read ⊢
  simp only [List.mem_cons, not_or] at other
  split <;> simp_all

theorem exists_of_mem_right
    {Left Right : Type}
    {related : Left → Right → Prop}
    {lefts : List Left}
    {rights : List Right}
    (each : List.Forall₂ related lefts rights)
    {right : Right}
    (member : right ∈ rights) :
    ∃ left ∈ lefts, related left right := by
  induction each with
  | nil => cases member
  | cons here _ ih =>
      rcases List.mem_cons.mp member with rfl | later
      · exact ⟨_, List.mem_cons_self, here⟩
      · rcases ih later with ⟨left, member, there⟩
        exact ⟨left, List.mem_cons_of_mem _ member, there⟩

/-- Any value is skipped to its end. -/
theorem skips_of_wellFormed {text : List Char} (wellFormed : WellFormed text) : Skips text := by
  induction wellFormed with
  | null =>
      refine .of_steps ⟨_, _, rfl, by decide⟩ fun steps rest _ _ => ?_
      rw [skipValue, List.cons_append, skipSpace_cons (by decide)]
      rfl
  | true =>
      refine .of_steps ⟨_, _, rfl, by decide⟩ fun steps rest _ _ => ?_
      rw [skipValue, List.cons_append, skipSpace_cons (by decide)]
      rfl
  | false =>
      refine .of_steps ⟨_, _, rfl, by decide⟩ fun steps rest _ _ => ?_
      rw [skipValue, List.cons_append, skipSpace_cons (by decide)]
      rfl
  | number number => exact skips_of_numberText number
  | string unchecked =>
      refine .of_steps ⟨_, _, rfl, by decide⟩ fun steps rest _ _ => ?_
      rw [skipValue, List.cons_append, skipSpace_cons (by decide), List.append_assoc]
      exact skipString_of_unchecked unchecked rest
  | array listed _ ih =>
      have turns := listed.turns (by decide) fun item member => (ih item member).1
      refine .of_steps ⟨_, _, rfl, by decide⟩ fun steps rest enough _ => ?_
      rw [skipValue, List.cons_append, skipSpace_cons (by decide)]
      exact skipItems_of_turns turns ih (Nat.le_of_succ_le_succ enough) rest
  | object written listed keys _ ih =>
      have each := fun element (member : element ∈ _) => exists_of_mem_right written member
      have turns := listed.turns (by decide) fun element member => by
        rcases each element member with ⟨_, _, _, _, _, _, rfl⟩
        exact ⟨_, _, rfl, by decide⟩
      refine .of_steps ⟨_, _, rfl, by decide⟩ fun steps rest enough _ => ?_
      rw [skipValue, List.cons_append, skipSpace_cons (by decide)]
      refine skipMembers_of_turns turns ?_ (Nat.le_of_succ_le_succ enough) rest
      intro element member
      rcases each element member with ⟨pair, listed, written⟩
      exact ⟨pair.1, pair.2, keys pair listed, ih pair listed, written⟩

end TaskDispatch.Json
