import Mathlib.Data.List.Forall2
import TaskDispatch.Proofs.Json.Skipping

/-!
# Readers take what is written

A reader takes a text for a value if it reads the value from it, whatever blanks stand before and
whatever follows (`Takes`).  For each form of documents there is one lemma: strings, truth values,
names, lists, and objects with and without fixed keys.

A record given as an object may have its members in any order.  While they are read, the value of
each field is known already, still to come, or left out (`Holds`); each member that is read keeps
this so (`Filled.pass`, `Filled.take`), and at the end nothing is still to come.
-/

namespace TaskDispatch.Json

/-- True if a reader reads a value from a text, whatever is around it. -/
def Takes (reader : Reader Json) (value : Json) (text : List Char) : Prop :=
  Starts text ∧
    ∀ gap rest, Gap gap → Stops rest → reader (gap ++ (text ++ rest)) = .ok (value, rest)

theorem Takes.reads
    {reader : Reader Json}
    {text : List Char}
    {value : Json}
    (takes : Takes reader value text)
    {rest : List Char}
    (stops : Stops rest) :
    reader (text ++ rest) = .ok (value, rest) :=
  takes.2 [] rest gap_nil stops

/-- A text is taken for one value. -/
theorem Takes.unique
    {reader : Reader Json}
    {text : List Char}
    {value value' : Json}
    (takes : Takes reader value text)
    (takes' : Takes reader value' text) :
    value = value' := by
  have same := (takes.reads stops_nil).symm.trans (takes'.reads stops_nil)
  simpa using same

/-! ## Values without parts -/

theorem Quoted.starts {meant : String} {text : List Char} (quoted : Quoted meant text) :
    ∃ spelled,
      text = '"' :: spelled ∧ ∀ rest, readString [] (spelled ++ rest) = .ok (meant, rest) := by
  rcases quoted with ⟨spelled, spells, rfl⟩
  refine ⟨_, rfl, fun rest => ?_⟩
  rw [List.append_assoc]
  exact (readString_of_spells spells [] rest).trans (by simp)

theorem takes_text
    {expected : String}
    {accept : String → Except Problem Json}
    {meant : String}
    {plain : Json}
    (accepted : accept meant = .ok plain)
    {text : List Char}
    (quoted : Quoted meant text) :
    Takes (readTextWith expected accept) plain text := by
  rcases quoted.starts with ⟨spelled, rfl, read⟩
  refine ⟨⟨_, _, rfl, by decide⟩, fun gap rest blank _ => ?_⟩
  rw [readTextWith, skipSpace_gap blank, List.cons_append, skipSpace_cons (by decide)]
  simp only [readQuotedWith, read, accepted]

theorem takes_boolean
    {expected : String}
    {value : Bool}
    {text : List Char}
    (written : BooleanText value text) :
    Takes (readBoolean expected) (.boolean value) text := by
  subst written
  cases value <;>
    refine ⟨⟨_, _, rfl, by decide⟩, fun gap rest blank _ => ?_⟩ <;>
    rw [readBoolean, skipSpace_gap blank] <;>
    rfl

/-! ## Null and names -/

theorem takes_null {inner : Reader Json} :
    Takes (readNullable inner) .null ['n', 'u', 'l', 'l'] := by
  refine ⟨⟨_, _, rfl, by decide⟩, fun gap rest blank _ => ?_⟩
  rw [readNullable, skipSpace_gap blank]
  rfl

theorem takes_present
    {inner : Reader Json}
    {text : List Char}
    {value : Json}
    (takes : Takes inner value text)
    (notNull : text.head? ≠ some 'n') :
    Takes (readNullable inner) value text := by
  refine ⟨takes.1, fun gap rest blank stops => ?_⟩
  have read := takes.reads stops
  rw [readNullable, skipSpace_gap blank, takes.1.skipSpace]
  rcases takes.1 with ⟨character, tail, rfl, -⟩
  have other : character ≠ 'n' := fun same => notNull (congrArg some same)
  rw [List.cons_append] at read ⊢
  split <;> simp_all

theorem acceptVariant_of_mem {variants : List String} {name : String} (listed : name ∈ variants) :
    acceptVariant variants name = .ok (.text name) := by
  rw [acceptVariant, if_pos (by simpa using listed)]

theorem readChosen_append
    {before after last : List Char}
    (blankBefore : Gap before)
    (blankAfter : Gap after)
    (blankLast : Gap last)
    (rest : List Char) :
    readChosen
        (before ++ ':' :: (after ++ 'n' :: 'u' :: 'l' :: 'l' :: (last ++ '\x7d' :: rest))) =
      .ok ((), rest) := by
  have null (rest : List Char) :
      readNull "unit" (after ++ 'n' :: 'u' :: 'l' :: 'l' :: rest) = .ok (.null, rest) := by
    rw [readNull, skipSpace_gap blankAfter, skipSpace_cons (by decide)]
    rfl
  simp only [readChosen, dropColon_append blankBefore, null, skipSpace_gap blankLast]
  rw [skipSpace_cons (by decide)]
  rfl

/-- A name is read from a string, and from an object that holds null under it. -/
theorem takes_name
    {variants : List String}
    {name : String}
    (listed : name ∈ variants)
    {text : List Char}
    (written : NameText name text) :
    Takes (readChoice variants) (.text name) text := by
  rcases written with quoted | ⟨elements, body, each, elementsListed, rfl⟩
  · rcases quoted.starts with ⟨spelled, rfl, read⟩
    refine ⟨⟨_, _, rfl, by decide⟩, fun gap rest blank _ => ?_⟩
    rw [readChoice, skipSpace_gap blank, List.cons_append, skipSpace_cons (by decide)]
    simp only [readQuotedWith, read, acceptVariant_of_mem listed]
  · cases each with
    | cons member none =>
      cases none
      rcases member with ⟨key, quoted, before, after, blankBefore, blankAfter, rfl⟩
      rcases quoted.starts with ⟨spelled, rfl, read⟩
      cases elementsListed with
      | first blankFirst closed =>
        cases closed with
        | close blankLast =>
          refine ⟨⟨_, _, rfl, by decide⟩, fun gap rest blank _ => ?_⟩
          rw [readChoice, skipSpace_gap blank, List.cons_append, skipSpace_cons (by decide)]
          simp only [List.append_assoc, List.cons_append, List.nil_append]
          rw [skipSpace_gap blankFirst, skipSpace_cons (by decide)]
          simp only [readQuotedWith, read, acceptVariant_of_mem listed,
            readChosen_append blankBefore blankAfter blankLast]

/-! ## Lists -/

/-- A loop is given more steps than there are characters left. -/
theorem length_le_steps (body rest : List Char) : body.length ≤ (body ++ rest).length + 1 := by
  rw [List.length_append]
  omega

theorem readItems_of_turns
    {item : Reader Json}
    {first : Bool}
    {texts : List (List Char)}
    {body : List Char}
    (turns : Turns ']' first texts body)
    {values : List Json}
    (each : List.Forall₂ (Takes item) values texts)
    {steps : Nat}
    (enough : body.length ≤ steps)
    (rest : List Char) :
    readItems item steps first (body ++ rest) = .ok (values, rest) := by
  induction turns generalizing steps values with
  | closed ends nonempty =>
      cases each
      cases steps with
      | zero => omega
      | succ steps => rw [readItems, continuation_closed (ends rest)]
  | @element first text later body texts turn _ shorter stops onward ih =>
      cases each with
      | cons takes each =>
          cases steps with
          | zero => omega
          | succ steps =>
              have read := ih each (Nat.le_of_lt_succ (Nat.lt_of_lt_of_le shorter enough))
              rw [readItems, turn]
              simp only [takes.reads (stops rest), read]

theorem takes_list
    {expected : String}
    {item : Reader Json}
    {texts : List (List Char)}
    {text : List Char}
    (written : ArrayText texts text)
    {values : List Json}
    (each : List.Forall₂ (Takes item) values texts) :
    Takes (readList expected item) (.array values) text := by
  rcases written with ⟨body, listed, rfl⟩
  have turns := listed.turns (by decide) fun text member => by
    rcases exists_of_mem_right each member with ⟨value, -, takes⟩
    exact takes.1
  refine ⟨⟨_, _, rfl, by decide⟩, fun gap rest blank _ => ?_⟩
  rw [readList, skipSpace_gap blank, List.cons_append, skipSpace_cons (by decide)]
  simp only [readItems_of_turns turns each
    (length_le_steps body rest) rest]

/-! ## Objects without fixed keys -/

theorem MembersText.starts
    {members : List (String × List Char)}
    {elements : List (List Char)}
    (written : MembersText members elements) :
    ∀ element ∈ elements, Starts element := by
  intro element member
  rcases exists_of_mem_right written member with ⟨_, -, key, quoted, _, _, _, _, rfl⟩
  rcases quoted.starts with ⟨spelled, rfl, -⟩
  exact ⟨_, _, rfl, by decide⟩

/-- After the key of a member and its colon, there is a gap before its value. -/
theorem readKey_append
    {key : String}
    {value element : List Char}
    (written : ∃ quoted, Quoted key quoted ∧ MemberText quoted value element) :
    ∃ after,
      Gap after ∧
        ∀ rest, ∃ afterKey,
          readKey (element ++ rest) = .ok (key, afterKey) ∧
            dropColon afterKey = .ok (after ++ (value ++ rest)) := by
  rcases written with ⟨quoted, quotedKey, before, after, blankBefore, blankAfter, rfl⟩
  rcases quotedKey.starts with ⟨spelled, rfl, read⟩
  refine ⟨after, blankAfter, fun rest => ⟨_, ?_, dropColon_append blankBefore _⟩⟩
  simp only [List.cons_append, List.append_assoc]
  rw [readKey, read]

theorem readValues_of_turns
    {value : Reader Json}
    {first : Bool}
    {elements : List (List Char)}
    {body : List Char}
    (turns : Turns '\x7d' first elements body)
    {members : List (String × List Char)}
    (written : MembersText members elements)
    {plain : List (String × Json)}
    (each :
      List.Forall₂ (fun entry member => member.1 = entry.1 ∧ Takes value entry.2 member.2) plain
        members)
    (held : List (String × Json))
    {steps : Nat}
    (enough : body.length ≤ steps)
    (rest : List Char) :
    readValues value steps first held (body ++ rest) =
      .ok (plain.foldl (fun held entry => insertMember entry.1 entry.2 held) held, rest) := by
  induction turns generalizing steps members plain held with
  | closed ends nonempty =>
      cases written
      cases each
      cases steps with
      | zero => omega
      | succ steps => rw [readValues, continuation_closed (ends rest), List.foldl_nil]
  | @element first element later body elements turn _ shorter stops onward ih =>
      cases written with
      | cons writtenHere written =>
        cases each with
        | @cons entry _ entries _ here each =>
          rcases here with ⟨sameKey, takes⟩
          cases steps with
          | zero => omega
          | succ steps =>
              have fewer := Nat.le_of_lt_succ (Nat.lt_of_lt_of_le shorter enough)
              have read := ih written each (insertMember entry.1 entry.2 held) fewer
              rcases readKey_append writtenHere with ⟨after, blankAfter, found⟩
              rcases found (later ++ rest) with ⟨afterKey, key, colon⟩
              rw [readValues, turn]
              simp only [key, colon, takes.2 after _ blankAfter (stops rest), sameKey, read,
                List.foldl_cons]

/-- An object is read member by member; of two with the same key the later one stays. -/
theorem takes_map
    {expected : String}
    {value : Reader Json}
    {members : List (String × List Char)}
    {text : List Char}
    (written : ObjectText members text)
    {plain : List (String × Json)}
    (each :
      List.Forall₂ (fun entry member => member.1 = entry.1 ∧ Takes value entry.2 member.2) plain
        members) :
    Takes (readMap expected value) (ofMembers plain) text := by
  rcases written with ⟨elements, body, written, listed, rfl⟩
  have turns := listed.turns (by decide) written.starts
  refine ⟨⟨_, _, rfl, by decide⟩, fun gap rest blank _ => ?_⟩
  rw [readMap, skipSpace_gap blank, List.cons_append, skipSpace_cons (by decide)]
  simp only [readValues_of_turns turns written each []
    (length_le_steps body rest) rest]
  rfl

/-! ## Records given as objects -/

/-- True of a field whose value is settled, given the fields read and the members to come. -/
inductive Holds
    (given : List (String × Json))
    (members : List (String × List Char))
    (field : FieldReader (Reader Json))
    (value : Json) :
    Prop where
  | read
      (held : memberOf field.name given = some value)
      (finished : valuesUnder field.name members = [])
  | coming {text : List Char}
      (missing : memberOf field.name given = none)
      (once : valuesUnder field.name members = [text])
      (takes : Takes field.reader value text)
  | absent
      (missing : memberOf field.name given = none)
      (finished : valuesUnder field.name members = [])
      (stands : field.absence.inObject field.name = .ok value)

/-- True of a member of the plain form of a record that the members of an object settle. -/
structure Filled
    (fields : List (FieldReader (Reader Json)))
    (given : List (String × Json))
    (members : List (String × List Char))
    (field : FieldReader (Reader Json))
    (plain : String × Json) :
    Prop where
  named : fieldNamed fields field.name = some field
  name : plain.1 = field.name
  holds : Holds given members field plain.2

section Records

variable
  {fields : List (FieldReader (Reader Json))}
  {given : List (String × Json)}
  {members : List (String × List Char)}
  {field : FieldReader (Reader Json)}
  {plain : String × Json}
  {key : String}
  {text : List Char}

theorem valuesUnder_cons_self :
    valuesUnder key ((key, text) :: members) = text :: valuesUnder key members := by
  simp [valuesUnder]

theorem valuesUnder_cons_other
    {other : String}
    (distinct : other ≠ key)
    (text : List Char)
    (members : List (String × List Char)) :
    valuesUnder key ((other, text) :: members) = valuesUnder key members := by
  simp [valuesUnder, distinct]

theorem name_of_fieldNamed (named : fieldNamed fields key = some field) : field.name = key := by
  simpa using List.find?_some named

theorem memberOf_append (key : String) (given later : List (String × Json)) :
    memberOf key (given ++ later) = (memberOf key given).or (memberOf key later) := by
  induction given with
  | nil => rfl
  | cons member given ih =>
      rcases member with ⟨other, value⟩
      rw [List.cons_append, memberOf, memberOf]
      split
      · rfl
      · exact ih

/-- A member under a key that is no field changes nothing. -/
theorem Filled.pass
    (filled : Filled fields given ((key, text) :: members) field plain)
    (unnamed : fieldNamed fields key = none) :
    Filled fields given members field plain := by
  have distinct : key ≠ field.name := by
    rintro rfl
    rw [filled.named] at unnamed
    cases unnamed
  refine ⟨filled.named, filled.name, ?_⟩
  have values := valuesUnder_cons_other distinct text members
  cases filled.holds with
  | read held finished => exact .read held (values ▸ finished)
  | coming missing once takes => exact .coming missing (values ▸ once) takes
  | absent missing finished stands => exact .absent missing (values ▸ finished) stands

/-- A field that comes next has not been read, comes only once, and its value is taken. -/
theorem Filled.next
    (filled : Filled fields given ((field.name, text) :: members) field plain) :
    memberOf field.name given = none ∧
      valuesUnder field.name members = [] ∧ Takes field.reader plain.2 text := by
  cases filled.holds with
  | read held finished => simp [valuesUnder_cons_self] at finished
  | coming missing once takes =>
      rw [valuesUnder_cons_self] at once
      rcases List.cons.inj once with ⟨rfl, finished⟩
      exact ⟨missing, finished, takes⟩
  | absent missing finished stands => simp [valuesUnder_cons_self] at finished

/-- Once the value of a field is read, it is settled for this field, and nothing changes for the
others. -/
theorem Filled.take
    {other : FieldReader (Reader Json)}
    {value : Json}
    (filled : Filled fields given ((field.name, text) :: members) other plain)
    (named : fieldNamed fields field.name = some field)
    (takes : Takes field.reader value text) :
    Filled fields (given ++ [(field.name, value)]) members other plain := by
  refine ⟨filled.named, filled.name, ?_⟩
  -- Two fields of one name are the same field, since a name finds only one.
  by_cases same : field.name = other.name
  · have sameField : field = other := by
      rw [same, filled.named] at named
      exact (Option.some.inj named).symm
    subst sameField
    rcases filled.next with ⟨missing, finished, takes'⟩
    refine .read ?_ finished
    rw [memberOf_append, missing, takes'.unique takes]
    simp [memberOf]
  · have values := valuesUnder_cons_other same text members
    have held :
        memberOf other.name (given ++ [(field.name, value)]) = memberOf other.name given := by
      rw [memberOf_append]
      simp [memberOf, Ne.symm same]
    cases filled.holds with
    | read before finished => exact .read (held.trans before) (values ▸ finished)
    | coming missing once takes => exact .coming (held.trans missing) (values ▸ once) takes
    | absent missing finished stands =>
        exact .absent (held.trans missing) (values ▸ finished) stands

/-- When no member is left, what is missing is absent. -/
theorem complete_of_filled
    {given : List (String × Json)}
    {among : List (FieldReader (Reader Json))}
    {plain : List (String × Json)}
    (filled : List.Forall₂ (Filled among given []) fields plain) :
    complete given fields = .ok plain := by
  induction filled with
  | nil => rfl
  | @cons field entry fields plain here _ ih =>
      rcases entry with ⟨name, value⟩
      rcases here with ⟨-, rfl, holds⟩
      rw [complete, ih]
      cases holds with
      | read held => rw [held]
      | coming _ once => cases once
      | absent missing _ stands => rw [missing, stands]

theorem readFields_of_turns
    {first : Bool}
    {elements : List (List Char)}
    {body : List Char}
    (turns : Turns '\x7d' first elements body)
    (written : MembersText members elements)
    (other : ∀ member ∈ members, fieldNamed fields member.1 = none → Skips member.2)
    {plain : List (String × Json)}
    (filled : List.Forall₂ (Filled fields given members) fields plain)
    {steps : Nat}
    (enough : body.length ≤ steps)
    (rest : List Char) :
    readFields fields steps first given (body ++ rest) = .ok (plain, rest) := by
  -- Each turn reads a member or passes over it, and either way every field stays settled.
  induction turns generalizing steps members given with
  | closed ends nonempty =>
      cases written
      cases steps with
      | zero => omega
      | succ steps =>
          rw [readFields, continuation_closed (ends rest)]
          simp only [complete_of_filled filled]
  | @element first element later body elements turn _ shorter stops onward ih =>
      cases written with
      | @cons member _ members _ writtenHere written =>
        rcases member with ⟨key, text⟩
        cases steps with
        | zero => omega
        | succ steps =>
            have fewer := Nat.le_of_lt_succ (Nat.lt_of_lt_of_le shorter enough)
            have others := fun member listed => other member (List.mem_cons_of_mem _ listed)
            rcases readKey_append writtenHere with ⟨after, blankAfter, found⟩
            rcases found (later ++ rest) with ⟨afterKey, readKey, colon⟩
            rw [readFields, turn]
            cases named : fieldNamed fields key with
            | none =>
                have skipped := (other _ List.mem_cons_self named).2
                  ((after ++ (text ++ (later ++ rest))).length + 1) after (later ++ rest)
                  (by simp only [List.length_append]; omega) blankAfter (stops rest)
                have filled := filled.imp fun _ _ here => here.pass named
                simp only [readKey, named, colon, skipped, ih written others filled fewer]
            | some field =>
                cases name_of_fieldNamed named
                have backward : List.Forall₂ (flip (Filled fields given _)) plain fields :=
                  filled.flip
                rcases exists_of_mem_right backward (List.mem_of_find?_eq_some named) with
                  ⟨entry, -, here⟩
                rcases Filled.next here with ⟨missing, -, takes⟩
                have read := takes.2 after (later ++ rest) blankAfter (stops rest)
                have filled := filled.imp fun _ _ there => there.take named takes
                simp only [readKey, named, missing, colon, read, Option.isSome_none,
                  Bool.false_eq_true, if_false, ih written others filled fewer]

theorem map_name_readers (fields : List (String × Absence × Schema)) :
    (readers fields).map FieldReader.name = fields.map Prod.fst := by
  induction fields with
  | nil => rfl
  | cons field fields ih => exact congrArg (field.1 :: ·) ih

/-- A record is read from the members of an object, in whatever order they are. -/
theorem takes_object
    {name : String}
    {fields : List (String × Absence × Schema)}
    (written : ObjectText members text)
    (other : OtherwiseAny (fields.map Prod.fst) members)
    {plain : List (String × Json)}
    (filled : List.Forall₂ (Filled (readers fields) [] members) (readers fields) plain) :
    Takes (Schema.record name fields).read (.object plain) text := by
  rcases written with ⟨elements, body, written, listed, rfl⟩
  have turns := listed.turns (by decide) written.starts
  have skips (member : String × List Char) (listed : member ∈ members)
      (unnamed : fieldNamed (readers fields) member.1 = none) : Skips member.2 := by
    refine skips_of_wellFormed (other member listed fun known => ?_)
    rw [← map_name_readers] at known
    rcases List.mem_map.mp known with ⟨field, member, same⟩
    exact absurd (beq_iff_eq.mpr same) (List.find?_eq_none.mp unnamed field member)
  refine ⟨⟨_, _, rfl, by decide⟩, fun gap rest blank _ => ?_⟩
  rw [Schema.read, readRecord, skipSpace_gap blank, List.cons_append, skipSpace_cons (by decide)]
  simp only [readFields_of_turns turns written skips filled
    (length_le_steps body rest) rest]

/-- What an object gives under the name of a field settles its value. -/
theorem filled_of_given
    {Value : Type}
    {Written : Value → List Char → Prop}
    (encode : Value → Json)
    {value : Value}
    (named : fieldNamed fields field.name = some field)
    (takes : ∀ text, Written value text → Takes field.reader (encode value) text)
    (gives : Gives Written members field.name (some value)) :
    Filled fields [] members field (field.name, encode value) := by
  rcases gives with ⟨text, once, written⟩
  exact ⟨named, rfl, .coming rfl once (takes text written)⟩

/-- A field that may be left out then has the value that stands for it. -/
theorem filled_of_gives
    {Value : Type}
    {Written : Value → List Char → Prop}
    (encode : Value → Json)
    {value? : Option Value}
    {default : Value}
    (named : fieldNamed fields field.name = some field)
    (takes : ∀ value text, Written value text → Takes field.reader (encode value) text)
    (stands : field.absence.inObject field.name = .ok (encode default))
    (gives : Gives Written members field.name value?) :
    Filled fields [] members field (field.name, encode (value?.getD default)) := by
  cases value? with
  | none => exact ⟨named, rfl, .absent rfl gives stands⟩
  | some value => exact filled_of_given encode named (takes value) gives

end Records

/-! ## Records given as lists -/

/-- True of texts, one for each field in order, and the members that are read from them. -/
inductive InOrder :
    List (FieldReader (Reader Json)) → List (List Char) → List (String × Json) → Prop where
  | nil : InOrder [] [] []
  | cons {field : FieldReader (Reader Json)} {fields : List (FieldReader (Reader Json))}
      {text : List Char} {texts : List (List Char)} {value : Json}
      {plain : List (String × Json)}
      (takes : Takes field.reader value text)
      (rest : InOrder fields texts plain) :
      InOrder (field :: fields) (text :: texts) ((field.name, value) :: plain)

theorem InOrder.starts
    {fields : List (FieldReader (Reader Json))}
    {texts : List (List Char)}
    {plain : List (String × Json)}
    (inOrder : InOrder fields texts plain) :
    ∀ text ∈ texts, Starts text := by
  induction inOrder with
  | nil => simp
  | cons takes _ ih => exact List.forall_mem_cons.mpr ⟨takes.1, ih⟩

theorem readSequence_of_turns
    {name : String}
    {count position : Nat}
    {texts : List (List Char)}
    {body : List Char}
    (turns : Turns ']' (position == 0) texts body)
    {fields : List (FieldReader (Reader Json))}
    {plain : List (String × Json)}
    (inOrder : InOrder fields texts plain)
    (rest : List Char) :
    readSequence name count position fields (body ++ rest) = .ok (plain, rest) := by
  induction inOrder generalizing position body with
  | nil =>
      cases turns with
      | closed ends =>
          rw [readSequence, ends rest]
          rfl
  | @cons field fields text texts value plain takes _ ih =>
      cases turns with
      | element turn within shorter stops onward =>
          have read := @ih (position + 1) _ onward
          rw [readSequence, turn]
          simp only [takes.reads (stops rest), read]

/-- A record is read from the list of the values of its fields. -/
theorem takes_sequence
    {name : String}
    {fields : List (String × Absence × Schema)}
    {texts : List (List Char)}
    {text : List Char}
    (written : ArrayText texts text)
    {plain : List (String × Json)}
    (inOrder : InOrder (readers fields) texts plain) :
    Takes (Schema.record name fields).read (.object plain) text := by
  rcases written with ⟨body, listed, rfl⟩
  have turns : Turns ']' ((0 : Nat) == 0) texts body := listed.turns (by decide) inOrder.starts
  refine ⟨⟨_, _, rfl, by decide⟩, fun gap rest blank _ => ?_⟩
  rw [Schema.read, readRecord, skipSpace_gap blank, List.cons_append, skipSpace_cons (by decide)]
  simp only [readSequence_of_turns turns inOrder rest]

/-! ## Whole texts -/

/-- A text in which, apart from blanks at its ends, a document is written is read as it. -/
theorem readText_of_takes
    {schema : Schema}
    {value : Json}
    {text : String}
    (document : Document (Takes schema.read value) text) :
    schema.readText text = .ok value := by
  rcases document with ⟨before, written, after, blankBefore, blankAfter, takes, same⟩
  have nothing : skipSpace after = [] := by
    have dropped := skipSpace_gap blankAfter []
    rwa [List.append_nil] at dropped
  have stops : Stops after := by
    have stops := stops_nil.gap blankAfter
    rwa [List.append_nil] at stops
  rw [Schema.readText, same]
  simp only [takes.2 before after blankBefore stops, nothing]

theorem readValue_of_takes
    {Value : Type}
    {schema : Schema}
    {ofPlain? : Json → Option Value}
    {plain : Json}
    {value : Value}
    (stands : ofPlain? plain = some value)
    {text : String}
    (document : Document (Takes schema.read plain) text) :
    schema.readValue ofPlain? text = .ok value := by
  simp only [Schema.readValue, readText_of_takes document, stands]

end TaskDispatch.Json
