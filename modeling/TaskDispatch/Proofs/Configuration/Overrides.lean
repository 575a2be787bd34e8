import Mathlib.Data.List.DropRight
import Mathlib.Data.List.Forall2
import TaskDispatch.Configuration

/-!
# What the environment overrides

The filter and the format that the environment gives are applied to a configuration by
`Configuration.withOverrides`.  The two are treated differently when they are blank: a blank filter
counts as not given, a blank format is refused.  The theorem at the end says for all texts which
formats are refused, what the result is, that a second application changes nothing, and which
spellings of a format are read back.

What stands for white space and for the letters of either case is written out here character by
character, and trimming and lower-casing are relations that say what a result has to look like.
-/

namespace TaskDispatch

namespace Text

/-- The characters with the property White_Space. -/
def whiteSpace : List Char :=
  [ '\u0009', '\u000a', '\u000b', '\u000c', '\u000d', '\u0020', '\u0085', '\u00a0', '\u1680',
    '\u2000', '\u2001', '\u2002', '\u2003', '\u2004', '\u2005', '\u2006', '\u2007', '\u2008',
    '\u2009', '\u200a', '\u2028', '\u2029', '\u202f', '\u205f', '\u3000' ]

/-- The capital letters from A to Z, each with its small letter. -/
def alphabet : List (Char × Char) :=
  "ABCDEFGHIJKLMNOPQRSTUVWXYZ".toList.zip "abcdefghijklmnopqrstuvwxyz".toList

/--
True if the second character is the first in lower case: the small letter of a capital letter from
A to Z, and any other character itself.
-/
def LowersTo (character plain : Char) : Prop :=
  (character, plain) ∈ alphabet ∨ (∀ small, (character, small) ∉ alphabet) ∧ plain = character

/-- True of two characters that differ in nothing but the case of a letter from A to Z. -/
def SameLetter (left right : Char) : Prop :=
  left = right ∨ (left, right) ∈ alphabet ∨ (right, left) ∈ alphabet

/-- True if a text is a core between white space, and the core has no white space at its ends. -/
structure TrimsTo (written core : List Char) : Prop where
  around :
    ∃ before after,
      written = before ++ core ++ after ∧
        (∀ character ∈ before, character ∈ whiteSpace) ∧
          ∀ character ∈ after, character ∈ whiteSpace
  first : ∀ character ∈ core.head?, character ∉ whiteSpace
  last : ∀ character ∈ core.getLast?, character ∉ whiteSpace

/-- True if the second text is the first without white space around it and in lower case. -/
def PlainForm (written plain : String) : Prop :=
  ∃ core, TrimsTo written.toList core ∧ List.Forall₂ LowersTo core plain.toList

/-! ## White space -/

theorem mem_whiteSpace_iff_toNat (character : Char) :
    character ∈ whiteSpace ↔ character.toNat ∈ whiteSpace.map Char.toNat := by
  rw [List.mem_map_of_injective fun left right same => Char.toNat_inj.mp same]

theorem isBlank_iff (character : Char) :
    isBlank character = true ↔ character ∈ whiteSpace := by
  rw [mem_whiteSpace_iff_toNat]
  simp only [isBlank, whiteSpaceRanges, whiteSpace, List.any_cons, List.any_nil, List.map_cons,
    List.map_nil, List.mem_cons, List.not_mem_nil, Bool.or_eq_true, Bool.and_eq_true,
    decide_eq_true_eq, Char.reduceToNat, Bool.false_eq_true, or_false]
  omega

theorem isBlank_eq_false_iff (character : Char) :
    isBlank character = false ↔ character ∉ whiteSpace := by
  rw [← isBlank_iff, Bool.not_eq_true]

theorem isBlankText_iff (text : String) :
    isBlankText text = true ↔ ∀ character ∈ text.toList, character ∈ whiteSpace := by
  simp only [isBlankText, List.all_eq_true, isBlank_iff]

/-! ## Trimming -/

/-- White space is dropped up to the first character that is not white space. -/
theorem dropWhile_isBlank_append
    {before rest : List Char}
    (blank : ∀ character ∈ before, character ∈ whiteSpace)
    (first : ∀ character ∈ rest.head?, character ∉ whiteSpace) :
    (before ++ rest).dropWhile isBlank = rest := by
  rw [List.dropWhile_append_of_pos fun character member =>
    (isBlank_iff character).mpr (blank character member)]
  cases rest with
  | nil => rfl
  | cons character others =>
      have visible : isBlank character = false :=
        (isBlank_eq_false_iff character).mpr (first character rfl)
      rw [List.dropWhile_cons_of_neg (by simp [visible])]

/-- What is left after white space has been dropped does not begin with white space. -/
theorem first_dropWhile_isBlank
    {characters : List Char}
    {character : Char}
    (first : character ∈ (characters.dropWhile isBlank).head?) :
    character ∉ whiteSpace := by
  have stopped := List.head?_dropWhile_not isBlank characters
  rw [first] at stopped
  exact (isBlank_eq_false_iff character).mp stopped

/-- Trimming gives a core. -/
theorem trimsTo_trimCharacters (written : List Char) :
    TrimsTo written (trimCharacters written) := by
  have trimmed :
      trimCharacters written = (written.dropWhile isBlank).rdropWhile isBlank := rfl
  constructor
  · refine
      ⟨written.takeWhile isBlank, (written.dropWhile isBlank).rtakeWhile isBlank, ?_, ?_, ?_⟩
    · rw [List.append_assoc, trimmed, List.rdropWhile_append_rtakeWhile,
        List.takeWhile_append_dropWhile]
    · exact fun character member => (isBlank_iff character).mp (List.mem_takeWhile_imp member)
    · exact fun character member => (isBlank_iff character).mp (List.mem_rtakeWhile_imp member)
  · intro character first
    rcases List.rdropWhile_prefix isBlank (l := written.dropWhile isBlank) with ⟨after, whole⟩
    have front : character ∈ (written.dropWhile isBlank).head? := by
      rw [← whole, List.head?_append, ← trimmed, Option.mem_def.mp first]
      rfl
    exact first_dropWhile_isBlank front
  · intro character last
    rw [trimCharacters, List.getLast?_reverse] at last
    exact first_dropWhile_isBlank last

/-- Trimming gives the only core. -/
theorem TrimsTo.trimCharacters_eq
    {written core : List Char}
    (trims : TrimsTo written core) :
    trimCharacters written = core := by
  rcases trims with ⟨⟨before, after, rfl, before', after'⟩, first, last⟩
  cases core with
  | nil =>
      have nothing : (before ++ after ++ []).dropWhile isBlank = [] := by
        apply dropWhile_isBlank_append
        · intro character member
          exact (List.mem_append.mp member).elim (before' character) (after' character)
        · simp
      rw [List.append_nil] at nothing
      rw [trimCharacters, List.append_nil, nothing]
      rfl
  | cons character rest =>
      have front :
          (before ++ (character :: rest ++ after)).dropWhile isBlank = character :: rest ++ after :=
        dropWhile_isBlank_append before' first
      have back :
          (after.reverse ++ (character :: rest).reverse).dropWhile isBlank =
            (character :: rest).reverse := by
        apply dropWhile_isBlank_append
        · exact fun character member => after' character (List.mem_reverse.mp member)
        · rw [List.head?_reverse]
          exact last
      rw [trimCharacters, List.append_assoc, front, List.reverse_append, back,
        List.reverse_reverse]

theorem trimsTo_iff (written core : List Char) :
    TrimsTo written core ↔ trimCharacters written = core := by
  constructor
  · exact TrimsTo.trimCharacters_eq
  · rintro rfl
    exact trimsTo_trimCharacters written

/-! ## Lower case -/

theorem mem_alphabet_iff (character small : Char) :
    (character, small) ∈ alphabet ↔
      character ∈ alphabet.map Prod.fst ∧ character.toLower = small := by
  have paired : ∀ pair ∈ alphabet, pair.1.toLower = pair.2 := by decide
  constructor
  · exact fun member => ⟨List.mem_map_of_mem (f := Prod.fst) member, paired _ member⟩
  · rintro ⟨capital, rfl⟩
    rcases List.mem_map.mp capital with ⟨pair, member, rfl⟩
    rw [paired pair member]
    exact member

theorem toLower_of_not_capital
    {character : Char}
    (other : character ∉ alphabet.map Prod.fst) :
    character.toLower = character := by
  apply dif_neg
  rintro ⟨above, below⟩
  have capitals : ∀ code, 65 ≤ code → code ≤ 90 → Char.ofNat code ∈ alphabet.map Prod.fst := by
    decide
  apply other
  rw [← Char.ofNat_toNat character]
  exact capitals _ (UInt32.le_iff_toNat_le.mp above) (UInt32.le_iff_toNat_le.mp below)

theorem lowersTo_iff (character plain : Char) :
    LowersTo character plain ↔ character.toLower = plain := by
  by_cases capital : character ∈ alphabet.map Prod.fst
  · simp [LowersTo, mem_alphabet_iff, capital]
  · simp [LowersTo, mem_alphabet_iff, capital, toLower_of_not_capital capital, eq_comm]

theorem forall₂_lowersTo_iff (characters plain : List Char) :
    List.Forall₂ LowersTo characters plain ↔ lowerCharacters characters = plain := by
  have lowered : LowersTo = fun character plain => character.toLower = plain := by
    funext character plain
    exact propext (lowersTo_iff character plain)
  rw [lowered, ← List.forall₂_map_left_iff, List.forall₂_eq_eq_eq]
  rfl

/-- Characters that differ in case only have the same lower case. -/
theorem SameLetter.toLower_eq
    {left right : Char}
    (same : SameLetter left right) :
    left.toLower = right.toLower := by
  have kept : ∀ pair ∈ alphabet, pair.2.toLower = pair.2 := by decide
  rcases same with rfl | capital | capital
  · rfl
  · rw [((mem_alphabet_iff left right).mp capital).2, kept _ capital]
  · rw [((mem_alphabet_iff right left).mp capital).2, kept _ capital]

theorem lowerCharacters_eq_of_sameLetter
    {left right : List Char}
    (same : List.Forall₂ SameLetter left right) :
    lowerCharacters left = lowerCharacters right := by
  induction same with
  | nil => rfl
  | cons letter _ ih =>
      simp only [lowerCharacters, List.map_cons] at ih ⊢
      rw [letter.toLower_eq, ih]

/-- Letters of either case are not white space. -/
theorem SameLetter.not_mem_whiteSpace
    {left right : Char}
    (same : SameLetter left right)
    (visible : right ∉ whiteSpace) :
    left ∉ whiteSpace := by
  have letters : ∀ pair ∈ alphabet, pair.1 ∉ whiteSpace ∧ pair.2 ∉ whiteSpace := by decide
  rcases same with rfl | capital | capital
  · exact visible
  · exact (letters _ capital).1
  · exact (letters _ capital).2

theorem not_mem_whiteSpace_of_sameLetter
    {left right : List Char}
    (same : List.Forall₂ SameLetter left right)
    (visible : ∀ character ∈ right, character ∉ whiteSpace) :
    ∀ character ∈ left, character ∉ whiteSpace := by
  induction same with
  | nil => simp
  | cons letter _ ih =>
      rw [List.forall_mem_cons] at visible ⊢
      exact ⟨letter.not_mem_whiteSpace visible.1, ih visible.2⟩

/-! ## The plain form -/

/-- Every text has one plain form. -/
theorem plainForm_iff (written plain : String) :
    PlainForm written plain ↔ lower (trim written) = plain := by
  simp only [PlainForm, trimsTo_iff, forall₂_lowersTo_iff, exists_eq_left']
  rw [← String.toList_inj, lower, trim, String.toList_ofList, String.toList_ofList]

end Text

open Text

/-! ## Formats as they are written -/

namespace LogFormat

/-- The plain forms that stand for a format. -/
def names : LogFormat → List String
  | .pretty => ["pretty", "text"]
  | .json => ["json"]

theorem parse_eq_ok_iff (written : String) (format : LogFormat) :
    parse written = .ok format ↔ ∃ plain ∈ format.names, PlainForm written plain := by
  simp only [plainForm_iff, exists_eq_right', parse]
  generalize lower (trim written) = plain
  split
  · next pretty => cases format <;> rcases pretty with rfl | rfl <;> simp [names]
  · next other =>
      rw [not_or] at other
      split
      · next json => subst json; cases format <;> simp [names]
      · next neither => cases format <;> simp [names, other.1, other.2, neither]

theorem parse_eq_error_iff (written : String) (error : DispatchError) :
    parse written = .error error ↔
      ∃ plain,
        PlainForm written plain ∧ plain ∉ ["pretty", "text", "json"] ∧
          error =
            .configuration
              ("Unknown log format '" ++ plain ++ "', expected 'pretty' or 'json'") := by
  simp only [plainForm_iff, exists_eq_left', parse]
  generalize lower (trim written) = plain
  split
  · next pretty => rcases pretty with rfl | rfl <;> simp
  · next other =>
      rw [not_or] at other
      split
      · next json => simp [json]
      · next neither => simp [other.1, other.2, neither, eq_comm]

/-- The name of a format has no white space. -/
theorem visible_of_mem_name
    {format : LogFormat}
    {character : Char}
    (member : character ∈ format.name.toList) :
    character ∉ whiteSpace := by
  have visible : format.name.toList.all (fun character => !isBlank character) = true := by
    cases format <;> rfl
  rw [← isBlank_eq_false_iff]
  simpa using List.all_eq_true.mp visible character member

/-- A name in letters of any case and with white space around it has the name as its plain form. -/
theorem plainForm_of_sameLetters
    (format : LogFormat)
    {before core after : String}
    (before' : ∀ character ∈ before.toList, character ∈ whiteSpace)
    (after' : ∀ character ∈ after.toList, character ∈ whiteSpace)
    (letters : List.Forall₂ SameLetter core.toList format.name.toList) :
    PlainForm (before ++ core ++ after) format.name := by
  have visible : ∀ character ∈ core.toList, character ∉ whiteSpace :=
    not_mem_whiteSpace_of_sameLetter letters fun character => visible_of_mem_name
  have plain : lowerCharacters format.name.toList = format.name.toList := by
    cases format <;> rfl
  refine ⟨core.toList, ⟨⟨before.toList, after.toList, ?_, before', after'⟩, ?_, ?_⟩, ?_⟩
  · rw [String.toList_append, String.toList_append]
  · exact fun character first => visible character (List.mem_of_mem_head? first)
  · exact fun character last => visible character (List.mem_of_mem_getLast? last)
  · rw [forall₂_lowersTo_iff, lowerCharacters_eq_of_sameLetter letters, plain]

end LogFormat

namespace Configuration

/--
What a configuration looks like after the overrides: a filter with a character that is not white
space is taken as it is given, a format is the one that its plain form stands for, and everything
else is as before.
-/
structure Overridden
    (configuration : Configuration)
    (filter format : Option String)
    (result : Configuration) :
    Prop where
  filter_given :
    ∀ given ∈ filter,
      (∃ character ∈ given.toList, character ∉ whiteSpace) → result.logging.filter = given
  filter_kept :
    (∀ given ∈ filter, ∀ character ∈ given.toList, character ∈ whiteSpace) →
      result.logging.filter = configuration.logging.filter
  format_given :
    ∀ written ∈ format, ∃ plain ∈ result.logging.format.names, PlainForm written plain
  format_kept : format = none → result.logging.format = configuration.logging.format
  with_target : result.logging.withTarget = configuration.logging.withTarget
  execution : result.execution = configuration.execution
  resolution : result.resolution = configuration.resolution

/-- Overrides that are applied again change nothing. -/
theorem Overridden.again
    {configuration result : Configuration}
    {filter format : Option String}
    (overridden : configuration.Overridden filter format result) :
    result.Overridden filter format result where
  filter_given := overridden.filter_given
  filter_kept := fun _ => rfl
  format_given := overridden.format_given
  format_kept := fun _ => rfl
  with_target := rfl
  execution := rfl
  resolution := rfl

/-- No text is the plain form of two formats. -/
theorem format_unique
    {first second : LogFormat}
    {written plain plain' : String}
    (named : plain ∈ first.names)
    (named' : plain' ∈ second.names)
    (form : PlainForm written plain)
    (form' : PlainForm written plain') :
    first = second := by
  have parsed := (LogFormat.parse_eq_ok_iff written first).mpr ⟨plain, named, form⟩
  have parsed' := (LogFormat.parse_eq_ok_iff written second).mpr ⟨plain', named', form'⟩
  exact Except.ok.inj (parsed.symm.trans parsed')

/-- There is one configuration with the overrides applied at most. -/
theorem Overridden.unique
    {configuration result result' : Configuration}
    {filter format : Option String}
    (overridden : configuration.Overridden filter format result)
    (overridden' : configuration.Overridden filter format result') :
    result = result' := by
  have sameFilter : result.logging.filter = result'.logging.filter := by
    by_cases blank : ∀ given ∈ filter, ∀ character ∈ given.toList, character ∈ whiteSpace
    · rw [overridden.filter_kept blank, overridden'.filter_kept blank]
    · simp only [not_forall] at blank
      rcases blank with ⟨given, isGiven, character, member, visible⟩
      rw [overridden.filter_given given isGiven ⟨character, member, visible⟩,
        overridden'.filter_given given isGiven ⟨character, member, visible⟩]
  have sameFormat : result.logging.format = result'.logging.format := by
    cases format with
    | none => rw [overridden.format_kept rfl, overridden'.format_kept rfl]
    | some written =>
        rcases overridden.format_given written rfl with ⟨plain, named, form⟩
        rcases overridden'.format_given written rfl with ⟨plain', named', form'⟩
        exact format_unique named named' form form'
  have sameTarget : result.logging.withTarget = result'.logging.withTarget := by
    rw [overridden.with_target, overridden'.with_target]
  have sameExecution : result.execution = result'.execution := by
    rw [overridden.execution, overridden'.execution]
  have sameResolution : result.resolution = result'.resolution := by
    rw [overridden.resolution, overridden'.resolution]
  rcases result with ⟨⟨_, _, _⟩, _, _⟩
  rcases result' with ⟨⟨_, _, _⟩, _, _⟩
  cases sameFilter
  cases sameFormat
  cases sameTarget
  cases sameExecution
  cases sameResolution
  rfl

theorem withFilter_blank
    (configuration : Configuration)
    {given : String}
    (blank : ∀ character ∈ given.toList, character ∈ whiteSpace) :
    configuration.withFilter given = configuration :=
  if_pos ((isBlankText_iff given).mpr blank)

theorem withFilter_visible
    (configuration : Configuration)
    {given : String}
    (visible : ∃ character ∈ given.toList, character ∉ whiteSpace) :
    configuration.withFilter given =
      { configuration with logging := { configuration.logging with filter := given } } := by
  apply if_neg
  intro blank
  rcases visible with ⟨character, member, notBlank⟩
  exact notBlank ((isBlankText_iff given).mp blank character member)

/-- Without a format only the filter is replaced. -/
theorem overridden_filter
    (configuration : Configuration)
    (filter : Option String) :
    configuration.Overridden filter none (filter.elim configuration configuration.withFilter) := by
  cases filter with
  | none => exact ⟨nofun, fun _ => rfl, nofun, fun _ => rfl, rfl, rfl, rfl⟩
  | some given =>
      by_cases blank : ∀ character ∈ given.toList, character ∈ whiteSpace
      · rw [Option.elim_some, withFilter_blank configuration blank]
        refine ⟨?given, fun _ => rfl, nofun, fun _ => rfl, rfl, rfl, rfl⟩
        case given =>
          rintro _ ⟨⟩ ⟨character, member, visible⟩
          exact (visible (blank character member)).elim
      · have visible : ∃ character ∈ given.toList, character ∉ whiteSpace := by
          simpa only [not_forall, exists_prop] using blank
        rw [Option.elim_some, withFilter_visible configuration visible]
        refine ⟨?given, fun white => (blank (white given rfl)).elim, nofun, fun _ => rfl, rfl, rfl,
          rfl⟩
        case given =>
          rintro _ ⟨⟩ _
          rfl

theorem Overridden.withFormat
    {configuration result : Configuration}
    {filter : Option String}
    {written : String}
    {format : LogFormat}
    (overridden : configuration.Overridden filter none result)
    (parsed : LogFormat.parse written = .ok format) :
    configuration.Overridden filter (some written) (result.withFormat format) where
  filter_given := overridden.filter_given
  filter_kept := overridden.filter_kept
  format_given := by
    intro given isGiven
    cases isGiven
    exact (LogFormat.parse_eq_ok_iff written format).mp parsed
  format_kept := nofun
  with_target := overridden.with_target
  execution := overridden.execution
  resolution := overridden.resolution

theorem withOverrides_eq_error_iff
    (configuration : Configuration)
    (filter format : Option String)
    (error : DispatchError) :
    configuration.withOverrides filter format = .error error ↔
      ∃ written ∈ format, LogFormat.parse written = .error error := by
  cases format with
  | none => simp [withOverrides]
  | some written =>
      cases parsed : LogFormat.parse written with
      | ok format => simp [withOverrides, parsed]
      | error error => simp [withOverrides, parsed]

theorem overridden_of_withOverrides
    {configuration result : Configuration}
    {filter format : Option String}
    (applied : configuration.withOverrides filter format = .ok result) :
    configuration.Overridden filter format result := by
  cases format with
  | none =>
      cases applied
      exact overridden_filter configuration filter
  | some written =>
      cases parsed : LogFormat.parse written with
      | ok format =>
          simp only [withOverrides, parsed] at applied
          cases applied
          exact (overridden_filter configuration filter).withFormat parsed
      | error error => simp [withOverrides, parsed] at applied

theorem withOverrides_eq_ok_iff
    (configuration : Configuration)
    (filter format : Option String)
    (result : Configuration) :
    configuration.withOverrides filter format = .ok result ↔
      configuration.Overridden filter format result := by
  constructor
  · exact overridden_of_withOverrides
  · intro overridden
    cases applied : configuration.withOverrides filter format with
    | ok result' => rw [(overridden_of_withOverrides applied).unique overridden]
    | error error =>
        rcases (withOverrides_eq_error_iff configuration filter format error).mp applied with
          ⟨written, given, refused⟩
        have accepted := overridden.format_given written given
        rw [← LogFormat.parse_eq_ok_iff, refused] at accepted
        cases accepted

/--
Overrides are refused exactly when a format is given whose plain form is no name of a format,
whatever the filter is; otherwise the result differs from the configuration in what `Overridden`
says and in nothing else, and applying them again gives the same.  The name of a format is read
back from letters of any case with any white space around them.
-/
theorem overrides_applied
    (configuration : Configuration)
    (filter format : Option String) :
    (∀ error,
        configuration.withOverrides filter format = .error error ↔
          ∃ written ∈ format, ∃ plain,
            PlainForm written plain ∧ plain ∉ ["pretty", "text", "json"] ∧
              error =
                .configuration
                  ("Unknown log format '" ++ plain ++ "', expected 'pretty' or 'json'")) ∧
      (∀ result,
        configuration.withOverrides filter format = .ok result ↔
          configuration.Overridden filter format result) ∧
      (∀ result,
        configuration.withOverrides filter format = .ok result →
          result.withOverrides filter format = .ok result) ∧
      ∀ (named : LogFormat) (before core after : String),
        (∀ character ∈ before.toList, character ∈ whiteSpace) →
          (∀ character ∈ after.toList, character ∈ whiteSpace) →
            List.Forall₂ SameLetter core.toList named.name.toList →
              LogFormat.parse (before ++ core ++ after) = .ok named := by
  refine ⟨?refused, ?applied, ?again, ?readBack⟩
  case refused =>
    intro error
    simp only [withOverrides_eq_error_iff, LogFormat.parse_eq_error_iff]
  case applied =>
    exact withOverrides_eq_ok_iff configuration filter format
  case again =>
    intro result applied
    rw [withOverrides_eq_ok_iff] at applied ⊢
    exact applied.again
  case readBack =>
    intro named before core after before' after' letters
    refine (LogFormat.parse_eq_ok_iff _ named).mpr ⟨named.name, ?_, ?_⟩
    · cases named <;> decide
    · exact named.plainForm_of_sameLetters before' after' letters

/-- White space and case are seen through, and a blank filter is passed over. -/
example :
    default.withOverrides (some "\u2003\u00a0") (some "\u3000JsOn\u0085") =
      .ok (default.withFormat .json) := by
  decide

/-- A letter outside of ASCII is not a letter of another case. -/
example :
    default.withOverrides none (some "j\u017fon") =
      .error (.configuration "Unknown log format 'j\u017fon', expected 'pretty' or 'json'") := by
  decide

end Configuration

end TaskDispatch
