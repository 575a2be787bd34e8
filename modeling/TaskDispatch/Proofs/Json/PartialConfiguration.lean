import TaskDispatch.Configuration
import TaskDispatch.Proofs.Json.Readers
import TaskDispatch.Proofs.Json.Writers

/-!
# Configurations of which a part is given

A text may give any part of a configuration: whole sections or single settings, in any order, with
any other members between them.  It is read as the default configuration with what is given in its
place (`Configuration.overlaid_on_default`).  What stands for a section that is left out and what
stands for the settings left out of an empty section are written down apart from each other, so
this also says that the two agree.
-/

namespace TaskDispatch

open Json

/-- Settings of logging of which some are given. -/
structure PartialLogging where
  filter : Option String
  format : Option LogFormat
  withTarget : Option Bool

namespace PartialLogging

/-- The settings given, and others for those that are not. -/
def onto (given : PartialLogging) (settings : LoggingSettings) : LoggingSettings where
  filter := given.filter.getD settings.filter
  format := given.format.getD settings.format
  withTarget := given.withTarget.getD settings.withTarget

/-- True of the objects that give these settings. -/
def Written (given : PartialLogging) (text : List Char) : Prop :=
  ∃ members,
    ObjectText members text ∧
      OtherwiseAny ["filter", "format", "with_target"] members ∧
      Gives Quoted members "filter" given.filter ∧
      Gives (fun format => NameText format.name) members "format" given.format ∧
      Gives BooleanText members "with_target" given.withTarget

theorem takes
    {given : PartialLogging}
    {text : List Char}
    (written : given.Written text) :
    Takes LoggingSettings.schema.read (given.onto .default).toJson text := by
  rcases written with ⟨members, object, other, filter, format, withTarget⟩
  apply takes_object object
  · exact other
  · refine .cons ?_ (.cons ?_ (.cons ?_ .nil))
    · exact filled_of_gives Json.text rfl (fun _ _ => takes_text rfl) rfl filter
    · exact filled_of_gives (fun format : LogFormat => .text format.name) rfl
        (fun format _ => takes_name (by cases format <;> decide)) rfl format
    · exact filled_of_gives Json.boolean rfl (fun _ _ => takes_boolean) rfl withTarget

end PartialLogging

/-- Settings of execution of which some are given. -/
structure PartialExecution where
  rebuildWhenInputsMissing : Option Bool

namespace PartialExecution

/-- The settings given, and others for those that are not. -/
def onto (given : PartialExecution) (settings : ExecutionSettings) : ExecutionSettings where
  rebuildWhenInputsMissing :=
    given.rebuildWhenInputsMissing.getD settings.rebuildWhenInputsMissing

/-- True of the objects that give these settings. -/
def Written (given : PartialExecution) (text : List Char) : Prop :=
  ∃ members,
    ObjectText members text ∧
      OtherwiseAny ["rebuild_when_inputs_missing"] members ∧
      Gives BooleanText members "rebuild_when_inputs_missing" given.rebuildWhenInputsMissing

theorem takes
    {given : PartialExecution}
    {text : List Char}
    (written : given.Written text) :
    Takes ExecutionSettings.schema.read (given.onto .default).toJson text := by
  rcases written with ⟨members, object, other, rebuild⟩
  apply takes_object object
  · exact other
  · refine .cons ?_ .nil
    exact filled_of_gives Json.boolean rfl (fun _ _ => takes_boolean) rfl rebuild

end PartialExecution

/-- Settings of resolution of which some are given. -/
structure PartialResolution where
  selfDependency : Option SelfDependencyPolicy

namespace PartialResolution

/-- The settings given, and others for those that are not. -/
def onto (given : PartialResolution) (settings : ResolutionSettings) : ResolutionSettings where
  selfDependency := given.selfDependency.getD settings.selfDependency

/-- True of the objects that give these settings. -/
def Written (given : PartialResolution) (text : List Char) : Prop :=
  ∃ members,
    ObjectText members text ∧
      OtherwiseAny ["self_dependency"] members ∧
      Gives (fun policy => NameText policy.name) members "self_dependency" given.selfDependency

theorem takes
    {given : PartialResolution}
    {text : List Char}
    (written : given.Written text) :
    Takes ResolutionSettings.schema.read (given.onto .default).toJson text := by
  rcases written with ⟨members, object, other, policy⟩
  apply takes_object object
  · exact other
  · refine .cons ?_ .nil
    exact filled_of_gives (fun policy : SelfDependencyPolicy => .text policy.name) rfl
      (fun policy _ => takes_name (by cases policy <;> decide)) rfl policy

end PartialResolution

/-- A configuration of which some sections are given, each in part. -/
structure PartialConfiguration where
  logging : Option PartialLogging
  execution : Option PartialExecution
  resolution : Option PartialResolution

namespace PartialConfiguration

/-- What is given of a configuration, and another one for the rest. -/
def onto (given : PartialConfiguration) (configuration : Configuration) : Configuration where
  logging := given.logging.elim configuration.logging fun logging =>
    logging.onto configuration.logging
  execution := given.execution.elim configuration.execution fun execution =>
    execution.onto configuration.execution
  resolution := given.resolution.elim configuration.resolution fun resolution =>
    resolution.onto configuration.resolution

/-- True of the objects that give these sections. -/
def Written (given : PartialConfiguration) (text : List Char) : Prop :=
  ∃ members,
    ObjectText members text ∧
      OtherwiseAny ["logging", "execution", "resolution"] members ∧
      Gives PartialLogging.Written members "logging" given.logging ∧
      Gives PartialExecution.Written members "execution" given.execution ∧
      Gives PartialResolution.Written members "resolution" given.resolution

/-- A section that is left out is one of which nothing is given. -/
theorem toJson_onto_default (given : PartialConfiguration) :
    (given.onto .default).toJson =
      .object
        [ ("logging", ((given.logging.getD ⟨none, none, none⟩).onto .default).toJson),
          ("execution", ((given.execution.getD ⟨none⟩).onto .default).toJson),
          ("resolution", ((given.resolution.getD ⟨none⟩).onto .default).toJson) ] := by
  rcases given with ⟨logging, execution, resolution⟩
  cases logging <;> cases execution <;> cases resolution <;> rfl

theorem takes
    {given : PartialConfiguration}
    {text : List Char}
    (written : given.Written text) :
    Takes Configuration.schema.read (given.onto .default).toJson text := by
  rcases written with ⟨members, object, other, logging, execution, resolution⟩
  rw [toJson_onto_default]
  apply takes_object object
  · exact other
  · refine .cons ?_ (.cons ?_ (.cons ?_ .nil))
    · exact filled_of_gives (fun given : PartialLogging => (given.onto .default).toJson) rfl
        (fun _ _ => PartialLogging.takes) rfl logging
    · exact filled_of_gives (fun given : PartialExecution => (given.onto .default).toJson) rfl
        (fun _ _ => PartialExecution.takes) rfl execution
    · exact filled_of_gives (fun given : PartialResolution => (given.onto .default).toJson) rfl
        (fun _ _ => PartialResolution.takes) rfl resolution

end PartialConfiguration

namespace Configuration

/-- All of a configuration. -/
def whole (configuration : Configuration) : PartialConfiguration where
  logging :=
    some
      { filter := some configuration.logging.filter
        format := some configuration.logging.format
        withTarget := some configuration.logging.withTarget }
  execution := some ⟨some configuration.execution.rebuildWhenInputsMissing⟩
  resolution := some ⟨some configuration.resolution.selfDependency⟩

theorem onto_whole (configuration other : Configuration) :
    configuration.whole.onto other = configuration := rfl

theorem written_whole (configuration : Configuration) :
    configuration.whole.Written (write configuration.toJson) := by
  refine ⟨_, objectText_write _, by simp [OtherwiseAny], ?_, ?_, ?_⟩
  · refine ⟨_, rfl, _, objectText_write _, by simp [OtherwiseAny], ?_, ?_, ?_⟩
    · exact ⟨_, rfl, quoted_writeText _⟩
    · exact ⟨_, rfl, .inl (quoted_writeText _)⟩
    · exact ⟨_, rfl, booleanText_write _⟩
  · refine ⟨_, rfl, _, objectText_write _, by simp [OtherwiseAny], ?_⟩
    exact ⟨_, rfl, booleanText_write _⟩
  · refine ⟨_, rfl, _, objectText_write _, by simp [OtherwiseAny], ?_⟩
    exact ⟨_, rfl, .inl (quoted_writeText _)⟩

/-- A text that gives a part of a configuration is read as the default configuration with this part
in its place; and a configuration is read back from its own text. -/
theorem overlaid_on_default :
    (∀ (given : PartialConfiguration) (text : String),
      Document given.Written text → ofText text = .ok (given.onto .default)) ∧
    ∀ configuration : Configuration, ofText (compact configuration.toJson) = .ok configuration := by
  have overlaid (given : PartialConfiguration) (text : String)
      (document : Document given.Written text) : ofText text = .ok (given.onto .default) := by
    have read : schema.readText text = .ok (given.onto .default).toJson :=
      readText_of_takes (document.imp fun _ => PartialConfiguration.takes)
    rw [ofText, read]
    simp only [ofJson?_toJson]
  refine ⟨overlaid, fun configuration => ?_⟩
  rw [overlaid configuration.whole _ (document_compact configuration.written_whole), onto_whole]

/-! ## A part of a configuration among other things -/

namespace Sample

def given : PartialConfiguration := ⟨some ⟨some "aA", some .json, none⟩, none, none⟩

/-- A list of half a character and a number, and settings of logging with an escape. -/
def text : String :=
  " \x7b\"note\":[\"\\ud800\",-1.5e3], " ++
    "\"logging\":\x7b\"format\":\x7b\"json\":null\x7d,\"filter\":\"a\\u0041\"\x7d\x7d"

def note : List Char :=
  ['[', '"', '\\', 'u', 'd', '8', '0', '0', '"', ',', '-', '1', '.', '5', 'e', '3', ']']

theorem wellFormed_note : WellFormed note := by
  have unit : CodeUnit 0xd800 ['d', '8', '0', '0'] :=
    .digits (by decide : HexDigit 13 'd') (by decide : HexDigit 8 '8') (by decide : HexDigit 0 '0')
      (by decide : HexDigit 0 '0')
  have half : WellFormed ['"', '\\', 'u', 'd', '8', '0', '0', '"'] := .string (.unit unit .nil)
  have fraction : Digits ['5'] := by decide
  have exponent : ExponentText ('e' :: ([] ++ ['3'])) := .marked (by decide) (by decide) (by decide)
  have number : NumberText (['-'] ++ (['1'] ++ (['.', '5'] ++ ['e', '3']))) :=
    .parts (.inr rfl) (.inr (by decide)) (.inr ⟨_, fraction, rfl⟩) (.inr exponent)
  have each : ∀ item ∈ [_, _], WellFormed item :=
    List.forall_mem_cons.mpr ⟨half, List.forall_mem_singleton.mpr (.number number)⟩
  exact .array (.first gap_nil (.next gap_nil gap_nil (.close gap_nil))) each

/-- The member of a key, without blanks. -/
theorem memberText (key : String) (value : List Char) :
    ∃ quoted, Quoted key quoted ∧ MemberText quoted value (writeText key ++ ':' :: value) :=
  ⟨_, quoted_writeText key, [], [], gap_nil, gap_nil, rfl⟩

def filter : List Char := ['"', 'a', '\\', 'u', '0', '0', '4', '1', '"']

theorem quoted_filter : Quoted "aA" filter := by
  have unit : CodeUnit 'A'.toNat ['0', '0', '4', '1'] :=
    .digits (by decide : HexDigit 0 '0') (by decide : HexDigit 0 '0') (by decide : HexDigit 4 '4')
      (by decide : HexDigit 1 '1')
  have plain : Plain 'a' := by decide
  exact ⟨_, .plain plain (.unit unit .nil), rfl⟩

def format : List Char := '\x7b' :: (writeText "json" ++ ":null\x7d".toList)

theorem nameText_format : NameText "json" format :=
  .inr ⟨_, _, .cons (memberText _ _) .nil, .first gap_nil (.close gap_nil), rfl⟩

def logging : List Char :=
  '\x7b' ::
    (writeText "format" ++ ':' :: (format ++
      ',' :: (writeText "filter" ++ ':' :: (filter ++ ['\x7d']))))

theorem written_logging : PartialLogging.Written ⟨some "aA", some .json, none⟩ logging := by
  have object : ObjectText [("format", format), ("filter", filter)] logging :=
    ⟨_, _, .cons (memberText _ _) (.cons (memberText _ _) .nil),
      .first gap_nil (.next gap_nil gap_nil (.close gap_nil)), rfl⟩
  exact
    ⟨_, object, by simp [OtherwiseAny], ⟨_, rfl, quoted_filter⟩, ⟨_, rfl, nameText_format⟩, rfl⟩

theorem written : Document given.Written text := by
  have object :
      ObjectText [("note", note), ("logging", logging)]
        ('\x7b' :: (writeText "note" ++ ':' :: (note ++
          ',' :: ' ' :: (writeText "logging" ++ ':' :: (logging ++ ['\x7d']))))) :=
    ⟨_, _, .cons (memberText _ _) (.cons (memberText _ _) .nil),
      .first gap_nil (.next gap_nil (by decide : Gap [' ']) (.close gap_nil)), rfl⟩
  have other :
      OtherwiseAny ["logging", "execution", "resolution"]
        [("note", note), ("logging", logging)] := by
    simp [OtherwiseAny, wellFormed_note]
  exact
    ⟨[' '], _, [], by decide, gap_nil,
      ⟨_, object, other, ⟨_, rfl, written_logging⟩, rfl, rfl⟩, rfl⟩

theorem read_sample :
    Document given.Written text ∧
      ofText text = .ok ⟨⟨"aA", .json, true⟩, ⟨true⟩, ⟨.filter⟩⟩ :=
  ⟨written, overlaid_on_default.1 given text written⟩

end Sample

end Configuration

end TaskDispatch
