import TaskDispatch.Action.ClassInfo

/-!
# The order of actions

In any class info the actions of declared methods come first, and the isolated action of the type,
if it has one, is the last.  One action takes incremental inputs if the class info says so, and none
does otherwise.
-/

namespace TaskDispatch

variable {Body : Type}

namespace ActionFactory

/-- The declared method of an action; an isolated action has none. -/
def method? : ActionFactory Body → Option (ActionMethod Body)
  | .standard _ method => some method
  | .incremental _ method => some method
  | .isolated _ => none

/-- True of the actions of declared methods. -/
def isDeclared (factory : ActionFactory Body) : Bool := factory.method?.isSome

end ActionFactory

/-- True of actions of which only the last one may be isolated. -/
def IsolatedLast : List (ActionFactory Body) → Prop
  | [] => True
  | factory :: left => (factory.isDeclared = true ∨ left = []) ∧ IsolatedLast left

theorem IsolatedLast.append
    {earlier later : List (ActionFactory Body)}
    (declared : ∀ factory ∈ earlier, factory.isDeclared = true)
    (isolatedLast : IsolatedLast later) :
    IsolatedLast (earlier ++ later) := by
  induction earlier with
  | nil => exact isolatedLast
  | cons factory earlier ih =>
      rw [List.forall_mem_cons] at declared
      exact ⟨.inl declared.1, ih declared.2⟩

namespace ActionSearch

theorem isDeclared_of_ofMethod
    {layer : TypeLayer Body}
    {method : ActionMethod Body}
    {factory : ActionFactory Body}
    (accepted : ActionFactory.ofMethod layer method = .ok factory) :
    factory.isDeclared = true := by
  unfold ActionFactory.ofMethod at accepted
  split at accepted
  · cases accepted
  · split at accepted
    · cases accepted
      rfl
    · cases accepted
      rfl
    · cases accepted
    · cases accepted

/-- A method that is met gives a declared action or none. -/
theorem meet_declared
    {concrete : String}
    {search found : ActionSearch Body}
    {declaration : TypeLayer Body × ActionMethod Body}
    (declared : ∀ factory ∈ search.factories, factory.isDeclared = true)
    (met : search.meet concrete declaration = .ok found) :
    ∀ factory ∈ found.factories, factory.isDeclared = true := by
  rcases declaration with ⟨layer, method⟩
  unfold meet at met
  dsimp only at met
  split at met
  · cases met
  · rename_i factory accepted
    split at met
    · split at met
      · cases met
      · cases met
        exact declared
    · split at met
      · cases met
      · cases met
        rw [List.forall_mem_append]
        refine ⟨declared, ?_⟩
        intro other member
        rw [List.mem_singleton] at member
        rw [member]
        exact isDeclared_of_ofMethod accepted

theorem meetAll_declared
    {concrete : String}
    {search found : ActionSearch Body}
    {declarations : List (TypeLayer Body × ActionMethod Body)}
    (declared : ∀ factory ∈ search.factories, factory.isDeclared = true)
    (met : search.meetAll concrete declarations = .ok found) :
    ∀ factory ∈ found.factories, factory.isDeclared = true := by
  induction declarations generalizing search with
  | nil =>
      cases met
      exact declared
  | cons declaration declarations ih =>
      unfold meetAll at met
      split at met
      · cases met
      · rename_i middle first
        exact ih (meet_declared declared first) met

end ActionSearch

/-- The isolated action of a class info is its last one. -/
theorem ClassInfo.isolatedLast_of_build
    {type : TaskType Body}
    {info : ClassInfo Body}
    (built : ClassInfo.build type = .ok info) :
    IsolatedLast info.factories := by
  unfold ClassInfo.build at built
  split at built
  · cases built
  · rename_i search searched
    cases built
    apply IsolatedLast.append
    · apply ActionSearch.meetAll_declared _ searched
      intro factory member
      cases member
    · unfold ClassInfo.isolatedActions
      split
      · exact ⟨.inr rfl, trivial⟩
      · trivial

namespace ActionSearch

/-- A search that has counted its incremental actions still has after one more method. -/
theorem meet_incrementals
    {concrete : String}
    {search found : ActionSearch Body}
    {declaration : TypeLayer Body × ActionMethod Body}
    (counted : search.factories.countP ActionFactory.isIncremental = search.incremental.toNat)
    (met : search.meet concrete declaration = .ok found) :
    found.factories.countP ActionFactory.isIncremental = found.incremental.toNat := by
  rcases declaration with ⟨layer, method⟩
  unfold meet at met
  dsimp only at met
  split at met
  · cases met
  · rename_i factory accepted
    split at met
    · split at met
      · cases met
      · cases met
        exact counted
    · split at met
      · cases met
      · rename_i notSecond
        cases met
        rw [List.countP_append, counted, List.countP_singleton]
        cases takes : factory.isIncremental with
        | false => simp
        | true =>
            rw [takes, Bool.true_and, Bool.not_eq_true] at notSecond
            simp [notSecond]

theorem meetAll_incrementals
    {concrete : String}
    {search found : ActionSearch Body}
    {declarations : List (TypeLayer Body × ActionMethod Body)}
    (counted : search.factories.countP ActionFactory.isIncremental = search.incremental.toNat)
    (met : search.meetAll concrete declarations = .ok found) :
    found.factories.countP ActionFactory.isIncremental = found.incremental.toNat := by
  induction declarations generalizing search with
  | nil =>
      cases met
      exact counted
  | cons declaration declarations ih =>
      unfold meetAll at met
      split at met
      · cases met
      · rename_i middle first
        exact ih (meet_incrementals counted first) met

end ActionSearch

/-- A class info lists one incremental action or none, as it says. -/
theorem ClassInfo.countP_isIncremental_of_build
    {type : TaskType Body}
    {info : ClassInfo Body}
    (built : ClassInfo.build type = .ok info) :
    info.factories.countP ActionFactory.isIncremental = info.incremental.toNat := by
  unfold ClassInfo.build at built
  split at built
  · cases built
  · rename_i search searched
    cases built
    have declared := ActionSearch.meetAll_incrementals rfl searched
    have isolated : (ClassInfo.isolatedActions type).countP ActionFactory.isIncremental = 0 := by
      unfold ClassInfo.isolatedActions
      split <;> rfl
    rw [List.countP_append, declared, isolated, Nat.add_zero]

end TaskDispatch
