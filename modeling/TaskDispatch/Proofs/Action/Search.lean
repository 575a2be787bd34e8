import Mathlib.Data.List.Induction
import Mathlib.Tactic.Tauto
import TaskDispatch.Action.ClassInfo

/-!
# The search for actions

A search meets the declared methods of a type one after the other.  What it has found is a function
of the declarations met so far: the methods whose names were not declared before, and whether one
of them takes incremental inputs.  Whether the next declaration is refused depends on the
declarations met before it, and on nothing else, provided that the declarations of each layer stand
together.

`meet_after` states one step of a search and `meetAll_after` a whole one.
-/

namespace TaskDispatch

variable {Body : Type}

/-- A method with the layer that declares it. -/
abbrev DeclaredMethod (Body : Type) := TypeLayer Body × ActionMethod Body

namespace ActionMethod

/-- True if a method takes incremental inputs and nothing else. -/
def takesInputs (method : ActionMethod Body) : Bool :=
  method.parameters == [.incrementalInputs]

/-- True of methods that may be actions. -/
def IsAction (method : ActionMethod Body) : Prop :=
  method.isStatic = false ∧ (method.parameters = [] ∨ method.parameters = [.incrementalInputs])

instance (method : ActionMethod Body) : Decidable method.IsAction :=
  inferInstanceAs (Decidable (_ ∧ _))

end ActionMethod

namespace ActionFactory

/-- The action of a declared method, named after the layer that declares it. -/
def ofDeclared (declaration : DeclaredMethod Body) : ActionFactory Body :=
  if declaration.2.takesInputs then .incremental declaration.1.name declaration.2
  else .standard declaration.1.name declaration.2

@[simp]
theorem isIncremental_ofDeclared (declaration : DeclaredMethod Body) :
    (ofDeclared declaration).isIncremental = declaration.2.takesInputs := by
  unfold ofDeclared
  split
  · rename_i takes
    rw [takes]
    rfl
  · rename_i takesNot
    rw [Bool.not_eq_true] at takesNot
    rw [takesNot]
    rfl

theorem ofMethod_of_isAction
    {layer : TypeLayer Body}
    {method : ActionMethod Body}
    (action : method.IsAction) :
    ofMethod layer method = .ok (ofDeclared (layer, method)) := by
  rcases action with ⟨notStatic, parameters | parameters⟩
  · simp [ofMethod, ofDeclared, ActionMethod.takesInputs, notStatic, parameters]
  · simp [ofMethod, ofDeclared, ActionMethod.takesInputs, notStatic, parameters]

theorem isAction_of_ofMethod
    {layer : TypeLayer Body}
    {method : ActionMethod Body}
    {factory : ActionFactory Body}
    (accepted : ofMethod layer method = .ok factory) :
    method.IsAction := by
  unfold ofMethod at accepted
  split at accepted
  · cases accepted
  · rename_i notStatic
    rw [Bool.not_eq_true] at notStatic
    split at accepted
    · rename_i noParameters
      exact ⟨notStatic, .inl noParameters⟩
    · rename_i oneParameter
      exact ⟨notStatic, .inr oneParameter⟩
    · cases accepted
    · cases accepted

end ActionFactory

/-- The declarations whose names are not declared earlier in the list. -/
def firsts : List (DeclaredMethod Body) → List (DeclaredMethod Body)
  | [] => []
  | declaration :: later =>
      declaration :: (firsts later).filter fun other => other.2.name != declaration.2.name

@[simp]
theorem firsts_nil : firsts ([] : List (DeclaredMethod Body)) = [] := rfl

@[simp]
theorem firsts_cons (declaration : DeclaredMethod Body) (later : List (DeclaredMethod Body)) :
    firsts (declaration :: later) =
      declaration :: (firsts later).filter fun other => other.2.name != declaration.2.name := rfl

/-- Of declarations after others, those count whose names the others do not have. -/
theorem firsts_append (earlier later : List (DeclaredMethod Body)) :
    firsts (earlier ++ later) =
      firsts earlier ++
        (firsts later).filter fun other =>
          earlier.all fun declaration => other.2.name != declaration.2.name := by
  induction earlier with
  | nil =>
      have kept : (firsts later).filter (fun _ => true) = firsts later :=
        List.filter_eq_self.mpr fun _ _ => rfl
      simp only [List.nil_append, firsts_nil, List.all_nil, kept]
  | cons declaration earlier ih =>
      rw [List.cons_append, firsts_cons, firsts_cons, ih, List.filter_append, List.filter_filter,
        List.cons_append]
      simp only [List.all_cons]

/-- True if a name is declared by one of these declarations. -/
def Declares (met : List (DeclaredMethod Body)) (name : String) : Prop :=
  ∃ other ∈ met, other.2.name = name

instance (met : List (DeclaredMethod Body)) (name : String) : Decidable (Declares met name) :=
  inferInstanceAs (Decidable (∃ other ∈ met, other.2.name = name))

theorem all_name_ne_eq (met : List (DeclaredMethod Body)) (name : String) :
    (met.all fun earlier => name != earlier.2.name) = !decide (Declares met name) := by
  rw [Bool.eq_iff_iff, List.all_eq_true, Bool.not_eq_true', decide_eq_false_iff_not]
  constructor
  · rintro different ⟨other, member, sameName⟩
    have apart := different other member
    rw [bne_iff_ne] at apart
    exact apart sameName.symm
  · intro new other member
    rw [bne_iff_ne]
    intro sameName
    exact new ⟨other, member, sameName.symm⟩

theorem firsts_concat_of_declared
    {met : List (DeclaredMethod Body)}
    {declaration : DeclaredMethod Body}
    (declared : Declares met declaration.2.name) :
    firsts (met ++ [declaration]) = firsts met := by
  rw [firsts_append]
  simp [all_name_ne_eq, declared]

theorem firsts_concat_of_new
    {met : List (DeclaredMethod Body)}
    {declaration : DeclaredMethod Body}
    (new : ¬ Declares met declaration.2.name) :
    firsts (met ++ [declaration]) = firsts met ++ [declaration] := by
  rw [firsts_append]
  simp [all_name_ne_eq, new]

/-- True of declarations in which those of each layer stand together: the layers can be numbered
so that the numbers never fall. -/
def Gathered (declarations : List (DeclaredMethod Body)) : Prop :=
  ∃ rank : Identity → Nat,
    declarations.Pairwise (fun earlier later =>
      rank earlier.1.identity ≤ rank later.1.identity) ∧
    ∀ first ∈ declarations, ∀ second ∈ declarations,
      rank first.1.identity = rank second.1.identity → first.1.identity = second.1.identity

theorem Gathered.sublist
    {part whole : List (DeclaredMethod Body)}
    (gathered : Gathered whole)
    (sublist : part.Sublist whole) :
    Gathered part := by
  rcases gathered with ⟨rank, ascending, apart⟩
  refine ⟨rank, ascending.sublist sublist, ?_⟩
  intro first firstMember second secondMember
  exact apart first (sublist.subset firstMember) second (sublist.subset secondMember)

/-- Between two declarations of one layer there are only declarations of that layer. -/
theorem Gathered.between
    {met : List (DeclaredMethod Body)}
    {earlier middle later : DeclaredMethod Body}
    (gathered : Gathered (met ++ [middle, later]))
    (member : earlier ∈ met)
    (sameLayer : earlier.1.identity = later.1.identity) :
    middle.1.identity = later.1.identity := by
  rcases gathered with ⟨rank, ascending, apart⟩
  rw [List.pairwise_append] at ascending
  rcases ascending with ⟨-, ends, across⟩
  have upwards : rank earlier.1.identity ≤ rank middle.1.identity :=
    across earlier member middle (by simp)
  have onwards : rank middle.1.identity ≤ rank later.1.identity :=
    (List.pairwise_cons.mp ends).1 later (by simp)
  rw [sameLayer] at upwards
  exact apart middle (by simp) later (by simp) (Nat.le_antisymm onwards upwards)

namespace ActionSearch

/-- What a search has found after it has met declarations. -/
def after (met : List (DeclaredMethod Body)) : ActionSearch Body :=
  { owners := (met.map fun declaration => (declaration.2.name, declaration.1.identity)).reverse
    incremental := (firsts met).any fun declaration => declaration.2.takesInputs
    factories := (firsts met).map ActionFactory.ofDeclared }

theorem owners_after_concat (met : List (DeclaredMethod Body)) (declaration : DeclaredMethod Body) :
    (after (met ++ [declaration])).owners =
      (declaration.2.name, declaration.1.identity) :: (after met).owners := by
  simp [after]

theorem ownerOf_after_eq_none_iff (met : List (DeclaredMethod Body)) (name : String) :
    ownerOf name (after met).owners = none ↔ ¬ Declares met name := by
  induction met using List.reverseRecOn with
  | nil => simp [after, ownerOf, Declares]
  | append_singleton met last ih =>
      rw [owners_after_concat, ownerOf]
      by_cases sameName : name = last.2.name
      · rw [if_pos sameName]
        simp [Declares, sameName]
      · rw [if_neg sameName, ih]
        simp [Declares, Ne.symm sameName]

/-- True if the layer of a declaration has declared the same name before. -/
def Overloads (met : List (DeclaredMethod Body)) (declaration : DeclaredMethod Body) : Prop :=
  ∃ other ∈ met,
    other.1.identity = declaration.1.identity ∧ other.2.name = declaration.2.name

instance (met : List (DeclaredMethod Body)) (declaration : DeclaredMethod Body) :
    Decidable (Overloads met declaration) :=
  inferInstanceAs (Decidable (∃ other ∈ met,
    other.1.identity = declaration.1.identity ∧ other.2.name = declaration.2.name))

theorem Overloads.declares
    {met : List (DeclaredMethod Body)}
    {declaration : DeclaredMethod Body}
    (overload : Overloads met declaration) :
    Declares met declaration.2.name := by
  rcases overload with ⟨other, member, -, sameName⟩
  exact ⟨other, member, sameName⟩

/-- The last owner of a name is the layer at hand exactly if that layer has declared it. -/
theorem ownerOf_after_eq_some_iff
    {met : List (DeclaredMethod Body)}
    {declaration : DeclaredMethod Body}
    (gathered : Gathered (met ++ [declaration])) :
    ownerOf declaration.2.name (after met).owners = some declaration.1.identity ↔
      Overloads met declaration := by
  induction met using List.reverseRecOn with
  | nil => simp [after, ownerOf, Overloads]
  | append_singleton met last ih =>
      rw [owners_after_concat, ownerOf]
      by_cases sameName : declaration.2.name = last.2.name
      · rw [if_pos sameName, Option.some_inj]
        constructor
        · intro sameLayer
          exact ⟨last, by simp, sameLayer, sameName.symm⟩
        · rintro ⟨other, member, sameLayer, -⟩
          rcases List.mem_append.mp member with earlier | isLast
          · rw [List.append_assoc] at gathered
            exact gathered.between earlier sameLayer
          · rw [List.mem_singleton] at isLast
            rw [← isLast]
            exact sameLayer
      · have shorter : (met ++ [declaration]).Sublist (met ++ [last] ++ [declaration]) := by
          simp
        rw [if_neg sameName, ih (gathered.sublist shorter)]
        simp [Overloads, Ne.symm sameName]

/-- True if a declaration gives an action with incremental inputs and an earlier one does too. -/
def SecondIncremental
    (met : List (DeclaredMethod Body))
    (declaration : DeclaredMethod Body) :
    Prop :=
  ¬ Declares met declaration.2.name ∧ declaration.2.takesInputs = true ∧
    (firsts met).any (fun other => other.2.takesInputs) = true

instance (met : List (DeclaredMethod Body)) (declaration : DeclaredMethod Body) :
    Decidable (SecondIncremental met declaration) :=
  inferInstanceAs (Decidable (_ ∧ _ ∧ _))

/-- Why a declaration is refused after others have been met, if it is. -/
def violation?
    (concrete : String)
    (met : List (DeclaredMethod Body))
    (declaration : DeclaredMethod Body) :
    Option MetadataError :=
  match ActionFactory.ofMethod declaration.1 declaration.2 with
  | .error error => some error
  | .ok _ =>
      if Overloads met declaration then
        some (.duplicateOverload declaration.1.name declaration.2.name)
      else if SecondIncremental met declaration then some (.multipleIncremental concrete)
      else none

/-- Why the first refused declaration is refused, if one is. -/
def firstViolation?
    (concrete : String)
    (met : List (DeclaredMethod Body)) :
    List (DeclaredMethod Body) → Option MetadataError
  | [] => none
  | declaration :: later =>
      match violation? concrete met declaration with
      | some error => some error
      | none => firstViolation? concrete (met ++ [declaration]) later

/-- One step of a search. -/
theorem meet_after
    (concrete : String)
    {met : List (DeclaredMethod Body)}
    {declaration : DeclaredMethod Body}
    (gathered : Gathered (met ++ [declaration])) :
    (after met).meet concrete declaration =
      match violation? concrete met declaration with
      | some error => .error error
      | none => .ok (after (met ++ [declaration])) := by
  rcases declaration with ⟨layer, method⟩
  cases accepted : ActionFactory.ofMethod layer method with
  | error error => simp only [meet, violation?, accepted]
  | ok factory =>
      have made : factory = ActionFactory.ofDeclared (layer, method) := by
        rw [ActionFactory.ofMethod_of_isAction (ActionFactory.isAction_of_ofMethod accepted)]
          at accepted
        exact (Except.ok.inj accepted).symm
      have owners := owners_after_concat met (layer, method)
      by_cases declared : Declares met method.name
      -- The name has an owner: it is this layer's, or a more derived layer overrides the method.
      · have unchanged : firsts (met ++ [(layer, method)]) = firsts met :=
          firsts_concat_of_declared declared
        have notSecond : ¬ SecondIncremental met (layer, method) := fun second => second.1 declared
        cases found : ownerOf method.name (after met).owners with
        | none => exact absurd declared ((ownerOf_after_eq_none_iff met method.name).mp found)
        | some last =>
            have overload := ownerOf_after_eq_some_iff gathered
            rw [found, Option.some_inj] at overload
            by_cases sameLayer : last = layer.identity
            · simp only [meet, violation?, accepted, found, if_pos sameLayer,
                if_pos (overload.mp sameLayer)]
            · simp only [meet, violation?, accepted, found, if_neg sameLayer,
                if_neg (fun again => sameLayer (overload.mpr again)), if_neg notSecond]
              simp only [after, unchanged, List.map_append, List.reverse_append]
              rfl
      -- The method gives an action, unless it is the second that takes incremental inputs.
      · have added : firsts (met ++ [(layer, method)]) = firsts met ++ [(layer, method)] :=
          firsts_concat_of_new declared
        have notOverload : ¬ Overloads met (layer, method) := fun again => declared again.declares
        have unowned := (ownerOf_after_eq_none_iff met method.name).mpr declared
        by_cases second : SecondIncremental met (layer, method)
        · have refused : (factory.isIncremental && (after met).incremental) = true := by
            rw [made, ActionFactory.isIncremental_ofDeclared, Bool.and_eq_true]
            exact second.2
          simp only [meet, violation?, accepted, unowned, refused, if_neg notOverload,
            if_pos second, if_true]
        · have allowed : ¬ (factory.isIncremental && (after met).incremental) = true := by
            rw [made, ActionFactory.isIncremental_ofDeclared, Bool.and_eq_true]
            exact fun both => second ⟨declared, both⟩
          simp only [meet, violation?, accepted, unowned, if_neg allowed, if_neg notOverload,
            if_neg second]
          simp [after, added, made]

/-- A whole search, continued after declarations that were met before. -/
theorem meetAll_after
    (concrete : String)
    {met later : List (DeclaredMethod Body)}
    (gathered : Gathered (met ++ later)) :
    (after met).meetAll concrete later =
      match firstViolation? concrete met later with
      | some error => .error error
      | none => .ok (after (met ++ later)) := by
  induction later generalizing met with
  | nil => simp [meetAll, firstViolation?]
  | cons declaration later ih =>
      have onward : met ++ declaration :: later = met ++ [declaration] ++ later := by simp
      rw [onward] at gathered ⊢
      rw [meetAll, meet_after concrete (gathered.sublist (List.sublist_append_left _ _)),
        firstViolation?]
      cases violation? concrete met declaration with
      | some error => rfl
      | none => exact ih gathered

theorem meetAll_start
    (concrete : String)
    {declarations : List (DeclaredMethod Body)}
    (gathered : Gathered declarations) :
    start.meetAll concrete declarations =
      match firstViolation? concrete [] declarations with
      | some error => .error error
      | none => .ok (after declarations) := by
  rw [← List.nil_append declarations] at gathered
  exact meetAll_after concrete gathered

theorem firstViolation?_append
    (concrete : String)
    (met earlier later : List (DeclaredMethod Body)) :
    firstViolation? concrete met (earlier ++ later) =
      (firstViolation? concrete met earlier).or
        (firstViolation? concrete (met ++ earlier) later) := by
  induction earlier generalizing met with
  | nil => simp [firstViolation?]
  | cons declaration earlier ih =>
      rw [List.cons_append, firstViolation?, firstViolation?]
      cases violation? concrete met declaration with
      | some error => rfl
      | none => simpa using ih (met ++ [declaration])

/-- True of two declarations of one name by one layer. -/
def SameMethod (declaration other : DeclaredMethod Body) : Prop :=
  declaration.1.identity = other.1.identity ∧ declaration.2.name = other.2.name

theorem violation?_eq_none_iff
    (concrete : String)
    (met : List (DeclaredMethod Body))
    (declaration : DeclaredMethod Body) :
    violation? concrete met declaration = none ↔
      declaration.2.IsAction ∧ ¬ Overloads met declaration ∧
        ¬ SecondIncremental met declaration := by
  unfold violation?
  constructor
  · intro accepted
    split at accepted
    · cases accepted
    · rename_i factory made
      split at accepted
      · cases accepted
      · rename_i noOverload
        split at accepted
        · cases accepted
        · rename_i notSecond
          exact ⟨ActionFactory.isAction_of_ofMethod made, noOverload, notSecond⟩
  · rintro ⟨action, noOverload, notSecond⟩
    rw [ActionFactory.ofMethod_of_isAction action]
    simp only [if_neg noOverload, if_neg notSecond]

/-- How many of the declarations that give an action take incremental inputs. -/
def incrementalCount (declarations : List (DeclaredMethod Body)) : Nat :=
  (firsts declarations).countP fun declaration => declaration.2.takesInputs

theorem any_takesInputs_iff (declarations : List (DeclaredMethod Body)) :
    (firsts declarations).any (fun declaration => declaration.2.takesInputs) = true ↔
      0 < incrementalCount declarations := by
  unfold incrementalCount
  rw [List.any_eq_true, List.countP_pos_iff]

theorem incrementalCount_concat_le_one_iff
    (met : List (DeclaredMethod Body))
    (declaration : DeclaredMethod Body) :
    incrementalCount (met ++ [declaration]) ≤ 1 ↔
      incrementalCount met ≤ 1 ∧ ¬ SecondIncremental met declaration := by
  unfold SecondIncremental
  rw [any_takesInputs_iff]
  unfold incrementalCount
  by_cases declared : Declares met declaration.2.name
  · rw [firsts_concat_of_declared declared]
    simp [declared]
  · rw [firsts_concat_of_new declared, List.countP_append, List.countP_singleton]
    cases declaration.2.takesInputs with
    | false => simp
    | true =>
        simp only [declared, not_false_eq_true, true_and, if_true]
        omega

/-- Nothing is refused exactly if all methods may be actions, none is declared twice by one layer,
and at most one of those that give an action takes incremental inputs. -/
theorem firstViolation?_eq_none_iff
    (concrete : String)
    (declarations : List (DeclaredMethod Body)) :
    firstViolation? concrete [] declarations = none ↔
      (∀ declaration ∈ declarations, declaration.2.IsAction) ∧
      declarations.Pairwise (fun earlier later => ¬ SameMethod earlier later) ∧
      incrementalCount declarations ≤ 1 := by
  induction declarations using List.reverseRecOn with
  | nil => simp [firstViolation?, incrementalCount]
  | append_singleton met declaration ih =>
      have last : firstViolation? concrete met [declaration] = none ↔
          violation? concrete met declaration = none := by
        unfold firstViolation?
        cases violation? concrete met declaration with
        | some error => rfl
        | none => rfl
      have overload : ¬ Overloads met declaration ↔
          ∀ earlier ∈ met, ¬ SameMethod earlier declaration := by
        simp [Overloads, SameMethod]
      rw [firstViolation?_append, Option.or_eq_none_iff, ih, List.nil_append, last,
        violation?_eq_none_iff, overload, List.pairwise_append,
        incrementalCount_concat_le_one_iff]
      simp only [List.mem_append, List.mem_singleton, List.pairwise_singleton, true_and, or_imp,
        forall_and, forall_eq]
      tauto

end ActionSearch

end TaskDispatch
