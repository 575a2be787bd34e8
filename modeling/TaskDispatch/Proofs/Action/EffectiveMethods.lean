import Mathlib.Data.List.Nodup
import TaskDispatch.Proofs.Action.Search

/-!
# Effective methods

A method is effective unless a more derived layer declares its name.  The class info of a type lists
the actions of its effective methods, and it is refused exactly if a method of the hierarchy may not
be an action, a layer declares a name twice, or two effective methods take incremental inputs.

The search for actions keeps one owner for each name; `firsts_eq_effectiveIn` says that the methods
it keeps are the effective ones as long as no layer declares a name twice.  The main statement is
`build_exactly`.
-/

namespace TaskDispatch

variable {Body : Type}

namespace TypeLayer

/-- True if a layer declares a name. -/
def DeclaresName (layer : TypeLayer Body) (name : String) : Prop :=
  name ∈ layer.methods.map ActionMethod.name

instance (layer : TypeLayer Body) (name : String) : Decidable (layer.DeclaresName name) :=
  inferInstanceAs (Decidable (name ∈ layer.methods.map ActionMethod.name))

/-- The methods of a layer as declarations. -/
def declarations (layer : TypeLayer Body) : List (DeclaredMethod Body) :=
  layer.methods.map fun method => (layer, method)

theorem mem_declarations_iff (layer : TypeLayer Body) (declaration : DeclaredMethod Body) :
    declaration ∈ layer.declarations ↔
      declaration.1 = layer ∧ declaration.2 ∈ layer.methods := by
  unfold declarations
  rw [List.mem_map]
  constructor
  · rintro ⟨method, member, rfl⟩
    exact ⟨rfl, member⟩
  · rintro ⟨rfl, member⟩
    exact ⟨declaration.2, member, rfl⟩

theorem declares_declarations_iff (layer : TypeLayer Body) (name : String) :
    Declares layer.declarations name ↔ layer.DeclaresName name := by
  simp [Declares, declarations, DeclaresName]

end TypeLayer

namespace TaskType

/-- The layers of a hierarchy that are more derived than the one with an identity. -/
def moreDerived (layers : List (TypeLayer Body)) (identity : Identity) : List (TypeLayer Body) :=
  layers.takeWhile fun layer => layer.identity != identity

/-- The declarations of layers, the most derived layer first. -/
def declarationsIn (layers : List (TypeLayer Body)) : List (DeclaredMethod Body) :=
  layers.flatMap TypeLayer.declarations

/-- True if a more derived layer declares the name of a method. -/
def Overridden (layers : List (TypeLayer Body)) (declaration : DeclaredMethod Body) : Prop :=
  ∃ layer ∈ moreDerived layers declaration.1.identity, layer.DeclaresName declaration.2.name

instance (layers : List (TypeLayer Body)) (declaration : DeclaredMethod Body) :
    Decidable (Overridden layers declaration) :=
  inferInstanceAs (Decidable
    (∃ layer ∈ moreDerived layers declaration.1.identity, layer.DeclaresName declaration.2.name))

/-- The declarations that are not overridden. -/
def effectiveIn (layers : List (TypeLayer Body)) : List (DeclaredMethod Body) :=
  (declarationsIn layers).filter fun declaration => ¬ Overridden layers declaration

/-- The effective methods of a type, the most derived layer first and in the order of their
declaration. -/
def effective (type : TaskType Body) : List (DeclaredMethod Body) := effectiveIn type.hierarchy

theorem declarations_eq (type : TaskType Body) :
    type.declarations = declarationsIn type.hierarchy := rfl

theorem mem_declarationsIn_iff
    (layers : List (TypeLayer Body))
    (declaration : DeclaredMethod Body) :
    declaration ∈ declarationsIn layers ↔
      declaration.1 ∈ layers ∧ declaration.2 ∈ declaration.1.methods := by
  unfold declarationsIn
  rw [List.mem_flatMap]
  constructor
  · rintro ⟨layer, member, declared⟩
    rcases (layer.mem_declarations_iff declaration).mp declared with ⟨rfl, declared⟩
    exact ⟨member, declared⟩
  · rintro ⟨member, declared⟩
    refine ⟨declaration.1, member, ?_⟩
    exact (declaration.1.mem_declarations_iff declaration).mpr ⟨rfl, declared⟩

theorem not_overridden_own
    {layer : TypeLayer Body}
    {ancestors : List (TypeLayer Body)}
    {declaration : DeclaredMethod Body}
    (own : declaration.1 = layer) :
    ¬ Overridden (layer :: ancestors) declaration := by
  simp [Overridden, moreDerived, own]

theorem overridden_inherited_iff
    {layer : TypeLayer Body}
    {ancestors : List (TypeLayer Body)}
    {declaration : DeclaredMethod Body}
    (other : layer.identity ≠ declaration.1.identity) :
    Overridden (layer :: ancestors) declaration ↔
      layer.DeclaresName declaration.2.name ∨ Overridden ancestors declaration := by
  simp [Overridden, moreDerived, other]

/-- The methods of the most derived layer are effective, and so are those effective in its
ancestors whose names it does not declare. -/
theorem effectiveIn_cons
    {layer : TypeLayer Body}
    {ancestors : List (TypeLayer Body)}
    (distinct : ((layer :: ancestors).map TypeLayer.identity).Nodup) :
    effectiveIn (layer :: ancestors) =
      layer.declarations ++
        (effectiveIn ancestors).filter fun declaration =>
          ¬ layer.DeclaresName declaration.2.name := by
  rw [List.map_cons, List.nodup_cons] at distinct
  unfold effectiveIn declarationsIn
  rw [List.flatMap_cons, List.filter_append, List.filter_filter]
  congr 1
  · rw [List.filter_eq_self]
    intro declaration member
    rcases (layer.mem_declarations_iff declaration).mp member with ⟨own, -⟩
    exact decide_eq_true (not_overridden_own own)
  · apply List.filter_congr
    intro declaration member
    rcases (mem_declarationsIn_iff ancestors declaration).mp member with ⟨inherited, -⟩
    have other : layer.identity ≠ declaration.1.identity := by
      intro same
      apply distinct.1
      rw [same]
      exact List.mem_map_of_mem inherited
    rw [← Bool.decide_and, decide_eq_decide, overridden_inherited_iff other, not_or]

theorem firsts_declarations
    {layer : TypeLayer Body}
    (noOverloads : (layer.methods.map ActionMethod.name).Nodup) :
    firsts layer.declarations = layer.declarations := by
  unfold TypeLayer.declarations
  generalize layer.methods = methods at noOverloads
  induction methods with
  | nil => rfl
  | cons method methods ih =>
      rw [List.map_cons, List.nodup_cons] at noOverloads
      rw [List.map_cons, firsts_cons, ih noOverloads.2]
      congr 1
      rw [List.filter_eq_self]
      intro declaration member
      rcases List.mem_map.mp member with ⟨other, declared, rfl⟩
      rw [bne_iff_ne]
      intro sameName
      apply noOverloads.1
      rw [← sameName]
      exact List.mem_map_of_mem declared

/-- A search keeps the effective methods if no layer declares a name twice. -/
theorem firsts_eq_effectiveIn
    {layers : List (TypeLayer Body)}
    (distinct : (layers.map TypeLayer.identity).Nodup)
    (noOverloads : ∀ layer ∈ layers, (layer.methods.map ActionMethod.name).Nodup) :
    firsts (declarationsIn layers) = effectiveIn layers := by
  induction layers with
  | nil => rfl
  | cons layer ancestors ih =>
      have inherited := ih (List.nodup_cons.mp distinct).2
        (fun other member => noOverloads other (List.mem_cons_of_mem layer member))
      rw [effectiveIn_cons distinct, ← inherited]
      unfold declarationsIn
      rw [List.flatMap_cons, firsts_append,
        firsts_declarations (noOverloads layer List.mem_cons_self)]
      congr 1
      apply List.filter_congr
      intro declaration _
      rw [all_name_ne_eq, ← decide_not, decide_eq_decide, layer.declares_declarations_iff]

/-- Layers with identities of their own are numbered by their places. -/
theorem gathered_declarationsIn
    {layers : List (TypeLayer Body)}
    (distinct : (layers.map TypeLayer.identity).Nodup) :
    Gathered (declarationsIn layers) := by
  refine ⟨fun identity => (layers.map TypeLayer.identity).idxOf identity, ?_, ?_⟩
  · unfold declarationsIn
    rw [List.pairwise_flatMap]
    constructor
    · intro layer _
      apply List.Pairwise.imp_of_mem (R := fun _ _ => True)
      · intro earlier later earlierMember laterMember _
        rcases (layer.mem_declarations_iff earlier).mp earlierMember with ⟨earlierOwn, -⟩
        rcases (layer.mem_declarations_iff later).mp laterMember with ⟨laterOwn, -⟩
        simp only [earlierOwn, laterOwn, Nat.le_refl]
      · exact List.pairwise_of_forall fun _ _ => trivial
    · rw [List.pairwise_iff_getElem]
      intro i j iBound jBound lower earlier earlierMember later laterMember
      rcases (layers[i].mem_declarations_iff earlier).mp earlierMember with ⟨earlierOwn, -⟩
      rcases (layers[j].mem_declarations_iff later).mp laterMember with ⟨laterOwn, -⟩
      have place (k : Nat) (bound : k < layers.length) :
          (layers.map TypeLayer.identity).idxOf layers[k].identity = k := by
        have found := distinct.idxOf_getElem k (by simpa using bound)
        simpa using found
      dsimp only
      rw [earlierOwn, laterOwn, place i iBound, place j jBound]
      exact Nat.le_of_lt lower
  · intro first firstMember second secondMember sameRank
    rcases (mem_declarationsIn_iff layers first).mp firstMember with ⟨present, -⟩
    exact (List.idxOf_inj (List.mem_map_of_mem present)).mp sameRank

/-- No layer declares a method twice exactly if its names are distinct. -/
theorem pairwise_not_sameMethod_iff
    {layers : List (TypeLayer Body)}
    (distinct : (layers.map TypeLayer.identity).Nodup) :
    (declarationsIn layers).Pairwise
        (fun earlier later => ¬ ActionSearch.SameMethod earlier later) ↔
      ∀ layer ∈ layers, (layer.methods.map ActionMethod.name).Nodup := by
  unfold declarationsIn
  rw [List.pairwise_flatMap]
  constructor
  · rintro ⟨within, -⟩ layer member
    have apart := within layer member
    unfold TypeLayer.declarations at apart
    rw [List.pairwise_map] at apart
    rw [List.Nodup, List.pairwise_map]
    exact apart.imp fun different sameName => different ⟨rfl, sameName⟩
  · intro noOverloads
    constructor
    · intro layer member
      have names := noOverloads layer member
      rw [List.Nodup, List.pairwise_map] at names
      unfold TypeLayer.declarations
      rw [List.pairwise_map]
      exact names.imp fun different same => different same.2
    · rw [List.Nodup, List.pairwise_map] at distinct
      apply distinct.imp
      intro layer ancestor apart earlier earlierMember later laterMember same
      rcases (layer.mem_declarations_iff earlier).mp earlierMember with ⟨earlierOwn, -⟩
      rcases (ancestor.mem_declarations_iff later).mp laterMember with ⟨laterOwn, -⟩
      apply apart
      rw [← earlierOwn, ← laterOwn]
      exact same.1

/-- How many effective methods of a type take incremental inputs. -/
def effectiveIncrementals (type : TaskType Body) : Nat :=
  type.effective.countP fun declaration => declaration.2.takesInputs

theorem incrementalCount_eq
    {type : TaskType Body}
    (distinct : (type.hierarchy.map TypeLayer.identity).Nodup)
    (noOverloads : ∀ layer ∈ type.hierarchy, (layer.methods.map ActionMethod.name).Nodup) :
    ActionSearch.incrementalCount type.declarations = type.effectiveIncrementals := by
  unfold ActionSearch.incrementalCount effectiveIncrementals effective
  rw [declarations_eq, firsts_eq_effectiveIn distinct noOverloads]

/-- True of types whose declarations break no rule. -/
structure Valid (type : TaskType Body) : Prop where
  /-- Every declared method may be an action, overridden or not. -/
  actions : ∀ layer ∈ type.hierarchy, ∀ method ∈ layer.methods, method.IsAction
  /-- No layer declares a name twice, overridden or not. -/
  noOverloads : ∀ layer ∈ type.hierarchy, (layer.methods.map ActionMethod.name).Nodup
  /-- At most one effective method takes incremental inputs. -/
  oneIncremental : type.effectiveIncrementals ≤ 1

theorem firstViolation?_eq_none_iff_valid
    {type : TaskType Body}
    (distinct : (type.hierarchy.map TypeLayer.identity).Nodup) :
    ActionSearch.firstViolation? type.name [] type.declarations = none ↔ type.Valid := by
  rw [ActionSearch.firstViolation?_eq_none_iff, declarations_eq,
    pairwise_not_sameMethod_iff distinct, ← declarations_eq]
  constructor
  · rintro ⟨actions, noOverloads, oneIncremental⟩
    rw [incrementalCount_eq distinct noOverloads] at oneIncremental
    refine ⟨?_, noOverloads, oneIncremental⟩
    intro layer member method declared
    exact actions (layer, method) ((mem_declarationsIn_iff _ _).mpr ⟨member, declared⟩)
  · intro valid
    rw [incrementalCount_eq distinct valid.noOverloads]
    refine ⟨?_, valid.noOverloads, valid.oneIncremental⟩
    intro declaration member
    rcases (mem_declarationsIn_iff _ _).mp member with ⟨layerMember, declared⟩
    exact valid.actions declaration.1 layerMember declaration.2 declared

end TaskType

namespace ClassInfo

open TaskType

/-- The class info of a type that breaks no rule. -/
def ofValid (type : TaskType Body) : ClassInfo Body :=
  { typeName := type.name
    cacheable := type.isCacheable
    incremental := decide (type.effectiveIncrementals = 1)
    factories := type.effective.map ActionFactory.ofDeclared ++ isolatedActions type }

theorem incremental_after
    {type : TaskType Body}
    (distinct : (type.hierarchy.map TypeLayer.identity).Nodup)
    (valid : type.Valid) :
    (ActionSearch.after type.declarations).incremental =
      decide (type.effectiveIncrementals = 1) := by
  have atMostOne := valid.oneIncremental
  have found := ActionSearch.any_takesInputs_iff type.declarations
  rw [incrementalCount_eq distinct valid.noOverloads] at found
  rw [Bool.eq_iff_iff, decide_eq_true_iff]
  constructor
  · intro incremental
    have some := found.mp incremental
    omega
  · intro one
    apply found.mpr
    omega

theorem build_of_valid
    {type : TaskType Body}
    (distinct : (type.hierarchy.map TypeLayer.identity).Nodup)
    (valid : type.Valid) :
    build type = .ok (ofValid type) := by
  have kept : firsts type.declarations = type.effective :=
    firsts_eq_effectiveIn distinct valid.noOverloads
  have factories : (ActionSearch.after type.declarations).factories =
      type.effective.map ActionFactory.ofDeclared := by
    unfold ActionSearch.after
    rw [kept]
  have gathered : Gathered type.declarations := gathered_declarationsIn distinct
  unfold build
  rw [ActionSearch.meetAll_start type.name gathered,
    (firstViolation?_eq_none_iff_valid distinct).mpr valid]
  simp only [ofValid, incremental_after distinct valid, factories]

theorem valid_of_build
    {type : TaskType Body}
    {info : ClassInfo Body}
    (distinct : (type.hierarchy.map TypeLayer.identity).Nodup)
    (built : build type = .ok info) :
    type.Valid := by
  have gathered : Gathered type.declarations := gathered_declarationsIn distinct
  apply (firstViolation?_eq_none_iff_valid distinct).mp
  unfold build at built
  rw [ActionSearch.meetAll_start type.name gathered] at built
  cases refused : ActionSearch.firstViolation? type.name [] type.declarations with
  | some error =>
      rw [refused] at built
      cases built
  | none => rfl

/-- Class info exists exactly for the types that break no rule.  It lists the actions of their
effective methods and, last, the isolated action of a type with an isolatable layer. -/
theorem build_exactly
    (type : TaskType Body)
    (distinct : (type.hierarchy.map TypeLayer.identity).Nodup) :
    ((∃ info, build type = .ok info) ↔ type.Valid) ∧
    ∀ info, build type = .ok info →
      info.factories =
        type.effective.map ActionFactory.ofDeclared ++
          (if ∃ layer ∈ type.hierarchy, layer.isolatable = true then [.isolated type.own.name]
            else []) ∧
      (info.incremental = true ↔ type.effectiveIncrementals = 1) ∧
      info.typeName = type.own.name ∧
      info.cacheable = type.own.cacheable := by
  constructor
  · constructor
    · rintro ⟨info, built⟩
      exact valid_of_build distinct built
    · intro valid
      exact ⟨ofValid type, build_of_valid distinct valid⟩
  · intro info built
    have expected := build_of_valid distinct (valid_of_build distinct built)
    rw [expected] at built
    cases built
    refine ⟨?_, decide_eq_true_iff, rfl, rfl⟩
    show _ ++ isolatedActions type = _
    unfold isolatedActions isIsolatable
    simp only [List.any_eq_true]
    rfl

/-- A type whose incremental method overrides an incremental one of its isolatable ancestor. -/
def overriding : TaskType Unit :=
  { own := ⟨⟨2⟩, "Leaf", true, false, [.incremental "run" (), .standard "check" ()]⟩
    ancestors := [⟨⟨1⟩, "Base", false, true, [.standard "prepare" (), .incremental "run" ()]⟩] }

theorem overriding_valid : overriding.Valid := by
  constructor
  · decide
  · decide
  · decide

theorem build_overriding :
    ∃ info, build overriding = .ok info ∧
      info.factories =
        [ .incremental "Leaf" (.incremental "run" ()), .standard "Leaf" (.standard "check" ()),
          .standard "Base" (.standard "prepare" ()), .isolated "Leaf" ] ∧
      info.incremental = true := by
  rcases build_exactly overriding (by decide) with ⟨exists_iff, contents⟩
  rcases exists_iff.mpr overriding_valid with ⟨info, built⟩
  rcases contents info built with ⟨factories, incremental, -⟩
  refine ⟨info, built, factories.trans ?_, incremental.mpr ?_⟩
  · rfl
  · decide

end ClassInfo

end TaskDispatch
