/-
Which elements may stand for the head of a substitution group. From an element the head of
its group leads to a further one, that head to its own, and so on, as long as heads are
declared; the way may run in a circle. An element stands for every head that it comes to by
at most sixty-four steps, if it is not abstract, the head does not block substitution, and
its type is derived from that of the head. Declarations without a type have the type that
is found on the same way, so that types that are inherited from the head never stand
against it.
-/

import SchemaAssessment.Proofs.Grammar.Derivation

namespace SchemaAssessment.Registry

variable {registry : Registry} {name head : ExpandedName} {member found : KnownElement}

/-! ### The way of the heads -/

/-- The head of the substitution group that the declaration of an element names. -/
def head? (registry : Registry) (name : ExpandedName) : Option ExpandedName :=
  (registry.element? name).bind fun found => found.declaration.substitutionGroup

theorem headsReach_iff {steps : Nat} :
    registry.headsReach head steps (registry.head? name) = true ↔
      ∃ step < steps, chain? registry.head? name (step + 1) = some head := by
  induction steps generalizing name with
  | zero => simp [headsReach]
  | succ steps ofFewer =>
    simp only [Nat.exists_lt_succ_left, chain?_succ name]
    cases registry.head? name with
    | none => simp [headsReach]
    | some next =>
      rw [headsReach, Bool.or_eq_true, beq_iff_eq]
      exact or_congr Option.some_inj.symm ofFewer

/-- None of the declarations that are passed on so many steps has a type of its own. -/
def IsUntyped (registry : Registry) (name : ExpandedName) (steps : Nat) : Prop :=
  ∀ step < steps, ∀ passed declared, chain? registry.head? name step = some passed →
    registry.element? passed = some declared → declared.declaration.type = none

/-- The type of an element is looked for along the way of the heads. -/
theorem elementTypeWithin_of_isUntyped {steps : Nat} (rest : Nat)
    (known : registry.element? name = some member) (headKnown : registry.element? head = some found)
    (reaches : chain? registry.head? name steps = some head)
    (untyped : registry.IsUntyped name steps) :
    registry.elementTypeWithin (steps + rest) member = registry.elementTypeWithin rest found := by
  induction steps generalizing head found rest with
  | zero =>
    obtain rfl := Option.some.inj reaches
    obtain rfl := Option.some.inj (known.symm.trans headKnown)
    rw [Nat.zero_add]
  | succ steps ofFewer =>
    obtain ⟨passed, before, step⟩ := Option.bind_eq_some_iff.mp reaches
    obtain ⟨declared, passedKnown, group⟩ := Option.bind_eq_some_iff.mp step
    have noType : declared.declaration.type = none :=
      untyped steps (Nat.lt_succ_self steps) passed declared before passedKnown
    rw [Nat.add_assoc, ofFewer (1 + rest) passedKnown before
      fun earlier before => untyped earlier (Nat.lt_succ_of_lt before), Nat.add_comm 1 rest,
      elementTypeWithin, noType, group, Option.bind_some, headKnown]

/-- A type is inherited from the first declaration that has one. -/
theorem elementType_of_isUntyped {steps : Nat} (short : steps < 64)
    (known : registry.element? name = some member) (headKnown : registry.element? head = some found)
    (typed : found.declaration.type.isSome = true)
    (reaches : chain? registry.head? name steps = some head)
    (untyped : registry.IsUntyped name steps) :
    registry.elementType member = registry.elementType found := by
  obtain ⟨reference, typed⟩ := Option.isSome_iff_exists.mp typed
  obtain ⟨rest, total⟩ := Nat.exists_eq_add_of_lt short
  rw [elementType, longestChain, total, Nat.add_assoc,
    elementTypeWithin_of_isUntyped (rest + 1) known headKnown reaches untyped]
  simp only [elementType, longestChain, elementTypeWithin, typed]

/-! ### Members -/

/-- The declaration of an element may stand for that of the head of a substitution group. -/
structure StandsFor (registry : Registry) (name head : ExpandedName)
    (member found : KnownElement) : Prop where
  declared : registry.element? name = some member
  headDeclared : registry.element? head = some found
  unblocked : found.declaration.block.substitution = false
  concrete : member.declaration.isAbstract = false
  reaches : ∃ steps, 1 ≤ steps ∧ steps ≤ 64 ∧ chain? registry.head? name steps = some head
  derived : registry.isDerivedFrom (registry.elementType member) (registry.elementType found)
    (found.declaration.block.union (registry.elementType found).definition.block) = true

theorem headsReach_declared (declared : registry.element? name = some member) :
    registry.headsReach head longestChain member.declaration.substitutionGroup = true ↔
      ∃ steps, 1 ≤ steps ∧ steps ≤ 64 ∧ chain? registry.head? name steps = some head := by
  have own : registry.head? name = member.declaration.substitutionGroup := by
    rw [head?, declared, Option.bind_some]
  rw [← own, headsReach_iff]
  constructor
  · rintro ⟨step, before, reaches⟩
    exact ⟨step + 1, Nat.succ_pos step, before, reaches⟩
  · rintro ⟨_ | step, positive, before, reaches⟩
    · exact absurd positive (Nat.not_succ_le_zero 0)
    · exact ⟨step, before, reaches⟩

theorem substitute?_iff :
    registry.substitute? name head = some member ↔
      ∃ found, registry.StandsFor name head member found := by
  constructor
  · intro given
    obtain ⟨found, headDeclared, given⟩ := Option.bind_eq_some_iff.mp given
    simp only [Option.bind_eq_bind] at given
    split at given
    · cases given
    · rename_i unblocked
      obtain ⟨first, declared, given⟩ := Option.bind_eq_some_iff.mp given
      split at given
      · cases given
      · rename_i stands
        split at given
        · rename_i derived
          obtain rfl := Option.some.inj given
          simp only [Bool.or_eq_true, Bool.not_eq_true', not_or, Bool.not_eq_false,
            Bool.not_eq_true] at stands unblocked
          exact ⟨found, declared, headDeclared, unblocked, stands.2,
            (headsReach_declared declared).mp stands.1, derived⟩
        · cases given
  · rintro ⟨found, declared, headDeclared, unblocked, concrete, reaches, derived⟩
    have reached := (headsReach_declared declared).mpr reaches
    simp [substitute?, declared, headDeclared, unblocked, concrete, reached, derived]

/-- An element stands for the head of a substitution group if and only if both are declared, the
head does not block substitution, the element is not abstract, at most sixty-four steps from head to
head lead from it to this one, and its type is derived from that of the head without what the head
or its type blocks. So an element stands for the head whose type it has inherited, by less than
sixty-four steps between declarations without types, whatever else is blocked. -/
theorem substitute?_exact (registry : Registry) (name head : ExpandedName) :
    (∀ member, registry.substitute? name head = some member ↔
      ∃ found, registry.StandsFor name head member found) ∧
    ∀ member found steps, registry.element? name = some member →
      registry.element? head = some found → found.declaration.type.isSome = true →
      1 ≤ steps → steps < 64 → chain? registry.head? name steps = some head →
      registry.IsUntyped name steps → member.declaration.isAbstract = false →
      found.declaration.block.substitution = false →
        registry.substitute? name head = some member := by
  refine ⟨fun _ => substitute?_iff, fun member found steps declared headDeclared typed positive
    short reaches untyped concrete unblocked => substitute?_iff.mpr ⟨found, declared, headDeclared,
      unblocked, concrete, ⟨steps, positive, short.le, reaches⟩, ?_⟩⟩
  rw [elementType_of_isUntyped short declared headDeclared typed reaches untyped]
  exact isDerivedFrom_refl _ _

/-- A grammar of figures, which have a type of their own and block all derivation from it. A `disc`
may stand for a figure, and a `coin` for a disc; these have no types. -/
def figures : Grammar :=
  let held : ComplexType := .ofContent none .empty none
  let figure := { ElementDeclaration.ofName (.unqualified "figure") with
    type := some (.complex held), block := { restriction := true, extension := true } }
  let disc := { ElementDeclaration.ofName (.unqualified "disc") with
    substitutionGroup := some figure.name }
  let coin := { ElementDeclaration.ofName (.unqualified "coin") with
    substitutionGroup := some disc.name }
  [figure, disc, coin].foldl Grammar.addElement (.empty none)

/-- A coin stands for a figure, by way of the discs. -/
theorem substitute?_exact_figures :
    let registry := Registry.initial.put figures
    ∃ coin figure, registry.element? (.unqualified "coin") = some coin ∧
      registry.element? (.unqualified "figure") = some figure ∧
      chain? registry.head? (.unqualified "coin") 2 = some (.unqualified "figure") ∧
      registry.IsUntyped (.unqualified "coin") 2 ∧
      registry.substitute? (.unqualified "coin") (.unqualified "figure") = some coin := by
  intro registry
  have reaches : chain? registry.head? (.unqualified "coin") 2 = some (.unqualified "figure") := rfl
  have untyped : registry.IsUntyped (.unqualified "coin") 2 := by
    rintro (_ | _ | step) before passed declared arrives known
    · obtain rfl := Option.some.inj arrives
      obtain rfl := Option.some.inj known
      rfl
    · obtain rfl := Option.some.inj arrives
      obtain rfl := Option.some.inj known
      rfl
    · exact absurd before (by omega)
  refine ⟨_, _, rfl, rfl, reaches, untyped, ?_⟩
  exact (substitute?_exact registry _ _).2 _ _ 2 rfl rfl rfl (by decide) (by decide) reaches untyped
    rfl rfl

end SchemaAssessment.Registry
