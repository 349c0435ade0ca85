/-
How the simple type of an attribute or of simple content is found. A reference is asked
for it: a simple type answers, and a complex type with simple content passes the question
on to the reference that it has for its text. Nothing keeps the types of a grammar from
passing a question on to each other, or a type from passing it on to itself. The question
is answered if and only if it never comes back to where it has been, and then the registry
finds the answer; for it follows one name more than it has types.
-/

import Mathlib.Combinatorics.Pigeonhole
import Mathlib.Logic.Relation
import SchemaAssessment.Proofs.Sequences
import SchemaAssessment.Proofs.Grammar.Registered

namespace SchemaAssessment.Registry

open Relation

variable {registry : Registry} {reference next : Option TypeReference} {type other : SimpleType}

/-! ### Questions that are passed on -/

/-- What asking a reference for its simple type comes to: an answer, or another reference that is
to be asked. A missing reference, and one that leads to no simple type, take any text. -/
def ask (registry : Registry) (reference : Option TypeReference) :
    SimpleType ⊕ Option TypeReference :=
  match reference.bind (registry.resolve? .builtin) with
  | some ⟨.simple type, _⟩ => .inl type
  | some ⟨.complex type, _⟩ =>
    if type.content == .simple then .inr type.simpleType else .inl anySimpleType
  | none => .inl anySimpleType

/-- The question is passed on from a reference to the next one. -/
def PassesOn (registry : Registry) (reference next : Option TypeReference) : Prop :=
  registry.ask reference = .inr next

/-- The question is passed on until it is answered by a simple type. -/
def Answers (registry : Registry) (reference : Option TypeReference) (type : SimpleType) : Prop :=
  ∃ last, ReflTransGen registry.PassesOn reference last ∧ registry.ask last = .inl type

/-- The question is passed on until it comes back to where it has been. -/
def IsCircular (registry : Registry) (reference : Option TypeReference) : Prop :=
  ∃ again, ReflTransGen registry.PassesOn reference again ∧ TransGen registry.PassesOn again again

theorem PassesOn.unique {first second : Option TypeReference}
    (left : registry.PassesOn reference first) (right : registry.PassesOn reference second) :
    first = second :=
  Sum.inr.inj (left.symm.trans right)

theorem PassesOn.not_answered (passes : registry.PassesOn reference next) :
    registry.ask reference ≠ .inl type := by
  rw [PassesOn] at passes
  simp [passes]

theorem Answers.of_behind (passes : ReflTransGen registry.PassesOn reference next) :
    registry.Answers next type → registry.Answers reference type
  | ⟨last, further, answered⟩ => ⟨last, passes.trans further, answered⟩

/-- Wherever the question is passed on to, the answer stays the same. -/
theorem Answers.behind (passes : ReflTransGen registry.PassesOn reference next)
    (answers : registry.Answers reference type) : registry.Answers next type := by
  induction passes with
  | refl => exact answers
  | tail _ step ofEarlier =>
    obtain ⟨last, further, answered⟩ := ofEarlier
    rcases further.cases_head with rfl | ⟨following, first, rest⟩
    · exact absurd answered step.not_answered
    · obtain rfl := first.unique step
      exact ⟨last, rest, answered⟩

theorem Answers.unique (left : registry.Answers reference type)
    (right : registry.Answers reference other) : type = other := by
  obtain ⟨last, passes, answered⟩ := left
  obtain ⟨final, further, finally_⟩ := right.behind passes
  rcases further.cases_head with rfl | ⟨following, step, -⟩
  · exact Sum.inl.inj (answered.symm.trans finally_)
  · exact absurd answered step.not_answered

/-- A question that is answered does not come back. -/
theorem Answers.not_isCircular (answers : registry.Answers reference type) :
    ¬ registry.IsCircular reference := by
  rintro ⟨again, reached, circle⟩
  obtain ⟨last, passes, answered⟩ := answers.behind reached
  clear reached
  -- The circle is carried along to the last reference, which would have to pass on what it answers.
  induction passes using ReflTransGen.head_induction_on with
  | refl =>
    obtain ⟨following, step, -⟩ := TransGen.head'_iff.mp circle
    exact step.not_answered answered
  | head step _ ofNext =>
    obtain ⟨following, first, rest⟩ := TransGen.head'_iff.mp circle
    obtain rfl := first.unique step
    exact ofNext (TransGen.tail' rest first)

/-! ### Where values are found -/

/-- The source tells how the question goes on from a reference. -/
def Follows (registry : Registry) (reference : Option TypeReference) : ValueSource → Prop
  | .here type => registry.Answers reference type
  | .behind name => ReflTransGen registry.PassesOn reference (some (.named name))
  | .nowhere => registry.Answers reference anySimpleType

theorem Follows.of_passesOn (passes : registry.PassesOn reference next) {source : ValueSource}
    (follows : registry.Follows next source) : registry.Follows reference source := by
  cases source with
  | here type => exact .of_behind (.single passes) follows
  | behind name => exact .head passes follows
  | nowhere => exact .of_behind (.single passes) follows

mutual

theorem follows_reference : ∀ reference : TypeReference,
    registry.Follows (some reference) reference.valueSource
  | .named _ => .refl
  | .simple _ => ⟨_, .refl, rfl⟩
  | .complex type => follows_complex type

theorem follows_complex : ∀ type : ComplexType,
    registry.Follows (some (.complex type)) type.valueSource
  | ⟨name, base, derivation, content, group, simpleType, attributes, isAbstract, block⟩ => by
    cases content with
    | simple =>
      have passes : registry.PassesOn (some (.complex ⟨name, base, derivation, .simple, group,
        simpleType, attributes, isAbstract, block⟩)) simpleType := rfl
      exact .of_passesOn passes (follows_optional simpleType)
    | _ => exact ⟨_, .refl, rfl⟩

theorem follows_optional : ∀ reference : Option TypeReference,
    registry.Follows reference (TypeReference.optionalValueSource reference)
  | none => ⟨_, .refl, rfl⟩
  | some reference => follows_reference reference

end

/-! ### Names behind names -/

/-- The name that a global type passes the question on to, at once or through types that it
holds. -/
def nameBehind? (registry : Registry) (name : ExpandedName) : Option ExpandedName :=
  match registry.type? name with
  | some ⟨.complex type, _⟩ =>
    match type.valueSource with
    | .behind next => some next
    | .here _ | .nowhere => none
  | _ => none

/-- A name goes on as the complex type that it means. -/
theorem ask_named {name : ExpandedName} {found : ComplexType} {origin : TypeOrigin}
    (known : registry.type? name = some ⟨.complex found, origin⟩) :
    registry.ask (some (.named name)) = registry.ask (some (.complex found)) := by
  simp [ask, resolve?, known]

theorem passesOn_of_nameBehind? {name further : ExpandedName}
    (behind : registry.nameBehind? name = some further) :
    TransGen registry.PassesOn (some (.named name)) (some (.named further)) := by
  unfold nameBehind? at behind
  split at behind
  · rename_i found origin known
    split at behind
    · rename_i next source
      obtain rfl := Option.some.inj behind
      have follows : registry.Follows (some (.complex found)) found.valueSource :=
        follows_complex found
      rw [source] at follows
      obtain same | ⟨following, step, rest⟩ := follows.cases_head
      · cases same
      · exact .head' ((ask_named known).trans step) rest
    · cases behind
    · cases behind
  · cases behind

theorem passesOn_of_chain? {name first second : ExpandedName} {earlier later : Nat}
    (before : earlier < later) (first_ : chain? registry.nameBehind? name earlier = some first)
    (second_ : chain? registry.nameBehind? name later = some second) :
    TransGen registry.PassesOn (some (.named first)) (some (.named second)) := by
  induction later, before using Nat.le_induction generalizing second with
  | base =>
    rw [chain?, first_] at second_
    exact passesOn_of_nameBehind? second_
  | succ later _ ofEarlier =>
    obtain ⟨last, last_, step⟩ := Option.bind_eq_some_iff.mp second_
    exact (ofEarlier last_).trans (passesOn_of_nameBehind? step)

/-! ### The names of the types -/

/-- The names of the global types. -/
def typeNames (registry : Registry) : List ExpandedName :=
  registry.registrations.flatMap fun present =>
    present.grammar.types.map fun entry => ⟨present.grammar.target, entry.1⟩

theorem length_typeNames (registry : Registry) :
    registry.typeNames.length = registry.typeCount := by
  rw [typeNames, typeCount, List.length_flatMap, List.sum_eq_foldl, List.foldl_map]
  simp

theorem mem_typeNames {name : ExpandedName} {found : KnownType}
    (known : registry.type? name = some found) : name ∈ registry.typeNames := by
  obtain ⟨present, member, target, entry, -⟩ := exists_of_type? known
  refine List.mem_flatMap.mpr ⟨present, member, List.mem_map.mpr ⟨_, entry, ?_⟩⟩
  rw [target]

theorem mem_typeNames_of_nameBehind? {name further : ExpandedName}
    (behind : registry.nameBehind? name = some further) : name ∈ registry.typeNames := by
  unfold nameBehind? at behind
  split at behind
  · rename_i known
    exact mem_typeNames known
  · cases behind

/-- More names than there are types come back to one of them. -/
theorem isCircular_of_chain? {name last : ExpandedName} {names : Nat}
    (more : registry.typeCount < names)
    (leads : chain? registry.nameBehind? name names = some last) :
    registry.IsCircular (some (.named name)) := by
  let nameAt (place : Nat) : ExpandedName := (chain? registry.nameBehind? name place).getD name
  have isAt {place : Nat} (before : place < names) :
      chain? registry.nameBehind? name place = some (nameAt place) ∧
        nameAt place ∈ registry.typeNames := by
    obtain ⟨here, further, found, step⟩ := exists_of_chain? before leads
    simp [nameAt, found, mem_typeNames_of_nameBehind? step]
  have crowded : registry.typeNames.toFinset.card < (Finset.range names).card := by
    rw [Finset.card_range]
    exact lt_of_le_of_lt (registry.typeNames.toFinset_card_le.trans_eq registry.length_typeNames)
      more
  have maps : Set.MapsTo nameAt (Finset.range names) registry.typeNames.toFinset := by
    intro place inside
    simpa using (isAt (Finset.mem_range.mp inside)).2
  obtain ⟨first, firstInside, second, secondInside, apart, same⟩ :=
    Finset.exists_ne_map_eq_of_card_lt_of_maps_to crowded maps
  have firstAt := (isAt (Finset.mem_range.mp firstInside)).1
  have secondAt := (isAt (Finset.mem_range.mp secondInside)).1
  have reached : ReflTransGen registry.PassesOn (some (.named name))
      (some (.named (nameAt first))) := by
    rcases Nat.eq_zero_or_pos first with rfl | positive
    · exact .refl
    · exact (passesOn_of_chain? positive rfl firstAt).to_reflTransGen
  refine ⟨_, reached, ?_⟩
  rw [same] at firstAt ⊢
  rcases Nat.lt_or_gt_of_ne apart with before | behind
  · exact passesOn_of_chain? before firstAt secondAt
  · exact passesOn_of_chain? behind secondAt firstAt

/-! ### Answers -/

theorem exists_names_of_lost {names : Nat} {source : ValueSource}
    (lost : registry.simpleTypeFrom names source = none) :
    ∃ name last, source = .behind name ∧ chain? registry.nameBehind? name names = some last := by
  induction names generalizing source with
  | zero =>
    cases source with
    | behind name => exact ⟨name, name, rfl, rfl⟩
    | _ => simp [simpleTypeFrom] at lost
  | succ names ofFewer =>
    cases source with
    | behind name =>
      unfold simpleTypeFrom at lost
      split at lost
      · cases lost
      · rename_i found origin known
        obtain ⟨further, last, source, leads⟩ := ofFewer lost
        refine ⟨name, last, rfl, ?_⟩
        rw [chain?_succ]
        simp [nameBehind?, known, source, leads]
      · cases lost
    | _ => simp [simpleTypeFrom] at lost

theorem answers_of_simpleTypeFrom {names : Nat} {source : ValueSource}
    (follows : registry.Follows reference source)
    (found : registry.simpleTypeFrom names source = some type) :
    registry.Answers reference type := by
  induction names generalizing source reference with
  | zero =>
    cases source with
    | behind name => simp [simpleTypeFrom] at found
    | _ =>
      obtain rfl := Option.some.inj found
      exact follows
  | succ names ofFewer =>
    cases source with
    | behind name =>
      refine .of_behind follows ?_
      unfold simpleTypeFrom at found
      split at found
      · rename_i known
        obtain rfl := Option.some.inj found
        exact ⟨_, .refl, by simp [ask, resolve?, known]⟩
      · rename_i complex origin known
        obtain ⟨last, passes, answered⟩ := ofFewer (follows_complex complex) found
        rcases passes.cases_head with rfl | ⟨following, step, rest⟩
        · exact ⟨_, .refl, (ask_named known).trans answered⟩
        · exact ⟨last, .head ((ask_named known).trans step) rest, answered⟩
      · rename_i unknown
        obtain rfl := Option.some.inj found
        exact ⟨_, .refl, by simp [ask, resolve?, unknown]⟩
    | _ =>
      obtain rfl := Option.some.inj found
      exact follows

/-- What the registry does not find is asked for in a circle. -/
theorem isCircular_of_simpleTypeOf? (lost : registry.simpleTypeOf? reference = none) :
    registry.IsCircular reference := by
  obtain ⟨name, last, source, leads⟩ := exists_names_of_lost lost
  have follows : registry.Follows reference (TypeReference.optionalValueSource reference) :=
    follows_optional reference
  rw [source] at follows
  obtain ⟨again, reached, circle⟩ := isCircular_of_chain? (Nat.lt_succ_self _) leads
  exact ⟨again, follows.trans reached, circle⟩

theorem answers_iff_simpleTypeOf? :
    registry.Answers reference type ↔ registry.simpleTypeOf? reference = some type := by
  have sound {found : SimpleType} (given : registry.simpleTypeOf? reference = some found) :
      registry.Answers reference found :=
    answers_of_simpleTypeFrom (follows_optional reference) given
  refine ⟨fun answers => ?_, sound⟩
  cases given : registry.simpleTypeOf? reference with
  | none => exact absurd (isCircular_of_simpleTypeOf? given) answers.not_isCircular
  | some found => rw [(sound given).unique answers]

/-- The question for a simple type is answered, behind finitely many references, if and only if it
does not come back to where it has been. The registry finds the answer then, and nothing else. -/
theorem answers_iff_not_isCircular (registry : Registry) (reference : Option TypeReference) :
    ((∃ type, registry.Answers reference type) ↔ ¬ registry.IsCircular reference) ∧
      ∀ type, registry.Answers reference type ↔ registry.simpleTypeOf? reference = some type := by
  refine ⟨⟨fun ⟨type, answers⟩ => answers.not_isCircular, fun straight => ?_⟩,
    fun type => answers_iff_simpleTypeOf?⟩
  cases given : registry.simpleTypeOf? reference with
  | none => exact absurd (isCircular_of_simpleTypeOf? given) straight
  | some type => exact ⟨type, answers_iff_simpleTypeOf?.mpr given⟩

/-- A type of the name `price` with simple content, the text of which is to have this type. -/
def selfPriced : ComplexType :=
  .ofSimpleType (some (.unqualified "price")) (.named (.unqualified "price"))

/-- A type whose text is to have this type itself is registered like any other, and the question for
its simple type has no answer. -/
theorem selfPriced_unanswered :
    let registry := Registry.initial.put ((Grammar.empty none).addType (.complex selfPriced))
    (registry.type? (.unqualified "price")).isSome = true ∧
      registry.simpleTypeOf? (some (.named (.unqualified "price"))) = none ∧
      ¬ ∃ type, registry.Answers (some (.named (.unqualified "price"))) type := by
  intro registry
  let price : Option TypeReference := some (.named (.unqualified "price"))
  have passes : registry.PassesOn price price := rfl
  have unanswered : ¬ ∃ type, registry.Answers price type :=
    fun ⟨_, answers⟩ => answers.not_isCircular ⟨price, .refl, .single passes⟩
  refine ⟨rfl, Option.eq_none_iff_forall_ne_some.mpr fun type found => unanswered ?_, unanswered⟩
  exact ⟨type, answers_iff_simpleTypeOf?.mpr found⟩

end SchemaAssessment.Registry
