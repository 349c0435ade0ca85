/-
What a registry knows of its global types. A type that is found under a name is an entry of
the grammar for the namespace, and its place is told by the number of that grammar. Numbers
are given one after the other, so that no two grammars have the same one, and types that
are found at the same place are found under the same name.
-/

import SchemaAssessment.Proofs.Schema.Uses

namespace SchemaAssessment.Registry

variable {registry : Registry} {type other : KnownType}

/-! ### Global types -/

/-- Every global type has the name that it is registered under. -/
def HasOwnNames (registry : Registry) : Prop :=
  ∀ name type, registry.type? name = some type → type.definition.name? = some name

/-- The type is found under some name. -/
def IsGlobal (registry : Registry) (type : KnownType) : Prop :=
  ∃ name, registry.type? name = some type

theorem exists_of_type? {name : ExpandedName} (known : registry.type? name = some type) :
    ∃ registration ∈ registry.registrations, registration.grammar.target = name.space ∧
      (name.localName, type.definition) ∈ registration.grammar.types ∧
        type.origin = .global ⟨registration.number, name.localName⟩ := by
  obtain ⟨registration, registered, rest⟩ := Option.bind_eq_some_iff.mp known
  obtain ⟨definition, entry, same⟩ := Option.bind_eq_some_iff.mp rest
  obtain rfl := Option.some.inj same
  have target := List.find?_some registered
  exact ⟨registration, List.mem_of_find?_eq_some registered, beq_iff_eq.mp target,
    mem_of_lookup entry, rfl⟩

theorem hasOwnNames_of_entries
    (named : ∀ present ∈ registry.registrations, ∀ entry ∈ present.grammar.types,
      entry.2.name? = some ⟨present.grammar.target, entry.1⟩) : registry.HasOwnNames := by
  intro name type known
  obtain ⟨present, member, target, entry, -⟩ := exists_of_type? known
  rw [named present member _ entry, target]

/-! ### Numbers of grammars -/

/-- A registry in which grammars have been registered, one after the other, beside the built-in
one. -/
inductive IsBuilt : Registry → Prop where
  | initial : IsBuilt .initial
  | put {registry : Registry} (built : registry.IsBuilt) (grammar : Grammar) :
      IsBuilt (registry.put grammar)

theorem IsBuilt.number_lt (built : registry.IsBuilt) :
    ∀ present ∈ registry.registrations, present.number < registry.nextNumber := by
  induction built with
  | initial => simp [Registry.initial, nothing, Registry.put]
  | put _ grammar below =>
    intro present member
    rcases List.mem_cons.mp member with rfl | older
    · exact Nat.lt_succ_self _
    · exact Nat.lt_succ_of_lt (below present (List.mem_filter.mp older).1)

/-- No two grammars have the same number. -/
theorem IsBuilt.eq_of_number (built : registry.IsBuilt) {first second : Registration}
    (left : first ∈ registry.registrations) (right : second ∈ registry.registrations)
    (same : first.number = second.number) : first = second := by
  induction built with
  | initial =>
    simp only [Registry.initial, nothing, Registry.put, List.filter_nil,
      List.mem_singleton] at left right
    rw [left, right]
  | put built grammar apart =>
    rcases List.mem_cons.mp left with rfl | left <;>
      rcases List.mem_cons.mp right with rfl | right
    · rfl
    · exact absurd same.symm (built.number_lt second (List.mem_filter.mp right).1).ne
    · exact absurd same (built.number_lt first (List.mem_filter.mp left).1).ne
    · exact apart (List.mem_filter.mp left).1 (List.mem_filter.mp right).1

/-- Global types that are found at the same place are found under the same name. -/
theorem IsBuilt.name_eq_of_origin (built : registry.IsBuilt) {left right : ExpandedName}
    (known : registry.type? left = some type) (alsoKnown : registry.type? right = some other)
    (same : type.origin = other.origin) : left = right := by
  obtain ⟨first, firstIn, firstTarget, -, firstOrigin⟩ := exists_of_type? known
  obtain ⟨second, secondIn, secondTarget, -, secondOrigin⟩ := exists_of_type? alsoKnown
  rw [firstOrigin, secondOrigin] at same
  obtain ⟨number, key⟩ := ComponentKey.mk.inj (TypeOrigin.global.inj same)
  obtain rfl := built.eq_of_number firstIn secondIn number
  obtain ⟨space, localName⟩ := left
  obtain ⟨otherSpace, otherName⟩ := right
  rw [ExpandedName.mk.injEq]
  exact ⟨firstTarget.symm.trans secondTarget, key⟩

end SchemaAssessment.Registry
