/-
Groups that may not stand at all. In the model of a group with the bounds zero and zero no place
is reached at the start, and the content may end there; so no child is taken, whatever
particles the group has and however deep they are nested. The bounds of a group that is
counted only say that it may be left out: nothing but the bounds of its elements keeps
children away.
-/

import SchemaAssessment.Proofs.Content.Counting

namespace SchemaAssessment

variable {τ : Type}

/-! ### Repetitions that may not stand -/

theorem Reach.nowhere_union (reach : Reach) : Reach.nowhere.union reach = reach := by
  cases reach
  simp [Reach.nowhere, Reach.union, Reach.merge]

/-- Before a part that may not stand, nothing is reached but what is reached behind it. -/
theorem Expression.before_repeated_never (body : Expression τ) (place : Nat) (after : Reach) :
    (repeated ⟨0, some 0⟩ body).before place after = after := by
  have nowhere {expression : Expression τ} (nullable : expression.isNullable = true)
      (none : expression.firsts place = []) : expression.before place after = after := by
    rw [before, if_pos nullable, none]
    exact after.nowhere_union
  unfold repeated
  split
  · exact nowhere rfl rfl
  · exact nowhere rfl (by simp [firsts])

/-! ### Counted groups as members -/

theorem Group.IsCounted.exists_members {group : Group τ} (counted : group.IsCounted) :
    ∃ members, members ≠ [] ∧ group = .ofMembers members group.occurs := by
  obtain ⟨compositor, particles, occurs⟩ := group
  obtain ⟨rfl, nonempty, elements⟩ := counted
  have asMembers : ∃ members : List (τ × Occurs),
      particles = members.map fun member => .element member.1 member.2 := by
    clear nonempty
    induction particles with
    | nil => exact ⟨[], rfl⟩
    | cons particle rest ofRest =>
      obtain ⟨⟨term, bounds, rfl⟩, others⟩ := List.forall_mem_cons.mp elements
      obtain ⟨members, rfl⟩ := ofRest others
      exact ⟨(term, bounds) :: members, rfl⟩
  obtain ⟨members, rfl⟩ := asMembers
  exact ⟨members, fun none => nonempty (by rw [none]; rfl), rfl⟩

theorem Occurs.isOver_zero_iff {occurs : Occurs} : occurs.isOver 0 = true ↔ occurs.max = some 0 := by
  cases bound : occurs.max <;> simp [isOver, bound]

namespace ContentModel

/-- At the start of a counted group a child is refused if no element that may stand matches it. -/
theorem step_start_eq_none_iff (registry : Registry) {members : List (ElementTerm × Occurs)}
    (nonempty : members ≠ []) (occurs : Occurs) (name : ExpandedName) :
    let model := ofGroup ElementTerm.label (.ofMembers members occurs)
    model.step (registry.takes name) name.space model.start = none ↔
      ∀ member ∈ members, registry.MatchesTerm member.1 name → member.2.max = some 0 := by
  intro model
  have counted : model.decision = .counted members occurs.isEmptiable :=
    decision_ofMembers ElementTerm.label nonempty occurs
  have length : (tally registry.MatchesTerm members []).length = members.length :=
    List.length_map _
  rw [start_tally counted registry.MatchesTerm,
    step_counts (registry.takes name) name.space counted length, Option.map_eq_none_iff,
    ← Option.not_isSome_iff_eq_none, count_isSome_iff registry.takes_iff, zip_tally]
  simp [occurrences, ← Occurs.isOver_zero_iff]

/-- The content of a group that may not stand may end at once. Every child is refused there, for
any particles, except in a counted group: that refuses every child just if none of its
elements may stand either. -/
theorem refuses_all_iff (registry : Registry) (group : Group ElementTerm)
    (never : group.occurs = ⟨0, some 0⟩) :
    let model := ofGroup ElementTerm.label group
    model.mayEnd model.start = true ∧
      ((∀ name, model.step (registry.takes name) name.space model.start = none) ↔
        (group.IsCounted → ∀ particle ∈ group.particles, particle.occurs.max = some 0)) := by
  intro model
  by_cases counted : group.IsCounted
  · obtain ⟨members, nonempty, same⟩ := counted.exists_members
    rw [imp_iff_right counted]
    rw [never] at same
    subst same
    have decision : model.decision = .counted members true :=
      decision_ofMembers ElementTerm.label nonempty _
    constructor
    · rw [start_tally decision registry.MatchesTerm, mayEnd_tally decision]
      exact .inl ⟨rfl, fun _ _ => rfl⟩
    · simp only [model, step_start_eq_none_iff registry nonempty]
      constructor
      · intro refuses particle inside
        obtain ⟨member, standing, rfl⟩ := List.mem_map.mp inside
        obtain ⟨name, matching⟩ := exists_matches registry (.element member.1) nofun
        exact refuses name member standing matching
      · intro none name member standing _
        exact none _ (List.mem_map_of_mem standing)
  · have places := decision_ofGroup ElementTerm.label counted
    have begins : model.start = .reached .ending :=
      (start_ofGroup ElementTerm.label counted).trans <| by
        rw [Group.expression, never, Expression.before_repeated_never]
    rw [begins, mayEnd_reached places]
    refine ⟨rfl, iff_of_true (fun name => ?_) fun impossible => absurd impossible counted⟩
    rw [step_eq_none_iff places]
    rfl

/-- A choice between an element and an unordered group, which may not stand. -/
def withheldChoice : Group ElementTerm :=
  ⟨.choice, [.element (.global (.unqualified "draft")) .once,
    .nested ⟨.all, [.element (.global (.unqualified "note")) .once], .once⟩], ⟨0, some 0⟩⟩

theorem refuses_all_withheldChoice :
    let model := ofGroup ElementTerm.label withheldChoice
    model.mayEnd model.start = true ∧
      ∀ name, model.step (Registry.initial.takes name) name.space model.start = none := by
  have outcome := refuses_all_iff .initial withheldChoice rfl
  exact ⟨outcome.1, outcome.2.mpr fun counted => by cases counted.1⟩

/-- An unordered group of one element, which may not stand either. -/
def withheldAll : Group ElementTerm :=
  ⟨.all, [.element (.global (.unqualified "draft")) .once], ⟨0, some 0⟩⟩

/-- Not every group that may not stand refuses every child. -/
theorem takes_draft_withheldAll :
    ¬ ∀ (registry : Registry) (group : Group ElementTerm), group.occurs = ⟨0, some 0⟩ →
      let model := ofGroup ElementTerm.label group
      model.mayEnd model.start = true ∧
        ∀ name, model.step (registry.takes name) name.space model.start = none := by
  intro refuses
  have stops := (refuses .nothing withheldAll rfl).2 (.unqualified "draft")
  have goesOn : ((ofGroup ElementTerm.label withheldAll).step
      (Registry.nothing.takes (.unqualified "draft")) none
      (ofGroup ElementTerm.label withheldAll).start).isSome = true := by
    decide +kernel
  exact Option.isSome_iff_ne_none.mp goesOn stops

end ContentModel

end SchemaAssessment
