/-
Content that may be left out. Two readings say of a group whether it may stand for no
children: one goes down its particles, the other asks its content model whether the
content may end at the start. Both read bounds, sequences, choices and counted groups
alike. An unordered group that is not counted is repeated, and so it always stands for
nothing too, even where each of its particles asks for a child; what the first reading
leaves out the second one leaves out as well, and there only it leaves out more.
-/

import SchemaAssessment.Proofs.Content.Absence

namespace SchemaAssessment

variable {τ : Type}

/-! ### Expressions that stand for nothing -/

namespace Expression

theorem mayEnd_before (expression : Expression τ) (start : Nat) (after : Reach) :
    (expression.before start after).mayEnd = (expression.isNullable && after.mayEnd) := by
  unfold before
  cases expression.isNullable <;> rfl

/-- A part within occurrence bounds stands for nothing if it need not stand at all, or may stand for
nothing each time. -/
theorem isNullable_repeated (occurs : Occurs) (body : Expression τ) :
    (repeated occurs body).isNullable = (occurs.isEmptiable || body.isNullable) := by
  obtain ⟨least, greatest⟩ := occurs
  unfold repeated
  cases nullable : body.isNullable with
  | true => cases greatest <;> simp [isNullable]
  | false =>
    cases greatest with
    | none => simp [isNullable, nullable, Occurs.isEmptiable]
    | some greatest =>
      by_cases few : greatest ≤ least <;> simp [isNullable, nullable, few, Occurs.isEmptiable]

theorem isNullable_sequenceExpression (particle : Particle τ) (rest : List (Particle τ)) :
    (Particle.sequenceExpression (particle :: rest)).isNullable =
      (particle.expression.isNullable && (Particle.sequenceExpression rest).isNullable) := by
  cases rest with
  | nil => exact (Bool.and_true _).symm
  | cons next others => rfl

theorem isNullable_choiceExpression (particle next : Particle τ) (rest : List (Particle τ)) :
    (Particle.choiceExpression (particle :: next :: rest)).isNullable =
      (particle.expression.isNullable || (Particle.choiceExpression (next :: rest)).isNullable) :=
  rfl

end Expression

/-! ### Groups with unordered ones -/

mutual

/-- The group is not unordered, and none inside of it is. -/
def Group.IsArranged : Group τ → Prop
  | .mk compositor particles _ => compositor ≠ .all ∧ Particle.AreArranged particles

/-- No group inside of the particle is unordered. -/
def Particle.IsArranged : Particle τ → Prop
  | .element _ _ => True
  | .any _ => True
  | .nested group => group.IsArranged

/-- No group inside of some particles is unordered. -/
def Particle.AreArranged : List (Particle τ) → Prop
  | [] => True
  | particle :: rest => particle.IsArranged ∧ Particle.AreArranged rest

end

/-- No group is unordered but the whole one, and that only if its particles are elements. So an
unordered group with particles is counted. -/
structure Group.CountsUnordered (group : Group τ) : Prop where
  inside : Particle.AreArranged group.particles
  elements : group.compositor = .all →
    ∀ particle ∈ group.particles, ∃ term occurs, particle = .element term occurs

/-! ### Two readings -/

/-- Of two readings the second says yes where the first does; and, under a condition, nowhere
else. -/
structure Covers (condition : Prop) (first second : Bool) : Prop where
  kept : first = true → second = true
  exact : condition → second = true → first = true

namespace Covers

variable {condition other : Prop} {first second left right : Bool}

theorem refl (reading : Bool) : Covers True reading reading :=
  ⟨id, fun _ => id⟩

theorem mono (covers : Covers condition first second) (weaker : other → condition) :
    Covers other first second :=
  ⟨covers.kept, fun holds => covers.exact (weaker holds)⟩

theorem and (here : Covers condition first second) (there : Covers other left right) :
    Covers (condition ∧ other) (first && left) (second && right) := by
  refine ⟨fun both => ?_, fun holds both => ?_⟩
  · rw [Bool.and_eq_true] at both ⊢
    exact both.imp here.kept there.kept
  · rw [Bool.and_eq_true] at both ⊢
    exact both.imp (here.exact holds.1) (there.exact holds.2)

theorem or (here : Covers condition first second) (there : Covers other left right) :
    Covers (condition ∧ other) (first || left) (second || right) := by
  refine ⟨fun one => ?_, fun holds one => ?_⟩
  · rw [Bool.or_eq_true] at one ⊢
    exact one.imp here.kept there.kept
  · rw [Bool.or_eq_true] at one ⊢
    exact one.imp (here.exact holds.1) (there.exact holds.2)

/-- Bounds are read alike, and so what they bound decides. -/
theorem repeated {body : Bool} {expression : Expression τ} (occurs : Occurs)
    (covers : Covers condition body expression.isNullable) :
    Covers condition (occurs.isEmptiable || body) (expression.repeated occurs).isNullable := by
  rw [Expression.isNullable_repeated]
  exact ((refl occurs.isEmptiable).or covers).mono fun holds => ⟨trivial, holds⟩

end Covers

mutual

theorem Group.covers_expression (group : Group τ) :
    Covers group.IsArranged group.isEmptiable group.expression.isNullable := by
  match group with
  | .mk .sequence particles occurs =>
    rw [Group.isEmptiable, Bool.or_assoc]
    refine Covers.repeated occurs ?_
    cases particles with
    | nil => exact (Covers.refl true).mono fun _ => trivial
    | cons particle rest =>
      exact (Particle.covers_sequenceExpression (particle :: rest)).mono And.right
  | .mk .choice [] occurs =>
    rw [Group.isEmptiable, Bool.or_assoc]
    exact Covers.repeated occurs ((Covers.refl true).mono fun _ => trivial)
  | .mk .choice (particle :: rest) occurs =>
    rw [Group.isEmptiable, Bool.or_assoc]
    exact Covers.repeated occurs
      ((Particle.covers_choiceExpression (particle :: rest) (List.cons_ne_nil _ _)).mono And.right)
  | .mk .all particles occurs =>
    rw [Group.isEmptiable, Bool.or_assoc]
    exact Covers.repeated occurs ⟨fun _ => rfl, fun arranged => absurd rfl arranged.1⟩

theorem Particle.covers_expression (particle : Particle τ) :
    Covers particle.IsArranged particle.isEmptiable particle.expression.isNullable := by
  have ofLeaf (occurs : Occurs) (leaf : Leaf τ) :
      Covers True occurs.isEmptiable (Expression.repeated occurs (.leaf leaf)).isNullable := by
    rw [Expression.isNullable_repeated, Expression.isNullable, Bool.or_false]
    exact .refl _
  match particle with
  | .element term occurs => exact ofLeaf occurs (.element term)
  | .any wildcard => exact ofLeaf wildcard.occurs (.wildcard wildcard)
  | .nested group => exact Group.covers_expression group

theorem Particle.covers_sequenceExpression (particles : List (Particle τ)) :
    Covers (Particle.AreArranged particles) (Particle.allEmptiable particles)
      (Particle.sequenceExpression particles).isNullable := by
  match particles with
  | [] => exact .refl true
  | particle :: rest =>
    rw [Expression.isNullable_sequenceExpression]
    exact (Particle.covers_expression particle).and (Particle.covers_sequenceExpression rest)

theorem Particle.covers_choiceExpression (particles : List (Particle τ))
    (nonempty : particles ≠ []) :
    Covers (Particle.AreArranged particles) (Particle.anyEmptiable particles)
      (Particle.choiceExpression particles).isNullable := by
  match particles with
  | [] => exact absurd rfl nonempty
  | [particle] =>
    rw [Particle.anyEmptiable, Particle.anyEmptiable, Bool.or_false]
    exact (Particle.covers_expression particle).mono And.left
  | particle :: next :: rest =>
    rw [Expression.isNullable_choiceExpression]
    exact (Particle.covers_expression particle).or
      (Particle.covers_choiceExpression (next :: rest) (List.cons_ne_nil _ _))

end

/-! ### Starts of content models -/

theorem Group.isEmptiable_ofMembers_iff {members : List (τ × Occurs)} (nonempty : members ≠ [])
    (occurs : Occurs) :
    (Group.ofMembers members occurs).isEmptiable = true ↔
      occurs.isEmptiable = true ∨ ∀ member ∈ members, member.2.min = 0 := by
  have all : Particle.allEmptiable
      (members.map fun member => Particle.element member.1 member.2) = true ↔
        ∀ member ∈ members, member.2.min = 0 := by
    clear nonempty
    induction members with
    | nil => exact iff_of_true rfl nofun
    | cons member rest ofRest =>
      rw [List.map_cons, Particle.allEmptiable, Bool.and_eq_true, ofRest, List.forall_mem_cons,
        Particle.isEmptiable, Occurs.isEmptiable, beq_iff_eq]
  rw [Group.ofMembers, Group.isEmptiable]
  simp [nonempty, all]

namespace ContentModel

/-- At the start of a counted group the content may end just if the group may be left out. -/
theorem mayEnd_start_ofMembers (label : τ → String) {members : List (τ × Occurs)}
    (nonempty : members ≠ []) (occurs : Occurs) :
    let model := ofGroup label (.ofMembers members occurs)
    model.mayEnd model.start = (Group.ofMembers members occurs).isEmptiable := by
  intro model
  have counted : model.decision = .counted members occurs.isEmptiable :=
    decision_ofMembers label nonempty occurs
  -- before the first child nothing has occurred, whatever the members match
  have start := start_tally counted fun (_ : τ) (_ : Unit) => False
  rw [Bool.eq_iff_iff, start, mayEnd_tally counted, Group.isEmptiable_ofMembers_iff nonempty]
  simp [occurrences]

/-- The content of any other group may end at the start just if its expression may stand for
nothing. -/
theorem mayEnd_start_ofExpression (label : τ → String) {group : Group τ}
    (uncounted : ¬ group.IsCounted) :
    let model := ofGroup label group
    model.mayEnd model.start = group.expression.isNullable := by
  intro model
  rw [start_ofGroup label uncounted, mayEnd_reached (decision_ofGroup label uncounted),
    Expression.mayEnd_before]
  exact Bool.and_true _

/-- In the content model of a group that may be left out the content may end at the start; and, if
unordered groups are counted, in no other. -/
theorem covers_start (label : τ → String) (group : Group τ) :
    let model := ofGroup label group
    Covers group.CountsUnordered group.isEmptiable (model.mayEnd model.start) := by
  intro model
  by_cases counted : group.IsCounted
  · obtain ⟨members, nonempty, same⟩ := counted.exists_members
    have start := mayEnd_start_ofMembers label nonempty group.occurs
    rw [← same] at start
    rw [start]
    exact (Covers.refl _).mono fun _ => trivial
  · rw [mayEnd_start_ofExpression label counted]
    refine ⟨group.covers_expression.kept, fun ⟨inside, elements⟩ => ?_⟩
    by_cases empty : group.particles = []
    · obtain ⟨compositor, particles, occurs⟩ := group
      obtain rfl : particles = [] := empty
      exact fun _ => by simp [Group.isEmptiable]
    · have arranged : group.IsArranged := by
        obtain ⟨compositor, particles, occurs⟩ := group
        exact ⟨fun unordered => counted ⟨unordered, empty, elements unordered⟩, inside⟩
      exact group.covers_expression.exact arranged

end ContentModel

end SchemaAssessment
