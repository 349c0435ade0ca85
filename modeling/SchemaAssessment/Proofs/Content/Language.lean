/-
What a model group means: the sequences of children that it stands for. A particle
stands for single children that it matches, a sequence for its particles one after
the other, a choice for any of them, and occurrence bounds for so many repetitions
of what they bound. An unordered group that is not counted stands for any sequence
of what its particles stand for. The expression of a group means the same, although
it repeats a part that may be empty only in the form that takes at least one child.
-/

import Mathlib.Computability.Language
import SchemaAssessment.Content.Expression

namespace SchemaAssessment

open scoped Computability

variable {τ α : Type}

/-! ### Languages without the empty word -/

section Words

variable {first second : Language α}

theorem sub_one_add_one (nullable : [] ∈ first) : first - 1 + 1 = first := by
  ext word
  rw [Language.mem_add, Language.mem_sub, Language.mem_one]
  constructor
  · rintro (⟨member, -⟩ | rfl)
    · exact member
    · exact nullable
  · intro member
    by_cases empty : word = []
    · exact Or.inr empty
    · exact Or.inl ⟨member, empty⟩

theorem sub_one_of_notMem (solid : [] ∉ first) : first - 1 = first := by
  ext word
  rw [Language.mem_sub, Language.mem_one]
  refine ⟨fun member => member.1, fun member => ⟨member, ?_⟩⟩
  rintro rfl
  exact solid member

theorem one_sub_one : (1 : Language α) - 1 = 0 := by
  ext word
  rw [Language.mem_sub]
  exact iff_of_false (fun both => both.2 both.1) (Language.notMem_zero word)

theorem nil_notMem_sub_one : [] ∉ first - 1 := by
  rw [Language.mem_sub, Language.mem_one]
  exact fun member => member.2 rfl

theorem add_one_sub_one : first + 1 - 1 = first - 1 := by
  ext word
  rw [Language.mem_sub, Language.mem_add, Language.mem_sub, Language.mem_one]
  constructor
  · rintro ⟨member | empty, solid⟩
    · exact ⟨member, solid⟩
    · exact absurd empty solid
  · exact fun member => ⟨Or.inl member.1, member.2⟩

theorem add_sub_one : first + second - 1 = (first - 1) + (second - 1) := by
  ext word
  simp only [Language.mem_sub, Language.mem_add, or_and_right]

theorem nil_mem_mul : [] ∈ first * second ↔ [] ∈ first ∧ [] ∈ second := by
  rw [Language.mem_mul]
  constructor
  · rintro ⟨left, memberLeft, right, memberRight, appended⟩
    obtain ⟨rfl, rfl⟩ := List.append_eq_nil_iff.mp appended
    exact ⟨memberLeft, memberRight⟩
  · exact fun members => ⟨[], members.1, [], members.2, rfl⟩

/-- Behind a first part that takes nothing, the second part takes the first child. -/
theorem mul_sub_one_of_mem (nullable : [] ∈ first) :
    first * second - 1 = (first - 1) * second + (second - 1) := by
  ext word
  simp only [Language.mem_sub, Language.mem_add, Language.mem_mul, Language.mem_one]
  constructor
  · rintro ⟨⟨left, memberLeft, right, memberRight, rfl⟩, solid⟩
    by_cases empty : left = []
    · subst empty
      exact Or.inr ⟨memberRight, solid⟩
    · exact Or.inl ⟨left, ⟨memberLeft, empty⟩, right, memberRight, rfl⟩
  · rintro (⟨left, ⟨memberLeft, solid⟩, right, memberRight, rfl⟩ | ⟨member, solid⟩)
    · exact ⟨⟨left, memberLeft, right, memberRight, rfl⟩,
        fun empty => solid (List.append_eq_nil_iff.mp empty).1⟩
    · exact ⟨⟨[], nullable, word, member, rfl⟩, solid⟩

/-- A first part that takes something takes the first child. -/
theorem mul_sub_one_of_notMem (solid : [] ∉ first) :
    first * second - 1 = (first - 1) * second := by
  rw [sub_one_of_notMem solid, sub_one_of_notMem fun member => solid (nil_mem_mul.mp member).1]

/-- Rounds that take nothing add nothing to a repetition without bounds. -/
theorem kstar_sub_one (first : Language α) : (first - 1)∗ = first∗ := by
  refine le_antisymm (kstar_mono fun word member => member.1) fun word member => ?_
  obtain ⟨rounds, rfl, members⟩ := Language.mem_kstar_iff_exists_nonempty.mp member
  exact Language.join_mem_kstar fun round inside =>
    ⟨(members round inside).1, (members round inside).2⟩

theorem mul_kstar_eq_sub_one : (first - 1) * (first - 1)∗ = first∗ - 1 := by
  have solid : [] ∉ (first - 1) * (first - 1)∗ := fun member =>
    nil_notMem_sub_one (nil_mem_mul.mp member).1
  rw [← kstar_sub_one first, ← sub_one_of_notMem solid, ← add_one_sub_one, add_comm,
    Language.one_add_self_mul_kstar_eq_kstar]

end Words

/-! ### Repetitions -/

/-- The repetitions of a language within occurrence bounds. -/
def Occurs.repetitions (occurs : Occurs) (body : Language α) : Language α :=
  {word | ∃ count, occurs.min ≤ count ∧ (∀ max ∈ occurs.max, count ≤ max) ∧ word ∈ body ^ count}

/-- At most so many repetitions of a language. -/
def upTo (count : Nat) (body : Language α) : Language α :=
  Occurs.repetitions ⟨0, some count⟩ body

section Repetitions

variable {body : Language α}

theorem mem_repetitions {occurs : Occurs} {word : List α} :
    word ∈ occurs.repetitions body ↔
      ∃ rounds : List (List α), word = rounds.flatten ∧ occurs.min ≤ rounds.length ∧
        (∀ max ∈ occurs.max, rounds.length ≤ max) ∧ ∀ round ∈ rounds, round ∈ body := by
  constructor
  · rintro ⟨count, least, greatest, member⟩
    obtain ⟨rounds, flat, rfl, members⟩ := Language.mem_pow.mp member
    exact ⟨rounds, flat, least, greatest, members⟩
  · rintro ⟨rounds, flat, least, greatest, members⟩
    exact ⟨rounds.length, least, greatest, Language.mem_pow.mpr ⟨rounds, flat, rfl, members⟩⟩

theorem upTo_zero : upTo 0 body = 1 := by
  ext word
  rw [upTo, mem_repetitions, Language.mem_one]
  constructor
  · rintro ⟨rounds, rfl, -, greatest, -⟩
    rw [List.length_eq_zero_iff.mp (Nat.le_zero.mp (greatest 0 rfl)), List.flatten_nil]
  · rintro rfl
    exact ⟨[], rfl, Nat.zero_le _, fun _ _ => Nat.zero_le _, fun _ inside => by cases inside⟩

theorem upTo_succ (count : Nat) : upTo (count + 1) body = body * upTo count body + 1 := by
  ext word
  rw [upTo, mem_repetitions, Language.mem_add, Language.mem_mul, Language.mem_one]
  constructor
  · rintro ⟨_ | ⟨round, rounds⟩, rfl, -, greatest, members⟩
    · exact Or.inr rfl
    · have fewer : rounds.length ≤ count := Nat.le_of_succ_le_succ (greatest _ rfl)
      refine Or.inl ⟨round, members round (List.mem_cons_self ..), rounds.flatten, ?_, rfl⟩
      exact mem_repetitions.mpr ⟨rounds, rfl, Nat.zero_le _, by rintro _ ⟨⟩; exact fewer,
        fun other inside => members other (List.mem_cons_of_mem _ inside)⟩
  · rintro (⟨round, member, rest, memberRest, rfl⟩ | rfl)
    · obtain ⟨rounds, rfl, -, greatest, members⟩ := mem_repetitions.mp memberRest
      refine ⟨round :: rounds, rfl, Nat.zero_le _, ?_, ?_⟩
      · rintro _ ⟨⟩
        exact Nat.succ_le_succ (greatest count rfl)
      · rintro other (_ | ⟨_, inside⟩)
        · exact member
        · exact members other inside
    · exact ⟨[], rfl, Nat.zero_le _, fun _ _ => Nat.zero_le _, fun _ inside => by cases inside⟩

/-- Rounds that take nothing may be left out, where so few rounds are allowed, and added. -/
theorem repetitions_of_mem {occurs : Occurs} (ordered : ∀ max ∈ occurs.max, occurs.min ≤ max)
    (nullable : [] ∈ body) :
    occurs.repetitions body = Occurs.repetitions ⟨0, occurs.max⟩ (body - 1) := by
  ext word
  rw [mem_repetitions, mem_repetitions]
  constructor
  · rintro ⟨rounds, rfl, -, greatest, members⟩
    refine ⟨rounds.filter (· ≠ []), List.flatten_filter_ne_nil.symm, Nat.zero_le _,
      fun max bound => (List.length_filter_le ..).trans (greatest max bound),
      fun round inside => ?_⟩
    obtain ⟨member, solid⟩ := List.mem_filter.mp inside
    rw [Language.mem_sub, Language.mem_one]
    exact ⟨members round member, by simpa using solid⟩
  · rintro ⟨rounds, rfl, -, greatest, members⟩
    -- Empty rounds fill up what is missing to the least number.
    refine ⟨rounds ++ List.replicate (occurs.min - rounds.length) [], ?_, ?_, fun max bound => ?_,
      fun round inside => ?_⟩
    · simp
    · rw [List.length_append, List.length_replicate]
      omega
    · have below := greatest max bound
      have least := ordered max bound
      rw [List.length_append, List.length_replicate]
      omega
    · rcases List.mem_append.mp inside with inside | inside
      · exact (members round inside).1
      · rw [List.eq_of_mem_replicate inside]
        exact nullable

/-- Repetitions without an upper bound are the required ones and then any number. -/
theorem repetitions_unbounded (least : Nat) :
    Occurs.repetitions ⟨least, none⟩ body = body ^ least * body∗ := by
  ext word
  rw [mem_repetitions, Language.mem_mul]
  constructor
  · rintro ⟨rounds, rfl, enough, -, members⟩
    refine ⟨(rounds.take least).flatten, ?_, (rounds.drop least).flatten, ?_, ?_⟩
    · exact Language.mem_pow.mpr ⟨rounds.take least, rfl, List.length_take_of_le enough,
        fun round inside => members round (List.mem_of_mem_take inside)⟩
    · exact Language.join_mem_kstar fun round inside => members round (List.mem_of_mem_drop inside)
    · rw [← List.flatten_append, List.take_append_drop]
  · rintro ⟨front, memberFront, back, memberBack, rfl⟩
    obtain ⟨rounds, rfl, rfl, members⟩ := Language.mem_pow.mp memberFront
    obtain ⟨others, rfl, membersBack⟩ := Language.mem_kstar.mp memberBack
    refine ⟨rounds ++ others, by rw [List.flatten_append], by simp, by rintro _ ⟨⟩, ?_⟩
    intro round inside
    exact (List.mem_append.mp inside).elim (members round) (membersBack round)

/-- Repetitions with an upper bound are the required ones and then at most those that are left. -/
theorem repetitions_bounded {least greatest : Nat} (ordered : least ≤ greatest) :
    Occurs.repetitions ⟨least, some greatest⟩ body =
      body ^ least * upTo (greatest - least) body := by
  ext word
  rw [mem_repetitions, Language.mem_mul]
  constructor
  · rintro ⟨rounds, rfl, enough, bound, members⟩
    have atMost : rounds.length ≤ greatest := bound greatest rfl
    have enoughRounds : least ≤ rounds.length := enough
    refine ⟨(rounds.take least).flatten, ?_, (rounds.drop least).flatten, ?_, ?_⟩
    · exact Language.mem_pow.mpr ⟨rounds.take least, rfl, List.length_take_of_le enough,
        fun round inside => members round (List.mem_of_mem_take inside)⟩
    · refine mem_repetitions.mpr ⟨rounds.drop least, rfl, Nat.zero_le _, ?_,
        fun round inside => members round (List.mem_of_mem_drop inside)⟩
      rintro _ ⟨⟩
      rw [List.length_drop]
      omega
    · rw [← List.flatten_append, List.take_append_drop]
  · rintro ⟨front, memberFront, back, memberBack, rfl⟩
    obtain ⟨rounds, rfl, rfl, members⟩ := Language.mem_pow.mp memberFront
    obtain ⟨others, rfl, -, bound, membersBack⟩ := mem_repetitions.mp memberBack
    have few : others.length ≤ greatest - rounds.length := bound _ rfl
    refine ⟨rounds ++ others, by rw [List.flatten_append], by simp, ?_, ?_⟩
    · rintro _ ⟨⟩
      rw [List.length_append]
      omega
    · intro round inside
      exact (List.mem_append.mp inside).elim (members round) (membersBack round)

end Repetitions

/-! ### Groups -/

/-- The single children that a leaf matches. -/
def Leaf.language (matched : Leaf τ → α → Prop) (leaf : Leaf τ) : Language α :=
  {word | ∃ child, matched leaf child ∧ word = [child]}

mutual

/-- What the particles of a group stand for together, by its compositor. A choice between no
particles stands for no children. -/
def Group.bodyLanguage (matched : Leaf τ → α → Prop) : Group τ → Language α
  | .mk .sequence particles _ => Particle.sequenceLanguage matched particles
  | .mk .choice [] _ => 1
  | .mk .choice (particle :: rest) _ => Particle.choiceLanguage matched (particle :: rest)
  | .mk .all particles _ => (Particle.choiceLanguage matched particles)∗

/-- What a particle stands for within its occurrence bounds. -/
def Particle.language (matched : Leaf τ → α → Prop) : Particle τ → Language α
  | .element term occurs => occurs.repetitions ((Leaf.element term).language matched)
  | .any wildcard => wildcard.occurs.repetitions ((Leaf.wildcard wildcard).language matched)
  | .nested group => group.occurs.repetitions (Group.bodyLanguage matched group)

/-- Particles one after the other. -/
def Particle.sequenceLanguage (matched : Leaf τ → α → Prop) : List (Particle τ) → Language α
  | [] => 1
  | particle :: rest =>
    Particle.language matched particle * Particle.sequenceLanguage matched rest

/-- Any of some particles. -/
def Particle.choiceLanguage (matched : Leaf τ → α → Prop) : List (Particle τ) → Language α
  | [] => 0
  | particle :: rest =>
    Particle.language matched particle + Particle.choiceLanguage matched rest

end

/-- What a group stands for within its occurrence bounds. -/
def Group.language (matched : Leaf τ → α → Prop) (group : Group τ) : Language α :=
  group.occurs.repetitions (group.bodyLanguage matched)

/-- The least number does not exceed the greatest. -/
def Occurs.IsOrdered (occurs : Occurs) : Prop := ∀ max ∈ occurs.max, occurs.min ≤ max

mutual

/-- All occurrence bounds of a group are ordered, at every level. -/
def Group.IsOrdered : Group τ → Prop
  | .mk _ particles occurs => occurs.IsOrdered ∧ Particle.AreOrdered particles

/-- All occurrence bounds of a particle are ordered. -/
def Particle.IsOrdered : Particle τ → Prop
  | .element _ occurs => occurs.IsOrdered
  | .any wildcard => wildcard.occurs.IsOrdered
  | .nested group => group.IsOrdered

/-- All occurrence bounds of some particles are ordered. -/
def Particle.AreOrdered : List (Particle τ) → Prop
  | [] => True
  | particle :: rest => particle.IsOrdered ∧ Particle.AreOrdered rest

end

mutual

/-- The elements and wildcards of a group, at every level. -/
def Group.leaves : Group τ → List (Leaf τ)
  | .mk _ particles _ => Particle.leavesOf particles

/-- The elements and wildcards of a particle. -/
def Particle.leaves : Particle τ → List (Leaf τ)
  | .element term _ => [.element term]
  | .any wildcard => [.wildcard wildcard]
  | .nested group => group.leaves

/-- The elements and wildcards of some particles. -/
def Particle.leavesOf : List (Particle τ) → List (Leaf τ)
  | [] => []
  | particle :: rest => particle.leaves ++ Particle.leavesOf rest

end

/-! ### Expressions -/

namespace Expression

variable (matched : Leaf τ → α → Prop)

/-- The sequences of children that an expression stands for. -/
def language : Expression τ → Language α
  | .empty => 1
  | .leaf taker => taker.language matched
  | .sequence first second => first.language * second.language
  | .choice left right => left.language + right.language
  | .star body => body.language∗
  | .exactly count body => body.language ^ count
  | .upTo count body => SchemaAssessment.upTo count body.language
  | .nonEmpty body => body.language - 1

theorem isNullable_iff (expression : Expression τ) :
    expression.isNullable = true ↔ [] ∈ expression.language matched := by
  induction expression with
  | empty => exact iff_of_true rfl rfl
  | leaf taker =>
    refine iff_of_false Bool.false_ne_true ?_
    rintro ⟨child, -, empty⟩
    cases empty
  | sequence first second ofFirst ofSecond =>
    rw [isNullable, Bool.and_eq_true, ofFirst, ofSecond, language, nil_mem_mul]
  | choice left right ofLeft ofRight =>
    rw [isNullable, Bool.or_eq_true, ofLeft, ofRight, language, Language.mem_add]
  | star body _ => exact iff_of_true rfl (Language.nil_mem_kstar _)
  | exactly count body ofBody =>
    rw [isNullable, Bool.or_eq_true, ofBody, language, beq_iff_eq]
    cases count with
    | zero => exact iff_of_true (Or.inl rfl) rfl
    | succ count =>
      refine ⟨fun nullable => ?_, fun member => Or.inr ?_⟩
      · have inside := nullable.resolve_left (Nat.succ_ne_zero count)
        exact Language.mem_pow.mpr ⟨List.replicate (count + 1) [], by simp, by simp,
          fun round member => List.eq_of_mem_replicate member ▸ inside⟩
      · rw [pow_succ] at member
        exact (nil_mem_mul.mp member).2
  | upTo count body _ =>
    refine iff_of_true rfl (mem_repetitions.mpr ⟨[], rfl, Nat.zero_le _, ?_, ?_⟩)
    · exact fun _ _ => Nat.zero_le _
    · exact fun _ inside => by cases inside
  | nonEmpty body _ => exact iff_of_false Bool.false_ne_true nil_notMem_sub_one

/-- An expression within occurrence bounds stands for the repetitions of what it stands for. -/
theorem language_repeated {occurs : Occurs} (ordered : occurs.IsOrdered) (body : Expression τ) :
    (repeated occurs body).language matched = occurs.repetitions (body.language matched) := by
  obtain ⟨least, greatest⟩ := occurs
  unfold repeated
  by_cases nullable : body.isNullable = true
  · rw [if_pos nullable,
      repetitions_of_mem ordered ((isNullable_iff matched body).mp nullable)]
    cases greatest with
    | none =>
      rw [repetitions_unbounded, pow_zero, one_mul]
      rfl
    | some max => rfl
  · rw [if_neg nullable]
    cases greatest with
    | none => exact (repetitions_unbounded least).symm
    | some max =>
      have below : least ≤ max := ordered max rfl
      rw [repetitions_bounded below]
      show language matched (if max ≤ least then exactly least body
        else .sequence (exactly least body) (.upTo (max - least) body)) = _
      by_cases same : max ≤ least
      · rw [if_pos same, Nat.sub_eq_zero_of_le same, upTo_zero, mul_one]
        rfl
      · rw [if_neg same]
        rfl

theorem leaves_repeated {occurs : Occurs} {body : Expression τ} {leaf : Leaf τ}
    (member : leaf ∈ (repeated occurs body).leaves) : leaf ∈ body.leaves := by
  have copies : ∀ {count : Nat} {leaves : List (Leaf τ)},
      leaf ∈ (List.replicate count leaves).flatten → leaf ∈ leaves := by
    intro count leaves inside
    obtain ⟨copy, memberCopy, inside⟩ := List.mem_flatten.mp inside
    exact List.eq_of_mem_replicate memberCopy ▸ inside
  unfold repeated at member
  split at member
  · split at member
    · exact (List.mem_append.mp member).elim id id
    · exact (List.mem_append.mp (copies member)).elim id id
  · split at member
    · exact (List.mem_append.mp member).elim copies id
    · split at member
      · exact copies member
      · exact (List.mem_append.mp member).elim copies copies

end Expression

/-! ### The expression of a group -/

section OfGroup

theorem Group.IsOrdered.ofOccurs {group : Group τ} (ordered : group.IsOrdered) :
    group.occurs.IsOrdered := by
  cases group
  exact ordered.1

variable (matched : Leaf τ → α → Prop)

mutual

theorem Group.language_bodyExpression (group : Group τ) (ordered : group.IsOrdered) :
    group.bodyExpression.language matched = group.bodyLanguage matched := by
  match group with
  | .mk .sequence particles _ => exact Particle.language_sequenceExpression particles ordered.2
  | .mk .choice [] _ => rfl
  | .mk .choice (particle :: rest) _ =>
    exact Particle.language_choiceExpression (particle :: rest) (List.cons_ne_nil _ _) ordered.2
  | .mk .all [] _ =>
    have nothing : (1 : Language α)∗ = 0∗ := by rw [kstar_one, kstar_zero]
    exact nothing
  | .mk .all (particle :: rest) _ =>
    exact congrArg KStar.kstar
      (Particle.language_choiceExpression (particle :: rest) (List.cons_ne_nil _ _) ordered.2)

theorem Particle.language_expression (particle : Particle τ) (ordered : particle.IsOrdered) :
    particle.expression.language matched = particle.language matched := by
  match particle with
  | .element term occurs => exact Expression.language_repeated matched ordered _
  | .any wildcard => exact Expression.language_repeated matched ordered _
  | .nested group =>
    refine (Expression.language_repeated matched (Group.IsOrdered.ofOccurs ordered) _).trans ?_
    exact congrArg _ (Group.language_bodyExpression group ordered)

theorem Particle.language_sequenceExpression (particles : List (Particle τ))
    (ordered : Particle.AreOrdered particles) :
    (Particle.sequenceExpression particles).language matched =
      Particle.sequenceLanguage matched particles := by
  match particles with
  | [] => rfl
  | [particle] =>
    exact (Particle.language_expression particle ordered.1).trans (mul_one _).symm
  | particle :: next :: rest =>
    exact congrArg₂ (· * ·) (Particle.language_expression particle ordered.1)
      (Particle.language_sequenceExpression (next :: rest) ordered.2)

theorem Particle.language_choiceExpression (particles : List (Particle τ))
    (nonempty : particles ≠ []) (ordered : Particle.AreOrdered particles) :
    (Particle.choiceExpression particles).language matched =
      Particle.choiceLanguage matched particles := by
  match particles with
  | [] => exact absurd rfl nonempty
  | [particle] =>
    exact (Particle.language_expression particle ordered.1).trans (add_zero _).symm
  | particle :: next :: rest =>
    exact congrArg₂ (· + ·) (Particle.language_expression particle ordered.1)
      (Particle.language_choiceExpression (next :: rest) (List.cons_ne_nil _ _) ordered.2)

end

/-- The expression of a group means what the group means. -/
theorem Group.language_expression (group : Group τ) (ordered : group.IsOrdered) :
    group.expression.language matched = group.language matched := by
  refine (Expression.language_repeated matched ordered.ofOccurs _).trans ?_
  exact congrArg _ (Group.language_bodyExpression matched group ordered)

end OfGroup

section Leaves

variable {leaf : Leaf τ}

mutual

theorem Group.leaves_of_bodyExpression (group : Group τ)
    (member : leaf ∈ group.bodyExpression.leaves) : leaf ∈ group.leaves := by
  match group with
  | .mk .sequence particles _ => exact Particle.leaves_of_sequenceExpression particles member
  | .mk .choice particles _ => exact Particle.leaves_of_choiceExpression particles member
  | .mk .all particles _ => exact Particle.leaves_of_choiceExpression particles member

theorem Particle.leaves_of_expression (particle : Particle τ)
    (member : leaf ∈ particle.expression.leaves) : leaf ∈ particle.leaves := by
  match particle with
  | .element _ _ => exact Expression.leaves_repeated member
  | .any _ => exact Expression.leaves_repeated member
  | .nested group => exact Group.leaves_of_bodyExpression group (Expression.leaves_repeated member)

theorem Particle.leaves_of_sequenceExpression (particles : List (Particle τ))
    (member : leaf ∈ (Particle.sequenceExpression particles).leaves) :
    leaf ∈ Particle.leavesOf particles := by
  match particles with
  | [] => exact member
  | [particle] => exact List.mem_append_left _ (Particle.leaves_of_expression particle member)
  | particle :: next :: rest =>
    rcases List.mem_append.mp member with inside | inside
    · exact List.mem_append_left _ (Particle.leaves_of_expression particle inside)
    · exact List.mem_append_right _
        (Particle.leaves_of_sequenceExpression (next :: rest) inside)

theorem Particle.leaves_of_choiceExpression (particles : List (Particle τ))
    (member : leaf ∈ (Particle.choiceExpression particles).leaves) :
    leaf ∈ Particle.leavesOf particles := by
  match particles with
  | [] => exact member
  | [particle] => exact List.mem_append_left _ (Particle.leaves_of_expression particle member)
  | particle :: next :: rest =>
    rcases List.mem_append.mp member with inside | inside
    · exact List.mem_append_left _ (Particle.leaves_of_expression particle inside)
    · exact List.mem_append_right _
        (Particle.leaves_of_choiceExpression (next :: rest) inside)

end

/-- The expression of a group has no leaves but those of the group. -/
theorem Group.leaves_of_expression (group : Group τ) (member : leaf ∈ group.expression.leaves) :
    leaf ∈ group.leaves :=
  Group.leaves_of_bodyExpression group (Expression.leaves_repeated member)

end Leaves

end SchemaAssessment
