/-
Content models see what is coming. Behind every place of the table of a group the content
can still be brought to an end, because wherever the group goes on it stands for
something. So a child is refused as soon as no sequence of the group begins with the
children so far and with it, and the expectations name what may come next, and nothing
else. Two kinds of leaves spoil this: a wildcard that takes no namespace at all, and a
wildcard that takes a child which an element of the group takes away from it.
-/

import SchemaAssessment.Proofs.Content.Exactness
import SchemaAssessment.Proofs.Sequences

namespace SchemaAssessment

open scoped Computability

variable {τ α δ : Type}

/-! ### Languages with a word -/

/-- There is a word in the language. -/
def HasWord (language : Language α) : Prop := ∃ word, word ∈ language

namespace HasWord

variable {first second : Language α}

theorem of_nil_mem (nullable : [] ∈ first) : HasWord first := ⟨[], nullable⟩

theorem one : HasWord (1 : Language α) := of_nil_mem rfl

theorem mul (ofFirst : HasWord first) (ofSecond : HasWord second) : HasWord (first * second) := by
  obtain ⟨left, memberLeft⟩ := ofFirst
  obtain ⟨right, memberRight⟩ := ofSecond
  exact ⟨left ++ right, Language.append_mem_mul memberLeft memberRight⟩

theorem pow (ofFirst : HasWord first) (count : Nat) : HasWord (first ^ count) := by
  induction count with
  | zero => exact one
  | succ count ofCount => exact pow_succ first count ▸ ofCount.mul ofFirst

theorem add_left (ofFirst : HasWord first) (other : Language α) : HasWord (first + other) :=
  ofFirst.imp fun _ member => Or.inl member

theorem add_right (ofSecond : HasWord second) (other : Language α) : HasWord (other + second) :=
  ofSecond.imp fun _ member => Or.inr member

theorem kstar (language : Language α) : HasWord language∗ := of_nil_mem (Language.nil_mem_kstar _)

theorem upTo (count : Nat) (body : Language α) : HasWord (SchemaAssessment.upTo count body) := by
  cases count with
  | zero => exact upTo_zero ▸ one
  | succ count => exact upTo_succ count ▸ one.add_right _

end HasWord

/-! ### No place is a dead end -/

namespace Expression

section Live

variable (matched : Leaf τ → α → Prop) (table : Array (Place τ))

/-- Wherever the expression stands, the content can be brought to an end from behind each of its
places, if that can be done from behind the expression. -/
def LeadsOn (expression : Expression τ) : Prop :=
  ∀ start after, Occupies table start (expression.places start after) →
    HasWord (after.language matched table) →
      ∀ place ∈ expression.places start after, HasWord (place.next.language matched table)

/-- The expression stands for something, and no place of it is a dead end. -/
structure IsLive (expression : Expression τ) : Prop where
  hasWord : HasWord (expression.language matched)
  leadsOn : expression.LeadsOn matched table

variable {matched table} {body first second : Expression τ}

theorem isLive_empty : (Expression.empty : Expression τ).IsLive matched table :=
  ⟨.one, fun _ _ _ _ _ member => by cases member⟩

theorem isLive_leaf {taker : Leaf τ} (matching : ∃ child, matched taker child) :
    (Expression.leaf taker).IsLive matched table := by
  obtain ⟨child, takes⟩ := matching
  refine ⟨⟨[child], child, takes, rfl⟩, fun start after _ ends place member => ?_⟩
  rw [List.mem_singleton.mp member]
  exact ends

/-- What is reached before an expression leads on if the expression stands for something. -/
theorem hasWord_before {start : Nat} {after : Reach}
    (occupied : Occupies table start (body.places start after))
    (hasWord : HasWord (body.language matched)) (ends : HasWord (after.language matched table)) :
    HasWord ((body.before start after).language matched table) :=
  language_before matched table occupied ▸ hasWord.mul ends

theorem isLive_sequence (ofFirst : first.IsLive matched table)
    (ofSecond : second.IsLive matched table) :
    (Expression.sequence first second).IsLive matched table := by
  refine ⟨ofFirst.hasWord.mul ofSecond.hasWord, fun start after occupied ends place member => ?_⟩
  rw [places_sequence, occupies_append, length_places] at occupied
  rw [places_sequence, List.mem_append] at member
  have between := hasWord_before occupied.2 ofSecond.hasWord ends
  exact member.elim (ofFirst.leadsOn _ _ occupied.1 between place)
    (ofSecond.leadsOn _ _ occupied.2 ends place)

theorem isLive_choice (ofFirst : first.IsLive matched table)
    (ofSecond : second.IsLive matched table) :
    (Expression.choice first second).IsLive matched table := by
  refine ⟨ofFirst.hasWord.add_left _, fun start after occupied ends place member => ?_⟩
  rw [places_choice, occupies_append, length_places] at occupied
  rw [places_choice, List.mem_append] at member
  exact member.elim (ofFirst.leadsOn _ _ occupied.1 ends place)
    (ofSecond.leadsOn _ _ occupied.2 ends place)

theorem isLive_star (ofBody : body.LeadsOn matched table) :
    (Expression.star body).IsLive matched table := by
  refine ⟨.kstar _, fun start after occupied ends => ofBody start _ occupied ?_⟩
  rw [Reach.language_union]
  exact ends.add_right _

/-- Both copies of the part stand before the end. -/
theorem leadsOn_nonEmpty (ofBody : body.LeadsOn matched table) :
    (Expression.nonEmpty body).LeadsOn matched table := by
  intro start after occupied ends place member
  rw [places_nonEmpty, occupies_append, length_places] at occupied
  rw [places_nonEmpty, List.mem_append, or_self] at member
  exact ofBody _ _ occupied.2 ends place member

/-- No copy of a repeated part is a dead end, if none of the places between the copies is. -/
theorem leadsOn_copies (ofBody : body.LeadsOn matched table) {pass : Reach → Reach} {after : Reach}
    (between : ∀ start count, Occupies table start (body.copyPlaces pass after start count) →
      HasWord ((body.copies pass after start count).2.language matched table))
    {start count : Nat} (occupied : Occupies table start (body.copyPlaces pass after start count)) :
    ∀ place ∈ body.copyPlaces pass after start count,
      HasWord (place.next.language matched table) := by
  induction count generalizing start with
  | zero => exact fun place member => by cases member
  | succ count ofRest =>
    intro place member
    rw [copyPlaces_succ, occupies_append, length_places] at occupied
    rw [copyPlaces_succ, List.mem_append] at member
    exact member.elim (ofBody _ _ occupied.1 (between _ _ occupied.2) place)
      (ofRest occupied.2 place)

theorem isLive_exactly (ofBody : body.IsLive matched table) (count : Nat) :
    (Expression.exactly count body).IsLive matched table := by
  refine ⟨ofBody.hasWord.pow count, fun start after occupied ends => ?_⟩
  rw [places_exactly] at occupied ⊢
  refine leadsOn_copies ofBody.leadsOn (fun start count occupied => ?_) occupied
  have before : (body.copies id after start count).2.language matched table =
      body.language matched ^ count * after.language matched table :=
    language_copies (isExact matched table body) (pow_zero _)
      (fun count reach before => by rw [pow_succ']; exact before) occupied
  exact before ▸ (ofBody.hasWord.pow count).mul ends

/-- Before each copy of a part that may be left out the content may as well go on behind all of
them. -/
theorem isLive_upTo (ofBody : body.LeadsOn matched table) (count : Nat) :
    (Expression.upTo count body).IsLive matched table := by
  refine ⟨.upTo count _, fun start after occupied ends => ?_⟩
  rw [places_upTo] at occupied ⊢
  refine leadsOn_copies ofBody (fun start count _ => ?_) occupied
  cases count with
  | zero => exact ends
  | succ count =>
    rw [copies, Reach.language_union]
    exact ends.add_right _

theorem isLive_repeated (ofBody : body.IsLive matched table) (occurs : Occurs) :
    (repeated occurs body).IsLive matched table := by
  unfold repeated
  split
  · split
    · exact isLive_star (leadsOn_nonEmpty ofBody.leadsOn)
    · exact isLive_upTo (leadsOn_nonEmpty ofBody.leadsOn) _
  · split
    · exact isLive_sequence (isLive_exactly ofBody _) (isLive_star ofBody.leadsOn)
    · split
      · exact isLive_exactly ofBody _
      · exact isLive_sequence (isLive_exactly ofBody _) (isLive_upTo ofBody.leadsOn _)

end Live

end Expression

section OfGroup

variable {matched : Leaf τ → α → Prop} {table : Array (Place τ)}

mutual

theorem Group.isLive_bodyExpression (group : Group τ)
    (matching : ∀ leaf ∈ group.leaves, ∃ child, matched leaf child) :
    group.bodyExpression.IsLive matched table := by
  match group with
  | .mk .sequence particles _ => exact Particle.isLive_sequenceExpression particles matching
  | .mk .choice particles _ => exact Particle.isLive_choiceExpression particles matching
  | .mk .all particles _ =>
    exact Expression.isLive_star (Particle.isLive_choiceExpression particles matching).leadsOn

theorem Particle.isLive_expression (particle : Particle τ)
    (matching : ∀ leaf ∈ particle.leaves, ∃ child, matched leaf child) :
    particle.expression.IsLive matched table := by
  match particle with
  | .element term occurs =>
    exact Expression.isLive_repeated (Expression.isLive_leaf (matching _ List.mem_cons_self)) _
  | .any wildcard =>
    exact Expression.isLive_repeated (Expression.isLive_leaf (matching _ List.mem_cons_self)) _
  | .nested group =>
    exact Expression.isLive_repeated (Group.isLive_bodyExpression group matching) _

theorem Particle.isLive_sequenceExpression (particles : List (Particle τ))
    (matching : ∀ leaf ∈ Particle.leavesOf particles, ∃ child, matched leaf child) :
    (Particle.sequenceExpression particles).IsLive matched table := by
  match particles with
  | [] => exact Expression.isLive_empty
  | [particle] =>
    exact Particle.isLive_expression particle fun leaf inside =>
      matching leaf (List.mem_append_left _ inside)
  | particle :: next :: rest =>
    obtain ⟨ofFirst, ofRest⟩ := List.forall_mem_append.mp matching
    exact Expression.isLive_sequence (Particle.isLive_expression particle ofFirst)
      (Particle.isLive_sequenceExpression (next :: rest) ofRest)

theorem Particle.isLive_choiceExpression (particles : List (Particle τ))
    (matching : ∀ leaf ∈ Particle.leavesOf particles, ∃ child, matched leaf child) :
    (Particle.choiceExpression particles).IsLive matched table := by
  match particles with
  | [] => exact Expression.isLive_empty
  | [particle] =>
    exact Particle.isLive_expression particle fun leaf inside =>
      matching leaf (List.mem_append_left _ inside)
  | particle :: next :: rest =>
    obtain ⟨ofFirst, ofRest⟩ := List.forall_mem_append.mp matching
    exact Expression.isLive_choice (Particle.isLive_expression particle ofFirst)
      (Particle.isLive_choiceExpression (next :: rest) ofRest)

end

/-- If each leaf of a group matches a child, the content can be brought to an end from behind each
place in the table of the group. -/
theorem Group.hasWord_next (group : Group τ)
    (matching : ∀ leaf ∈ group.leaves, ∃ child, matched leaf child) {index : Nat} {place : Place τ}
    (standing : (ContentModel.table group.expression)[index]? = some place) :
    HasWord (place.next.language matched (ContentModel.table group.expression)) := by
  have live : group.expression.IsLive matched (ContentModel.table group.expression) :=
    Expression.isLive_repeated (group.isLive_bodyExpression matching) _
  refine live.leadsOn 0 .ending (ContentModel.occupies_table _) ?_ place ?_
  · rw [Reach.language_ending]
    exact .one
  · rw [ContentModel.table, List.getElem?_toArray] at standing
    exact List.mem_of_getElem? standing

end OfGroup

namespace ContentModel

/-! ### What has been walked -/

section Walks

variable {takes : α → τ → Option δ} {space : α → Option String} {table : Array (Place τ)}
  {model : ContentModel τ} {start : Reach}

/-- Behind some children exactly that may follow which may follow them from where they began, unless
elements and wildcards compete for one of them. -/
theorem exists_reached_of_walk (places : model.decision = .places table start)
    {leaves : List (Leaf τ)}
    (inside : ∀ (index : Nat) place, table[index]? = some place → place.leaf ∈ leaves)
    (uncontested : ∀ child, ¬ IsContested (IsMatched takes space) leaves child) {word : List α}
    {reach : Reach} {state : ContentState}
    (walks : model.walk takes space word (.reached reach) = some state) :
    ∃ behind, state = .reached behind ∧ ∀ rest,
      rest ∈ behind.language (IsMatched takes space) table ↔
        word ++ rest ∈ reach.language (IsMatched takes space) table := by
  induction word generalizing reach with
  | nil => exact ⟨reach, (Option.some.inj walks).symm, fun rest => Iff.rfl⟩
  | cons child word ofWord =>
    obtain ⟨⟨next, taken⟩, steps, walks⟩ := Option.bind_eq_some_iff.mp walks
    obtain ⟨between, rfl, follows⟩ := cons_mem_of_step places steps
    obtain ⟨behind, rfl, ofBehind⟩ := ofWord walks
    refine ⟨behind, rfl, fun rest => (ofBehind rest).trans ⟨follows _, fun member => ?_⟩⟩
    obtain ⟨other, otherTaken, stepsAlso, member⟩ := exists_step_of_cons_mem places
      (fun found memberFound other memberOther => isElement_eq_of_mem inside (uncontested child)
        memberFound memberOther) member
    rw [steps] at stepsAlso
    obtain ⟨same, -⟩ := Prod.mk.inj (Option.some.inj stepsAlso)
    rwa [ContentState.reached.inj same]

/-- A child is refused where nothing matches it. -/
theorem step_eq_none_iff (places : model.decision = .places table start) {child : α}
    {reach : Reach} :
    model.step (takes child) (space child) (.reached reach) = none ↔
      matchesAt (takes child) (space child) table reach.places = [] := by
  rw [step_places places, Option.map_eq_none_iff, Option.or_eq_none_iff]
  constructor
  · rintro ⟨-, none⟩
    by_contra nonempty
    obtain ⟨reached, taken, combined⟩ := exists_combine nonempty
    cases none.symm.trans combined
  · intro nothing
    simp [nothing, combine]

/-- If no place is a dead end, a child is refused where nothing that may follow begins with it. -/
theorem step_eq_none_iff_forall (places : model.decision = .places table start)
    (live : ∀ (index : Nat) place, table[index]? = some place →
      HasWord (place.next.language (IsMatched takes space) table)) {child : α} {reach : Reach} :
    model.step (takes child) (space child) (.reached reach) = none ↔
      ¬ ∃ rest, child :: rest ∈ reach.language (IsMatched takes space) table := by
  rw [step_eq_none_iff places]
  constructor
  · rintro nothing ⟨rest, member⟩
    obtain ⟨found, inside, -⟩ := cons_mem_language.mp member
    rw [nothing] at inside
    cases inside
  · intro refused
    refine List.eq_nil_iff_forall_not_mem.mpr fun ⟨taken, next⟩ inside => refused ?_
    obtain ⟨index, -, place, standing, -, rfl⟩ := mem_matchesAt.mp inside
    obtain ⟨rest, follows⟩ := live index place standing
    exact ⟨rest, cons_mem_language.mpr ⟨_, inside, follows⟩⟩

theorem expected_reached (places : model.decision = .places table start) (label : τ → String)
    (reach : Reach) :
    model.expected label (.reached reach) = (reach.places.filterMap fun index =>
      table[index]?.map fun place => leafLabel label place.leaf).eraseDups := by
  unfold expected
  split
  · rename_i decided same
    obtain ⟨rfl, -⟩ := Decision.places.inj (places.symm.trans decided)
    obtain rfl := ContentState.reached.inj same
    rfl
  all_goals simp_all

theorem mem_expected (places : model.decision = .places table start) {label : τ → String}
    {reach : Reach} {text : String} :
    text ∈ model.expected label (.reached reach) ↔
      ∃ index ∈ reach.places, ∃ place, table[index]? = some place ∧
        leafLabel label place.leaf = text := by
  simp only [expected_reached places, List.mem_eraseDups, List.mem_filterMap,
    Option.map_eq_some_iff]

end Walks

/-! ### Children by name -/

/-- A wildcard without a single namespace aside, there is a name that a leaf matches. -/
theorem exists_matches (registry : Registry) (leaf : Leaf ElementTerm)
    (open_ : ∀ wildcard, leaf = .wildcard wildcard → wildcard.spaces ≠ .among []) :
    ∃ name, registry.Matches leaf name := by
  match leaf with
  | .element (.declared declaration) => exact ⟨declaration.name, rfl⟩
  | .element (.global head) => exact ⟨head, Or.inl rfl⟩
  | .wildcard ⟨.any, _, _⟩ => exact ⟨.unqualified "", rfl⟩
  | .wildcard ⟨.other target, _, _⟩ =>
    -- a namespace that is longer than the one that is not taken
    refine ⟨⟨some ((target.getD "").push 'x'), ""⟩, ?_⟩
    have longer : ∀ space : String, space.push 'x' ≠ space := fun space same => by
      simpa using congrArg String.length same
    cases target with
    | none => simp [Registry.Matches, Wildcard.allows, NamespaceConstraint.allows]
    | some space => simp [Registry.Matches, Wildcard.allows, NamespaceConstraint.allows, longer space]
  | .wildcard ⟨.among [], _, _⟩ => exact absurd rfl (open_ _ rfl)
  | .wildcard ⟨.among (space :: spaces), _, _⟩ =>
    exact ⟨⟨some space, ""⟩, by simp [Registry.Matches, Wildcard.allows, NamespaceConstraint.allows]⟩

/-- Different leaves of a group that match one name have one label. -/
def AreLabelled (registry : Registry) (leaves : List (Leaf ElementTerm)) : Prop :=
  ∀ name, ∀ leaf ∈ leaves, ∀ other ∈ leaves, registry.Matches leaf name →
    registry.Matches other name →
      leafLabel ElementTerm.label leaf = leafLabel ElementTerm.label other

/-- In the content model of a group that is not counted, behind any children that it takes, a child
is refused if and only if no sequence that the group stands for begins with those children and
with this one; and the expectations are, each told once, the labels of the leaves that match a
name with which such a sequence may go on. -/
theorem walk_foresees (registry : Registry) (group : Group ElementTerm)
    (uncounted : ¬ group.IsCounted) (ordered : group.IsOrdered)
    (open_ : ∀ wildcard, .wildcard wildcard ∈ group.leaves → wildcard.spaces ≠ .among [])
    (labelled : AreLabelled registry group.leaves)
    (uncontested : ∀ name, ¬ IsContested registry.Matches group.leaves name)
    (word : List ExpandedName) (state : ContentState) :
    let model := ofGroup ElementTerm.label group
    model.walk registry.takes ExpandedName.space word model.start = some state →
      (∀ name : ExpandedName, model.step (registry.takes name) name.space state = none ↔
        ¬ ∃ rest, word ++ name :: rest ∈ group.language registry.Matches) ∧
      (model.expected ElementTerm.label state).Nodup ∧
      ∀ text, text ∈ model.expected ElementTerm.label state ↔
        ∃ leaf ∈ group.leaves, leafLabel ElementTerm.label leaf = text ∧
          ∃ name rest, registry.Matches leaf name ∧
            word ++ name :: rest ∈ group.language registry.Matches := by
  intro model walks
  have places := decision_ofGroup ElementTerm.label uncounted
  have language := language_start registry.Matches ordered
  have inside : ∀ (index : Nat) place, (table group.expression)[index]? = some place →
      place.leaf ∈ group.leaves :=
    fun index place standing => group.leaves_of_expression (leaf_mem_of_table standing)
  have matching : ∀ leaf ∈ group.leaves, ∃ name, registry.Matches leaf name :=
    fun leaf member => exists_matches registry leaf fun wildcard same => open_ wildcard (same ▸ member)
  have live : ∀ (index : Nat) place, (table group.expression)[index]? = some place →
      HasWord (place.next.language registry.Matches (table group.expression)) :=
    fun index place standing => group.hasWord_next matching standing
  rw [start_ofGroup ElementTerm.label uncounted] at walks
  rw [← registry.isMatched_eq] at language matching live uncontested ⊢
  obtain ⟨behind, rfl, follows⟩ := exists_reached_of_walk places inside uncontested walks
  rw [language] at follows
  refine ⟨fun name => ?_, ?_, fun text => ?_⟩
  · rw [step_eq_none_iff_forall places live]
    exact not_congr (exists_congr fun rest => follows (name :: rest))
  · rw [expected_reached places]
    exact nodup_eraseDups _
  · rw [mem_expected places]
    constructor
    · rintro ⟨index, reached, place, standing, rfl⟩
      obtain ⟨name, takes⟩ := matching place.leaf (inside index place standing)
      obtain ⟨rest, ends⟩ := live index place standing
      exact ⟨place.leaf, inside index place standing, rfl, name, rest, takes,
        (follows (name :: rest)).mp ⟨index, reached, place, standing, takes, ends⟩⟩
    · rintro ⟨leaf, member, rfl, name, rest, takes, goesOn⟩
      obtain ⟨index, reached, place, standing, takesAlso, -⟩ :=
        (follows (name :: rest)).mpr goesOn
      exact ⟨index, reached, place, standing,
        labelled name place.leaf (inside index place standing) leaf member
          ((registry.isMatched_iff place.leaf name).mp takesAlso)
          ((registry.isMatched_iff leaf name).mp takes)⟩

/-- Two or three rounds of two elements, each of which may be left out, and then an element from
almost any namespace. -/
def pairsThenForeign : Group ElementTerm :=
  ⟨.sequence, [.nested sparsePairs, .any ⟨.other (some "urn:pairs"), .lax, .once⟩], .once⟩

/-- Behind two elements on the right one on the left may follow, or a foreign one, but none of the
namespace that is not taken. -/
theorem walk_foresees_pairs :
    let model := ofGroup ElementTerm.label pairsThenForeign
    let word : List ExpandedName := [.unqualified "right", .unqualified "right"]
    ¬ pairsThenForeign.IsCounted ∧ pairsThenForeign.IsOrdered ∧
      AreLabelled Registry.nothing pairsThenForeign.leaves ∧
      (∀ name, ¬ IsContested Registry.nothing.Matches pairsThenForeign.leaves name) ∧
      ∃ state, model.walk Registry.nothing.takes ExpandedName.space word model.start = some state ∧
        (∃ rest, word ++ .unqualified "left" :: rest ∈
          pairsThenForeign.language Registry.nothing.Matches) ∧
        (¬ ∃ rest, word ++ ⟨some "urn:pairs", "left"⟩ :: rest ∈
          pairsThenForeign.language Registry.nothing.Matches) := by
  intro model word
  have uncounted : ¬ pairsThenForeign.IsCounted := fun counted => by cases counted.1
  have ordered : pairsThenForeign.IsOrdered := by
    simp [pairsThenForeign, sparsePairs, Group.IsOrdered, Particle.AreOrdered, Particle.IsOrdered,
      Occurs.IsOrdered, Occurs.once]
  have leaves : pairsThenForeign.leaves = [
      .element (.declared (.ofName (.unqualified "left"))),
      .element (.declared (.ofName (.unqualified "right"))),
      .wildcard ⟨.other (some "urn:pairs"), .lax, .once⟩] := rfl
  have foreign : ∀ wildcard, .wildcard wildcard ∈ pairsThenForeign.leaves →
      wildcard.spaces ≠ .among [] := by
    intro wildcard member
    rw [leaves] at member
    simp only [List.mem_cons, List.not_mem_nil, or_false, reduceCtorEq, false_or,
      Leaf.wildcard.injEq] at member
    simp [member]
  have labelled : AreLabelled Registry.nothing pairsThenForeign.leaves := by
    intro name leaf member other memberOther takes takesOther
    rw [leaves] at member memberOther
    simp only [List.mem_cons, List.not_mem_nil, or_false] at member memberOther
    rcases member with rfl | rfl | rfl <;> rcases memberOther with rfl | rfl | rfl <;>
      simp_all [Registry.Matches, Wildcard.allows, NamespaceConstraint.allows,
        ElementDeclaration.ofName, ExpandedName.unqualified]
  have uncontested : ∀ name, ¬ IsContested Registry.nothing.Matches pairsThenForeign.leaves name := by
    rintro name ⟨term, wildcard, element, other, takes, allows⟩
    rw [leaves] at element other
    simp only [List.mem_cons, List.not_mem_nil, or_false, reduceCtorEq, false_or,
      Leaf.element.injEq, Leaf.wildcard.injEq] at element other
    subst other
    rcases element with rfl | rfl <;>
      simp_all [Registry.Matches, Wildcard.allows, NamespaceConstraint.allows,
        ElementDeclaration.ofName, ExpandedName.unqualified]
  have walked : (model.walk Registry.nothing.takes ExpandedName.space word model.start).any
      (fun state => (model.step (Registry.nothing.takes (.unqualified "left")) none state).isSome &&
        !(model.step (Registry.nothing.takes ⟨some "urn:pairs", "left"⟩) (some "urn:pairs")
          state).isSome) = true := by
    cbv
  obtain ⟨state, walks, both⟩ := (Option.any_eq_true _ _).mp walked
  obtain ⟨goesOn, stops⟩ := Bool.and_eq_true_iff.mp both
  obtain ⟨refuses, -, -⟩ := walk_foresees Registry.nothing pairsThenForeign uncounted ordered
    foreign labelled uncontested word state walks
  refine ⟨uncounted, ordered, labelled, uncontested, state, walks, ?_,
    (refuses _).mp (Option.isNone_iff_eq_none.mp ((Option.not_isSome _).symm.trans stops))⟩
  by_contra refused
  exact Option.isSome_iff_ne_none.mp goesOn ((refuses (.unqualified "left")).mpr refused)

/-- Two branches, one of which begins with an element that is named like the wildcard at the beginning
of the other one is shown. -/
def maskedBranch : Group ElementTerm :=
  ⟨.choice, [
    .nested ⟨.sequence, [.element (.global (.unqualified "WC[\"\"]")) .once,
      .element (.global ⟨some "u", "a"⟩) .once], .once⟩,
    .nested ⟨.sequence, [.any ⟨.among [""], .lax, .once⟩,
      .element (.global ⟨some "u", "b"⟩) .once], .once⟩], .once⟩

/-- Without a grammar there are no substitution groups. -/
theorem matches_global_nothing {head name : ExpandedName} :
    Registry.nothing.Matches (.element (.global head)) name ↔ name = head :=
  or_iff_left (by rintro ⟨⟩)

theorem mem_repetitions_once {body : Language α} {word : List α} (member : word ∈ body) :
    word ∈ Occurs.once.repetitions body :=
  ⟨1, le_rfl, fun _ same => (Option.some.inj same).le, (pow_one body).symm ▸ member⟩

/-- Equal labels are no protection where an element takes a child away from a wildcard: behind the
element the branch of the wildcard is lost, although the group stands for it. -/
theorem masked_branch_refused :
    let model := ofGroup ElementTerm.label maskedBranch
    let word : List ExpandedName := [.unqualified "WC[\"\"]"]
    let next : ExpandedName := ⟨some "u", "b"⟩
    ¬ maskedBranch.IsCounted ∧ maskedBranch.IsOrdered ∧
      (∀ wildcard, .wildcard wildcard ∈ maskedBranch.leaves → wildcard.spaces ≠ .among []) ∧
      AreLabelled Registry.nothing maskedBranch.leaves ∧
      word ++ [next] ∈ maskedBranch.language Registry.nothing.Matches ∧
      ∃ state, model.walk Registry.nothing.takes ExpandedName.space word model.start = some state ∧
        model.step (Registry.nothing.takes next) next.space state = none := by
  intro model word next
  have uncounted : ¬ maskedBranch.IsCounted := fun counted => by cases counted.1
  have ordered : maskedBranch.IsOrdered := by
    simp [maskedBranch, Group.IsOrdered, Particle.AreOrdered, Particle.IsOrdered,
      Occurs.IsOrdered, Occurs.once]
  have leaves : maskedBranch.leaves = [.element (.global (.unqualified "WC[\"\"]")),
      .element (.global ⟨some "u", "a"⟩), .wildcard ⟨.among [""], .lax, .once⟩,
      .element (.global ⟨some "u", "b"⟩)] := rfl
  have allows : Registry.nothing.Matches (.wildcard ⟨.among [""], .lax, .once⟩) =
      fun name => name.space.getD "" = "" := by
    funext name
    simp [Registry.Matches, Wildcard.allows, NamespaceConstraint.allows]
  -- the name alone decides which label it is matched under
  have label : ∀ leaf ∈ maskedBranch.leaves, ∀ name, Registry.nothing.Matches leaf name →
      leafLabel ElementTerm.label leaf =
        if name.space.getD "" = "" then "WC[\"\"]" else name.text := by
    intro leaf member name takes
    rw [leaves] at member
    simp only [List.mem_cons, List.not_mem_nil, or_false] at member
    rcases member with rfl | rfl | rfl | rfl
    · rw [matches_global_nothing.mp takes]
      decide
    · rw [matches_global_nothing.mp takes]
      decide
    · rw [allows] at takes
      rw [if_pos takes]
      decide
    · rw [matches_global_nothing.mp takes]
      decide
  have labelled : AreLabelled Registry.nothing maskedBranch.leaves :=
    fun name leaf member other memberOther takes takesOther =>
      (label leaf member name takes).trans (label other memberOther name takesOther).symm
  have member : word ++ [next] ∈ maskedBranch.language Registry.nothing.Matches :=
    mem_repetitions_once (Or.inr (Or.inl (mem_repetitions_once
      ⟨word, mem_repetitions_once ⟨.unqualified "WC[\"\"]", allows ▸ rfl, rfl⟩, [next],
        ⟨[next], mem_repetitions_once ⟨next, Or.inl rfl, rfl⟩, [], rfl, rfl⟩, rfl⟩)))
  have walked : (model.walk Registry.nothing.takes ExpandedName.space word model.start).any
      (fun state => !(model.step (Registry.nothing.takes next) next.space state).isSome) = true := by
    cbv
  obtain ⟨state, walks, refused⟩ := (Option.any_eq_true _ _).mp walked
  refine ⟨uncounted, ordered, ?_, labelled, member, state, walks,
    Option.isNone_iff_eq_none.mp ((Option.not_isSome _).symm.trans refused)⟩
  intro wildcard inside
  rw [leaves] at inside
  simp only [List.mem_cons, List.not_mem_nil, or_false, reduceCtorEq, false_or,
    Leaf.wildcard.injEq] at inside
  simp [inside]

end ContentModel

end SchemaAssessment
