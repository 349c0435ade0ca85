/-
Content models are exact. Walking a sequence of children through the model of a
group ends where the content may end only if the group stands for the sequence; and
every sequence that the group stands for is walked to such an end, as long as no child
in it is matched by an element and by a wildcard of the group, since there the element
takes the child and the wildcard is left aside.
-/

import Mathlib.Data.List.Permutation
import SchemaAssessment.Grammar.Registry
import SchemaAssessment.Proofs.Content.Places

namespace SchemaAssessment

variable {τ α δ : Type}

/-! ### Counted groups -/

/-- The group is an unordered one of elements alone, and not empty. -/
def Group.IsCounted (group : Group τ) : Prop :=
  group.compositor = .all ∧ group.particles ≠ [] ∧
    ∀ particle ∈ group.particles, ∃ term occurs, particle = .element term occurs

namespace ContentModel

theorem members?_isSome_iff (particles : List (Particle τ)) :
    (members? particles).isSome = true ↔
      ∀ particle ∈ particles, ∃ term occurs, particle = .element term occurs := by
  induction particles with
  | nil => exact iff_of_true rfl fun _ inside => by cases inside
  | cons particle rest ofRest =>
    cases particle with
    | element term occurs =>
      rw [members?, Option.isSome_map, ofRest, List.forall_mem_cons]
      exact (and_iff_right ⟨term, occurs, rfl⟩).symm
    | any wildcard =>
      refine iff_of_false Bool.false_ne_true fun all => ?_
      obtain ⟨_, _, impossible⟩ := all _ List.mem_cons_self
      cases impossible
    | nested group =>
      refine iff_of_false Bool.false_ne_true fun all => ?_
      obtain ⟨_, _, impossible⟩ := all _ List.mem_cons_self
      cases impossible

theorem counted?_eq_none {group : Group τ} (uncounted : ¬ group.IsCounted) :
    counted? group = none := by
  unfold counted?
  split
  · rename_i unordered
    rw [Bool.and_eq_true, beq_iff_eq, Bool.not_eq_true', List.isEmpty_eq_false_iff] at unordered
    refine Option.not_isSome_iff_eq_none.mp fun counted => uncounted ?_
    exact ⟨unordered.1, unordered.2, (members?_isSome_iff _).mp counted⟩
  · rfl

/-! ### Walking -/

/-- The state behind some children, if each of them is allowed where it stands. -/
def walk (model : ContentModel τ) (takes : α → τ → Option δ) (space : α → Option String) :
    List α → ContentState → Option ContentState
  | [], state => some state
  | child :: rest, state =>
    (model.step (takes child) (space child) state).bind fun next =>
      walk model takes space rest next.1

theorem walk_append (model : ContentModel τ) (takes : α → τ → Option δ)
    (space : α → Option String) (first rest : List α) (state : ContentState) :
    model.walk takes space (first ++ rest) state =
      (model.walk takes space first state).bind (model.walk takes space rest) := by
  induction first generalizing state with
  | nil => rfl
  | cons child others ofOthers =>
    rw [List.cons_append, walk, walk, Option.bind_assoc]
    exact congrArg (Option.bind _) (funext fun next => ofOthers next.1)

/-- A leaf matches a child if it makes something of it. -/
def IsMatched (takes : α → τ → Option δ) (space : α → Option String) (leaf : Leaf τ) (child : α) :
    Prop :=
  (leafTakes (takes child) (space child) leaf).isSome = true

/-- Both an element and a wildcard among some leaves match the child. -/
def IsContested (matched : Leaf τ → α → Prop) (leaves : List (Leaf τ)) (child : α) : Prop :=
  ∃ term wildcard, .element term ∈ leaves ∧ .wildcard wildcard ∈ leaves ∧
    matched (.element term) child ∧ matched (.wildcard wildcard) child

section Steps

variable {takes : α → τ → Option δ} {space : α → Option String} {table : Array (Place τ)}

theorem mem_matchesAt {child : α} {places : List Nat} {taken : Taken δ} {next : Reach} :
    (taken, next) ∈ matchesAt (takes child) (space child) table places ↔
      ∃ index ∈ places, ∃ place, table[index]? = some place ∧
        leafTakes (takes child) (space child) place.leaf = some taken ∧ place.next = next := by
  simp only [matchesAt, List.mem_filterMap, Option.bind_eq_bind, Option.bind_eq_some_iff,
    Option.pure_def, Option.some.injEq, Prod.mk.injEq]
  constructor
  · rintro ⟨index, inside, place, found, taken, takesIt, rfl, rfl⟩
    exact ⟨index, inside, place, found, takesIt, rfl⟩
  · rintro ⟨index, inside, place, found, takesIt, rfl⟩
    exact ⟨index, inside, place, found, taken, takesIt, rfl, rfl⟩

/-- What may follow a child is what may follow behind the places that match it. -/
theorem cons_mem_language {child : α} {rest : List α} {reach : Reach} :
    child :: rest ∈ reach.language (IsMatched takes space) table ↔
      ∃ found ∈ matchesAt (takes child) (space child) table reach.places,
        rest ∈ found.2.language (IsMatched takes space) table := by
  constructor
  · rintro ⟨index, inside, place, found, matching, follows⟩
    obtain ⟨taken, takesIt⟩ := Option.isSome_iff_exists.mp matching
    exact ⟨(taken, place.next), mem_matchesAt.mpr ⟨index, inside, place, found, takesIt, rfl⟩,
      follows⟩
  · rintro ⟨⟨taken, next⟩, member, follows⟩
    obtain ⟨index, inside, place, found, takesIt, rfl⟩ := mem_matchesAt.mp member
    exact ⟨index, inside, place, found, Option.isSome_iff_exists.mpr ⟨taken, takesIt⟩, follows⟩

theorem mem_language_foldl (matched : Leaf τ → α → Prop) (others : List (Taken δ × Reach))
    (first : Reach) (word : List α) :
    word ∈ (others.foldl (fun reach other => reach.union other.2) first).language matched table ↔
      word ∈ first.language matched table ∨
        ∃ other ∈ others, word ∈ other.2.language matched table := by
  induction others generalizing first with
  | nil => simp
  | cons other others ofOthers =>
    rw [List.foldl_cons, ofOthers, Reach.language_union, Language.mem_add, List.exists_mem_cons_iff,
      or_assoc]

/-- What may follow behind some matches together is what may follow behind any of them. -/
theorem mem_language_of_combine {matched : Leaf τ → α → Prop} {found : List (Taken δ × Reach)}
    {reach : Reach} {taken : Taken δ} (combined : combine found = some (reach, taken))
    (word : List α) :
    word ∈ reach.language matched table ↔
      ∃ match_ ∈ found, word ∈ match_.2.language matched table := by
  cases found with
  | nil => cases combined
  | cons first others =>
    obtain ⟨rfl, rfl⟩ := Prod.mk.inj (Option.some.inj combined)
    rw [mem_language_foldl, List.exists_mem_cons_iff]

theorem exists_combine {found : List (Taken δ × Reach)} (nonempty : found ≠ []) :
    ∃ reach taken, combine found = some (reach, taken) := by
  cases found with
  | nil => exact absurd rfl nonempty
  | cons first others => exact ⟨_, _, rfl⟩

variable {model : ContentModel τ} {start : Reach}

theorem step_places (places : model.decision = .places table start) (child : α) (reach : Reach) :
    model.step (takes child) (space child) (.reached reach) =
      let found := matchesAt (takes child) (space child) table reach.places
      ((combine (found.filter isElement)).or (combine found)).map fun combined =>
        (.reached combined.1, combined.2) := by
  unfold step
  split
  · rename_i decided same
    obtain ⟨rfl, -⟩ := Decision.places.inj (places.symm.trans decided)
    obtain rfl := ContentState.reached.inj same
    rfl
  all_goals simp_all

theorem mayEnd_reached (places : model.decision = .places table start) (reach : Reach) :
    model.mayEnd (.reached reach) = reach.mayEnd := by
  unfold mayEnd
  split <;> simp_all

/-- What may follow behind a step may follow the child before it. -/
theorem cons_mem_of_step (places : model.decision = .places table start) {child : α}
    {reach : Reach} {next : ContentState} {taken : Taken δ}
    (steps : model.step (takes child) (space child) (.reached reach) = some (next, taken)) :
    ∃ behind, next = .reached behind ∧
      ∀ rest ∈ behind.language (IsMatched takes space) table,
        child :: rest ∈ reach.language (IsMatched takes space) table := by
  rw [step_places places, Option.map_eq_some_iff] at steps
  obtain ⟨⟨behind, by_⟩, combined, same⟩ := steps
  obtain ⟨rfl, rfl⟩ := Prod.mk.inj same
  refine ⟨behind, rfl, fun rest member => cons_mem_language.mpr ?_⟩
  rcases Option.or_eq_some_iff.mp combined with ofElements | ⟨-, ofAll⟩
  · obtain ⟨match_, inside, follows⟩ := (mem_language_of_combine ofElements rest).mp member
    exact ⟨match_, (List.mem_filter.mp inside).1, follows⟩
  · exact (mem_language_of_combine ofAll rest).mp member

/-- A child that may follow, and that is not matched by elements and wildcards at once, is taken,
and whatever may follow it may follow behind the step. -/
theorem exists_step_of_cons_mem (places : model.decision = .places table start) {child : α}
    {rest : List α} {reach : Reach}
    (uncontested : ∀ found ∈ matchesAt (takes child) (space child) table reach.places,
      ∀ other ∈ matchesAt (takes child) (space child) table reach.places,
        isElement found = isElement other)
    (member : child :: rest ∈ reach.language (IsMatched takes space) table) :
    ∃ behind taken, model.step (takes child) (space child) (.reached reach) =
        some (.reached behind, taken) ∧
      rest ∈ behind.language (IsMatched takes space) table := by
  obtain ⟨found, inside, follows⟩ := cons_mem_language.mp member
  obtain ⟨behind, taken, combined⟩ := exists_combine (List.ne_nil_of_mem inside)
  refine ⟨behind, taken, ?_, (mem_language_of_combine combined rest).mpr ⟨found, inside, follows⟩⟩
  rw [step_places places]
  cases kind : isElement found with
  | true =>
    have all : (matchesAt (takes child) (space child) table reach.places).filter isElement =
        matchesAt (takes child) (space child) table reach.places :=
      List.filter_eq_self.mpr fun other insideOther =>
        (uncontested other insideOther found inside).trans kind
    simp only [all, combined, Option.some_or, Option.map_some]
  | false =>
    have none : (matchesAt (takes child) (space child) table reach.places).filter isElement = [] :=
      List.filter_eq_nil_iff.mpr fun other insideOther => by
        rw [uncontested other insideOther found inside, kind]
        exact Bool.false_ne_true
    simp only [none, combine.eq_1, combined, Option.none_or, Option.map_some]

/-- A walk to an end goes through what may follow. -/
theorem mem_language_of_walk (places : model.decision = .places table start) {word : List α}
    {reach : Reach} {state : ContentState}
    (walks : model.walk takes space word (.reached reach) = some state)
    (ends : model.mayEnd state = true) :
    word ∈ reach.language (IsMatched takes space) table := by
  induction word generalizing reach with
  | nil =>
    obtain rfl := Option.some.inj walks
    rwa [mayEnd_reached places] at ends
  | cons child rest ofRest =>
    obtain ⟨⟨next, taken⟩, steps, walks⟩ := Option.bind_eq_some_iff.mp walks
    obtain ⟨behind, rfl, follows⟩ := cons_mem_of_step places steps
    exact follows rest (ofRest walks)

/-- Where elements and wildcards do not compete for a child, all matches are of one kind. -/
theorem isElement_eq_of_mem {leaves : List (Leaf τ)}
    (inside : ∀ (index : Nat) place, table[index]? = some place → place.leaf ∈ leaves) {child : α}
    (uncontested : ¬ IsContested (IsMatched takes space) leaves child) {places : List Nat}
    {found other : Taken δ × Reach}
    (memberFound : found ∈ matchesAt (takes child) (space child) table places)
    (memberOther : other ∈ matchesAt (takes child) (space child) table places) :
    isElement found = isElement other := by
  obtain ⟨index, -, ⟨leaf, next⟩, standing, takesFound, -⟩ := mem_matchesAt.mp memberFound
  obtain ⟨otherIndex, -, ⟨otherLeaf, otherNext⟩, standingOther, takesOther, -⟩ :=
    mem_matchesAt.mp memberOther
  have memberLeaf := inside index _ standing
  have memberOtherLeaf := inside otherIndex _ standingOther
  have matching : IsMatched takes space leaf child :=
    Option.isSome_iff_exists.mpr ⟨_, takesFound⟩
  have matchingOther : IsMatched takes space otherLeaf child :=
    Option.isSome_iff_exists.mpr ⟨_, takesOther⟩
  have kinds : ∀ {leaf : Leaf τ} {taken : Taken δ} {next : Reach},
      leafTakes (takes child) (space child) leaf = some taken →
        (isElement (taken, next) = true ↔ ∃ term, leaf = .element term) := by
    intro leaf taken next takesIt
    cases leaf with
    | element term =>
      obtain ⟨declaration, -, rfl⟩ := Option.map_eq_some_iff.mp takesIt
      exact iff_of_true rfl ⟨term, rfl⟩
    | wildcard wildcard =>
      obtain ⟨-, same⟩ := Option.ite_none_right_eq_some.mp takesIt
      obtain rfl := Option.some.inj same
      refine iff_of_false Bool.false_ne_true ?_
      rintro ⟨term, impossible⟩
      cases impossible
  rw [Bool.eq_iff_iff, kinds takesFound, kinds takesOther]
  cases leaf <;> cases otherLeaf
  case element.element term otherTerm => exact iff_of_true ⟨term, rfl⟩ ⟨otherTerm, rfl⟩
  case element.wildcard term wildcard =>
    exact absurd ⟨term, wildcard, memberLeaf, memberOtherLeaf, matching, matchingOther⟩ uncontested
  case wildcard.element wildcard term =>
    exact absurd ⟨term, wildcard, memberOtherLeaf, memberLeaf, matchingOther, matching⟩ uncontested
  case wildcard.wildcard => simp

/-- What may follow is walked to an end, unless elements and wildcards compete for a child. -/
theorem exists_walk_of_mem_language (places : model.decision = .places table start)
    {leaves : List (Leaf τ)}
    (inside : ∀ (index : Nat) place, table[index]? = some place → place.leaf ∈ leaves)
    {word : List α} {reach : Reach}
    (uncontested : ∀ child ∈ word, ¬ IsContested (IsMatched takes space) leaves child)
    (member : word ∈ reach.language (IsMatched takes space) table) :
    ∃ state, model.walk takes space word (.reached reach) = some state ∧
      model.mayEnd state = true := by
  induction word generalizing reach with
  | nil =>
    refine ⟨.reached reach, rfl, ?_⟩
    rwa [mayEnd_reached places]
  | cons child rest ofRest =>
    obtain ⟨behind, taken, steps, follows⟩ := exists_step_of_cons_mem places
      (fun found memberFound other memberOther => isElement_eq_of_mem inside
        (uncontested child List.mem_cons_self) memberFound memberOther) member
    obtain ⟨state, walks, ends⟩ := ofRest
      (fun other later => uncontested other (List.mem_cons_of_mem _ later)) follows
    refine ⟨state, ?_, ends⟩
    rw [walk, steps]
    exact walks

end Steps

/-! ### The model of a group -/

section OfGroup

variable {takes : α → τ → Option δ} {space : α → Option String}

/-- The table of places for an expression. -/
def table (expression : Expression τ) : Array (Place τ) := (expression.places 0 .ending).toArray

theorem decision_ofGroup (label : τ → String) {group : Group τ} (uncounted : ¬ group.IsCounted) :
    (ofGroup label group).decision =
      .places (table group.expression) (group.expression.before 0 .ending) := by
  unfold ofGroup
  rw [counted?_eq_none uncounted]
  rfl

theorem start_ofGroup (label : τ → String) {group : Group τ} (uncounted : ¬ group.IsCounted) :
    (ofGroup label group).start = .reached (group.expression.before 0 .ending) := by
  rw [start, decision_ofGroup label uncounted]

theorem occupies_table (expression : Expression τ) :
    Occupies (table expression) 0 (expression.places 0 .ending) := by
  intro offset place found
  rw [Nat.zero_add, table, List.getElem?_toArray, found]

theorem leaf_mem_of_table {expression : Expression τ} {index : Nat} {place : Place τ}
    (standing : (table expression)[index]? = some place) : place.leaf ∈ expression.leaves := by
  rw [table, List.getElem?_toArray] at standing
  obtain ⟨⟨leaf, next⟩, member, rfl⟩ := List.mem_map.mp (List.mem_of_getElem? standing)
  exact (List.of_mem_zip member).1

theorem language_start (matched : Leaf τ → α → Prop) {group : Group τ} (ordered : group.IsOrdered) :
    (group.expression.before 0 .ending).language matched (table group.expression) =
      group.language matched := by
  rw [Expression.language_before matched _ (occupies_table group.expression),
    Reach.language_ending, mul_one, Group.language_expression matched group ordered]

end OfGroup

end ContentModel

/-! ### Children by name -/

namespace Registry

/-- A leaf matches the children that it is for: a declaration those of its name, a global element
those of its name and the members of its substitution group, and a wildcard those of the
namespaces that it takes. -/
def Matches (registry : Registry) : Leaf ElementTerm → ExpandedName → Prop
  | .element (.declared declaration), name => name = declaration.name
  | .element (.global head), name => name = head ∨ (registry.substitute? name head).isSome = true
  | .wildcard wildcard, name => wildcard.allows name.space = true

theorem isMatched_iff (registry : Registry) (leaf : Leaf ElementTerm) (name : ExpandedName) :
    ContentModel.IsMatched registry.takes ExpandedName.space leaf name ↔
      registry.Matches leaf name := by
  unfold ContentModel.IsMatched
  match leaf with
  | .element (.declared declaration) =>
    simp only [ContentModel.leafTakes, takes, Matches, Option.isSome_map, beq_iff_eq,
      Option.isSome_ite]
    exact eq_comm
  | .element (.global head) =>
    simp only [ContentModel.leafTakes, takes, Matches, Option.isSome_map, beq_iff_eq]
    split
    · rename_i same
      exact iff_of_true rfl (Or.inl same.symm)
    · rename_i different
      exact (or_iff_right fun same => different same.symm).symm
  | .wildcard wildcard =>
    simp only [ContentModel.leafTakes, Matches, Option.isSome_ite]

theorem isMatched_eq (registry : Registry) :
    ContentModel.IsMatched registry.takes ExpandedName.space = registry.Matches := by
  funext leaf name
  exact propext (registry.isMatched_iff leaf name)

end Registry

namespace ContentModel

/-- The content model of a group that is not counted is exact: where a walk ends at an end of the
content, the group stands for the children walked, and the group's sequences are walked to an
end unless an element and a wildcard of the group compete for a child. -/
theorem walk_exact (registry : Registry) (group : Group ElementTerm)
    (uncounted : ¬ group.IsCounted) (ordered : group.IsOrdered) (word : List ExpandedName) :
    let model := ofGroup ElementTerm.label group
    let walked := model.walk registry.takes ExpandedName.space word model.start
    (∀ state, walked = some state → model.mayEnd state = true →
        word ∈ group.language registry.Matches) ∧
      (word ∈ group.language registry.Matches →
        (∀ name ∈ word, ¬ IsContested registry.Matches group.leaves name) →
        ∃ state, walked = some state ∧ model.mayEnd state = true) := by
  intro model walked
  have places := decision_ofGroup ElementTerm.label uncounted
  have language := language_start registry.Matches ordered
  rw [← registry.isMatched_eq] at language ⊢
  constructor
  · intro state walks ends
    rw [← language]
    refine mem_language_of_walk places ?_ ends
    rw [← start_ofGroup ElementTerm.label uncounted]
    exact walks
  · intro member uncontested
    rw [← language] at member
    obtain ⟨state, walks, ends⟩ := exists_walk_of_mem_language places
      (fun index place standing => group.leaves_of_expression (leaf_mem_of_table standing))
      uncontested member
    rw [← start_ofGroup ElementTerm.label uncounted] at walks
    exact ⟨state, walks, ends⟩

/-- Two or three rounds of two elements, each of which may be left out. -/
def sparsePairs : Group ElementTerm :=
  ⟨.sequence, [.element (.declared (.ofName (.unqualified "left"))) ⟨0, some 1⟩,
    .element (.declared (.ofName (.unqualified "right"))) ⟨0, some 1⟩], ⟨2, some 3⟩⟩

theorem walk_exact_sparsePairs :
    ¬ sparsePairs.IsCounted ∧ sparsePairs.IsOrdered ∧
      [.unqualified "right", .unqualified "right", .unqualified "right"] ∈
        sparsePairs.language Registry.nothing.Matches := by
  have uncounted : ¬ sparsePairs.IsCounted := fun counted => by cases counted.1
  have ordered : sparsePairs.IsOrdered := by
    simp [sparsePairs, Group.IsOrdered, Particle.AreOrdered, Particle.IsOrdered, Occurs.IsOrdered]
  let model := ofGroup ElementTerm.label sparsePairs
  have accepted : (model.walk Registry.nothing.takes ExpandedName.space
      [.unqualified "right", .unqualified "right", .unqualified "right"] model.start).any
        model.mayEnd = true := by
    cbv
  obtain ⟨state, walks, ends⟩ := (Option.any_eq_true _ _).mp accepted
  exact ⟨uncounted, ordered,
    (walk_exact Registry.nothing sparsePairs uncounted ordered _).1 state walks ends⟩

end ContentModel

end SchemaAssessment
