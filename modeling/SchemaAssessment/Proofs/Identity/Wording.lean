/-
What messages show decides nothing. Identity constraints are told the name of an element as
it is written, and use it in the texts of their findings alone: shown two start tags that mean the
same, or two end tags, they come to the same state and find the same, under the same rules
and in the same order. The same holds for the identifiers of a document.
-/

import SchemaAssessment.Assessment.Identifiers
import SchemaAssessment.Identity.Engine

namespace SchemaAssessment

variable {α : Type}

/-! ### Findings and their texts -/

/-- The findings are under the same rules in the same order; their texts may differ. -/
def SameRules (found others : List Diagnostic) : Prop :=
  others.map Diagnostic.rule = found.map Diagnostic.rule

namespace SameRules

variable {found others more further : List Diagnostic}

theorem refl (found : List Diagnostic) : SameRules found found := rfl

theorem append (first : SameRules found others) (second : SameRules more further) :
    SameRules (found ++ more) (others ++ further) := by
  unfold SameRules at *
  rw [List.map_append, List.map_append, first, second]

/-- Findings for each of some items are under the same rules if those for one item are. -/
theorem flatMap {items : List α} {find findOther : α → List Diagnostic}
    (each : ∀ item ∈ items, SameRules (find item) (findOther item)) :
    SameRules (items.flatMap find) (items.flatMap findOther) := by
  induction items with
  | nil => exact .refl []
  | cons item rest ofRest =>
    obtain ⟨first, later⟩ := List.forall_mem_cons.mp each
    exact first.append (ofRest later)

/-- One finding for each of some items. -/
theorem map {rule : Rule} (items : List α) {element other : String}
    {arguments othersArguments : α → List String} :
    SameRules (items.map fun item => ⟨rule, element, arguments item⟩)
      (items.map fun item => ⟨rule, other, othersArguments item⟩) := by
  unfold SameRules
  rw [List.map_map, List.map_map]
  rfl

end SameRules

/-- Two results with what was found on the way: the same result, and the same findings up to their
texts. -/
structure SameButTexts (left right : α × List Diagnostic) : Prop where
  result : right.1 = left.1
  rules : SameRules left.2 right.2

theorem SameButTexts.refl (both : α × List Diagnostic) : SameButTexts both both := ⟨rfl, rfl⟩

/-- What is found in addition stands behind what was found before. -/
theorem SameButTexts.behind {left right : α × List Diagnostic} {found others : List Diagnostic}
    (before : SameRules found others) (same : SameButTexts left right) :
    SameButTexts (left.1, found ++ left.2) (right.1, others ++ right.2) :=
  ⟨same.result, before.append same.rules⟩

/-! ### Stores -/

namespace ValueStore

variable (store : ValueStore) (element other : String)

theorem complete_wording (tuple : Tuple) :
    SameButTexts (store.complete tuple element) (store.complete tuple other) := by
  unfold complete
  cases store.identity.kind with
  | keyRef => exact ⟨rfl, rfl⟩
  | unique | key =>
    dsimp only
    split <;> exact ⟨rfl, rfl⟩

theorem addValue_wording (field : Nat) (value : Value) :
    SameButTexts (store.addValue field value element) (store.addValue field value other) := by
  unfold addValue
  split
  · dsimp only
    split
    · exact complete_wording ..
    · exact ⟨rfl, rfl⟩
  all_goals exact ⟨rfl, rfl⟩

theorem endTuple_wording : SameRules (store.endTuple element) (store.endTuple other) := by
  unfold endTuple
  split
  · split <;> rfl
  · split
    · rfl
    · split <;> rfl

end ValueStore

namespace StoreCache

variable (cache : StoreCache) (id : Nat) (element other : String)

theorem addValue_wording (field : Nat) (value : Value) :
    SameButTexts (cache.addValue id field value element) (cache.addValue id field value other) := by
  unfold addValue
  split
  · rename_i store _
    obtain ⟨same, rules⟩ := store.addValue_wording element other field value
    dsimp only
    rw [same]
    exact ⟨rfl, rules⟩
  · exact ⟨rfl, rfl⟩

theorem endTuple_wording :
    SameRules (cache.endTuple id element) (cache.endTuple id other) := by
  unfold endTuple
  split
  · exact ValueStore.endTuple_wording ..
  · rfl

theorem checkReference_wording :
    SameRules (cache.checkReference id element) (cache.checkReference id other) := by
  unfold checkReference
  split
  · rfl
  · split
    · rfl
    · dsimp only
      split
      · rfl
      · exact .map _

end StoreCache

/-! ### Start tags -/

/-- Two start tags that mean the same. What they show of the name in messages may differ. -/
structure ElementStart.MeansTheSame (event other : ElementStart) : Prop where
  name : other.name = event.name
  attributeNames : other.attributeNames = event.attributeNames
  attributeValue : other.attributeValue? = event.attributeValue?
  declaration : other.declaration = event.declaration

namespace IdentityEngine

section Start

variable {event other : ElementStart} (same : event.MeansTheSame other)

include same

theorem addAttributes_wording (store field : Nat) (indexes : List Nat) {left right : Collected}
    (before : SameButTexts left right) :
    SameButTexts (addAttributes event store field left indexes)
      (addAttributes other store field right indexes) := by
  refine List.foldl_rel before fun index _ left right before => ?_
  dsimp only
  rw [same.attributeValue, before.result]
  split
  · exact .behind before.rules (StoreCache.addValue_wording ..)
  · exact ⟨rfl, before.rules⟩

theorem nillableField_wording (store : ValueStore) :
    SameRules (nillableField event store) (nillableField other store) := by
  unfold nillableField ElementStart.isNillable
  rw [same.declaration]
  split <;> rfl

theorem fieldSelects_wording (store field : Nat) (selection : Selection) {left right : Collected}
    (before : SameButTexts left right) :
    SameButTexts (fieldSelects event store field selection left)
      (fieldSelects other store field selection right) := by
  unfold fieldSelects
  rw [before.result]
  split
  · exact before
  · obtain ⟨result, rules⟩ :=
      addAttributes_wording same store field selection.attributes before
    refine ⟨result, ?_⟩
    dsimp only
    split
    · exact rules.append (nillableField_wording same _)
    · exact rules

/-- The matchers are the same, and the stores with what was found are the same up to texts. -/
theorem beginFields_wording (store : Nat) (fields : List (IdentityPath × Nat))
    {left right : Collected} (before : SameButTexts left right) :
    (beginFields other store fields right).1 = (beginFields event store fields left).1 ∧
      SameButTexts (beginFields event store fields left).2
        (beginFields other store fields right).2 := by
  let Related (left right : List ActiveMatcher × Collected) : Prop :=
    right.1 = left.1 ∧ SameButTexts left.2 right.2
  have begun : Related ([], left) ([], right) := ⟨rfl, before⟩
  unfold beginFields
  refine List.foldl_rel (r := Related) begun fun entry _ left right related => ?_
  dsimp only
  rw [same.name, same.attributeNames, related.1]
  exact ⟨rfl, fieldSelects_wording same _ _ _ related.2⟩

theorem startMatcher_wording (active : ActiveMatcher) {left right : Collected}
    (before : SameButTexts left right) :
    (startMatcher other active right).1 = (startMatcher event active left).1 ∧
      (startMatcher other active right).2.1 = (startMatcher event active left).2.1 ∧
        SameButTexts (startMatcher event active left).2.2
          (startMatcher other active right).2.2 := by
  unfold startMatcher
  rw [same.name, same.attributeNames]
  dsimp only
  split
  · split
    · have begun : SameButTexts (left.1.beginTuple active.store, left.2)
          (right.1.beginTuple active.store, right.2) := ⟨by rw [before.result], before.rules⟩
      exact ⟨rfl, beginFields_wording same active.store _ begun⟩
    · exact ⟨rfl, rfl, before⟩
  · exact ⟨rfl, rfl, fieldSelects_wording same _ _ _ before⟩

theorem startMatchers_wording (matchers : List ActiveMatcher) (cache : StoreCache) :
    (startMatchers other matchers cache).1 = (startMatchers event matchers cache).1 ∧
      SameButTexts (startMatchers event matchers cache).2
        (startMatchers other matchers cache).2 := by
  let Related (left right : List ActiveMatcher × List ActiveMatcher × Collected) : Prop :=
    right.1 = left.1 ∧ right.2.1 = left.2.1 ∧ SameButTexts left.2.2 right.2.2
  let shown (event : ElementStart) := matchers.foldl
    (fun begun active =>
      let started := startMatcher event active begun.2.2
      (begun.1 ++ [started.1], begun.2.1 ++ started.2.1, started.2.2))
    (([] : List ActiveMatcher), ([] : List ActiveMatcher), ((cache, []) : Collected))
  have related : Related (shown event) (shown other) := by
    refine List.foldl_rel ⟨rfl, rfl, .refl _⟩ fun active _ left right related => ?_
    obtain ⟨kept, brought, collected⟩ := related
    obtain ⟨self, more, behind⟩ := startMatcher_wording same active collected
    refine ⟨?_, ?_, behind⟩
    · show right.1 ++ [_] = left.1 ++ [_]
      rw [kept, self]
    · show right.2.1 ++ _ = left.2.1 ++ _
      rw [brought, more]
  obtain ⟨kept, brought, collected⟩ := related
  refine ⟨?_, collected⟩
  show (shown other).1 ++ (shown other).2.1 = (shown event).1 ++ (shown event).2.1
  rw [kept, brought]

/-- Start tags that mean the same lead to the same, up to the texts of findings. -/
theorem start_wording (engine : IdentityEngine) :
    SameButTexts (engine.start event) (engine.start other) := by
  unfold start
  rw [same.declaration]
  dsimp only
  split <;>
  · obtain ⟨matchers, collected⟩ := startMatchers_wording same _ _
    rw [matchers, collected.result]
    exact ⟨rfl, collected.rules⟩

end Start

/-! ### End tags -/

section Finish

variable (value : Option Value) (element other : String)

theorem finishMatcher_wording (active : ActiveMatcher) {left right : Collected}
    (before : SameButTexts left right) :
    (finishMatcher value other active right).1 = (finishMatcher value element active left).1 ∧
      SameButTexts (finishMatcher value element active left).2
        (finishMatcher value other active right).2 := by
  unfold finishMatcher
  dsimp only
  split
  · exact ⟨rfl, before⟩
  · split
    · dsimp only
      rw [before.result]
      exact ⟨rfl, .behind before.rules (StoreCache.addValue_wording ..)⟩
    · exact ⟨rfl, before⟩
    · rw [before.result]
      exact ⟨rfl, rfl, before.rules.append (StoreCache.endTuple_wording ..)⟩

theorem finishMatchers_wording (matchers : List ActiveMatcher) (cache : StoreCache) :
    (finishMatchers value other matchers cache).1 =
        (finishMatchers value element matchers cache).1 ∧
      SameButTexts (finishMatchers value element matchers cache).2
        (finishMatchers value other matchers cache).2 := by
  induction matchers with
  | nil => exact ⟨rfl, .refl _⟩
  | cons active rest ofRest =>
    obtain ⟨self, collected⟩ := finishMatcher_wording value element other active ofRest.2
    refine ⟨?_, collected⟩
    show _ :: (finishMatchers value other rest cache).1 =
      _ :: (finishMatchers value element rest cache).1
    rw [ofRest.1]
    exact congrArg (· :: _) self

theorem closeContext_wording (context : IdentityContext) (cache : StoreCache) :
    SameButTexts (closeContext context element cache) (closeContext context other cache) :=
  ⟨rfl, .flatMap fun _ _ => StoreCache.checkReference_wording ..⟩

/-- What an end tag shows of the name in messages makes no difference but in the texts of findings. -/
theorem finish_wording (engine : IdentityEngine) :
    SameButTexts (engine.finish value element) (engine.finish value other) := by
  obtain ⟨matchers, stores, rules⟩ :=
    finishMatchers_wording value element other engine.matchers engine.cache
  unfold finish
  dsimp only
  split
  · exact ⟨by rw [matchers, stores], rules⟩
  · rename_i context _ _
    obtain ⟨closed, more⟩ := closeContext_wording element other context
      (finishMatchers value element engine.matchers engine.cache).2.1
    rw [stores, matchers, closed]
    exact ⟨rfl, rules.append more⟩

end Finish

end IdentityEngine

/-! ### Identifiers -/

namespace Identifiers

variable (element other : String)

theorem declareAll_wording (identifiers : Identifiers) (declared : List String) :
    SameButTexts (identifiers.declareAll element declared)
      (identifiers.declareAll other declared) := by
  induction declared generalizing identifiers with
  | nil => exact .refl _
  | cons identifier rest ofRest =>
    obtain ⟨after, rules⟩ := ofRest (identifiers.declare identifier)
    rw [declareAll, declareAll]
    dsimp only
    split
    · exact ⟨after, congrArg (_ :: ·) rules⟩
    · exact ⟨after, rules⟩

theorem take_wording (identifiers : Identifiers) (value : Value) (kind : IdKind) :
    SameButTexts (identifiers.take element value kind) (identifiers.take other value kind) := by
  cases kind with
  | declares => exact declareAll_wording ..
  | none | refers => exact ⟨rfl, rfl⟩

end Identifiers

end SchemaAssessment
