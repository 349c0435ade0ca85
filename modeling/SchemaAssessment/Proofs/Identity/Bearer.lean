/-
The element that carries a constraint. Its start tag opens a store that no older matcher
feeds, and a selector that has seen no tag before; so behind the start tag the store is
fed by the matchers of its constraint alone, and at the end tag it holds and has
reported what the constraint saw of the element.
-/

import SchemaAssessment.Proofs.Identity.Sightings

namespace SchemaAssessment

namespace IdentityEngine

/-! ### Engines in order -/

/-- No matcher feeds a store that is not open, nor one that was opened behind it. -/
structure IsTidy (engine : IdentityEngine) : Prop where
  fed : ∀ active ∈ engine.matchers, active.store < engine.cache.nextId
  older : ∀ context ∈ engine.contexts, context.matchers ≤ engine.matchers.length ∧
    context.stores ≤ engine.cache.nextId ∧
      ∀ active ∈ engine.matchers.take context.matchers, active.store < context.stores
  nested : engine.contexts.Pairwise fun inner outer =>
    outer.matchers ≤ inner.matchers ∧ outer.stores ≤ inner.stores

theorem isTidy_idle : idle.IsTidy where
  fed := fun _ member => by cases member
  older := fun _ member => by cases member
  nested := List.Pairwise.nil

theorem store_lt_of_mem_selectors {event : ElementStart} {base : Nat} {active : ActiveMatcher}
    (member : active ∈ event.selectors base) : active.store < base + event.stores.length := by
  obtain ⟨⟨constraint, place⟩, inside, rfl⟩ := List.mem_map.mp member
  have small := (List.mem_zipIdx inside).2.1
  rw [ElementStart.stores, List.length_map]
  show base + place < _
  omega

theorem store_lt_of_mem_startedAll {event : ElementStart} {matchers : List ActiveMatcher}
    {bound : Nat} (below : ∀ active ∈ matchers, active.store < bound) {active : ActiveMatcher}
    (member : active ∈ startedAll event matchers) : active.store < bound := by
  rcases List.mem_append.mp member with moved | brought
  · obtain ⟨before, inside, rfl⟩ := List.mem_map.mp moved
    exact below before inside
  · obtain ⟨bringer, inside, member⟩ := List.mem_flatMap.mp brought
    rw [store_of_mem_brought member]
    exact below bringer inside

theorem take_startedAll_of_le {event : ElementStart} {matchers more : List ActiveMatcher}
    {count : Nat} (within : count ≤ matchers.length) :
    (startedAll event (matchers ++ more)).take count =
      (matchers.take count).map (ActiveMatcher.started event) := by
  rw [startedAll, List.map_append, List.append_assoc,
    List.take_append_of_le_length (by rwa [List.length_map]), List.map_take]

theorem IsTidy.start {engine : IdentityEngine} (tidy : engine.IsTidy) (event : ElementStart) :
    (engine.start event).1.IsTidy := by
  obtain ⟨matchers, contexts, cache⟩ := engine.start_state event
  have next : (engine.start event).1.cache.nextId =
      engine.cache.nextId + event.stores.length := by
    rw [StoreCache.nextId, cache, (StoreCache.performAll_frame _ _).2.2, opened,
      List.length_append]
    rfl
  have length : engine.matchers.length ≤ (startedAll event (engine.watching event)).length := by
    rw [startedAll, watching]
    simp only [List.length_append, List.length_map]
    omega
  refine ⟨?_, ?_, ?_⟩
  · rw [matchers, next]
    refine fun active => store_lt_of_mem_startedAll fun active member => ?_
    rcases List.mem_append.mp member with old | new
    · exact Nat.lt_add_right _ (tidy.fed active old)
    · exact store_lt_of_mem_selectors new
  · rw [matchers, contexts, next]
    refine List.forall_mem_cons.mpr ⟨⟨length, Nat.le_add_right _ _, ?_⟩, ?_⟩
    · rw [watching, take_startedAll_of_le le_rfl, List.take_length]
      intro active member
      obtain ⟨before, inside, rfl⟩ := List.mem_map.mp member
      exact tidy.fed before inside
    · intro context member
      obtain ⟨few, old, fed⟩ := tidy.older context member
      refine ⟨few.trans length, old.trans (Nat.le_add_right _ _), ?_⟩
      rw [watching, take_startedAll_of_le few]
      intro active member
      obtain ⟨before, inside, rfl⟩ := List.mem_map.mp member
      exact fed before inside
  · rw [contexts]
    exact List.Pairwise.cons (fun context member =>
      ⟨(tidy.older context member).1, (tidy.older context member).2.1⟩) tidy.nested

theorem IsTidy.finish {engine : IdentityEngine} (tidy : engine.IsTidy) (value : Option Value)
    (shown : String) : (engine.finish value shown).1.IsTidy := by
  have performed := (engine.cache.performAll_frame
    (finishRequestsOf value shown engine.matchers)).2.2
  cases contexts : engine.contexts with
  | nil =>
    have unfolded : (engine.finish value shown).1 =
        ⟨engine.matchers.map ActiveMatcher.finished, [],
          (engine.cache.performAll
            (finishRequestsOf value shown engine.matchers)).1.endElement⟩ := by
      unfold IdentityEngine.finish
      rw [finishMatchers_eq, contexts]
      rfl
    rw [unfolded]
    refine ⟨?_, fun context member => absurd member List.not_mem_nil, List.Pairwise.nil⟩
    intro active member
    obtain ⟨before, inside, rfl⟩ := List.mem_map.mp member
    show before.store < (StoreCache.endElement _).stores.length
    rw [endElement_stores, performed]
    exact tidy.fed before inside
  | cons context outer =>
    obtain ⟨few, old, fed⟩ := tidy.older context (contexts ▸ List.mem_cons_self)
    have nested := List.pairwise_cons.mp (contexts ▸ tidy.nested)
    have next : (engine.finish value shown).1.cache.nextId = context.stores := by
      rw [finish_eq engine value shown contexts]
      show (StoreCache.endElement _).stores.length = _
      rw [endElement_stores, (closeContext_frame _ _ _).1, List.length_take, performed]
      exact Nat.min_eq_left old
    have matchers : (engine.finish value shown).1.matchers =
        (engine.matchers.take context.matchers).map ActiveMatcher.finished := by
      rw [finish_eq engine value shown contexts, List.map_take]
    have contextsBehind : (engine.finish value shown).1.contexts = outer := by
      rw [finish_eq engine value shown contexts]
    refine ⟨?_, ?_, contextsBehind ▸ nested.2⟩
    · rw [matchers, next]
      intro active member
      obtain ⟨before, inside, rfl⟩ := List.mem_map.mp member
      exact fed before inside
    · rw [matchers, next, contextsBehind, List.length_map, List.length_take,
        Nat.min_eq_left few]
      intro enclosing member
      obtain ⟨fewer, older⟩ := nested.1 enclosing member
      refine ⟨fewer, older, ?_⟩
      rw [← List.map_take, List.take_take, Nat.min_eq_left fewer]
      intro active member'
      obtain ⟨before, inside, rfl⟩ := List.mem_map.mp member'
      exact (tidy.older enclosing (contexts ▸ List.mem_cons_of_mem _ member)).2.2 before inside

theorem IsTidy.read {engine : IdentityEngine} (tidy : engine.IsTidy) (tag : AssessedTag) :
    (engine.read tag).1.IsTidy := by
  cases tag with
  | start event => exact tidy.start event
  | finish value shown => exact tidy.finish value shown

/-- Reading tags keeps an engine in order, in whatever order they come. -/
theorem IsTidy.readAll {engine : IdentityEngine} (tidy : engine.IsTidy) (tags : List AssessedTag) :
    (engine.readAll tags).1.IsTidy := by
  induction tags generalizing engine with
  | nil => exact tidy
  | cons tag rest ofRest => exact ofRest (tidy.read tag)

/-! ### The store of a constraint -/

variable {engine : IdentityEngine} {event : ElementStart} {index : Nat}
  {identity : IdentityConstraint} {compiled : CompiledIdentity}

/-- Behind the start tag of its element, a store is fed by the selector of its constraint alone. -/
theorem matchersOf_watching_own (tidy : engine.IsTidy)
    (constraint : event.constraints[index]? = some (identity, compiled)) :
    matchersOf (engine.cache.nextId + index) (engine.watching event) =
      [⟨.ofPath compiled.selector, engine.cache.nextId + index, .selector compiled.fields⟩] := by
  have others : matchersOf (engine.cache.nextId + index) engine.matchers = [] :=
    List.filter_eq_nil_iff.mpr fun active member => by
      have older := tidy.fed active member
      rw [beq_iff_eq]
      omega
  have own : matchersOf (engine.cache.nextId + index) (event.selectors engine.cache.nextId) =
      ((event.constraints.zipIdx.filter fun item => item.2 == 0 + index).map
        fun item => ⟨.ofPath item.1.2.selector, engine.cache.nextId + item.2,
          .selector item.1.2.fields⟩) := by
    rw [matchersOf, ElementStart.selectors, List.filter_map]
    refine congrArg _ (List.filter_congr fun item _ => ?_)
    rw [Bool.eq_iff_iff, Function.comp_apply, beq_iff_eq, beq_iff_eq]
    show engine.cache.nextId + item.2 = _ ↔ _
    omega
  rw [watching, matchersOf_append, others, own, filter_zipIdx, constraint, Nat.zero_add]
  rfl

/-- A constraint gets a store of its own at the start tag. -/
theorem opened_store (engine : IdentityEngine)
    (constraint : event.constraints[index]? = some (identity, compiled)) :
    (engine.opened event).stores[engine.cache.nextId + index]? =
      some (.start identity event.declarer) := by
  show (engine.cache.stores ++ event.stores)[engine.cache.stores.length + index]? = _
  rw [List.getElem?_append_right (Nat.le_add_right _ _), Nat.add_sub_cancel_left,
    ElementStart.stores, List.getElem?_map, constraint]
  rfl

/-- The stores at the end tag of an element that carries constraints, when its matchers have been
shown the tag and the references are still to be checked. -/
def closing (engine : IdentityEngine) (element : AssessedElement) : StoreCache :=
  let inner := (engine.readAll (.start element.start :: element.inside.tags)).1
  (inner.cache.performAll
    (finishRequestsOf element.value element.start.shown inner.matchers)).1

/-- At the end of its element, a store holds and has reported what its constraint saw. -/
theorem store_of_element (tidy : engine.IsTidy) {element : AssessedElement}
    (constraint : element.start.constraints[index]? = some (identity, compiled)) :
    let filled := (ValueStore.start identity element.start.declarer).performAll
      ((compiled.sightingsOf element).map Sighting.operation)
    (engine.closing element).stores[engine.cache.nextId + index]? = some filled.1 ∧
      ofStore (engine.cache.nextId + index) (engine.reportsAll element.tags) = filled.2 := by
  intro filled
  have watched := matchersOf_watching_own tidy constraint
  -- at the start tag
  have standing := engine.opened_store constraint
  obtain ⟨standingStart, reportsStart⟩ := (engine.opened element.start).performAll_store
    (engine.cache.nextId + index)
      (startRequestsOf element.start (engine.watching element.start)) standing
  rw [ofStore_startRequestsOf, watched,
    startOperations_selector element.start 0] at standingStart reportsStart
  -- inside
  obtain ⟨startMatchers, -, startCache⟩ := engine.start_state element.start
  have own : matchersOf (engine.cache.nextId + index) (engine.start element.start).1.matchers =
      watchers (engine.cache.nextId + index) compiled [] (compiled.selectedAt 0 []) := by
    rw [startMatchers, matchersOf_startedAll, watched, startedAll_selector]
  rw [← startCache] at standingStart
  obtain ⟨standingInside, reportsInside⟩ := readAll_store standingStart element.inside
  rw [own, follow_watchers 1] at standingInside reportsInside
  -- at the end tag
  have inner := isAt_readAll (engine.start element.start).1 element.inside
  obtain ⟨standingFinish, reportsFinish⟩ := StoreCache.performAll_store _ _
    (finishRequestsOf element.value element.start.shown
      ((engine.start element.start).1.readAll element.inside.tags).1.matchers) standingInside
  have finishing : finishOperations element.value element.start.shown
      (matchersOf (engine.cache.nextId + index)
        ((engine.start element.start).1.readAll element.inside.tags).1.matchers) =
          (compiled.finishSightings element.value element.start.shown (compiled.selectedAt 0 [])
            []).map Sighting.operation := by
    rw [inner.matchers, own]
    exact finishOperations_watchers element.value element.start.shown 0 [] []
  rw [ofStore_finishRequestsOf, finishing] at standingFinish reportsFinish
  have whole : filled = (ValueStore.start identity element.start.declarer).performAll _ := rfl
  rw [CompiledIdentity.sightingsOf] at whole
  simp only [List.map_append, ValueStore.performAll_append] at whole
  rw [whole]
  refine ⟨standingFinish, ?_⟩
  rw [AssessedElement.tags, reportsAll, reportsAll_append, reportsAll, reportsAll, List.append_nil,
    ofStore_append, ofStore_append]
  exact congr (congrArg _ reportsStart) (congr (congrArg _ reportsInside) reportsFinish)

end IdentityEngine

end SchemaAssessment
