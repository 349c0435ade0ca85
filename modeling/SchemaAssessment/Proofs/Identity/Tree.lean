/-
Assessed elements as a tree, and how the identity constraints read it. The end tag of an
element takes back what its start tag did to the matchers, the contexts and the tables
put aside, and drops the stores that the element opened. A store that was open before
comes out as its own matchers make it, whatever other constraints were at work inside.
-/

import SchemaAssessment.Proofs.Identity.Tags

namespace SchemaAssessment

/-! ### Assessed elements -/

/-- Assessed elements one after the other, each with its start tag, what is inside of it, and its
value, which a nil element lacks. Elements that are passed through are left out. -/
inductive Assessed where
  | nothing
  | element (start : ElementStart) (inside : Assessed) (value : Option Value) (later : Assessed)

/-- An assessed element. -/
structure AssessedElement where
  start : ElementStart
  inside : Assessed
  value : Option Value

/-- The tags of some elements in the order of the document. -/
def Assessed.tags : Assessed → List AssessedTag
  | .nothing => []
  | .element start inside value later =>
    .start start :: (inside.tags ++ .finish value start.shown :: later.tags)

/-- The tags of an element. -/
def AssessedElement.tags (element : AssessedElement) : List AssessedTag :=
  .start element.start :: (element.inside.tags ++ [.finish element.value element.start.shown])

/-! ### Reading tags -/

namespace IdentityEngine

/-- Reads a tag. -/
def read (engine : IdentityEngine) : AssessedTag → IdentityEngine × List Diagnostic
  | .start event => engine.start event
  | .finish value shown => engine.finish value shown

/-- Reads tags in turn. -/
def readAll (engine : IdentityEngine) : List AssessedTag → IdentityEngine × List Diagnostic
  | [] => (engine, [])
  | tag :: rest =>
    let first := engine.read tag
    let others := first.1.readAll rest
    (others.1, first.2 ++ others.2)

theorem readAll_append (engine : IdentityEngine) (first second : List AssessedTag) :
    engine.readAll (first ++ second) =
      (((engine.readAll first).1.readAll second).1,
        (engine.readAll first).2 ++ ((engine.readAll first).1.readAll second).2) := by
  induction first generalizing engine with
  | nil => rfl
  | cons tag rest ofRest =>
    rw [List.cons_append, readAll, ofRest, readAll]
    simp only [List.append_assoc]

/-- The stores at a start tag, when the constraints of its declaration have been opened. -/
def opened (engine : IdentityEngine) (event : ElementStart) : StoreCache :=
  { engine.cache.startElement with stores := engine.cache.stores ++ event.stores }

/-- The matchers at a start tag, when the constraints of its declaration have been opened. -/
def watching (engine : IdentityEngine) (event : ElementStart) : List ActiveMatcher :=
  engine.matchers ++ event.selectors engine.cache.nextId

/-- What the stores report at a tag, each report with the number of its store. -/
def reports (engine : IdentityEngine) : AssessedTag → List (Nat × Diagnostic)
  | .start event =>
    ((engine.opened event).performAll (startRequestsOf event (engine.watching event))).2
  | .finish value shown =>
    (engine.cache.performAll (finishRequestsOf value shown engine.matchers)).2

/-- What the stores report at some tags. -/
def reportsAll (engine : IdentityEngine) : List AssessedTag → List (Nat × Diagnostic)
  | [] => []
  | tag :: rest => engine.reports tag ++ (engine.read tag).1.reportsAll rest

theorem reportsAll_append (engine : IdentityEngine) (first second : List AssessedTag) :
    engine.reportsAll (first ++ second) =
      engine.reportsAll first ++ (engine.readAll first).1.reportsAll second := by
  induction first generalizing engine with
  | nil => rfl
  | cons tag rest ofRest =>
    rw [List.cons_append, reportsAll, ofRest, reportsAll, List.append_assoc]
    rfl

/-! ### Matchers and what was there before -/

theorem finished_started (event : ElementStart) (active : ActiveMatcher) :
    (active.started event).finished = active := rfl

theorem take_startedAll (event : ElementStart) (matchers more : List ActiveMatcher) :
    ((startedAll event (matchers ++ more)).map ActiveMatcher.finished).take matchers.length =
      matchers := by
  rw [startedAll, List.map_append, List.map_map, List.map_append, List.append_assoc,
    List.take_append_of_le_length (by simp)]
  have back : ActiveMatcher.finished ∘ ActiveMatcher.started event = id :=
    funext (finished_started event)
  rw [back, List.map_id, List.take_length]

theorem publish_stores (cache : StoreCache) (id : Nat) :
    (cache.publish id).stores = cache.stores := by
  unfold StoreCache.publish
  split <;> rfl

theorem publish_saved (cache : StoreCache) (id : Nat) : (cache.publish id).saved = cache.saved := by
  unfold StoreCache.publish
  split <;> rfl

theorem publishAll_frame (cache : StoreCache) (ids : List Nat) :
    (ids.foldl StoreCache.publish cache).stores = cache.stores ∧
      (ids.foldl StoreCache.publish cache).saved = cache.saved := by
  induction ids generalizing cache with
  | nil => exact ⟨rfl, rfl⟩
  | cons id rest ofRest =>
    obtain ⟨stores, saved⟩ := ofRest (cache.publish id)
    exact ⟨stores.trans (publish_stores cache id), saved.trans (publish_saved cache id)⟩

theorem closeContext_frame (context : IdentityContext) (shown : String) (cache : StoreCache) :
    (closeContext context shown cache).1.stores = cache.stores.take context.stores ∧
      (closeContext context shown cache).1.saved = cache.saved := by
  unfold closeContext
  obtain ⟨stores, saved⟩ := publishAll_frame cache
    (storesThat false cache ((List.range cache.nextId).drop context.stores))
  exact ⟨congrArg (List.take context.stores) stores, saved⟩

theorem endElement_stores (cache : StoreCache) : cache.endElement.stores = cache.stores := by
  unfold StoreCache.endElement
  split <;> rfl

theorem endElement_saved {cache : StoreCache} {aside : KeyTable} {outer : List KeyTable}
    (saved : cache.saved = aside :: outer) : cache.endElement.saved = outer := by
  rw [StoreCache.endElement, saved]

/-- An engine whose open elements are those of another, with as many stores. -/
structure IsAt (engine other : IdentityEngine) : Prop where
  matchers : engine.matchers = other.matchers
  contexts : engine.contexts = other.contexts
  saved : engine.cache.saved = other.cache.saved
  stores : engine.cache.stores.length = other.cache.stores.length

/-- The state behind a start tag. -/
theorem start_state (engine : IdentityEngine) (event : ElementStart) :
    (engine.start event).1.matchers = startedAll event (engine.watching event) ∧
      (engine.start event).1.contexts =
        ⟨engine.matchers.length, engine.cache.nextId⟩ :: engine.contexts ∧
      (engine.start event).1.cache =
        ((engine.opened event).performAll (startRequestsOf event (engine.watching event))).1 := by
  rw [start_eq]
  exact ⟨rfl, rfl, rfl⟩

theorem start_saved (engine : IdentityEngine) (event : ElementStart) :
    (engine.start event).1.cache.saved = engine.cache.table :: engine.cache.saved := by
  rw [(engine.start_state event).2.2]
  exact (StoreCache.performAll_frame _ _).2.1

theorem IsAt.trans {first second third : IdentityEngine} (left : first.IsAt second)
    (right : second.IsAt third) : first.IsAt third :=
  ⟨left.matchers.trans right.matchers, left.contexts.trans right.contexts,
    left.saved.trans right.saved, left.stores.trans right.stores⟩

/-- The end tag of an element leads back to where its start tag was. -/
theorem isAt_finish {engine inner : IdentityEngine} {event : ElementStart}
    (inside : inner.IsAt (engine.start event).1) (value : Option Value) (shown : String) :
    (inner.finish value shown).1.IsAt engine := by
  obtain ⟨startMatchers, startContexts, startCache⟩ := engine.start_state event
  have saved := inside.saved.trans (engine.start_saved event)
  have stores : engine.cache.stores.length ≤ inner.cache.stores.length := by
    rw [inside.stores, startCache, (StoreCache.performAll_frame _ _).2.2, opened,
      List.length_append]
    exact Nat.le_add_right _ _
  rw [finish_eq inner value shown (inside.contexts.trans startContexts)]
  obtain ⟨-, performedSaved, performedStores⟩ := inner.cache.performAll_frame
    (finishRequestsOf value shown inner.matchers)
  obtain ⟨closedStores, closedSaved⟩ := closeContext_frame
    ⟨engine.matchers.length, engine.cache.nextId⟩ shown
      (inner.cache.performAll (finishRequestsOf value shown inner.matchers)).1
  refine ⟨?_, rfl, endElement_saved (closedSaved.trans (performedSaved.trans saved)), ?_⟩
  · show (inner.matchers.map ActiveMatcher.finished).take engine.matchers.length = engine.matchers
    rw [inside.matchers, startMatchers]
    exact take_startedAll event engine.matchers _
  · show (StoreCache.endElement _).stores.length = _
    rw [endElement_stores, closedStores, List.length_take, performedStores]
    exact Nat.min_eq_left stores

/-- Whole elements lead back to where they began. -/
theorem isAt_readAll (engine : IdentityEngine) (content : Assessed) :
    (engine.readAll content.tags).1.IsAt engine := by
  induction content generalizing engine with
  | nothing => exact ⟨rfl, rfl, rfl, rfl⟩
  | element start inside value later ofInside ofLater =>
    rw [Assessed.tags, readAll, readAll_append, readAll]
    exact (ofLater _).trans (isAt_finish (ofInside (engine.start start).1) value start.shown)

/-! ### One store among others -/

/-- The matchers of a store. -/
def matchersOf (id : Nat) (matchers : List ActiveMatcher) : List ActiveMatcher :=
  matchers.filter fun active => active.store == id

theorem matchersOf_cons (id : Nat) (active : ActiveMatcher) (rest : List ActiveMatcher) :
    matchersOf id (active :: rest) =
      if active.store == id then active :: matchersOf id rest else matchersOf id rest :=
  List.filter_cons

theorem matchersOf_append (id : Nat) (first second : List ActiveMatcher) :
    matchersOf id (first ++ second) = matchersOf id first ++ matchersOf id second :=
  List.filter_append ..

/-- What the matchers of one store ask for at a start tag. -/
def startOperations (event : ElementStart) (matchers : List ActiveMatcher) :
    List StoreOperation :=
  matchers.flatMap (ActiveMatcher.startRequests event)

/-- What the matchers of one store ask for at an end tag. -/
def finishOperations (value : Option Value) (shown : String) (matchers : List ActiveMatcher) :
    List StoreOperation :=
  matchers.reverse.flatMap (ActiveMatcher.finishRequests value shown)

/-- What the matchers of one store ask for at the tags of some elements. -/
def follow (matchers : List ActiveMatcher) : Assessed → List StoreOperation
  | .nothing => []
  | .element start inside value later =>
    startOperations start matchers ++ (follow (startedAll start matchers) inside ++
      (finishOperations value start.shown (startedAll start matchers) ++ follow matchers later))

theorem ofStore_requests (id : Nat) (matchers : List ActiveMatcher)
    (requests : ActiveMatcher → List StoreOperation) :
    ofStore id (matchers.flatMap fun active => (requests active).map (Prod.mk active.store)) =
      (matchersOf id matchers).flatMap requests := by
  induction matchers with
  | nil => rfl
  | cons active rest ofRest =>
    rw [List.flatMap_cons, ofStore_append, ofRest, matchersOf_cons]
    by_cases same : active.store = id
    · rw [if_pos (beq_iff_eq.mpr same), List.flatMap_cons, same, ofStore_map_same]
    · rw [if_neg fun equal => same (beq_iff_eq.mp equal), ofStore_map_other same]
      rfl

theorem ofStore_startRequestsOf (id : Nat) (event : ElementStart) (matchers : List ActiveMatcher) :
    ofStore id (startRequestsOf event matchers) =
      startOperations event (matchersOf id matchers) :=
  ofStore_requests id matchers _

theorem ofStore_finishRequestsOf (id : Nat) (value : Option Value) (shown : String)
    (matchers : List ActiveMatcher) :
    ofStore id (finishRequestsOf value shown matchers) =
      finishOperations value shown (matchersOf id matchers) := by
  rw [finishRequestsOf, ofStore_requests, finishOperations, matchersOf, matchersOf,
    List.filter_reverse]

theorem store_of_mem_brought {event : ElementStart} {active other : ActiveMatcher}
    (member : other ∈ active.brought event) : other.store = active.store := by
  unfold ActiveMatcher.brought at member
  split at member
  · split at member
    · obtain ⟨⟨path, field⟩, -, rfl⟩ := List.mem_map.mp member
      rfl
    · cases member
  · cases member

theorem matchersOf_brought (id : Nat) (event : ElementStart) (active : ActiveMatcher) :
    matchersOf id (active.brought event) =
      if active.store == id then active.brought event else [] := by
  split
  · rename_i same
    exact List.filter_eq_self.mpr fun other member => (store_of_mem_brought member) ▸ same
  · rename_i different
    exact List.filter_eq_nil_iff.mpr fun other member => (store_of_mem_brought member) ▸ different

/-- The matchers of a store bring matchers of that store, and others do not. -/
theorem matchersOf_startedAll (id : Nat) (event : ElementStart) (matchers : List ActiveMatcher) :
    matchersOf id (startedAll event matchers) = startedAll event (matchersOf id matchers) := by
  have brought : matchersOf id (matchers.flatMap (ActiveMatcher.brought event)) =
      (matchersOf id matchers).flatMap (ActiveMatcher.brought event) := by
    induction matchers with
    | nil => rfl
    | cons active rest ofRest =>
      rw [List.flatMap_cons, matchersOf_append, ofRest, matchersOf_brought, matchersOf_cons]
      split <;> rfl
  rw [startedAll, startedAll, matchersOf_append, brought]
  exact congrArg (· ++ _) List.filter_map

theorem matchersOf_selectors {event : ElementStart} {id base : Nat} (older : id < base) :
    matchersOf id (event.selectors base) = [] := by
  refine List.filter_eq_nil_iff.mpr fun active member => ?_
  obtain ⟨⟨constraint, place⟩, -, rfl⟩ := List.mem_map.mp member
  rw [beq_iff_eq]
  show base + place ≠ id
  omega

theorem matchersOf_watching {engine : IdentityEngine} {id : Nat} {store : ValueStore}
    (standing : engine.cache.stores[id]? = some store) (event : ElementStart) :
    matchersOf id (engine.watching event) = matchersOf id engine.matchers := by
  have older : id < engine.cache.nextId := (List.getElem?_eq_some_iff.mp standing).1
  rw [watching, matchersOf_append, matchersOf_selectors older, List.append_nil]

/-- At a start tag, a store that was open before does what its own matchers ask for. -/
theorem start_store {engine : IdentityEngine} {id : Nat} {store : ValueStore}
    (standing : engine.cache.stores[id]? = some store) (event : ElementStart) :
    (engine.start event).1.cache.stores[id]? =
        some (store.performAll (startOperations event (matchersOf id engine.matchers))).1 ∧
      ofStore id (engine.reports (.start event)) =
        (store.performAll (startOperations event (matchersOf id engine.matchers))).2 := by
  have standingOpened : (engine.opened event).stores[id]? = some store := by
    rw [opened]
    show (engine.cache.stores ++ event.stores)[id]? = _
    rw [List.getElem?_append_left (List.getElem?_eq_some_iff.mp standing).1, standing]
  have performed := (engine.opened event).performAll_store id
    (startRequestsOf event (engine.watching event)) standingOpened
  rw [ofStore_startRequestsOf, matchersOf_watching standing] at performed
  rw [(engine.start_state event).2.2]
  exact performed

/-- At an end tag, a store that stays open does what its own matchers ask for. -/
theorem finish_store {engine : IdentityEngine} {id : Nat} {store : ValueStore}
    (standing : engine.cache.stores[id]? = some store) {context : IdentityContext}
    {outer : List IdentityContext} (contexts : engine.contexts = context :: outer)
    (older : id < context.stores) (value : Option Value) (shown : String) :
    (engine.finish value shown).1.cache.stores[id]? =
        some (store.performAll (finishOperations value shown (matchersOf id engine.matchers))).1 ∧
      ofStore id (engine.reports (.finish value shown)) =
        (store.performAll (finishOperations value shown (matchersOf id engine.matchers))).2 := by
  have performed := engine.cache.performAll_store id
    (finishRequestsOf value shown engine.matchers) standing
  rw [ofStore_finishRequestsOf] at performed
  rw [finish_eq engine value shown contexts]
  refine ⟨?_, performed.2⟩
  show (StoreCache.endElement _).stores[id]? = _
  rw [endElement_stores, (closeContext_frame _ _ _).1, List.getElem?_take_of_lt older]
  exact performed.1

/-- A store that was open before some elements comes out of them as its own matchers make it, and
its reports are those that its own matchers call for. -/
theorem readAll_store {engine : IdentityEngine} {id : Nat} {store : ValueStore}
    (standing : engine.cache.stores[id]? = some store) (content : Assessed) :
    (engine.readAll content.tags).1.cache.stores[id]? =
        some (store.performAll (follow (matchersOf id engine.matchers) content)).1 ∧
      ofStore id (engine.reportsAll content.tags) =
        (store.performAll (follow (matchersOf id engine.matchers) content)).2 := by
  induction content generalizing engine store with
  | nothing => exact ⟨standing, rfl⟩
  | element start inside value later ofInside ofLater =>
    have older : id < engine.cache.nextId := (List.getElem?_eq_some_iff.mp standing).1
    obtain ⟨startMatchers, startContexts, -⟩ := engine.start_state start
    have own : matchersOf id (engine.start start).1.matchers =
        startedAll start (matchersOf id engine.matchers) := by
      rw [startMatchers, matchersOf_startedAll, matchersOf_watching standing]
    -- behind the start tag, behind what is inside, and behind the end tag
    obtain ⟨standingStart, reportsStart⟩ := start_store standing start
    obtain ⟨standingInside, reportsInside⟩ := ofInside standingStart
    rw [own] at standingInside reportsInside
    have inner := isAt_readAll (engine.start start).1 inside
    obtain ⟨standingFinish, reportsFinish⟩ := finish_store standingInside
      (inner.contexts.trans startContexts) older value start.shown
    rw [inner.matchers, own] at standingFinish reportsFinish
    obtain ⟨standingLater, reportsLater⟩ := ofLater standingFinish
    rw [(isAt_finish inner value start.shown).matchers] at standingLater reportsLater
    rw [Assessed.tags, readAll, readAll_append, readAll, reportsAll, reportsAll_append, reportsAll,
      follow]
    simp only [ofStore_append, ValueStore.performAll_append]
    exact ⟨standingLater, congr (congrArg _ reportsStart) (congr (congrArg _ reportsInside)
      (congr (congrArg _ reportsFinish) reportsLater))⟩

end IdentityEngine

end SchemaAssessment
