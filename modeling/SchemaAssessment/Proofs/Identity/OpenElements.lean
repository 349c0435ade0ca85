/-
What the engine of identity constraints holds for the open elements. Their start tags
alone decide which matchers are at work, which contexts are open, how many tables are
put aside, and which constraints the stores are for; the end tag of an element takes
back what its start tag brought. So every matcher feeds a store that is there, it has
been shown the start tags from its context element inward and no others, and no store
is given a value for a field that its constraint does not have.
-/

import SchemaAssessment.Proofs.Identity.Reports
import SchemaAssessment.Proofs.Identity.Tuples

namespace SchemaAssessment

/-! ### What open elements bring -/

/-- The constraints that some open elements carry, those of the outermost one first. The elements
are known by their start tags, the innermost one first. -/
def carried : List ElementStart → List (IdentityConstraint × CompiledIdentity)
  | [] => []
  | event :: outer => carried outer ++ event.constraints

/-- The matchers at work inside of some open elements. -/
def matchersWithin : List ElementStart → List ActiveMatcher
  | [] => []
  | event :: outer =>
    startedAll event (matchersWithin outer ++ event.selectors (carried outer).length)

/-- The contexts of some open elements. -/
def contextsWithin : List ElementStart → List IdentityContext
  | [] => []
  | _ :: outer => ⟨(matchersWithin outer).length, (carried outer).length⟩ :: contextsWithin outer

namespace IdentityEngine

/-- The engine holds what some open elements have brought, and nothing else; but the table at hand
may be any. -/
structure Follows (engine : IdentityEngine) (opened : List ElementStart) : Prop where
  matchers : engine.matchers = matchersWithin opened
  contexts : engine.contexts = contextsWithin opened
  saved : engine.cache.saved.length = opened.length
  identities : engine.cache.stores.map ValueStore.identity = (carried opened).map Prod.fst

/-- Nothing is at work: there are no matchers, no contexts, no stores and no tables put aside. -/
structure IsIdle (engine : IdentityEngine) : Prop where
  matchers : engine.matchers = []
  contexts : engine.contexts = []
  stores : engine.cache.stores = []
  saved : engine.cache.saved = []

theorem follows_idle : idle.Follows [] := ⟨rfl, rfl, rfl, rfl⟩

namespace Follows

variable {engine : IdentityEngine} {event : ElementStart} {opened outer : List ElementStart}

theorem isIdle (follows : engine.Follows []) : engine.IsIdle :=
  ⟨follows.matchers, follows.contexts, List.map_eq_nil_iff.mp follows.identities,
    List.length_eq_zero_iff.mp follows.saved⟩

theorem nextId (follows : engine.Follows opened) :
    engine.cache.nextId = (carried opened).length := by
  have counted := congrArg List.length follows.identities
  rwa [List.length_map, List.length_map] at counted

theorem depth (follows : engine.Follows opened) : engine.depth = opened.length := by
  rw [IdentityEngine.depth, follows.contexts]
  clear follows
  induction opened with
  | nil => rfl
  | cons event outer ofOuter => exact congrArg (· + 1) ofOuter

theorem watching (follows : engine.Follows opened) (event : ElementStart) :
    engine.watching event = matchersWithin opened ++ event.selectors (carried opened).length := by
  rw [IdentityEngine.watching, follows.matchers, follows.nextId]

theorem opened_identities (follows : engine.Follows opened) (event : ElementStart) :
    (engine.opened event).stores.map ValueStore.identity =
      (carried (event :: opened)).map Prod.fst := by
  show (engine.cache.stores ++ event.stores).map ValueStore.identity = _
  rw [List.map_append, follows.identities, carried, List.map_append, ElementStart.stores,
    List.map_map]
  rfl

/-- A start tag brings what its element brings. -/
theorem start (follows : engine.Follows opened) (event : ElementStart) :
    (engine.start event).1.Follows (event :: opened) := by
  obtain ⟨matchers, contexts, cache⟩ := engine.start_state event
  refine ⟨?_, ?_, ?_, ?_⟩
  · rw [matchers, follows.watching]
    rfl
  · rw [contexts, follows.matchers, follows.nextId, follows.contexts]
    rfl
  · rw [engine.start_saved, List.length_cons, List.length_cons, follows.saved]
  · rw [cache, StoreCache.performAll_identities, follows.opened_identities]

/-- The end tag of the innermost element takes back what that has brought. -/
theorem finish (follows : engine.Follows (event :: outer)) (value : Option Value)
    (shown : String) : (engine.finish value shown).1.Follows outer := by
  rw [finish_eq engine value shown follows.contexts]
  let performed := engine.cache.performAll (finishRequestsOf value shown engine.matchers)
  have kept : performed.1.saved = engine.cache.saved := (engine.cache.performAll_frame _).2.1
  obtain ⟨stores, saved⟩ := closeContext_frame
    ⟨(matchersWithin outer).length, (carried outer).length⟩ shown performed.1
  refine ⟨?_, rfl, ?_, ?_⟩
  · show (engine.matchers.map ActiveMatcher.finished).take (matchersWithin outer).length = _
    rw [follows.matchers]
    exact take_startedAll event (matchersWithin outer) _
  · obtain ⟨aside, further, tables⟩ := List.exists_cons_of_length_eq_add_one follows.saved
    rw [endElement_saved (saved.trans (kept.trans tables))]
    have counted := follows.saved
    rw [tables] at counted
    exact Nat.succ.inj counted
  · show (StoreCache.endElement _).stores.map ValueStore.identity = _
    have counted : (carried outer).length = ((carried outer).map Prod.fst).length :=
      (List.length_map _).symm
    rw [endElement_stores, stores, List.map_take, StoreCache.performAll_identities,
      follows.identities, carried, List.map_append, counted, List.take_left]

/-- An end tag without an element to end finds nothing to take back. -/
theorem finish_nothing (follows : engine.Follows []) (value : Option Value) (shown : String) :
    (engine.finish value shown).1.Follows [] := by
  obtain ⟨matchers, contexts, stores, saved⟩ := follows.isIdle
  have same : (engine.finish value shown).1 = engine := by
    unfold IdentityEngine.finish
    rw [finishMatchers_eq, contexts, matchers]
    show (⟨[], [], engine.cache.endElement⟩ : IdentityEngine) = engine
    rw [StoreCache.endElement, saved, ← matchers, ← contexts]
  rw [same]
  exact follows

end Follows

end IdentityEngine

/-- The open elements behind a tag. -/
def AssessedTag.behind (opened : List ElementStart) : AssessedTag → List ElementStart
  | .start event => event :: opened
  | .finish _ _ => opened.tail

theorem IdentityEngine.Follows.read {engine : IdentityEngine} {opened : List ElementStart}
    (follows : engine.Follows opened) (tag : AssessedTag) :
    (engine.read tag).1.Follows (tag.behind opened) := by
  cases tag with
  | start event => exact follows.start event
  | finish value shown =>
    cases opened with
    | nil => exact follows.finish_nothing value shown
    | cons event outer => exact follows.finish value shown

/-! ### What a matcher has been shown -/

/-- The matcher of a path behind some start tags. -/
def Matcher.behind (path : IdentityPath) (seen : List ElementStart) : Matcher :=
  seen.foldl (fun matcher event => (matcher.start event.name event.attributeNames).1)
    (.ofPath path)

theorem Matcher.behind_append (path : IdentityPath) (seen : List ElementStart)
    (event : ElementStart) :
    behind path (seen ++ [event]) =
      ((behind path seen).start event.name event.attributeNames).1 := by
  rw [behind, List.foldl_append]
  rfl

/-- Of the start tags behind that of the context element the names count. -/
theorem Matcher.behind_cons (path : IdentityPath) (context : ElementStart)
    (seen : List ElementStart) :
    behind path (context :: seen) = after path (seen.map ElementStart.name) := by
  induction seen using List.reverseRecOn with
  | nil =>
    show ((ofPath path).start context.name context.attributeNames).1 = after path []
    rw [start_ofPath]
  | append_singleton seen event ofSeen =>
    rw [← List.cons_append, behind_append, ofSeen, start_after, List.map_append]
    rfl

/-- An element has opened a store for one of its constraints, inside of some other elements. -/
def ElementStart.Opens (bearer : ElementStart) (outer : List ElementStart) (store : Nat)
    (constraint : IdentityConstraint × CompiledIdentity) : Prop :=
  ∃ index, bearer.constraints[index]? = some constraint ∧ store = (carried outer).length + index

/-- Among the constraints that open elements carry, that of a store has its number. -/
theorem ElementStart.Opens.carried {bearer : ElementStart} {outer : List ElementStart}
    {store : Nat} {constraint : IdentityConstraint × CompiledIdentity}
    (opens : bearer.Opens outer store constraint) (inner : List ElementStart) :
    (carried (inner ++ bearer :: outer))[store]? = some constraint := by
  obtain ⟨index, standing, rfl⟩ := opens
  induction inner with
  | nil =>
    show (SchemaAssessment.carried outer ++ bearer.constraints)[_]? = _
    rw [List.getElem?_append_right (Nat.le_add_right _ _), Nat.add_sub_cancel_left, standing]
  | cons event inner ofInner =>
    rw [List.cons_append, SchemaAssessment.carried,
      List.getElem?_append_left (List.getElem?_eq_some_iff.mp ofInner).1, ofInner]

namespace ActiveMatcher

/-- A matcher inside of some open elements feeds the store of a constraint that one of them carries,
and has been shown the start tags from its context element inward. That of a selector has the
element that carries the constraint as its context, and that of a field an element which the
selector has selected. -/
def Watches (active : ActiveMatcher) (opened : List ElementStart) : Prop :=
  match active.role with
  | .selector fields => ∃ inner bearer outer constraint, opened = inner ++ bearer :: outer ∧
      bearer.Opens outer active.store constraint ∧ fields = constraint.2.fields ∧
        active.matcher = .behind constraint.2.selector (bearer :: inner.reverse)
  | .field field => ∃ inner context around, opened = inner ++ context :: around ∧
      ∃ between bearer outer constraint path, context :: around = between ++ bearer :: outer ∧
        bearer.Opens outer active.store constraint ∧
          constraint.2.selector.selects (between.reverse.map ElementStart.name) = true ∧
            constraint.2.fields[field]? = some path ∧
              active.matcher = .behind path (context :: inner.reverse)

section watches

variable {active other : ActiveMatcher} {event : ElementStart} {opened : List ElementStart}

/-- A matcher that is shown a further start tag. -/
theorem Watches.started (watches : active.Watches opened) (event : ElementStart) :
    (active.started event).Watches (event :: opened) := by
  obtain ⟨matcher, store, role⟩ := active
  cases role with
  | selector fields =>
    obtain ⟨inner, bearer, outer, constraint, rfl, opens, same, rfl⟩ := watches
    refine ⟨event :: inner, bearer, outer, constraint, rfl, opens, same, ?_⟩
    rw [List.reverse_cons, ← List.cons_append, Matcher.behind_append]
    rfl
  | field field =>
    obtain ⟨inner, context, around, rfl, between, bearer, outer, constraint, path, split, opens,
      selected, standing, rfl⟩ := watches
    refine ⟨event :: inner, context, around, rfl, between, bearer, outer, constraint, path, split,
      opens, selected, standing, ?_⟩
    rw [List.reverse_cons, ← List.cons_append, Matcher.behind_append]
    rfl

/-- A selector that is opened at a start tag and is shown that. -/
theorem watches_of_selector (member : active ∈ event.selectors (carried opened).length) :
    (active.started event).Watches (event :: opened) := by
  obtain ⟨⟨constraint, place⟩, inside, rfl⟩ := List.mem_map.mp member
  exact ⟨[], event, opened, constraint, rfl,
    ⟨place, List.mem_zipIdx_iff_getElem?.mp inside, rfl⟩, rfl, rfl⟩

/-- The matcher of a field that begins at a start tag: its selector has just selected the element
there. -/
theorem Watches.brought (watches : (active.started event).Watches (event :: opened))
    (member : other ∈ active.brought event) : other.Watches (event :: opened) := by
  obtain ⟨matcher, store, role⟩ := active
  cases role with
  | field field => cases member
  | selector fields =>
    obtain ⟨inner, bearer, outer, constraint, split, opens, rfl, shown⟩ := watches
    unfold ActiveMatcher.brought at member
    dsimp only at member
    split at member
    · rename_i selected
      obtain ⟨⟨path, field⟩, standing, rfl⟩ := List.mem_map.mp member
      refine ⟨[], event, opened, rfl, inner, bearer, outer, constraint, path, split, opens, ?_,
        List.mem_zipIdx_iff_getElem?.mp standing, rfl⟩
      -- what the selector answered at the start tag it keeps for the end tag
      have answered : (Matcher.behind constraint.2.selector (bearer :: inner.reverse)).finish.2 =
          true := by
        rw [← shown]
        exact selected
      rwa [Matcher.behind_cons, finish_selected] at answered
    · cases member

theorem watches_of_watching
    (member : active ∈ matchersWithin opened ++ event.selectors (carried opened).length)
    (within : ∀ active ∈ matchersWithin opened, active.Watches opened) :
    (active.started event).Watches (event :: opened) := by
  rcases List.mem_append.mp member with earlier | here
  · exact (within active earlier).started event
  · exact watches_of_selector here

/-- All matchers at work inside of some open elements. -/
theorem watches_of_mem (opened : List ElementStart) :
    ∀ active ∈ matchersWithin opened, active.Watches opened := by
  induction opened with
  | nil => exact fun active member => absurd member List.not_mem_nil
  | cons event outer ofOuter =>
    intro active member
    rcases List.mem_append.mp member with moved | brought
    · obtain ⟨before, inside, rfl⟩ := List.mem_map.mp moved
      exact watches_of_watching inside ofOuter
    · obtain ⟨bringer, inside, member⟩ := List.mem_flatMap.mp brought
      exact (watches_of_watching inside ofOuter).brought member

/-! ### Fields -/

/-- The fields that a matcher may give values to have lower numbers. -/
def reach (active : ActiveMatcher) : Nat :=
  match active.role with
  | .selector fields => fields.length
  | .field field => field + 1

/-- The constraint of the store that a matcher feeds has all the fields that the matcher may give
values to. -/
theorem Watches.constraint (watches : active.Watches opened) :
    ∃ constraint, (carried opened)[active.store]? = some constraint ∧
      active.reach ≤ constraint.1.fields.length := by
  obtain ⟨matcher, store, role⟩ := active
  have complete {bearer : ElementStart} {outer : List ElementStart}
      {constraint : IdentityConstraint × CompiledIdentity}
      (opens : bearer.Opens outer store constraint) :
      constraint.1.fields.length = constraint.2.fields.length := by
    obtain ⟨index, standing, -⟩ := opens
    exact (IdentityConstraint.fields_of_compile (bearer.compile_of_constraint standing)).1
  cases role with
  | selector fields =>
    obtain ⟨inner, bearer, outer, constraint, rfl, opens, rfl, -⟩ := watches
    exact ⟨constraint, opens.carried inner, (complete opens).ge⟩
  | field field =>
    obtain ⟨inner, context, around, rfl, between, bearer, outer, constraint, path, split, opens, -,
      standing, -⟩ := watches
    refine ⟨constraint, ?_, ?_⟩
    · rw [split, ← List.append_assoc]
      exact opens.carried (inner ++ between)
    · rw [complete opens]
      exact (List.getElem?_eq_some_iff.mp standing).1

theorem give_of_fieldRequests {field other : Nat} {selection : Selection} {value : Value}
    {shown : String}
    (member : StoreOperation.give other value shown ∈ event.fieldRequests field selection) :
    other = field := by
  rcases List.mem_append.mp member with given | noted
  · obtain ⟨index, -, made⟩ := List.mem_filterMap.mp given
    obtain ⟨found, -, same⟩ := Option.map_eq_some_iff.mp made
    cases same
    rfl
  · split at noted
    · cases List.mem_singleton.mp noted
    · cases noted

/-- At a start tag a matcher gives values to no other fields. -/
theorem give_of_startRequests {field : Nat} {value : Value} {shown : String}
    (member : StoreOperation.give field value shown ∈ active.startRequests event) :
    field < active.reach := by
  obtain ⟨matcher, store, role⟩ := active
  cases role with
  | selector fields =>
    unfold startRequests at member
    dsimp only at member
    split at member
    · rcases List.mem_cons.mp member with begun | own
      · cases begun
      · obtain ⟨⟨path, place⟩, item, requested⟩ := List.mem_flatMap.mp own
        rw [give_of_fieldRequests requested]
        exact List.snd_lt_of_mem_zipIdx item
    · cases member
  | field own =>
    rw [give_of_fieldRequests member]
    exact Nat.lt_succ_self own

/-- At an end tag a matcher gives values to no other fields. -/
theorem give_of_finishRequests {field : Nat} {given : Option Value} {value : Value}
    {element shown : String}
    (member : StoreOperation.give field value shown ∈ active.finishRequests given element) :
    field < active.reach := by
  obtain ⟨matcher, store, role⟩ := active
  unfold finishRequests at member
  split at member
  · cases role with
    | selector fields => cases List.mem_singleton.mp member
    | field own =>
      obtain ⟨found, -, same⟩ := Option.map_eq_some_iff.mp (Option.mem_toList.mp member)
      cases same
      exact Nat.lt_succ_self field
  · cases member

/-- What a matcher asks for fits the constraint of its store. -/
theorem Watches.fits (watches : active.Watches opened) {operation : StoreOperation}
    (reaches : ∀ field value shown, operation = .give field value shown → field < active.reach)
    {identity : IdentityConstraint}
    (standing : ((carried opened).map Prod.fst)[active.store]? = some identity) :
    operation.Fits identity := by
  obtain ⟨constraint, here, within⟩ := watches.constraint
  rw [List.getElem?_map, here] at standing
  obtain rfl := Option.some.inj standing
  exact fun field value shown same => (reaches field value shown same).trans_le within

end watches

end ActiveMatcher

/-! ### What is found -/

namespace IdentityEngine

/-- The stores report about fields that their constraints have. -/
theorem Follows.reports {engine : IdentityEngine} {opened : List ElementStart}
    (follows : engine.Follows opened) (tag : AssessedTag) :
    Under Rule.ofFields ((engine.reports tag).map Prod.snd) := by
  have watched := ActiveMatcher.watches_of_mem opened
  cases tag with
  | start event =>
    refine StoreCache.performAll_told _ fun request member store standing => store.perform_fits ?_
    rw [follows.watching] at member
    rw [follows.opened_identities] at standing
    obtain ⟨active, inside, requested⟩ := List.mem_flatMap.mp member
    obtain ⟨operation, asked, rfl⟩ := List.mem_map.mp requested
    refine (ActiveMatcher.watches_of_watching inside watched).fits
      (fun field value shown same => ?_) standing
    obtain rfl : operation = _ := same
    have within : field < active.reach := ActiveMatcher.give_of_startRequests asked
    exact within
  | finish value shown =>
    refine StoreCache.performAll_told _ fun request member store standing => store.perform_fits ?_
    rw [follows.identities] at standing
    rw [follows.matchers] at member
    obtain ⟨active, inside, requested⟩ := List.mem_flatMap.mp member
    obtain ⟨operation, asked, rfl⟩ := List.mem_map.mp requested
    refine (watched active (List.mem_reverse.mp inside)).fits
      (fun field value shown same => ?_) standing
    obtain rfl : operation = _ := same
    exact ActiveMatcher.give_of_finishRequests asked

theorem Follows.found {engine : IdentityEngine} {opened : List ElementStart}
    (follows : engine.Follows opened) (tag : AssessedTag) :
    Under (Rule.ofFields ++ Rule.ofReferences) (engine.read tag).2 := by
  rw [read_found]
  refine .append ((follows.reports tag).mono (by decide)) ?_
  split
  · exact (closeContext_under ..).mono (by decide)
  · exact .nil _

/-- Whatever tags are read, the engine holds what the open elements have brought. -/
theorem Follows.readAll {engine : IdentityEngine} {opened : List ElementStart}
    (follows : engine.Follows opened) (tags : List AssessedTag) :
    (engine.readAll tags).1.Follows (tags.foldl AssessedTag.behind opened) ∧
      Under (Rule.ofFields ++ Rule.ofReferences) (engine.readAll tags).2 := by
  induction tags generalizing engine opened with
  | nil => exact ⟨follows, .nil _⟩
  | cons tag rest ofRest =>
    obtain ⟨behind, found⟩ := ofRest (follows.read tag)
    exact ⟨behind, (follows.found tag).append found⟩

/-- Every matcher of an engine feeds a store that is there. -/
theorem Follows.store {engine : IdentityEngine} {opened : List ElementStart}
    (follows : engine.Follows opened) {active : ActiveMatcher}
    (member : active ∈ engine.matchers) :
    active.Watches opened ∧ ∃ store, engine.cache.stores[active.store]? = some store := by
  rw [follows.matchers] at member
  have watches := ActiveMatcher.watches_of_mem opened active member
  obtain ⟨constraint, standing, -⟩ := watches.constraint
  have inside := (List.getElem?_eq_some_iff.mp standing).1
  rw [← follows.nextId] at inside
  exact ⟨watches, _, List.getElem?_eq_getElem inside⟩

end IdentityEngine

end SchemaAssessment
