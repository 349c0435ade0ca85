/-
Tags as the identity constraints read them. A start tag opens stores and selectors for
the constraints that its declaration carries; then all matchers move on, some bring
matchers for their fields, and what they ask for is performed in their order. An end
tag is shown to the matchers in the reverse order, before the context is closed.
-/

import SchemaAssessment.Proofs.Identity.Operations

namespace SchemaAssessment

/-- A tag as the identity constraints read it. -/
inductive AssessedTag where
  | start (event : ElementStart)
  | finish (value : Option Value) (shown : String)

/-! ### Constraints of a declaration -/

/-- A constraint with its paths, if they are well formed. -/
def IdentityConstraint.compiled? (identity : IdentityConstraint) :
    Option (IdentityConstraint × CompiledIdentity) :=
  match identity.compile with
  | .ok compiled => some (identity, compiled)
  | .error _ => none

namespace ElementStart

/-- The constraints that are opened at a start tag, with their paths: the well-formed ones of the
declaration, those that are referred to before those that refer. -/
def constraints (event : ElementStart) : List (IdentityConstraint × CompiledIdentity) :=
  match event.declaration with
  | some declaration =>
    (IdentityEngine.ordered declaration).filterMap IdentityConstraint.compiled?
  | none => []

/-- The local name of the element that declares the constraints. -/
def declarer (event : ElementStart) : String :=
  (event.declaration.map fun declaration => declaration.name.localName).getD ""

/-- The stores that are opened at a start tag. -/
def stores (event : ElementStart) : List ValueStore :=
  event.constraints.map fun constraint => .start constraint.1 event.declarer

/-- The selectors that are opened at a start tag, when the next store has the given number. -/
def selectors (event : ElementStart) (base : Nat) : List ActiveMatcher :=
  event.constraints.zipIdx.map fun (constraint, place) =>
    ⟨.ofPath constraint.2.selector, base + place, .selector constraint.2.fields⟩

/-- What a field asks for where it selects attributes: to take their values in turn. -/
def attributeRequests (event : ElementStart) (field : Nat) (indexes : List Nat) :
    List StoreOperation :=
  indexes.filterMap fun index =>
    (event.attributeValue? index).map fun value => .give field value event.shown

/-- What a field asks for where it makes a selection. -/
def fieldRequests (event : ElementStart) (field : Nat) (selection : Selection) :
    List StoreOperation :=
  event.attributeRequests field selection.attributes ++
    if selection.element && event.isNillable then [.noteNillable event.shown] else []

/-- What the fields of an element ask for at its own start tag, when it is selected. -/
def ownRequests (event : ElementStart) (fields : List (IdentityPath × Nat)) :
    List StoreOperation :=
  fields.flatMap fun (path, field) =>
    event.fieldRequests field ((Matcher.ofPath path).start event.name event.attributeNames).2

end ElementStart

/-! ### Matchers -/

namespace ActiveMatcher

/-- What a matcher selects at a start tag. -/
def selectionAt (event : ElementStart) (active : ActiveMatcher) : Selection :=
  (active.matcher.start event.name event.attributeNames).2

/-- A matcher behind a start tag. -/
def started (event : ElementStart) (active : ActiveMatcher) : ActiveMatcher :=
  { active with matcher := (active.matcher.start event.name event.attributeNames).1 }

/-- A matcher behind an end tag. -/
def finished (active : ActiveMatcher) : ActiveMatcher :=
  { active with matcher := active.matcher.finish.1 }

/-- The matcher of a field behind the start tag of the element that was just selected. -/
def ofField (event : ElementStart) (store : Nat) (path : IdentityPath) (field : Nat) :
    ActiveMatcher :=
  started event ⟨.ofPath path, store, .field field⟩

/-- The matchers of fields that a matcher brings at a start tag. -/
def brought (event : ElementStart) (active : ActiveMatcher) : List ActiveMatcher :=
  match active.role with
  | .selector fields =>
    if (active.selectionAt event).element then
      fields.zipIdx.map fun (path, field) => ofField event active.store path field
    else []
  | .field _ => []

/-- What a matcher asks for at a start tag. -/
def startRequests (event : ElementStart) (active : ActiveMatcher) : List StoreOperation :=
  match active.role with
  | .selector fields =>
    if (active.selectionAt event).element then
      .beginTuple :: event.ownRequests fields.zipIdx
    else []
  | .field field => event.fieldRequests field (active.selectionAt event)

/-- What a matcher asks for at an end tag. -/
def finishRequests (value : Option Value) (shown : String) (active : ActiveMatcher) :
    List StoreOperation :=
  if active.matcher.finish.2 then
    match active.role with
    | .selector _ => [.endTuple shown]
    | .field field => (value.map fun value => .give field value shown).toList
  else []

end ActiveMatcher

/-- Some matchers behind a start tag, with those that they bring. -/
def startedAll (event : ElementStart) (matchers : List ActiveMatcher) : List ActiveMatcher :=
  matchers.map (ActiveMatcher.started event) ++ matchers.flatMap (ActiveMatcher.brought event)

/-- What some matchers ask for at a start tag, each of its store. -/
def startRequestsOf (event : ElementStart) (matchers : List ActiveMatcher) :
    List (Nat × StoreOperation) :=
  matchers.flatMap fun active => (active.startRequests event).map (Prod.mk active.store)

/-- What some matchers ask for at an end tag, each of its store. The latest matcher comes first. -/
def finishRequestsOf (value : Option Value) (shown : String) (matchers : List ActiveMatcher) :
    List (Nat × StoreOperation) :=
  matchers.reverse.flatMap fun active =>
    (active.finishRequests value shown).map (Prod.mk active.store)

/-! ### Performing what is asked for -/

namespace IdentityEngine

/-- Performs what is asked for and adds what is reported. -/
def perform (collected : Collected) (requests : List (Nat × StoreOperation)) : Collected :=
  ((collected.1.performAll requests).1,
    collected.2 ++ (collected.1.performAll requests).2.map Prod.snd)

theorem perform_nil (collected : Collected) : perform collected [] = collected := by
  rw [perform, StoreCache.performAll, List.map_nil, List.append_nil]

theorem perform_cons (collected : Collected) (id : Nat) (operation : StoreOperation)
    (rest : List (Nat × StoreOperation)) :
    perform collected ((id, operation) :: rest) =
      perform ((collected.1.perform id operation).1,
        collected.2 ++ (collected.1.perform id operation).2.map Prod.snd) rest := by
  simp only [perform, StoreCache.performAll, List.map_append, List.append_assoc]

theorem perform_append (collected : Collected) (first second : List (Nat × StoreOperation)) :
    perform collected (first ++ second) = perform (perform collected first) second := by
  simp only [perform, StoreCache.performAll_append, List.map_append, List.append_assoc]

/-! ### Start tags -/

theorem addAttributes_eq (event : ElementStart) (store field : Nat) (collected : Collected)
    (indexes : List Nat) :
    addAttributes event store field collected indexes =
      perform collected ((event.attributeRequests field indexes).map (Prod.mk store)) := by
  induction indexes generalizing collected with
  | nil => exact (perform_nil collected).symm
  | cons index rest ofRest =>
    rw [addAttributes, List.foldl_cons]
    show addAttributes event store field _ rest = _
    rw [ofRest]
    unfold ElementStart.attributeRequests
    rw [List.filterMap_cons]
    cases event.attributeValue? index with
    | none => rfl
    | some value =>
      simp only [Option.map_some, List.map_cons, perform_cons, StoreCache.addValue_eq]

theorem fieldSelects_eq (event : ElementStart) (store field : Nat) (selection : Selection)
    (collected : Collected) :
    fieldSelects event store field selection collected =
      perform collected ((event.fieldRequests field selection).map (Prod.mk store)) := by
  unfold fieldSelects
  cases standing : collected.1.stores[store]? with
  | none =>
    rw [perform, StoreCache.performAll_of_none standing, List.map_nil, List.append_nil]
  | some values =>
    have given := (collected.1.performAll_store store
      ((event.attributeRequests field selection.attributes).map (Prod.mk store)) standing).1
    rw [ofStore_map_same] at given
    obtain ⟨identity, element⟩ :=
      values.performAll_constant (event.attributeRequests field selection.attributes)
    obtain ⟨same, reports⟩ := StoreCache.noteNillable_eq given event.shown
    rw [identity, element] at reports
    dsimp only
    rw [addAttributes_eq, ElementStart.fieldRequests, List.map_append, perform_append,
      nillableField]
    cases selection.element with
    | false => exact (perform_nil _).symm
    | true =>
      cases event.isNillable with
      | false =>
        rw [Bool.and_false, if_neg Bool.false_ne_true, if_pos rfl, List.append_nil]
        exact (perform_nil _).symm
      | true =>
        rw [Bool.and_true, Bool.and_self, if_pos rfl, if_pos rfl, List.map_singleton, perform_cons,
          perform_nil]
        exact Prod.ext same.symm (congrArg (_ ++ ·) reports.symm)

theorem beginFields_eq (event : ElementStart) (store : Nat) (fields : List (IdentityPath × Nat))
    (collected : Collected) :
    beginFields event store fields collected =
      (fields.map fun item => ActiveMatcher.ofField event store item.1 item.2,
        perform collected ((event.ownRequests fields).map (Prod.mk store))) := by
  have general (matchers : List ActiveMatcher) :
      fields.foldl (fun found item =>
        let moved := (Matcher.ofPath item.1).start event.name event.attributeNames
        (found.1 ++ [⟨moved.1, store, .field item.2⟩],
          fieldSelects event store item.2 moved.2 found.2)) (matchers, collected) =
        (matchers ++ fields.map fun item => ActiveMatcher.ofField event store item.1 item.2,
          perform collected ((event.ownRequests fields).map (Prod.mk store))) := by
    induction fields generalizing matchers collected with
    | nil =>
      rw [ElementStart.ownRequests, List.flatMap_nil, List.map_nil, List.map_nil, perform_nil,
        List.append_nil]
      rfl
    | cons first rest ofRest =>
      obtain ⟨path, field⟩ := first
      have own : event.ownRequests ((path, field) :: rest) =
          event.fieldRequests field
              ((Matcher.ofPath path).start event.name event.attributeNames).2 ++
            event.ownRequests rest := List.flatMap_cons
      rw [List.foldl_cons, ofRest, fieldSelects_eq, own, List.map_append, perform_append,
        List.map_cons, List.append_assoc]
      rfl
  exact general []

/-- Showing a start tag to a matcher is moving it on and performing what it asks for. -/
theorem startMatcher_eq (event : ElementStart) (active : ActiveMatcher) (collected : Collected) :
    startMatcher event active collected =
      (active.started event, active.brought event,
        perform collected ((active.startRequests event).map (Prod.mk active.store))) := by
  obtain ⟨matcher, store, role⟩ := active
  cases role with
  | field field =>
    show (_, [], fieldSelects event store field _ collected) = _
    rw [fieldSelects_eq]
    rfl
  | selector fields =>
    unfold startMatcher ActiveMatcher.brought ActiveMatcher.startRequests ActiveMatcher.selectionAt
    dsimp only
    cases (matcher.start event.name event.attributeNames).2.element with
    | false => exact Prod.ext rfl (Prod.ext rfl (perform_nil _).symm)
    | true =>
      rw [if_pos rfl, if_pos rfl, if_pos rfl, beginFields_eq, List.map_cons, perform_cons,
        StoreCache.beginTuple_eq, List.map_nil, List.append_nil]
      rfl

theorem startMatchers_eq (event : ElementStart) (matchers : List ActiveMatcher)
    (cache : StoreCache) :
    startMatchers event matchers cache =
      (startedAll event matchers, perform (cache, []) (startRequestsOf event matchers)) := by
  have general (kept brought : List ActiveMatcher) (collected : Collected) :
      matchers.foldl (fun found active =>
        let shown := startMatcher event active found.2.2
        (found.1 ++ [shown.1], found.2.1 ++ shown.2.1, shown.2.2)) (kept, brought, collected) =
        (kept ++ matchers.map (ActiveMatcher.started event),
          brought ++ matchers.flatMap (ActiveMatcher.brought event),
          perform collected (startRequestsOf event matchers)) := by
    induction matchers generalizing kept brought collected with
    | nil => simp [startRequestsOf, perform_nil]
    | cons active rest ofRest =>
      rw [List.foldl_cons]
      dsimp only
      rw [startMatcher_eq, ofRest]
      simp only [startRequestsOf, List.map_cons, List.flatMap_cons, perform_append,
        List.append_assoc, List.singleton_append]
  have whole := general [] [] (cache, [])
  rw [List.nil_append, List.nil_append] at whole
  exact congrArg (fun found : List ActiveMatcher × List ActiveMatcher × Collected =>
    (found.1 ++ found.2.1, found.2.2)) whole

/-- Opens a store and a matcher for each of some constraints. A malformed one is left out. -/
def activateAll (declarer : String) (identities : List IdentityConstraint)
    (matchers : List ActiveMatcher) (cache : StoreCache) : List ActiveMatcher × StoreCache :=
  identities.foldl (fun (matchers, cache) identity =>
    match identity.compile with
    | .ok compiled =>
      (matchers ++ [⟨.ofPath compiled.selector, cache.nextId, .selector compiled.fields⟩],
        cache.create identity declarer)
    | .error _ => (matchers, cache)) (matchers, cache)

theorem activateAll_eq (declarer : String) (identities : List IdentityConstraint)
    (matchers : List ActiveMatcher) (cache : StoreCache) :
    let constraints := identities.filterMap IdentityConstraint.compiled?
    activateAll declarer identities matchers cache =
      (matchers ++ constraints.zipIdx.map fun item =>
          ⟨.ofPath item.1.2.selector, cache.nextId + item.2, .selector item.1.2.fields⟩,
        { cache with stores := cache.stores ++ constraints.map fun constraint =>
            ValueStore.start constraint.1 declarer }) := by
  unfold activateAll
  induction identities generalizing matchers cache with
  | nil => simp
  | cons identity rest ofRest =>
    rw [List.foldl_cons, List.filterMap_cons, IdentityConstraint.compiled?]
    cases identity.compile with
    | error fault => exact ofRest matchers cache
    | ok paths =>
      dsimp only
      rw [ofRest]
      simp only [List.zipIdx_cons, List.zipIdx_succ, List.map_cons, List.map_map,
        List.append_assoc, List.singleton_append, StoreCache.create, StoreCache.nextId,
        List.length_append, List.length_singleton, Nat.add_zero, Function.comp_def,
        Nat.add_assoc, Nat.add_comm 1, Nat.zero_add]

theorem activate_eq (declaration : ElementDeclaration) (matchers : List ActiveMatcher)
    (cache : StoreCache) {event : ElementStart} (declared : event.declaration = some declaration) :
    activate declaration matchers cache =
      (matchers ++ event.selectors cache.nextId,
        { cache with stores := cache.stores ++ event.stores }) := by
  refine (activateAll_eq declaration.name.localName (ordered declaration) matchers cache).trans ?_
  rw [ElementStart.selectors, ElementStart.stores, ElementStart.constraints,
    ElementStart.declarer, declared]
  rfl

/-- A start tag puts the table aside, opens the constraints of the declaration, moves the matchers
on, and performs what they ask for. -/
theorem start_eq (engine : IdentityEngine) (event : ElementStart) :
    engine.start event =
      let matchers := engine.matchers ++ event.selectors engine.cache.nextId
      let opened := { engine.cache.startElement with stores := engine.cache.stores ++ event.stores }
      let performed := opened.performAll (startRequestsOf event matchers)
      (⟨startedAll event matchers,
          ⟨engine.matchers.length, engine.cache.nextId⟩ :: engine.contexts, performed.1⟩,
        performed.2.map Prod.snd) := by
  unfold start
  cases declared : event.declaration with
  | none =>
    have none : event.constraints = [] := by rw [ElementStart.constraints, declared]
    simp only [ElementStart.selectors, ElementStart.stores, none, startMatchers_eq]
    simp only [List.zipIdx_nil, List.map_nil, List.append_nil]
    rfl
  | some declaration =>
    simp only [activate_eq declaration _ _ declared, startMatchers_eq]
    rfl

/-! ### End tags -/

theorem finishMatcher_eq (value : Option Value) (shown : String) (active : ActiveMatcher)
    (collected : Collected) :
    finishMatcher value shown active collected =
      (active.finished,
        perform collected ((active.finishRequests value shown).map (Prod.mk active.store))) := by
  obtain ⟨matcher, store, role⟩ := active
  unfold finishMatcher ActiveMatcher.finishRequests ActiveMatcher.finished
  dsimp only
  cases matcher.finish.2 with
  | false => exact Prod.ext rfl (perform_nil _).symm
  | true =>
    cases role with
    | selector fields =>
      obtain ⟨same, reports⟩ := collected.1.endTuple_eq store shown
      simp only [if_pos, List.map_singleton, perform_cons, perform_nil, same, reports]
      rfl
    | field field =>
      cases value with
      | none => exact Prod.ext rfl (perform_nil _).symm
      | some value =>
        simp only [if_pos, Option.map_some, Option.toList_some, List.map_singleton, perform_cons,
          perform_nil, StoreCache.addValue_eq]
        rfl

theorem finishRequestsOf_cons (value : Option Value) (shown : String) (active : ActiveMatcher)
    (rest : List ActiveMatcher) :
    finishRequestsOf value shown (active :: rest) =
      finishRequestsOf value shown rest ++
        (active.finishRequests value shown).map (Prod.mk active.store) := by
  rw [finishRequestsOf, List.reverse_cons, List.flatMap_append, List.flatMap_singleton]
  rfl

theorem finishMatchers_eq (value : Option Value) (shown : String) (matchers : List ActiveMatcher)
    (cache : StoreCache) :
    finishMatchers value shown matchers cache =
      (matchers.map ActiveMatcher.finished,
        perform (cache, []) (finishRequestsOf value shown matchers)) := by
  induction matchers with
  | nil => exact Prod.ext rfl (perform_nil _).symm
  | cons active rest ofRest =>
    unfold finishMatchers at ofRest ⊢
    rw [List.foldr_cons, ofRest]
    dsimp only
    rw [finishMatcher_eq, finishRequestsOf_cons, perform_append]
    rfl

/-- An end tag performs what the matchers ask for and then closes the context. -/
theorem finish_eq (engine : IdentityEngine) (value : Option Value) (shown : String)
    {context : IdentityContext} {outer : List IdentityContext}
    (opened : engine.contexts = context :: outer) :
    engine.finish value shown =
      let performed := engine.cache.performAll (finishRequestsOf value shown engine.matchers)
      let closed := closeContext context shown performed.1
      (⟨(engine.matchers.map ActiveMatcher.finished).take context.matchers, outer,
          closed.1.endElement⟩,
        performed.2.map Prod.snd ++ closed.2) := by
  unfold finish
  rw [finishMatchers_eq, opened]
  rfl

end IdentityEngine

end SchemaAssessment
