/-
What references are checked against. While an element is open the table holds the keys
and unique constraints that ended inside of it, and the table put aside those that ended
before it under its parent. So at the end of the element its references see what was
active in the element itself and in its preceding siblings: nothing from behind it, and
nothing from the elements around it or from their siblings.
-/

import SchemaAssessment.Proofs.Identity.Reports
import SchemaAssessment.Proofs.Identity.Table

namespace SchemaAssessment

/-! ### Activations of a tree -/

/-- The store of a constraint when its element ends. -/
def CompiledIdentity.filled (compiled : CompiledIdentity) (identity : IdentityConstraint)
    (element : AssessedElement) : ValueStore :=
  ((ValueStore.start identity element.start.declarer).performAll
    ((compiled.sightingsOf element).map Sighting.operation)).1

/-- The stores of the constraints of an element when it ends. -/
def AssessedElement.filledStores (element : AssessedElement) : List ValueStore :=
  element.start.constraints.map fun constraint => constraint.2.filled constraint.1 element

/-- What a store puts into the table. -/
def ValueStore.activation (store : ValueStore) : Activation := ⟨store.identity.name, store.tuples⟩

/-- The keys and unique constraints of an element itself. -/
def AssessedElement.ownActivations (element : AssessedElement) : List Activation :=
  (element.filledStores.filter fun store => store.identity.isKeyRef == false).map
    ValueStore.activation

/-- The keys and unique constraints in the subtrees of some elements. -/
def Assessed.activations : Assessed → List Activation
  | .nothing => []
  | .element start inside value later =>
    inside.activations ++ AssessedElement.ownActivations ⟨start, inside, value⟩ ++
      later.activations

/-- The keys and unique constraints in the subtree of an element. -/
def AssessedElement.activations (element : AssessedElement) : List Activation :=
  element.inside.activations ++ element.ownActivations

/-! ### Checking references -/

/-- What is wrong with the references of a store when some constraints have been active. -/
def ValueStore.unresolved (store : ValueStore) (activations : List Activation) (shown : String) :
    List Diagnostic :=
  match store.identity.refer with
  | none => []
  | some refer =>
    if isActive activations refer then
      (store.references.filter fun tuple => !isRecorded activations refer tuple).map fun tuple =>
        ⟨.keyNotFound, shown, [tuple.text, store.element]⟩
    else [⟨.keyRefOutOfScope, shown, [store.identity.name.localName]⟩]

/-- What is wrong with the references of an element when, apart from its own subtree, some
constraints have been active beside it. -/
def AssessedElement.unresolved (element : AssessedElement) (beside : List Activation) :
    List Diagnostic :=
  (element.filledStores.filter fun store => store.identity.isKeyRef == true).flatMap fun store =>
    store.unresolved (element.activations ++ beside) element.start.shown

namespace StoreCache

theorem checkReference_eq {cache : StoreCache} {id : Nat} {store : ValueStore}
    (standing : cache.stores[id]? = some store) {inside beside : List Activation}
    (table : cache.table.Represents inside) {aside : KeyTable} {outer : List KeyTable}
    (saved : cache.saved = aside :: outer) (putAside : aside.Represents beside)
    (shown : String) :
    cache.checkReference id shown = store.unresolved (inside ++ beside) shown := by
  unfold checkReference ValueStore.unresolved
  rw [standing]
  dsimp only
  cases store.identity.refer with
  | none => rfl
  | some refer =>
    have active : isActive (inside ++ beside) refer =
        ((cache.table.lookup refer).isSome || (aside.lookup refer).isSome) := by
      rw [isActive_append, table.active, putAside.active]
    have recorded (tuple : Tuple) : isRecorded (inside ++ beside) refer tuple =
        (((cache.table.lookup refer).any fun tuples => tuples.contains tuple) ||
          (aside.lookup refer).any fun tuples => tuples.contains tuple) := by
      rw [isRecorded_append, table.recorded, putAside.recorded]
    simp only [saved, List.head?_cons, Option.bind_some, active, recorded]
    cases cache.table.lookup refer with
    | some tuples => rfl
    | none =>
      cases aside.lookup refer with
      | some tuples => rfl
      | none => rfl

theorem publishAll_table (cache : StoreCache) (ids : List Nat) :
    (ids.foldl publish cache).table =
      (ids.filterMap fun id => cache.stores[id]?).foldl
        (fun table store => table.add store.identity.name store.tuples) cache.table := by
  induction ids generalizing cache with
  | nil => rfl
  | cons id rest ofRest =>
    rw [List.foldl_cons, ofRest, IdentityEngine.publish_stores, List.filterMap_cons]
    unfold publish
    cases cache.stores[id]? <;> rfl

end StoreCache

theorem KeyTable.Represents.addAll {table : KeyTable} {activations : List Activation}
    (represents : table.Represents activations) (stores : List ValueStore) :
    (stores.foldl (fun table store => table.add store.identity.name store.tuples)
      table).Represents (activations ++ stores.map ValueStore.activation) := by
  induction stores generalizing table activations with
  | nil =>
    rw [List.map_nil, List.append_nil]
    exact represents
  | cons store rest ofRest =>
    rw [List.map_cons, List.append_cons]
    exact ofRest (represents.add store.activation)

/-! ### Closing an element -/

theorem filterMap_range_drop {α : Type} (items : List α) (base : Nat) :
    (((List.range items.length).drop base).filterMap fun index => items[index]?) =
      items.drop base := by
  have all : ((List.range items.length).map fun index => items[index]?) = items.map some :=
    List.ext_getElem (by simp) fun index _ _ => by simp
  have dropped := congrArg (List.drop base) all
  rw [← List.map_drop, ← List.map_drop] at dropped
  have some := congrArg (List.filterMap id) dropped
  rw [List.filterMap_map, List.filterMap_map] at some
  exact some.trans List.filterMap_some

namespace IdentityEngine

theorem storesThat_stores (refers : Bool) (cache : StoreCache) (ids : List Nat) :
    ((storesThat refers cache ids).filterMap fun id => cache.stores[id]?) =
      (ids.filterMap fun id => cache.stores[id]?).filter fun store =>
        store.identity.isKeyRef == refers := by
  induction ids with
  | nil => rfl
  | cons id rest ofRest =>
    rw [storesThat, List.filter_cons, List.filterMap_cons]
    cases standing : cache.stores[id]? with
    | none => exact ofRest
    | some store =>
      rw [List.filter_cons, Option.any_some]
      split
      · rw [List.filterMap_cons, standing]
        exact congrArg (store :: ·) ofRest
      · exact ofRest

/-- Closing a context publishes its keys and unique constraints and checks its references against
them and against what was put aside. -/
theorem closeContext_eq (context : IdentityContext) (shown : String) {cache : StoreCache}
    {inside beside : List Activation} (table : cache.table.Represents inside) {aside : KeyTable}
    {outer : List KeyTable} (saved : cache.saved = aside :: outer)
    (putAside : aside.Represents beside) :
    let stores := cache.stores.drop context.stores
    let closed := inside ++ (stores.filter fun store => store.identity.isKeyRef == false).map
      ValueStore.activation
    (closeContext context shown cache).1.table.Represents closed ∧
      (closeContext context shown cache).2 =
        (stores.filter fun store => store.identity.isKeyRef == true).flatMap fun store =>
          store.unresolved (closed ++ beside) shown := by
  intro stores closed
  unfold closeContext
  dsimp only
  generalize published : (storesThat false cache
    ((List.range cache.nextId).drop context.stores)).foldl StoreCache.publish cache = behind
  have ids : (((List.range cache.nextId).drop context.stores).filterMap fun id =>
      cache.stores[id]?) = stores := filterMap_range_drop cache.stores context.stores
  obtain ⟨sameStores, sameSaved⟩ := publishAll_frame cache
    (storesThat false cache ((List.range cache.nextId).drop context.stores))
  rw [published] at sameStores sameSaved
  have represents : behind.table.Represents closed := by
    rw [← published, StoreCache.publishAll_table, storesThat_stores, ids]
    exact table.addAll _
  refine ⟨represents, ?_⟩
  have checked : ∀ id ∈ storesThat true behind ((List.range cache.nextId).drop context.stores),
      behind.checkReference id shown =
        ((behind.stores[id]?.map fun store =>
          store.unresolved (closed ++ beside) shown).getD []) := by
    intro id member
    cases standing : behind.stores[id]? with
    | none =>
      unfold StoreCache.checkReference
      rw [standing]
      rfl
    | some store =>
      exact StoreCache.checkReference_eq standing represents (sameSaved.trans saved) putAside shown
  rw [List.flatMap_congr checked]
  have asList (ids : List Nat) (make : ValueStore → List Diagnostic) :
      (ids.flatMap fun id => ((behind.stores[id]?.map make).getD [])) =
        (ids.filterMap fun id => behind.stores[id]?).flatMap make := by
    induction ids with
    | nil => rfl
    | cons id rest ofRest =>
      rw [List.flatMap_cons, ofRest, List.filterMap_cons]
      cases behind.stores[id]? <;> rfl
  rw [asList, storesThat_stores, sameStores, ids]

/-! ### Elements -/

variable {engine : IdentityEngine}

/-- The stores that an element opened are its constraints' own when it ends. -/
theorem closing_stores (tidy : engine.IsTidy) (element : AssessedElement) :
    (engine.closing element).stores.drop engine.cache.nextId = element.filledStores := by
  have inner := isAt_readAll (engine.start element.start).1 element.inside
  have length : (engine.closing element).stores.length =
      engine.cache.nextId + element.start.constraints.length := by
    show (StoreCache.performAll _ _).1.stores.length = _
    rw [(StoreCache.performAll_frame _ _).2.2]
    refine inner.stores.trans ?_
    rw [(engine.start_state element.start).2.2, (StoreCache.performAll_frame _ _).2.2, opened,
      List.length_append, ElementStart.stores, List.length_map]
    rfl
  refine List.ext_getElem? fun index => ?_
  rw [List.getElem?_drop, AssessedElement.filledStores, List.getElem?_map]
  cases constraint : element.start.constraints[index]? with
  | some found =>
    obtain ⟨identity, compiled⟩ := found
    exact (store_of_element tidy constraint).1
  | none =>
    refine List.getElem?_eq_none_iff.mpr ?_
    rw [length]
    exact Nat.add_le_add_left (List.getElem?_eq_none_iff.mp constraint) _

theorem endElement_table {cache : StoreCache} {aside : KeyTable} {outer : List KeyTable}
    (saved : cache.saved = aside :: outer) : cache.endElement.table = cache.table.join aside := by
  rw [StoreCache.endElement, saved]

theorem start_table (engine : IdentityEngine) (event : ElementStart) :
    (engine.start event).1.cache.table = [] := by
  rw [(engine.start_state event).2.2]
  exact (StoreCache.performAll_frame _ _).1

/-- The end tag of an element whose table stands for what is inside of it, and with it the element,
when the table at its start tag stood for what is beside it. -/
theorem finish_element (tidy : engine.IsTidy) (element : AssessedElement)
    {beside : List Activation} (represents : engine.cache.table.Represents beside)
    (inside :
      (engine.readAll (.start element.start :: element.inside.tags)).1.cache.table.Represents
      element.inside.activations) :
    let inner := (engine.readAll (.start element.start :: element.inside.tags)).1
    let finished := inner.finish element.value element.start.shown
    finished.1.cache.table.Represents (beside ++ element.activations) ∧
      ofReference finished.2 = element.unresolved beside := by
  intro inner finished
  obtain ⟨-, contexts, -⟩ := engine.start_state element.start
  have within := isAt_readAll (engine.start element.start).1 element.inside
  have opened := within.contexts.trans contexts
  obtain ⟨table, saved, -⟩ := inner.cache.performAll_frame
    (finishRequestsOf element.value element.start.shown inner.matchers)
  have putAside : (engine.closing element).saved = engine.cache.table :: engine.cache.saved :=
    saved.trans (within.saved.trans (engine.start_saved element.start))
  have closing : (engine.closing element).table.Represents element.inside.activations :=
    table.symm ▸ inside
  obtain ⟨closed, found⟩ := closeContext_eq ⟨engine.matchers.length, engine.cache.nextId⟩
    element.start.shown closing putAside represents
  rw [closing_stores tidy] at closed found
  have closedSaved := ((closeContext_frame ⟨engine.matchers.length, engine.cache.nextId⟩
    element.start.shown (engine.closing element)).2).trans putAside
  refine ⟨?_, (ofReference_finish inner _ _ opened).trans found⟩
  have behind : finished.1.cache = (closeContext ⟨engine.matchers.length, engine.cache.nextId⟩
      element.start.shown (engine.closing element)).1.endElement :=
    congrArg (fun finished => finished.1.cache) (finish_eq inner _ _ opened)
  rw [behind, endElement_table closedSaved]
  exact (closed.join represents).comm

/-- Whole elements add their activations to those that the table stands for. -/
theorem represents_readAll (tidy : engine.IsTidy) {content : Assessed} {before : List Activation}
    (represents : engine.cache.table.Represents before) :
    (engine.readAll content.tags).1.cache.table.Represents (before ++ content.activations) := by
  induction content generalizing engine before with
  | nothing =>
    rw [Assessed.activations, List.append_nil]
    exact represents
  | element start inside value later ofInside ofLater =>
    have fresh : (engine.start start).1.cache.table.Represents [] := by
      rw [start_table]
      exact KeyTable.represents_nil
    have inner := ofInside (tidy.start start) fresh
    have finished := (finish_element tidy ⟨start, inside, value⟩ represents inner).1
    have tidyBehind := ((tidy.start start).readAll inside.tags).finish value start.shown
    have behind := ofLater tidyBehind finished
    have together : before ++ Assessed.activations (.element start inside value later) =
        before ++ AssessedElement.activations ⟨start, inside, value⟩ ++ later.activations :=
      (List.append_assoc before _ later.activations).symm
    rw [together, Assessed.tags, readAll, readAll_append, readAll]
    exact behind

/-- At the end tag of an element its references are checked against what was active in its own
subtree and beside it. -/
theorem references_of_element (tidy : engine.IsTidy) (element : AssessedElement)
    {beside : List Activation} (represents : engine.cache.table.Represents beside) :
    let inner := (engine.readAll (.start element.start :: element.inside.tags)).1
    ofReference (inner.finish element.value element.start.shown).2 = element.unresolved beside := by
  have fresh : (engine.start element.start).1.cache.table.Represents [] := by
    rw [start_table]
    exact KeyTable.represents_nil
  exact (finish_element tidy element represents
    (represents_readAll (tidy.start element.start) fresh)).2

end IdentityEngine

end SchemaAssessment
