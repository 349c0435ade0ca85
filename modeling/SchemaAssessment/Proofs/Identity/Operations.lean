/-
What matchers ask of their stores. A tag makes each matcher ask its store for some
operations, which depend on the tag and on the matcher alone; what the stores hold
decides only what they report. So a tag is read by moving the matchers on and then
performing what they ask for, and what a store becomes and reports is what the
operations asked of it make of it, whatever is asked of other stores in between.
-/

import SchemaAssessment.Identity.Engine

namespace SchemaAssessment

/-- What a matcher may ask of its store: to begin a tuple, to take a value for a field, to take
note that a field stands at an element that may be nil, and to end the tuple. -/
inductive StoreOperation where
  | beginTuple
  | give (field : Nat) (value : Value) (shown : String)
  | noteNillable (shown : String)
  | endTuple (shown : String)

/-- The items that belong to one of several stores, which are known by their numbers. -/
def ofStore {α : Type} (id : Nat) (items : List (Nat × α)) : List α :=
  items.filterMap fun item => if item.1 = id then some item.2 else none

section OfStore

variable {α : Type} {id : Nat}

@[simp] theorem ofStore_append (first second : List (Nat × α)) :
    ofStore id (first ++ second) = ofStore id first ++ ofStore id second :=
  List.filterMap_append

theorem ofStore_map_same (items : List α) : ofStore id (items.map (Prod.mk id)) = items := by
  rw [ofStore, List.filterMap_map]
  simp only [Function.comp_def, if_pos, List.filterMap_some]

theorem ofStore_map_other {other : Nat} (different : other ≠ id) (items : List α) :
    ofStore id (items.map (Prod.mk other)) = [] := by
  rw [ofStore, List.filterMap_map, List.filterMap_eq_nil_iff]
  exact fun item _ => if_neg different

end OfStore

/-! ### One store -/

namespace ValueStore

/-- Performs what is asked of a store. Told is what it reports. -/
def perform (store : ValueStore) : StoreOperation → ValueStore × List Diagnostic
  | .beginTuple => (store.beginTuple, [])
  | .give field value shown => store.addValue field value shown
  | .noteNillable shown =>
    (store, if store.identity.isKey then [⟨.keyMatchesNillable, shown, [store.element]⟩] else [])
  | .endTuple shown => (store, store.endTuple shown)

/-- Performs operations in turn. -/
def performAll (store : ValueStore) : List StoreOperation → ValueStore × List Diagnostic
  | [] => (store, [])
  | operation :: rest =>
    let first := store.perform operation
    let others := first.1.performAll rest
    (others.1, first.2 ++ others.2)

theorem performAll_append (store : ValueStore) (first second : List StoreOperation) :
    store.performAll (first ++ second) =
      (((store.performAll first).1.performAll second).1,
        (store.performAll first).2 ++ ((store.performAll first).1.performAll second).2) := by
  induction first generalizing store with
  | nil => rfl
  | cons operation rest ofRest =>
    rw [List.cons_append, performAll, ofRest, performAll]
    simp only [List.append_assoc]

/-- What a store is for stays as it is. -/
theorem complete_constant (store : ValueStore) (tuple : Tuple) (shown : String) :
    (store.complete tuple shown).1.identity = store.identity ∧
      (store.complete tuple shown).1.element = store.element := by
  unfold complete
  cases store.identity.kind with
  | keyRef => exact ⟨rfl, rfl⟩
  | unique => dsimp only; split <;> exact ⟨rfl, rfl⟩
  | key => dsimp only; split <;> exact ⟨rfl, rfl⟩

theorem perform_constant (store : ValueStore) (operation : StoreOperation) :
    (store.perform operation).1.identity = store.identity ∧
      (store.perform operation).1.element = store.element := by
  cases operation with
  | give field value shown =>
    show (store.addValue field value shown).1.identity = _ ∧
      (store.addValue field value shown).1.element = _
    unfold addValue
    split
    · dsimp only
      split
      · exact complete_constant _ _ _
      · exact ⟨rfl, rfl⟩
    · exact ⟨rfl, rfl⟩
    · exact ⟨rfl, rfl⟩
  | _ => exact ⟨rfl, rfl⟩

theorem performAll_constant (store : ValueStore) (operations : List StoreOperation) :
    (store.performAll operations).1.identity = store.identity ∧
      (store.performAll operations).1.element = store.element := by
  induction operations generalizing store with
  | nil => exact ⟨rfl, rfl⟩
  | cons operation rest ofRest =>
    obtain ⟨identity, element⟩ := ofRest (store.perform operation).1
    exact ⟨identity.trans (store.perform_constant operation).1,
      element.trans (store.perform_constant operation).2⟩

end ValueStore

/-! ### All stores -/

namespace StoreCache

/-- Performs what is asked of one of the stores. What it reports is told with its number. -/
def perform (cache : StoreCache) (id : Nat) (operation : StoreOperation) :
    StoreCache × List (Nat × Diagnostic) :=
  match cache.stores[id]? with
  | some store =>
    ({ cache with stores := cache.stores.set id (store.perform operation).1 },
      (store.perform operation).2.map (Prod.mk id))
  | none => (cache, [])

/-- Performs operations of several stores in turn. -/
def performAll (cache : StoreCache) :
    List (Nat × StoreOperation) → StoreCache × List (Nat × Diagnostic)
  | [] => (cache, [])
  | request :: rest =>
    let first := cache.perform request.1 request.2
    let others := first.1.performAll rest
    (others.1, first.2 ++ others.2)

theorem performAll_append (cache : StoreCache) (first second : List (Nat × StoreOperation)) :
    cache.performAll (first ++ second) =
      (((cache.performAll first).1.performAll second).1,
        (cache.performAll first).2 ++ ((cache.performAll first).1.performAll second).2) := by
  induction first generalizing cache with
  | nil => rfl
  | cons request rest ofRest =>
    rw [List.cons_append, performAll, ofRest, performAll]
    simp only [List.append_assoc]

/-- Performing changes the stores alone, and neither opens nor drops any. -/
theorem perform_frame (cache : StoreCache) (id : Nat) (operation : StoreOperation) :
    (cache.perform id operation).1.table = cache.table ∧
      (cache.perform id operation).1.saved = cache.saved ∧
        (cache.perform id operation).1.stores.length = cache.stores.length := by
  unfold perform
  split
  · exact ⟨rfl, rfl, List.length_set⟩
  · exact ⟨rfl, rfl, rfl⟩

theorem performAll_frame (cache : StoreCache) (requests : List (Nat × StoreOperation)) :
    (cache.performAll requests).1.table = cache.table ∧
      (cache.performAll requests).1.saved = cache.saved ∧
        (cache.performAll requests).1.stores.length = cache.stores.length := by
  induction requests generalizing cache with
  | nil => exact ⟨rfl, rfl, rfl⟩
  | cons request rest ofRest =>
    obtain ⟨table, saved, length⟩ := ofRest (cache.perform request.1 request.2).1
    obtain ⟨tableFirst, savedFirst, lengthFirst⟩ := cache.perform_frame request.1 request.2
    exact ⟨table.trans tableFirst, saved.trans savedFirst, length.trans lengthFirst⟩

/-- What the stores are for stays as it is. -/
theorem perform_identities (cache : StoreCache) (id : Nat) (operation : StoreOperation) :
    (cache.perform id operation).1.stores.map ValueStore.identity =
      cache.stores.map ValueStore.identity := by
  unfold perform
  split
  · rename_i store standing
    obtain ⟨inside, rfl⟩ := List.getElem?_eq_some_iff.mp standing
    have mapped : id < (cache.stores.map ValueStore.identity).length := by rwa [List.length_map]
    rw [List.map_set, (ValueStore.perform_constant _ operation).1]
    exact (congrArg _ (List.getElem_map _).symm).trans (List.set_getElem_self mapped)
  · rfl

theorem performAll_identities (cache : StoreCache) (requests : List (Nat × StoreOperation)) :
    (cache.performAll requests).1.stores.map ValueStore.identity =
      cache.stores.map ValueStore.identity := by
  induction requests generalizing cache with
  | nil => rfl
  | cons request rest ofRest =>
    exact (ofRest (cache.perform request.1 request.2).1).trans (cache.perform_identities _ _)

theorem perform_of_none {cache : StoreCache} {id : Nat} (missing : cache.stores[id]? = none)
    (operation : StoreOperation) : cache.perform id operation = (cache, []) := by
  rw [perform, missing]

theorem performAll_of_none {cache : StoreCache} {id : Nat} (missing : cache.stores[id]? = none)
    (operations : List StoreOperation) :
    cache.performAll (operations.map (Prod.mk id)) = (cache, []) := by
  induction operations with
  | nil => rfl
  | cons operation rest ofRest =>
    rw [List.map_cons, performAll, perform_of_none missing, ofRest]
    rfl

/-! ### The operations by their names -/

theorem addValue_eq (cache : StoreCache) (id field : Nat) (value : Value) (shown : String) :
    cache.addValue id field value shown =
      ((cache.perform id (.give field value shown)).1,
        (cache.perform id (.give field value shown)).2.map Prod.snd) := by
  unfold addValue perform
  cases cache.stores[id]? with
  | none => rfl
  | some store =>
    show _ = (_, ((store.addValue field value shown).2.map (Prod.mk id)).map Prod.snd)
    rw [List.map_map, Function.comp_def, List.map_id']
    rfl

theorem beginTuple_eq (cache : StoreCache) (id : Nat) :
    cache.perform id .beginTuple = (cache.beginTuple id, []) := by
  unfold perform beginTuple
  cases standing : cache.stores[id]? with
  | none => rw [List.modify_eq_self (List.getElem?_eq_none_iff.mp standing)]
  | some store =>
    have modified : cache.stores.modify id ValueStore.beginTuple =
        cache.stores.set id store.beginTuple := by
      rw [List.modify_eq_set, standing]
      rfl
    rw [modified]
    rfl

theorem set_of_standing {cache : StoreCache} {id : Nat} {store : ValueStore}
    (standing : cache.stores[id]? = some store) : cache.stores.set id store = cache.stores := by
  obtain ⟨inside, rfl⟩ := List.getElem?_eq_some_iff.mp standing
  exact List.set_getElem_self inside

theorem noteNillable_eq {cache : StoreCache} {id : Nat} {store : ValueStore}
    (standing : cache.stores[id]? = some store) (shown : String) :
    (cache.perform id (.noteNillable shown)).1 = cache ∧
      (cache.perform id (.noteNillable shown)).2.map Prod.snd =
        if store.identity.isKey then [⟨.keyMatchesNillable, shown, [store.element]⟩] else [] := by
  unfold perform
  rw [standing]
  refine ⟨?_, ?_⟩
  · show { cache with stores := cache.stores.set id store } = cache
    rw [set_of_standing standing]
  · show (List.map (Prod.mk id) _).map Prod.snd = _
    rw [List.map_map, Function.comp_def, List.map_id']
    rfl

theorem endTuple_eq (cache : StoreCache) (id : Nat) (shown : String) :
    (cache.perform id (.endTuple shown)).1 = cache ∧
      (cache.perform id (.endTuple shown)).2.map Prod.snd = cache.endTuple id shown := by
  unfold perform endTuple
  cases standing : cache.stores[id]? with
  | none => exact ⟨rfl, rfl⟩
  | some store =>
    refine ⟨?_, ?_⟩
    · show { cache with stores := cache.stores.set id store } = cache
      rw [set_of_standing standing]
    · show ((store.endTuple shown).map (Prod.mk id)).map Prod.snd = _
      rw [List.map_map, Function.comp_def, List.map_id']

/-! ### Store by store -/

theorem perform_store (cache : StoreCache) (id other : Nat) (operation : StoreOperation)
    {store : ValueStore}
    (standing : cache.stores[id]? = some store) :
    (cache.perform other operation).1.stores[id]? =
        some (store.performAll (ofStore id [(other, operation)])).1 ∧
      ofStore id (cache.perform other operation).2 =
        (store.performAll (ofStore id [(other, operation)])).2 := by
  by_cases same : other = id
  · subst same
    have inside : other < cache.stores.length := (List.getElem?_eq_some_iff.mp standing).1
    rw [perform, standing]
    show (cache.stores.set other (store.perform operation).1)[other]? = _ ∧
      ofStore other ((store.perform operation).2.map (Prod.mk other)) = _
    rw [List.getElem?_set_self inside, ofStore_map_same, ofStore, List.filterMap_cons, if_pos rfl]
    simp [ValueStore.performAll]
  · have nothing : ofStore id [(other, operation)] = [] := by
      rw [ofStore, List.filterMap_cons, if_neg same, List.filterMap_nil]
    rw [nothing]
    unfold perform
    split
    · refine ⟨?_, ofStore_map_other same _⟩
      show (cache.stores.set other _)[id]? = _
      rw [List.getElem?_set_ne same, standing]
      rfl
    · exact ⟨standing, rfl⟩

/-- A store becomes and reports what the operations asked of it make of it. -/
theorem performAll_store (cache : StoreCache) (id : Nat) (requests : List (Nat × StoreOperation))
    {store : ValueStore} (standing : cache.stores[id]? = some store) :
    (cache.performAll requests).1.stores[id]? =
        some (store.performAll (ofStore id requests)).1 ∧
      ofStore id (cache.performAll requests).2 = (store.performAll (ofStore id requests)).2 := by
  induction requests generalizing cache store with
  | nil => exact ⟨standing, rfl⟩
  | cons request rest ofRest =>
    obtain ⟨standingNext, reports⟩ := cache.perform_store id request.1 request.2 standing
    obtain ⟨standingLast, more⟩ := ofRest _ standingNext
    rw [← List.singleton_append, ofStore_append, ValueStore.performAll_append]
    refine ⟨standingLast, ?_⟩
    rw [List.singleton_append, performAll, ofStore_append, reports, more]

end StoreCache

end SchemaAssessment
