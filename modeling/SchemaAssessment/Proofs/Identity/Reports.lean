/-
Who tells what among identity constraints. The stores report about selected elements and
their tuples; what is wrong with references to them is told when an element closes, under
two rules that no store uses.
-/

import SchemaAssessment.Proofs.Assessment.Rules
import SchemaAssessment.Proofs.Identity.Tree
import SchemaAssessment.Proofs.Identity.Verdict

namespace SchemaAssessment

/-- The rules about references. -/
def Rule.isOfReference : Rule → Bool
  | .keyNotFound | .keyRefOutOfScope => true
  | _ => false

/-- The findings about references. -/
def ofReference (diagnostics : List Diagnostic) : List Diagnostic :=
  diagnostics.filter fun diagnostic => diagnostic.rule.isOfReference

theorem ofReference_append (first second : List Diagnostic) :
    ofReference (first ++ second) = ofReference first ++ ofReference second :=
  List.filter_append ..

/-- The rules by which a store tells about the fields of its constraint. The only other rule of
stores is about a field that the constraint does not have. -/
def Rule.ofFields : List Rule := Rule.ofStores.erase .unknownField

/-! ### Stores -/

/-- An operation gives no value to a field that a constraint does not have. -/
def StoreOperation.Fits (operation : StoreOperation) (identity : IdentityConstraint) : Prop :=
  ∀ field value shown, operation = .give field value shown → field < identity.fields.length

namespace ValueStore

theorem complete_under (store : ValueStore) (tuple : Tuple) (shown : String) :
    Under Rule.ofFields (store.complete tuple shown).2 := by
  unfold complete
  dsimp only
  cases store.identity.kind with
  | keyRef => exact .nil _
  | _ =>
    dsimp only
    split
    · exact .one (by decide) ..
    · exact .nil _

/-- A store that is asked for what fits its constraint reports about the fields of that alone. -/
theorem perform_fits (store : ValueStore) {operation : StoreOperation}
    (fits : operation.Fits store.identity) : Under Rule.ofFields (store.perform operation).2 := by
  cases operation with
  | beginTuple => exact .nil _
  | give field value shown =>
    have within : field < store.identity.fields.length := fits field value shown rfl
    have known : store.identity.fields[field]? = some store.identity.fields[field] :=
      List.getElem?_eq_getElem within
    show Under Rule.ofFields (store.addValue field value shown).2
    unfold addValue
    split
    · dsimp only
      split
      · exact complete_under _ _ _
      · exact .nil _
    · exact .one (by decide) ..
    · rename_i unknown
      cases known.symm.trans unknown
  | noteNillable shown =>
    unfold perform
    dsimp only
    split
    · exact .one (by decide) ..
    · exact .nil _
  | endTuple shown =>
    show Under Rule.ofFields (store.endTuple shown)
    unfold endTuple
    split
    · split
      · exact .one (by decide) ..
      · exact .nil _
    · split
      · exact .nil _
      · split <;> exact .one (by decide) ..

theorem perform_under (store : ValueStore) (operation : StoreOperation) :
    Under Rule.ofStores (store.perform operation).2 := by
  by_cases fits : operation.Fits store.identity
  · exact (store.perform_fits fits).mono (by decide)
  · simp only [StoreOperation.Fits, not_forall, Nat.not_lt] at fits
    obtain ⟨field, value, shown, rfl, unknown⟩ := fits
    show Under Rule.ofStores (store.addValue field value shown).2
    rw [addValue, List.getElem?_eq_none unknown]
    exact .one (by decide) ..

end ValueStore

namespace StoreCache

/-- Stores report under some rules, if all stores for the same constraints do so. -/
theorem performAll_told {rules : List Rule} (cache : StoreCache)
    {requests : List (Nat × StoreOperation)}
    (each : ∀ request ∈ requests, ∀ store : ValueStore,
      (cache.stores.map ValueStore.identity)[request.1]? = some store.identity →
        Under rules (store.perform request.2).2) :
    Under rules ((cache.performAll requests).2.map Prod.snd) := by
  induction requests generalizing cache with
  | nil => exact .nil _
  | cons request rest ofRest =>
    obtain ⟨first, others⟩ := List.forall_mem_cons.mp each
    rw [← cache.perform_identities request.1 request.2] at others
    rw [performAll, List.map_append]
    refine .append ?_ (ofRest _ others)
    unfold perform
    split
    · rename_i store standing
      have reported : ((store.perform request.2).2.map (Prod.mk request.1)).map Prod.snd =
          (store.perform request.2).2 := by
        rw [List.map_map]
        exact List.map_id _
      rw [reported]
      refine first store ?_
      rw [List.getElem?_map, standing]
      rfl
    · exact .nil _

/-- Stores report under rules of their own. -/
theorem performAll_under (cache : StoreCache) (requests : List (Nat × StoreOperation)) :
    Under Rule.ofStores ((cache.performAll requests).2.map Prod.snd) :=
  cache.performAll_told fun request _ store _ => store.perform_under request.2

theorem checkReference_under (cache : StoreCache) (id : Nat) (shown : String) :
    Under Rule.ofReferences (cache.checkReference id shown) := by
  unfold checkReference
  split
  · exact .nil _
  · split
    · exact .nil _
    · dsimp only
      split
      · exact .one (by decide) ..
      · refine ⟨fun diagnostic member => ?_⟩
        obtain ⟨tuple, -, rfl⟩ := List.mem_map.mp member
        show Rule.keyNotFound ∈ Rule.ofReferences
        decide

end StoreCache

/-! ### The engine -/

namespace IdentityEngine

theorem closeContext_under (context : IdentityContext) (shown : String) (cache : StoreCache) :
    Under Rule.ofReferences (closeContext context shown cache).2 := by
  refine ⟨fun diagnostic member => ?_⟩
  obtain ⟨id, -, told⟩ := List.mem_flatMap.mp member
  exact (StoreCache.checkReference_under _ id shown).told diagnostic told

theorem gist_closeContext (context : IdentityContext) (shown : String) (cache : StoreCache) :
    gist (closeContext context shown cache).2 = [] := by
  rw [gist, List.map_eq_nil_iff, List.filter_eq_nil_iff]
  intro diagnostic member
  have refers := (closeContext_under context shown cache).told diagnostic member
  have apart : ∀ rule ∈ Rule.ofReferences, ¬ rule.isOfTuple = true := by decide
  exact apart _ refers

theorem reports_under (engine : IdentityEngine) (tag : AssessedTag) :
    Under Rule.ofStores ((engine.reports tag).map Prod.snd) := by
  cases tag with
  | start event => exact StoreCache.performAll_under _ _
  | finish value shown => exact StoreCache.performAll_under _ _

theorem ofReference_reports (engine : IdentityEngine) (tag : AssessedTag) :
    ofReference ((engine.reports tag).map Prod.snd) = [] := by
  rw [ofReference, List.filter_eq_nil_iff]
  intro diagnostic member
  have apart : ∀ rule ∈ Rule.ofStores, ¬ rule.isOfReference = true := by decide
  exact apart _ ((engine.reports_under tag).told diagnostic member)

/-- What is found at a tag: the reports of the stores, and at an end tag, behind them, what is wrong
with the references of the element. -/
theorem read_found (engine : IdentityEngine) (tag : AssessedTag) :
    (engine.read tag).2 = (engine.reports tag).map Prod.snd ++
      match tag, engine.contexts with
      | .finish value shown, context :: _ =>
        (closeContext context shown
          (engine.cache.performAll (finishRequestsOf value shown engine.matchers)).1).2
      | _, _ => [] := by
  cases tag with
  | start event =>
    rw [List.append_nil]
    exact congrArg Prod.snd (start_eq engine event)
  | finish value shown =>
    cases contexts : engine.contexts with
    | nil =>
      rw [List.append_nil]
      show (engine.finish value shown).2 = _
      unfold finish
      rw [finishMatchers_eq, contexts]
      rfl
    | cons context outer => exact congrArg Prod.snd (finish_eq engine value shown contexts)

/-- The engine finds something under the rules of identity constraints alone. -/
theorem read_under (engine : IdentityEngine) (tag : AssessedTag) :
    Under (Rule.ofStores ++ Rule.ofReferences) (engine.read tag).2 := by
  rw [read_found]
  refine .append ((engine.reports_under tag).mono (by decide)) ?_
  split
  · exact (closeContext_under ..).mono (by decide)
  · exact .nil _

/-- All that is told about tuples is reported by stores. -/
theorem gist_read (engine : IdentityEngine) (tag : AssessedTag) :
    gist (engine.read tag).2 = gist ((engine.reports tag).map Prod.snd) := by
  rw [read_found, gist_append]
  split
  · rw [gist_closeContext, List.append_nil]
  · exact List.append_nil _

theorem gist_readAll (engine : IdentityEngine) (tags : List AssessedTag) :
    gist (engine.readAll tags).2 = gist ((engine.reportsAll tags).map Prod.snd) := by
  induction tags generalizing engine with
  | nil => rfl
  | cons tag rest ofRest =>
    rw [readAll, reportsAll, List.map_append, gist_append, gist_append, gist_read, ofRest]

/-- What is told about references at an end tag is told when the element closes. -/
theorem ofReference_finish (engine : IdentityEngine) (value : Option Value) (shown : String)
    {context : IdentityContext} {outer : List IdentityContext}
    (contexts : engine.contexts = context :: outer) :
    ofReference (engine.finish value shown).2 =
      (closeContext context shown
        (engine.cache.performAll (finishRequestsOf value shown engine.matchers)).1).2 := by
  have found := engine.read_found (.finish value shown)
  rw [contexts] at found
  show ofReference (engine.read (.finish value shown)).2 = _
  rw [found, ofReference_append, ofReference_reports, List.nil_append]
  refine List.filter_eq_self.mpr fun diagnostic member => ?_
  have refers : ∀ rule ∈ Rule.ofReferences, rule.isOfReference = true := by decide
  exact refers _ ((closeContext_under _ _ _).told diagnostic member)

end IdentityEngine

end SchemaAssessment
