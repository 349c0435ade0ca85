/-
What becomes of selected elements that lie apart. A store sees them one after the other;
of each of them it tells what the values of its fields call for, in the light of the
tuples that were complete before, and afterwards it has recorded the tuples of those
whose fields all had a value.
-/

import SchemaAssessment.Proofs.Identity.Bearer
import SchemaAssessment.Proofs.Identity.Progress

namespace SchemaAssessment

/-! ### Paths of a constraint -/

theorem length_of_mapM {α β ε : Type} {make : α → Except ε β} {items : List α} {made : List β}
    (done : items.mapM make = .ok made) : made.length = items.length := by
  induction items generalizing made with
  | nil =>
    obtain rfl := Except.ok.inj done
    rfl
  | cons item rest ofRest =>
    rw [List.mapM_cons] at done
    cases first : make item with
    | error fault =>
      rw [first] at done
      cases done
    | ok value =>
      cases others : rest.mapM make with
      | error fault =>
        rw [first, others] at done
        cases done
      | ok values =>
        rw [first, others] at done
        obtain rfl := Except.ok.inj done
        exact congrArg (· + 1) (ofRest others)

/-- A constraint that is well formed has at least one field, and a path for each. -/
theorem IdentityConstraint.fields_of_compile {identity : IdentityConstraint}
    {compiled : CompiledIdentity} (done : identity.compile = .ok compiled) :
    identity.fields.length = compiled.fields.length ∧ 0 < compiled.fields.length := by
  unfold compile at done
  cases empty : identity.fields.isEmpty with
  | true =>
    rw [if_pos empty] at done
    cases done
  | false =>
    rw [if_neg fun full => Bool.false_ne_true (empty.symm.trans full)] at done
    cases selector : identity.readPath .selector identity.selector with
    | error fault =>
      rw [selector] at done
      cases done
    | ok path =>
      cases fields : identity.fields.mapM (identity.readPath .field) with
      | error fault =>
        rw [selector, fields] at done
        cases done
      | ok paths =>
        rw [selector, fields] at done
        obtain rfl := Except.ok.inj done
        have same : paths.length = identity.fields.length := length_of_mapM fields
        refine ⟨same.symm, ?_⟩
        show 0 < paths.length
        rw [same]
        exact List.length_pos_iff.mpr (List.isEmpty_eq_false_iff.mp empty)

/-- The constraints that are opened at a start tag are well formed. -/
theorem ElementStart.compile_of_constraint {event : ElementStart} {index : Nat}
    {identity : IdentityConstraint} {compiled : CompiledIdentity}
    (constraint : event.constraints[index]? = some (identity, compiled)) :
    identity.compile = .ok compiled := by
  have member := List.mem_of_getElem? constraint
  unfold constraints at member
  split at member
  · obtain ⟨other, -, same⟩ := List.mem_filterMap.mp member
    unfold IdentityConstraint.compiled? at same
    split at same
    · rename_i done
      obtain ⟨rfl, rfl⟩ := Prod.mk.inj (Option.some.inj same)
      exact done
    · cases same
  · cases member

/-! ### The outcomes of one selected element -/

section Window

variable (identity : IdentityConstraint) (declarer : String)

theorem tidings_of_tuples_nil {recorded : List Tuple} {outcomes : List StoreOutcome}
    (none : tuplesOf outcomes = []) :
    tidings identity declarer recorded outcomes = outcomes.flatMap StoreOutcome.told := by
  induction outcomes generalizing recorded with
  | nil => rfl
  | cons outcome rest ofRest =>
    rw [tuplesOf_cons] at none
    obtain ⟨here, further⟩ := List.append_eq_nil_iff.mp none
    rw [Option.toList_eq_nil_iff] at here
    rw [tidings, ofRest further, StoreOutcome.tidings, here, List.append_nil]
    rfl

/-- Where at most one tuple is complete, it is a repetition of what was recorded before or not. -/
theorem tidings_of_tuple {recorded : List Tuple} {outcomes : List StoreOutcome}
    {tuple? : Option Tuple} (single : tuplesOf outcomes = tuple?.toList) :
    (tidings identity declarer recorded outcomes).Perm
      (outcomes.flatMap StoreOutcome.told ++
        (StoreOutcome.tidings identity declarer recorded ⟨tuple?, []⟩)) := by
  cases tuple? with
  | none =>
    rw [tidings_of_tuples_nil identity declarer single]
    exact .of_eq (List.append_nil _).symm
  | some tuple =>
    induction outcomes generalizing recorded with
    | nil => cases single
    | cons outcome rest ofRest =>
      rw [tuplesOf_cons] at single
      rw [tidings]
      cases here : outcome.tuple with
      | none =>
        rw [here] at single
        rw [Option.toList_none, List.append_nil, StoreOutcome.tidings, here, List.append_nil,
          List.flatMap_cons, List.append_assoc]
        exact (ofRest single).append_left _
      | some own =>
        rw [here] at single
        obtain ⟨rfl, none⟩ := List.cons.inj single
        rw [tidings_of_tuples_nil identity declarer none, StoreOutcome.tidings, here,
          List.flatMap_cons, StoreOutcome.tidings, List.nil_append, List.append_assoc,
          List.append_assoc]
        exact List.perm_append_comm.append_left _

variable {count : Nat}

theorem getElem?_valuesOfAll {field : Nat} (inside : field < count)
    (operations : List StoreOperation) :
    (valuesOfAll count operations)[field]? = some (valuesGiven field operations) := by
  rw [valuesOfAll, List.getElem?_map, List.getElem?_range inside]
  rfl

/-- Between the beginning of a tuple and its end, the first value of each field is in progress, and
the others are refused. -/
theorem outcomesOf_gifts (positive : 0 < count) (fits : identity.fields.length = count)
    {operations : List StoreOperation}
    (gifts : ∀ operation ∈ operations, operation.IsGift count) :
    let values := valuesOfAll count operations
    let empty := List.replicate count none
    let outcomes := outcomesOf identity declarer empty operations
    heldBehindAll empty operations = values.map List.head? ∧
      tuplesOf outcomes = (tupleOf? values).toList ∧
        (outcomes.flatMap StoreOutcome.told).Perm (surplus identity.fields values) := by
  induction operations using List.reverseRecOn with
  | nil =>
    have empty : (List.replicate count ([] : List Value))[0]? = some [] := by
      rw [List.getElem?_replicate, if_pos positive]
    dsimp only
    rw [valuesOfAll_nil, surplus_replicate_nil, tupleOf?_of_nil empty, List.map_replicate]
    exact ⟨rfl, rfl, List.Perm.refl _⟩
  | append_singleton operations operation ofOperations =>
    obtain ⟨held, tuples, told⟩ := ofOperations fun earlier member =>
      gifts earlier (List.mem_append_left _ member)
    have gift := gifts operation (List.mem_append_right _ List.mem_cons_self)
    dsimp only at held tuples told ⊢
    have heldAll : heldBehindAll (List.replicate count none) (operations ++ [operation]) =
        operation.heldBehind ((valuesOfAll count operations).map List.head?) := by
      rw [← held, heldBehindAll, List.foldl_append]
      rfl
    rw [heldAll, outcomesOf_append, held, tuplesOf_append, tuples, List.flatMap_append, outcomesOf,
      outcomesOf, tuplesOf_cons, List.flatMap_singleton]
    cases operation with
    | beginTuple => cases gift
    | endTuple => cases gift
    | noteNillable shown =>
      rw [valuesOfAll_append_singleton fun _ => rfl]
      exact ⟨rfl, List.append_nil _, (List.append_nil _).symm ▸ told⟩
    | give field value shown =>
      have inside : field < count := gift
      obtain ⟨expression, standing⟩ : ∃ expression, identity.fields[field]? = some expression :=
        ⟨_, List.getElem?_eq_getElem (fits ▸ inside)⟩
      have has := getElem?_valuesOfAll inside operations
      rw [valuesOfAll_give, StoreOperation.heldBehind, StoreOperation.outcome, List.getElem?_map]
      cases given : valuesGiven field operations with
      | nil =>
        rw [given] at has
        rw [has, tupleOf?_of_nil has, List.nil_append, surplus_set_first has, tupleOf?_eq,
          heads_set_first]
        exact ⟨rfl, List.append_nil _, (List.append_nil _).symm ▸ told⟩
      | cons first others =>
        rw [given] at has
        rw [has, standing, tupleOf?_eq, tupleOf?_eq, heads_set_further has]
        exact ⟨rfl, List.append_nil _,
          (told.append_right _).trans (surplus_set_further standing has value).symm⟩

/-- What is told at the end of a selected element whose fields have the given values. -/
def IdentityConstraint.lack (identity : IdentityConstraint) (declarer : String)
    (values : List (List Value)) : List (Rule × List String) :=
  match tupleOf? values with
  | some _ => []
  | none =>
    if values.all List.isEmpty then identity.absence declarer
    else [identity.shortage declarer]

theorem told_endTuple {values : List (List Value)} (nonempty : values ≠ []) (shown : String) :
    (StoreOperation.outcome identity declarer (values.map List.head?) (.endTuple shown)).told =
      identity.lack declarer values := by
  have absent : (values.map List.head?).all Option.isNone = values.all List.isEmpty := by
    rw [List.all_map]
    refine congrArg values.all (funext fun given => ?_)
    cases given <;> rfl
  show (if (values.map List.head?).all Option.isNone then _ else _) = _
  rw [absent, IdentityConstraint.lack, tupleOf?_eq, completed]
  split
  · rename_i empty
    obtain ⟨given, member⟩ := List.exists_mem_of_ne_nil values nonempty
    have incomplete : ¬ (values.map List.head?).all Option.isSome = true := fun all => by
      have some := List.all_eq_true.mp all _ (List.mem_map_of_mem member)
      rw [List.isEmpty_iff.mp (List.all_eq_true.mp empty given member)] at some
      cases some
    rw [if_neg incomplete]
  · split <;> rfl

/-- From its beginning to its end, a selected element has the tuple of the first values of its
fields, and is told what they lack or have beyond that. -/
theorem outcomesOf_tuple (positive : 0 < count) (fits : identity.fields.length = count)
    {held : List (Option Value)} (wide : held.length = count) {operations : List StoreOperation}
    (gifts : ∀ operation ∈ operations, operation.IsGift count) (shown : String) :
    let values := valuesOfAll count operations
    let outcomes := outcomesOf identity declarer held
      (.beginTuple :: (operations ++ [.endTuple shown]))
    tuplesOf outcomes = (tupleOf? values).toList ∧
      (outcomes.flatMap StoreOutcome.told).Perm
        (surplus identity.fields values ++ identity.lack declarer values) := by
  intro values outcomes
  obtain ⟨behind, tuples, told⟩ :=
    outcomesOf_gifts identity declarer positive fits gifts
  have empty : StoreOperation.heldBehind held .beginTuple = List.replicate count none := by
    show (held.map fun _ => none) = _
    rw [List.map_const', wide]
  have whole : outcomes = ⟨none, []⟩ ::
      (outcomesOf identity declarer (List.replicate count none) operations ++
        [StoreOperation.outcome identity declarer (values.map List.head?) (.endTuple shown)]) := by
    show _ :: outcomesOf identity declarer (StoreOperation.heldBehind held .beginTuple) _ = _
    rw [empty, outcomesOf_append, behind]
    rfl
  have nonempty : values ≠ [] := List.ne_nil_of_length_pos (by
    rw [length_valuesOfAll]
    exact positive)
  rw [whole, tuplesOf_cons, tuplesOf_append, tuples, List.flatMap_cons, List.flatMap_append,
    List.flatMap_singleton, told_endTuple identity declarer nonempty]
  exact ⟨List.append_nil _, told.append_right _⟩

end Window

/-! ### Selected elements one after the other -/

theorem OpenSelection.isGift_of_mem_atStart {fields : List IdentityPath} {event : ElementStart}
    {selection : OpenSelection} {operation : StoreOperation}
    (member : operation ∈ (selection.atStart fields event).map Sighting.operation) :
    operation.IsGift fields.length := by
  obtain ⟨sighting, inside, rfl⟩ := List.mem_map.mp member
  rcases eq_of_mem_atStart inside with ⟨field, value, within, rfl⟩ | rfl
  · exact within
  · trivial

theorem OpenSelection.isGift_of_mem_atFinish {fields : List IdentityPath} {value : Option Value}
    {shown : String} {selection : OpenSelection} {operation : StoreOperation}
    (member : operation ∈ (selection.atFinish fields value shown).map Sighting.operation) :
    operation.IsGift fields.length := by
  obtain ⟨sighting, inside, rfl⟩ := List.mem_map.mp member
  obtain ⟨field, given, within, rfl⟩ := eq_of_mem_atFinish inside
  exact within

/-- The operations of a selected element between its beginning and its end are for its fields. -/
theorem Selected.isGift_of_mem_own {fields : List IdentityPath} {chosen : Selected}
    {operation : StoreOperation}
    (member : operation ∈ (chosen.own fields).map Sighting.operation) :
    operation.IsGift fields.length := by
  have within (content : Assessed) (selection : OpenSelection) :
      ∀ operation ∈ (selection.within fields content).map Sighting.operation,
        operation.IsGift fields.length := by
    induction content generalizing selection with
    | nothing => exact fun _ member => by cases member
    | element start inside value later ofInside ofLater =>
      simp only [OpenSelection.within, List.map_append, List.forall_mem_append]
      exact ⟨fun _ => OpenSelection.isGift_of_mem_atStart, ofInside _,
        fun _ => OpenSelection.isGift_of_mem_atFinish, ofLater _⟩
  revert operation
  simp only [own, List.map_append, List.forall_mem_append]
  exact ⟨fun _ => OpenSelection.isGift_of_mem_atStart, within _ _,
    fun _ => OpenSelection.isGift_of_mem_atFinish⟩

theorem Selected.valuesOfAll_own (fields : List IdentityPath) (chosen : Selected) :
    valuesOfAll fields.length ((chosen.own fields).map Sighting.operation) =
      fields.map fun path => chosen.element.valuesOf path := by
  refine List.ext_getElem (by simp [length_valuesOfAll]) fun index within inside => ?_
  rw [length_valuesOfAll] at within
  simp only [valuesOfAll, List.getElem_map, List.getElem_range]
  exact chosen.valuesGiven_own (List.getElem?_eq_getElem within)

/-- The values that the fields of a constraint find from a selected element. -/
def Selected.values (compiled : CompiledIdentity) (chosen : Selected) : List (List Value) :=
  compiled.fields.map fun path => chosen.element.valuesOf path

namespace CompiledIdentity

variable {compiled : CompiledIdentity} {identity : IdentityConstraint} {declarer : String}

/-- What is told about selected elements one after the other, each in the light of the tuples that
were complete before it. -/
def verdicts (compiled : CompiledIdentity) (identity : IdentityConstraint) (declarer : String)
    (chosen : List Selected) : List (List (Rule × List String)) :=
  chosen.zipIdx.map fun (selected, index) =>
    identity.verdict declarer
      ((chosen.take index).filterMap fun earlier => tupleOf? (earlier.values compiled))
      (selected.values compiled)

theorem verdicts_append_singleton (chosen : List Selected) (last : Selected) :
    compiled.verdicts identity declarer (chosen ++ [last]) =
      compiled.verdicts identity declarer chosen ++
        [identity.verdict declarer
          (chosen.filterMap fun earlier => tupleOf? (earlier.values compiled))
          (last.values compiled)] := by
  rw [verdicts, List.zipIdx_append, List.map_append]
  refine congr (congrArg _ ?_) ?_
  · refine List.map_congr_left fun item member => ?_
    obtain ⟨selected, index⟩ := item
    have inside : index < chosen.length := List.snd_lt_of_mem_zipIdx member
    dsimp only
    rw [List.take_append_of_le_length inside.le]
  · simp

/-- What becomes of a selected element that is seen from its beginning to its end without others. -/
theorem outcomesOf_window (declarer : String) (nonempty : 0 < compiled.fields.length)
    (fits : identity.fields.length = compiled.fields.length) {held : List (Option Value)}
    (wide : held.length = compiled.fields.length) (chosen : Selected) :
    let outcomes := outcomesOf identity declarer held
      ((chosen.window compiled.fields).map Sighting.operation)
    let values := chosen.values compiled
    tuplesOf outcomes = (tupleOf? values).toList ∧
      (outcomes.flatMap StoreOutcome.told).Perm
        (surplus identity.fields values ++ identity.lack declarer values) := by
  have window : (chosen.window compiled.fields).map Sighting.operation =
      .beginTuple :: ((chosen.own compiled.fields).map Sighting.operation ++
        [.endTuple chosen.element.start.shown]) := by
    rw [Selected.window, List.map_cons, List.map_append]
    rfl
  have gifts : ∀ operation ∈ (chosen.own compiled.fields).map Sighting.operation,
      operation.IsGift compiled.fields.length :=
    fun operation => Selected.isGift_of_mem_own
  have judged := outcomesOf_tuple identity declarer nonempty fits wide gifts
    chosen.element.start.shown
  rw [← window, Selected.valuesOfAll_own] at judged
  exact judged

/-- A selected element that is seen without others is told what its values call for. -/
theorem tidings_window (nonempty : 0 < compiled.fields.length)
    (fits : identity.fields.length = compiled.fields.length) {held : List (Option Value)}
    (wide : held.length = compiled.fields.length) (recorded : List Tuple) (chosen : Selected) :
    (tidings identity declarer recorded (outcomesOf identity declarer held
      ((chosen.window compiled.fields).map Sighting.operation))).Perm
        (identity.verdict declarer recorded (chosen.values compiled)) := by
  obtain ⟨tuples, told⟩ := outcomesOf_window declarer nonempty fits wide chosen
  refine (tidings_of_tuple identity declarer tuples).trans ((told.append_right _).trans (.of_eq ?_))
  rw [IdentityConstraint.verdict, IdentityConstraint.lack, StoreOutcome.tidings, List.nil_append,
    List.append_assoc]
  refine congrArg _ ?_
  cases tupleOf? (chosen.values compiled) with
  | some tuple => rfl
  | none => exact List.append_nil _

/-- A fresh store that sees selected elements apart from each other tells about each of them what
its values call for, and has recorded the complete tuples in the end. -/
theorem performAll_windows (compiled : CompiledIdentity) (identity : IdentityConstraint)
    (declarer : String) (nonempty : 0 < compiled.fields.length)
    (fits : identity.fields.length = compiled.fields.length) (chosen : List Selected) :
    let performed := (ValueStore.start identity declarer).performAll
      ((chosen.flatMap (Selected.window compiled.fields)).map Sighting.operation)
    performed.1.HasSeen identity declarer
        (chosen.filterMap fun selected => tupleOf? (selected.values compiled)) ∧
      ∃ parts, gist performed.2 = parts.flatten ∧
        List.Forall₂ List.Perm parts (compiled.verdicts identity declarer chosen) := by
  let empty : List (Option Value) := identity.fields.map fun _ => none
  let operationsOf (chosen : List Selected) : List StoreOperation :=
    (chosen.flatMap (Selected.window compiled.fields)).map Sighting.operation
  have outcomes (chosen : List Selected) :
      tuplesOf (outcomesOf identity declarer empty (operationsOf chosen)) =
          (chosen.filterMap fun selected => tupleOf? (selected.values compiled)) ∧
        ∃ parts, tidings identity declarer []
            (outcomesOf identity declarer empty (operationsOf chosen)) = parts.flatten ∧
          List.Forall₂ List.Perm parts (compiled.verdicts identity declarer chosen) := by
    induction chosen using List.reverseRecOn with
    | nil => exact ⟨rfl, [], rfl, List.Forall₂.nil⟩
    | append_singleton chosen last ofChosen =>
      obtain ⟨tuples, parts, told, alike⟩ := ofChosen
      have operations : operationsOf (chosen ++ [last]) =
          operationsOf chosen ++ (last.window compiled.fields).map Sighting.operation := by
        simp only [operationsOf, List.flatMap_append, List.flatMap_singleton, List.map_append]
      have wide : (heldBehindAll empty (operationsOf chosen)).length = compiled.fields.length := by
        rw [length_heldBehindAll, List.length_map, fits]
      rw [operations, outcomesOf_append, tuplesOf_append, tuples, tidings_append, told, tuples,
        List.nil_append, List.filterMap_append,
        (outcomesOf_window declarer nonempty fits wide last).1, verdicts_append_singleton]
      refine ⟨rfl, parts ++ [_], by rw [List.flatten_append, List.flatten_singleton], ?_⟩
      exact List.rel_append alike
        (List.Forall₂.cons (tidings_window nonempty fits wide _ last) List.Forall₂.nil)
  obtain ⟨recording, -, told⟩ :=
    (ValueStore.hasSeen_start identity declarer).performAll (operationsOf chosen)
  obtain ⟨tuples, parts, reported, alike⟩ := outcomes chosen
  exact ⟨tuples ▸ recording, parts, told.trans reported, alike⟩

end CompiledIdentity

/-- If no selected element lies inside of another, the store of a constraint reports of each of them
what its values call for. -/
theorem IdentityEngine.reports_of_apart {engine : IdentityEngine} (tidy : engine.IsTidy)
    {element : AssessedElement} {index : Nat} {identity : IdentityConstraint}
    {compiled : CompiledIdentity}
    (constraint : element.start.constraints[index]? = some (identity, compiled))
    (apart : ∀ outer ∈ element.selected compiled.selector,
      ∀ inner ∈ element.selected compiled.selector, ¬ outer.Contains inner) :
    ∃ parts,
      gist (ofStore (engine.cache.nextId + index) (engine.reportsAll element.tags)) =
          parts.flatten ∧
        List.Forall₂ List.Perm parts (compiled.verdicts identity element.start.declarer
          (element.selected compiled.selector)) := by
  obtain ⟨fits, nonempty⟩ := IdentityConstraint.fields_of_compile
    (element.start.compile_of_constraint constraint)
  obtain ⟨-, parts, told, alike⟩ := compiled.performAll_windows identity element.start.declarer
    nonempty fits (element.selected compiled.selector)
  rw [(store_of_element tidy constraint).2, CompiledIdentity.sightingsOf_of_apart apart]
  exact ⟨parts, told, alike⟩

end SchemaAssessment
