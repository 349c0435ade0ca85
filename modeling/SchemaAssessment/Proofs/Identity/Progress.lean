/-
The tuple in progress. A store has room for a single one: the values that fields were
given since a selected element last began, the first one of each field. What the store
makes of the next operation depends on these values alone; the tuples that it recorded
before only decide whether one more of them is a repetition.
-/

import SchemaAssessment.Proofs.Identity.Verdict

namespace SchemaAssessment

/-! ### What becomes of an operation -/

/-- What a store makes of an operation: a tuple may be complete, and something may be told. -/
structure StoreOutcome where
  tuple : Option Tuple
  told : List (Rule × List String)

namespace StoreOperation

/-- The values in progress behind an operation. -/
def heldBehind (held : List (Option Value)) : StoreOperation → List (Option Value)
  | .beginTuple => held.map fun _ => none
  | .give field value _ =>
    match held[field]? with
    | some none => held.set field (some value)
    | _ => held
  | .noteNillable _ | .endTuple _ => held

/-- What becomes of an operation when some values are in progress. -/
def outcome (identity : IdentityConstraint) (declarer : String) (held : List (Option Value)) :
    StoreOperation → StoreOutcome
  | .beginTuple | .noteNillable _ => ⟨none, []⟩
  | .give field value _ =>
    match held[field]?, identity.fields[field]? with
    | some none, _ => ⟨completed (held.set field (some value)), []⟩
    | _, some expression => ⟨none, [(.fieldMultipleMatch, [expression])]⟩
    | _, none => ⟨none, [(.unknownField, [toString field])]⟩
  | .endTuple _ =>
    ⟨none,
      if held.all Option.isNone then identity.absence declarer
      else if held.all Option.isSome then []
      else [identity.shortage declarer]⟩

theorem length_heldBehind (held : List (Option Value)) (operation : StoreOperation) :
    (operation.heldBehind held).length = held.length := by
  cases operation with
  | beginTuple => exact List.length_map ..
  | give field value shown =>
    unfold heldBehind
    dsimp only
    split
    · exact List.length_set
    · rfl
  | noteNillable shown => rfl
  | endTuple shown => rfl

end StoreOperation

/-- The values in progress behind some operations. -/
def heldBehindAll (held : List (Option Value)) (operations : List StoreOperation) :
    List (Option Value) :=
  operations.foldl StoreOperation.heldBehind held

/-- What becomes of some operations in turn. -/
def outcomesOf (identity : IdentityConstraint) (declarer : String) (held : List (Option Value)) :
    List StoreOperation → List StoreOutcome
  | [] => []
  | operation :: rest =>
    operation.outcome identity declarer held ::
      outcomesOf identity declarer (operation.heldBehind held) rest

theorem outcomesOf_append (identity : IdentityConstraint) (declarer : String)
    (held : List (Option Value)) (first second : List StoreOperation) :
    outcomesOf identity declarer held (first ++ second) =
      outcomesOf identity declarer held first ++
        outcomesOf identity declarer (heldBehindAll held first) second := by
  induction first generalizing held with
  | nil => rfl
  | cons operation rest ofRest => exact congrArg (_ :: ·) (ofRest _)

theorem length_outcomesOf (identity : IdentityConstraint) (declarer : String)
    (held : List (Option Value)) (operations : List StoreOperation) :
    (outcomesOf identity declarer held operations).length = operations.length := by
  induction operations generalizing held with
  | nil => rfl
  | cons operation rest ofRest => exact congrArg (· + 1) (ofRest _)

theorem length_heldBehindAll (held : List (Option Value)) (operations : List StoreOperation) :
    (heldBehindAll held operations).length = held.length := by
  induction operations generalizing held with
  | nil => rfl
  | cons operation rest ofRest => exact (ofRest _).trans (operation.length_heldBehind held)

/-! ### What is told -/

/-- What is told of an outcome when some tuples have been recorded before. -/
def StoreOutcome.tidings (identity : IdentityConstraint) (declarer : String) (recorded : List Tuple)
    (outcome : StoreOutcome) : List (Rule × List String) :=
  outcome.told ++
    match outcome.tuple with
    | some tuple =>
      if recorded.any fun earlier => Value.sameItems earlier tuple then
        identity.repetition declarer tuple
      else []
    | none => []

/-- What is told of some outcomes in turn, each in the light of the tuples that were complete
before. -/
def tidings (identity : IdentityConstraint) (declarer : String) (recorded : List Tuple) :
    List StoreOutcome → List (Rule × List String)
  | [] => []
  | outcome :: rest =>
    outcome.tidings identity declarer recorded ++
      tidings identity declarer (recorded ++ outcome.tuple.toList) rest

/-- The tuples that are complete by some outcomes. -/
def tuplesOf (outcomes : List StoreOutcome) : List Tuple := outcomes.filterMap StoreOutcome.tuple

theorem tuplesOf_cons (outcome : StoreOutcome) (rest : List StoreOutcome) :
    tuplesOf (outcome :: rest) = outcome.tuple.toList ++ tuplesOf rest := by
  rw [tuplesOf, List.filterMap_cons]
  cases outcome.tuple <;> rfl

theorem tuplesOf_append (first second : List StoreOutcome) :
    tuplesOf (first ++ second) = tuplesOf first ++ tuplesOf second :=
  List.filterMap_append

theorem tidings_append (identity : IdentityConstraint) (declarer : String) (recorded : List Tuple)
    (first second : List StoreOutcome) :
    tidings identity declarer recorded (first ++ second) =
      tidings identity declarer recorded first ++
        tidings identity declarer (recorded ++ tuplesOf first) second := by
  induction first generalizing recorded with
  | nil =>
    rw [tuplesOf, List.filterMap_nil, List.append_nil]
    rfl
  | cons outcome rest ofRest =>
    simp only [List.cons_append, tidings, ofRest, tuplesOf_cons, List.append_assoc]

namespace IdentityConstraint

theorem repetition_of_isKeyRef {identity : IdentityConstraint} (refers : identity.isKeyRef = true)
    (declarer : String) (tuple : Tuple) : identity.repetition declarer tuple = [] := by
  rw [repetition, beq_iff_eq.mp refers]

/-- What is told depends on which tuples are the same as recorded ones, and for references not even
on that. -/
theorem tidings_congr {identity : IdentityConstraint} {recorded others : List Tuple}
    (alike : identity.isKeyRef = false → ∀ tuple,
      (recorded.any fun earlier => Value.sameItems earlier tuple) =
        others.any fun earlier => Value.sameItems earlier tuple)
    (declarer : String) (outcome : StoreOutcome) :
    outcome.tidings identity declarer recorded = outcome.tidings identity declarer others := by
  unfold StoreOutcome.tidings
  cases outcome.tuple with
  | none => rfl
  | some tuple =>
    refine congrArg (_ ++ ·) ?_
    show (if _ then _ else _) = if _ then _ else _
    cases kind : identity.isKeyRef with
    | false => rw [alike kind]
    | true => rw [repetition_of_isKeyRef kind, ite_self, ite_self]

end IdentityConstraint

/-! ### Sets of tuples -/

namespace TupleSet

/-- Whether a tuple is in a set is a question about all tuples that are the same. -/
theorem contains_of_same {set : TupleSet} {tuple other : Tuple}
    (same : Value.sameItems tuple other = true) (present : set.contains tuple = true) :
    set.contains other = true := by
  obtain ⟨member, inside, related⟩ := List.any_eq_true.mp present
  exact List.any_eq_true.mpr ⟨member, inside, Value.sameItems_trans related same⟩

theorem contains_insert (set : TupleSet) (tuple other : Tuple) :
    (set.insert tuple).contains other = (set.contains other || Value.sameItems tuple other) := by
  unfold insert
  split
  · rename_i present
    cases same : Value.sameItems tuple other with
    | false => rw [Bool.or_false]
    | true => rw [contains_of_same same present, Bool.or_true]
  · rw [contains, List.any_append, List.any_cons, List.any_nil, Bool.or_false]
    rfl

end TupleSet

/-! ### Stores and what they have seen -/

/-- A store of a constraint that has recorded some tuples. -/
structure ValueStore.HasSeen (store : ValueStore) (identity : IdentityConstraint)
    (declarer : String) (recorded : List Tuple) : Prop where
  same : store.identity = identity
  sameElement : store.element = declarer
  fits : store.current.length = identity.fields.length
  counted : store.assigned = store.current.countP Option.isSome
  holds : identity.isKeyRef = false → ∀ tuple,
    store.tuples.contains tuple = recorded.any fun earlier => Value.sameItems earlier tuple
  refers : identity.isKeyRef = true → store.references = recorded

namespace ValueStore

variable {store : ValueStore} {identity : IdentityConstraint} {declarer : String}
  {recorded : List Tuple}

/-- In an empty tuple no field has a value. -/
theorem countP_map_none {α β : Type} (items : List α) :
    (items.map fun _ => (none : Option β)).countP Option.isSome = 0 := by
  rw [List.countP_eq_zero]
  rintro entry member taken
  obtain ⟨_, -, rfl⟩ := List.mem_map.mp member
  cases taken

theorem hasSeen_start (identity : IdentityConstraint) (declarer : String) :
    (start identity declarer).HasSeen identity declarer [] where
  same := rfl
  sameElement := rfl
  fits := List.length_map ..
  counted := (countP_map_none _).symm
  holds := fun _ _ => rfl
  refers := fun _ => rfl

/-- The store with one more tuple. -/
def record (store : ValueStore) (tuple : Tuple) : ValueStore :=
  match store.identity.kind with
  | .keyRef => { store with references := store.references ++ [tuple] }
  | .unique | .key => { store with tuples := store.tuples.insert tuple }

theorem complete_eq (store : ValueStore) (tuple : Tuple) (shown : String) :
    (store.complete tuple shown).1 = store.record tuple ∧
      gist (store.complete tuple shown).2 =
        if store.tuples.contains tuple then store.identity.repetition store.element tuple
        else [] := by
  unfold complete record IdentityConstraint.repetition
  have unchanged (present : store.tuples.contains tuple = true) :
      { store with tuples := store.tuples.insert tuple } = store := by
    rw [TupleSet.insert, if_pos present]
  cases store.identity.kind with
  | keyRef => exact ⟨rfl, (ite_self _).symm⟩
  | unique =>
    dsimp only
    split
    · rename_i present
      exact ⟨(unchanged present).symm, rfl⟩
    · exact ⟨rfl, rfl⟩
  | key =>
    dsimp only
    split
    · rename_i present
      exact ⟨(unchanged present).symm, rfl⟩
    · exact ⟨rfl, rfl⟩

theorem record_current (store : ValueStore) (tuple : Tuple) :
    (store.record tuple).current = store.current ∧
      (store.record tuple).assigned = store.assigned := by
  unfold record
  split <;> exact ⟨rfl, rfl⟩

/-- A store that records a tuple has seen it behind the others. -/
theorem HasSeen.record (seen : store.HasSeen identity declarer recorded) (tuple : Tuple) :
    (store.record tuple).HasSeen identity declarer (recorded ++ [tuple]) := by
  obtain ⟨rfl, sameElement, fits, counted, holds, refers⟩ := seen
  have inserted (kind : store.identity.isKeyRef = false) (other : Tuple) :
      (store.tuples.insert tuple).contains other =
        (recorded ++ [tuple]).any fun earlier => Value.sameItems earlier other := by
    rw [TupleSet.contains_insert, holds kind, List.any_append, List.any_cons, List.any_nil,
      Bool.or_false]
  unfold ValueStore.record
  split
  · rename_i kind
    have isKeyRef : store.identity.isKeyRef = true := beq_iff_eq.mpr kind
    exact ⟨rfl, sameElement, fits, counted,
      fun other => absurd (other.symm.trans isKeyRef) Bool.false_ne_true,
      fun _ => congrArg (· ++ [tuple]) (refers isKeyRef)⟩
  all_goals
    rename_i kind
    have isKeyRef : store.identity.isKeyRef = false := by
      rw [IdentityConstraint.isKeyRef, kind]
      rfl
    exact ⟨rfl, sameElement, fits, counted, inserted,
      fun other => absurd (isKeyRef.symm.trans other) Bool.false_ne_true⟩

/-- The values in progress may change without the store forgetting any tuple, if they are
counted. -/
theorem HasSeen.holding (seen : store.HasSeen identity declarer recorded)
    {current : List (Option Value)} {assigned : Nat}
    (fits : current.length = store.current.length)
    (counted : assigned = current.countP Option.isSome) :
    { store with current, assigned }.HasSeen identity declarer recorded :=
  ⟨seen.same, seen.sameElement, fits.trans seen.fits, counted, seen.holds, seen.refers⟩

theorem HasSeen.beginTuple (seen : store.HasSeen identity declarer recorded) :
    store.beginTuple.HasSeen identity declarer recorded :=
  seen.holding (List.length_map ..) (countP_map_none _).symm

/-- A value for a field without one makes one more. -/
theorem countP_set_some {held : List (Option Value)} {field : Nat}
    (empty : held[field]? = some none) (value : Value) :
    (held.set field (some value)).countP Option.isSome = held.countP Option.isSome + 1 := by
  obtain ⟨inside, nothing⟩ := List.getElem?_eq_some_iff.mp empty
  rw [List.countP_set inside, nothing]
  rfl

/-- The store with a value for one more field. -/
def fill (store : ValueStore) (field : Nat) (value : Value) : ValueStore :=
  { store with current := store.current.set field (some value), assigned := store.assigned + 1 }

theorem HasSeen.fill (seen : store.HasSeen identity declarer recorded) {field : Nat}
    (empty : store.current[field]? = some none) (value : Value) :
    (store.fill field value).HasSeen identity declarer recorded :=
  seen.holding List.length_set (by rw [countP_set_some empty, seen.counted])

/-! ### One operation -/

theorem HasSeen.isComplete_iff (seen : store.HasSeen identity declarer recorded) :
    store.isComplete = store.current.all Option.isSome := by
  rw [isComplete, seen.counted, Bool.eq_iff_iff, beq_iff_eq, List.countP_eq_length,
    List.all_eq_true]

theorem HasSeen.assigned_eq_zero_iff (seen : store.HasSeen identity declarer recorded) :
    store.assigned = 0 ↔ store.current.all Option.isNone = true := by
  rw [seen.counted, List.countP_eq_zero, List.all_eq_true]
  refine forall₂_congr fun value _ => ?_
  cases value <;> simp

/-- What is reported at the end of a selected element. -/
theorem HasSeen.endTuple_eq (seen : store.HasSeen identity declarer recorded) (shown : String) :
    store.endTuple shown =
      (if store.current.all Option.isNone then store.identity.absence store.element
        else if store.current.all Option.isSome then []
        else [store.identity.shortage store.element]).map
          fun said => ⟨said.1, shown, said.2⟩ := by
  unfold endTuple
  rw [seen.isComplete_iff]
  by_cases zero : store.assigned = 0
  · rw [if_pos zero, if_pos (seen.assigned_eq_zero_iff.mp zero), IdentityConstraint.absence]
    split <;> rfl
  · rw [if_neg zero, if_neg fun all => zero (seen.assigned_eq_zero_iff.mpr all),
      IdentityConstraint.shortage]
    split
    · rfl
    · cases store.identity.kind <;> rfl

theorem HasSeen.gist_endTuple (seen : store.HasSeen identity declarer recorded) (shown : String) :
    gist (store.endTuple shown) =
      if store.current.all Option.isNone then store.identity.absence store.element
      else if store.current.all Option.isSome then []
      else [store.identity.shortage store.element] := by
  rw [seen.endTuple_eq, IdentityConstraint.absence, IdentityConstraint.shortage]
  split
  · split <;> rfl
  · split
    · rfl
    · cases store.identity.kind <;> rfl

/-- A field without a value takes the one that it is given, which may complete the tuple. -/
theorem HasSeen.addValue_of_none (seen : store.HasSeen identity declarer recorded) {field : Nat}
    {expression : String} (standing : store.identity.fields[field]? = some expression)
    (empty : store.current[field]? = some none) (value : Value) (shown : String) :
    store.addValue field value shown =
      match completed (store.current.set field (some value)) with
      | some tuple => (store.fill field value).complete tuple shown
      | none => (store.fill field value, []) := by
  rw [addValue, standing, empty]
  show (if (store.fill field value).isComplete then _ else _) = _
  rw [(seen.fill empty value).isComplete_iff, completed]
  show (if (store.current.set field (some value)).all Option.isSome then _ else _) = _
  split <;> rfl

/-- A field that has a value refuses any other. -/
theorem addValue_of_some {field : Nat} {expression : String} {first : Value}
    (standing : store.identity.fields[field]? = some expression)
    (taken : store.current[field]? = some (some first)) (value : Value) (shown : String) :
    store.addValue field value shown = (store, [⟨.fieldMultipleMatch, shown, [expression]⟩]) := by
  rw [addValue, standing, taken]

theorem addValue_of_unknown {field : Nat} (unknown : store.identity.fields[field]? = none)
    (value : Value) (shown : String) :
    store.addValue field value shown = (store, [⟨.unknownField, shown, [toString field]⟩]) := by
  rw [addValue, unknown]

/-- A value is for no field, for one that has a value, or for one that takes it. -/
theorem HasSeen.addValue_cases (seen : store.HasSeen identity declarer recorded) (field : Nat)
    (value : Value) (shown : String) :
    (identity.fields[field]? = none ∧ store.current[field]? = none ∧
      store.addValue field value shown = (store, [⟨.unknownField, shown, [toString field]⟩])) ∨
    ∃ expression, identity.fields[field]? = some expression ∧
      ((∃ first, store.current[field]? = some (some first) ∧
        store.addValue field value shown =
          (store, [⟨.fieldMultipleMatch, shown, [expression]⟩])) ∨
      store.current[field]? = some none ∧
        store.addValue field value shown =
          match completed (store.current.set field (some value)) with
          | some tuple => (store.fill field value).complete tuple shown
          | none => (store.fill field value, [])) := by
  have identities := seen.same
  cases standing : identity.fields[field]? with
  | none =>
    refine .inl ⟨rfl, ?_, addValue_of_unknown (by rw [identities, standing]) value shown⟩
    rw [List.getElem?_eq_none_iff, seen.fits]
    exact List.getElem?_eq_none_iff.mp standing
  | some expression =>
    have known : store.identity.fields[field]? = some expression := by
      rw [identities, standing]
    obtain ⟨entry, has⟩ : ∃ entry, store.current[field]? = some entry :=
      ⟨_, List.getElem?_eq_getElem (seen.fits ▸ (List.getElem?_eq_some_iff.mp standing).1)⟩
    refine .inr ⟨expression, rfl, ?_⟩
    cases entry with
    | some first => exact .inl ⟨first, has, addValue_of_some known has value shown⟩
    | none => exact .inr ⟨has, seen.addValue_of_none known has value shown⟩

/-- Behind a value that was given a store has recorded the tuple that it completed, if any. -/
theorem HasSeen.addValue (seen : store.HasSeen identity declarer recorded) (field : Nat)
    (value : Value) (shown : String) :
    let operation := StoreOperation.give field value shown
    let outcome := operation.outcome identity declarer store.current
    let added := store.addValue field value shown
    added.1.HasSeen identity declarer (recorded ++ outcome.tuple.toList) ∧
      added.1.current = operation.heldBehind store.current ∧
        gist added.2 = outcome.tidings identity declarer recorded := by
  dsimp only
  rw [StoreOperation.outcome, StoreOperation.heldBehind]
  rcases seen.addValue_cases field value shown with
    ⟨unknown, outside, added⟩ | ⟨expression, known, ⟨first, taken, added⟩ | ⟨empty, added⟩⟩
  · rw [added, unknown, outside]
    exact ⟨by rw [Option.toList_none, List.append_nil]; exact seen, rfl, rfl⟩
  · rw [added, known, taken]
    exact ⟨by rw [Option.toList_none, List.append_nil]; exact seen, rfl, rfl⟩
  · have filled := seen.fill empty value
    rw [added, empty]
    dsimp only
    cases completed (store.current.set field (some value)) with
    | none => exact ⟨by rw [Option.toList_none, List.append_nil]; exact filled, rfl, rfl⟩
    | some tuple =>
      obtain ⟨recording, told⟩ := complete_eq (store.fill field value) tuple shown
      dsimp only
      rw [recording, told]
      refine ⟨filled.record tuple, (record_current _ _).1, ?_⟩
      rw [filled.same, filled.sameElement]
      exact IdentityConstraint.tidings_congr filled.holds declarer ⟨some tuple, []⟩

/-- Behind an operation a store has recorded the tuple that was completed, holds the values then in
progress, and has told of the outcome. -/
theorem HasSeen.perform (seen : store.HasSeen identity declarer recorded)
    (operation : StoreOperation) :
    let outcome := operation.outcome identity declarer store.current
    let performed := store.perform operation
    performed.1.HasSeen identity declarer (recorded ++ outcome.tuple.toList) ∧
      performed.1.current = operation.heldBehind store.current ∧
        gist performed.2 = outcome.tidings identity declarer recorded := by
  cases operation with
  | beginTuple =>
    refine ⟨?_, rfl, rfl⟩
    rw [StoreOperation.outcome, Option.toList_none, List.append_nil]
    exact seen.beginTuple
  | noteNillable shown =>
    refine ⟨?_, rfl, ?_⟩
    · rw [StoreOperation.outcome, Option.toList_none, List.append_nil]
      exact seen
    · rw [ValueStore.perform]
      split <;> rfl
  | endTuple shown =>
    refine ⟨?_, rfl, ?_⟩
    · rw [StoreOperation.outcome, Option.toList_none, List.append_nil]
      exact seen
    · have told := seen.gist_endTuple shown
      rw [seen.same, seen.sameElement] at told
      exact told.trans (List.append_nil _).symm
  | give field value shown => exact seen.addValue field value shown

/-- A store records, holds and tells what becomes of the operations that it performs. -/
theorem HasSeen.performAll (seen : store.HasSeen identity declarer recorded)
    (operations : List StoreOperation) :
    let outcomes := outcomesOf identity declarer store.current operations
    let performed := store.performAll operations
    performed.1.HasSeen identity declarer (recorded ++ tuplesOf outcomes) ∧
      performed.1.current = heldBehindAll store.current operations ∧
        gist performed.2 = tidings identity declarer recorded outcomes := by
  induction operations generalizing store recorded with
  | nil =>
    refine ⟨?_, rfl, rfl⟩
    rw [outcomesOf, tuplesOf, List.filterMap_nil, List.append_nil]
    exact seen
  | cons operation rest ofRest =>
    obtain ⟨recording, held, told⟩ := seen.perform operation
    obtain ⟨recordingAll, heldAll, toldAll⟩ := ofRest recording
    dsimp only at recordingAll heldAll toldAll ⊢
    rw [held] at recordingAll heldAll toldAll
    rw [outcomesOf, tuplesOf_cons, ← List.append_assoc, tidings]
    refine ⟨recordingAll, heldAll, ?_⟩
    show gist ((store.perform operation).2 ++ _) = _
    rw [gist_append, told, toldAll]

end ValueStore

end SchemaAssessment
