/-
The books of a store. Tuples begin again and again, so that what is asked of a store falls
into scopes. Whatever is asked, the store holds the first value that each field was given in
the scope at hand, and counts the fields that have one. A tuple is complete with the value of
the last field without one, so that there is at most one of them for each scope. A reference
keeps all of them in order; any other constraint keeps those that are not the same as an
earlier one, and reports the others, so that none is left out of the account.
-/

import SchemaAssessment.Proofs.Identity.TupleSets

namespace SchemaAssessment

/-! ### Completion -/

theorem completed_of_none {held : List (Option Value)} {field : Nat}
    (empty : held[field]? = some none) : completed held = none :=
  if_neg fun all => Bool.false_ne_true <|
    List.all_eq_true.mp all none (List.mem_of_getElem? empty)

theorem eq_map_some {held : List (Option Value)} (all : held.all Option.isSome = true) :
    held = (held.filterMap id).map some := by
  induction held with
  | nil => rfl
  | cons entry rest ofRest =>
    rw [List.all_cons, Bool.and_eq_true] at all
    obtain ⟨first, rfl⟩ := Option.isSome_iff_exists.mp all.1
    exact congrArg (some first :: ·) (ofRest all.2)

/-- The tuple that is complete has the values in progress, in their order. -/
theorem completed_eq_some_iff {held : List (Option Value)} {tuple : Tuple} :
    completed held = some tuple ↔ held = tuple.map some := by
  constructor
  · intro found
    unfold completed at found
    split at found
    · rename_i all
      obtain rfl := Option.some.inj found
      exact eq_map_some all
    · cases found
  · rintro rfl
    simp [completed, List.filterMap_map]

namespace StoreOperation

variable {operation : StoreOperation} {held : List (Option Value)}

/-- As long as a scope goes on, an operation changes nothing, or it gives a value to a field that
has none. -/
theorem cases_of_goesOn (goesOn : operation ≠ .beginTuple) (held : List (Option Value))
    (identity : IdentityConstraint) (declarer : String) :
    (operation.heldBehind held = held ∧
      (operation.outcome identity declarer held).tuple = none) ∨
    ∃ field value, held[field]? = some none ∧
      operation.heldBehind held = held.set field (some value) ∧
      (operation.outcome identity declarer held).tuple =
        completed (held.set field (some value)) := by
  cases operation with
  | beginTuple => exact absurd rfl goesOn
  | noteNillable shown => exact .inl ⟨rfl, rfl⟩
  | endTuple shown => exact .inl ⟨rfl, rfl⟩
  | give field value shown =>
    rw [heldBehind, outcome]
    cases has : held[field]? with
    | none => cases identity.fields[field]? <;> exact .inl ⟨rfl, rfl⟩
    | some entry =>
      cases entry with
      | none => exact .inr ⟨field, value, has, rfl, rfl⟩
      | some first => cases identity.fields[field]? <;> exact .inl ⟨rfl, rfl⟩

/-- Within a scope a tuple is complete behind an operation if it was before, or if the operation
completes it. -/
theorem completed_heldBehind (goesOn : operation ≠ .beginTuple) (held : List (Option Value))
    (identity : IdentityConstraint) (declarer : String) :
    (completed (operation.heldBehind held)).toList =
      (completed held).toList ++ (operation.outcome identity declarer held).tuple.toList := by
  rcases cases_of_goesOn goesOn held identity declarer with
    ⟨behind, nothing⟩ | ⟨field, value, empty, behind, completing⟩
  · rw [behind, nothing]
    exact (List.append_nil _).symm
  · rw [behind, completing, completed_of_none empty]
    rfl

/-- An operation completes a tuple if it gives a value to the only field that is without one. -/
theorem outcome_tuple_eq_some_iff (nonempty : held ≠ []) (identity : IdentityConstraint)
    (declarer : String) (operation : StoreOperation) {tuple : Tuple} :
    (operation.outcome identity declarer held).tuple = some tuple ↔
      none ∈ held ∧ operation.heldBehind held = tuple.map some := by
  by_cases begins : operation = .beginTuple
  · subst begins
    refine iff_of_false (fun told => by cases told) ?_
    rintro ⟨-, same⟩
    cases held with
    | nil => exact nonempty rfl
    | cons first rest => cases tuple <;> cases same
  · rcases cases_of_goesOn begins held identity declarer with
      ⟨behind, nothing⟩ | ⟨field, value, empty, behind, completing⟩
    · rw [behind, nothing]
      refine iff_of_false (fun told => by cases told) ?_
      rintro ⟨empty, rfl⟩
      simp at empty
    · rw [behind, completing, completed_eq_some_iff]
      exact (and_iff_right (List.mem_of_getElem? empty)).symm

/-- Within a scope nothing changes behind a complete tuple, and no other is completed. -/
theorem heldBehind_of_complete (goesOn : operation ≠ .beginTuple) (complete : none ∉ held)
    (identity : IdentityConstraint) (declarer : String) :
    operation.heldBehind held = held ∧
      (operation.outcome identity declarer held).tuple = none := by
  rcases cases_of_goesOn goesOn held identity declarer with
    unchanged | ⟨field, value, empty, -, -⟩
  · exact unchanged
  · exact absurd (List.mem_of_getElem? empty) complete

/-- Within a scope no field loses the value that it has. -/
theorem heldBehind_of_some (goesOn : operation ≠ .beginTuple) {field : Nat} {first : Value}
    (taken : held[field]? = some (some first)) :
    (operation.heldBehind held)[field]? = some (some first) := by
  rcases cases_of_goesOn goesOn held default default with
    ⟨behind, -⟩ | ⟨other, value, empty, behind, -⟩
  · rw [behind, taken]
  · have different : other ≠ field := by
      rintro rfl
      cases empty.symm.trans taken
    rw [behind, List.getElem?_set_ne different, taken]

end StoreOperation

theorem heldBehindAll_of_some {operations : List StoreOperation}
    (goesOn : .beginTuple ∉ operations) {held : List (Option Value)} {field : Nat} {first : Value}
    (taken : held[field]? = some (some first)) :
    (heldBehindAll held operations)[field]? = some (some first) := by
  induction operations generalizing held with
  | nil => exact taken
  | cons operation rest ofRest =>
    obtain ⟨here, later⟩ := not_or.mp (mt List.mem_cons.mpr goesOn)
    exact ofRest later (StoreOperation.heldBehind_of_some (Ne.symm here) taken)

/-! ### Scopes -/

/-- What was asked of a store, in the scopes that have ended and in the one at hand. -/
structure ValueScopes where
  ended : List (List StoreOperation)
  current : List StoreOperation

namespace ValueScopes

variable {count : Nat} {scopes : ValueScopes}

/-- To begin a tuple begins a scope. -/
def next (scopes : ValueScopes) : StoreOperation → ValueScopes
  | .beginTuple => ⟨scopes.ended ++ [scopes.current], []⟩
  | operation => ⟨scopes.ended, scopes.current ++ [operation]⟩

/-- The scopes of some operations. -/
def ofOperations (operations : List StoreOperation) : ValueScopes :=
  operations.foldl next ⟨[], []⟩

theorem ofOperations_append_singleton (operations : List StoreOperation)
    (operation : StoreOperation) :
    ofOperations (operations ++ [operation]) = (ofOperations operations).next operation :=
  List.foldl_append ..

/-- The values that each of so many fields was given in the scope at hand. -/
def given (scopes : ValueScopes) (count : Nat) : List (List Value) :=
  valuesOfAll count scopes.current

theorem given_ne_nil (positive : 0 < count) (scopes : ValueScopes) : scopes.given count ≠ [] := by
  refine List.ne_nil_of_length_pos ?_
  rw [given, length_valuesOfAll]
  exact positive

/-- The tuples of the first values, of all scopes in which each of so many fields has a value. -/
def tuples (scopes : ValueScopes) (count : Nat) : List Tuple :=
  (scopes.ended ++ [scopes.current]).filterMap fun scope => tupleOf? (valuesOfAll count scope)

theorem tuples_eq (scopes : ValueScopes) (count : Nat) :
    scopes.tuples count =
      (scopes.ended.filterMap fun scope => tupleOf? (valuesOfAll count scope)) ++
        (tupleOf? (scopes.given count)).toList := by
  rw [tuples, List.filterMap_append, given, List.filterMap_cons]
  cases tupleOf? (valuesOfAll count scopes.current) <;> rfl

theorem tuples_next {operation : StoreOperation} (goesOn : operation ≠ .beginTuple)
    (scopes : ValueScopes) (count : Nat) :
    (scopes.next operation).tuples count =
      (scopes.ended.filterMap fun scope => tupleOf? (valuesOfAll count scope)) ++
        (tupleOf? ((scopes.next operation).given count)).toList := by
  cases operation with
  | beginTuple => exact absurd rfl goesOn
  | _ => exact tuples_eq _ _

/-- The first values of the fields are those in progress. -/
theorem heads_next (scopes : ValueScopes) (count : Nat) (operation : StoreOperation) :
    ((scopes.next operation).given count).map List.head? =
      operation.heldBehind ((scopes.given count).map List.head?) := by
  cases operation with
  | beginTuple =>
    show (valuesOfAll count []).map List.head? = ((valuesOfAll count _).map _).map _
    rw [valuesOfAll_nil, List.map_replicate, List.map_const', List.length_map, length_valuesOfAll]
    rfl
  | noteNillable shown =>
    exact congrArg (List.map List.head?) (valuesOfAll_append_singleton (fun _ => rfl) _ _)
  | endTuple shown =>
    exact congrArg (List.map List.head?) (valuesOfAll_append_singleton (fun _ => rfl) _ _)
  | give field value shown =>
    show (valuesOfAll count (scopes.current ++ [_])).map List.head? = _
    rw [valuesOfAll_give, StoreOperation.heldBehind, given, List.getElem?_map]
    by_cases inside : field < count
    · have has := getElem?_valuesOfAll inside scopes.current
      rw [has]
      cases standing : valuesGiven field scopes.current with
      | nil => exact heads_set_first _ _ _
      | cons first others => exact heads_set_further (standing ▸ has) value
    · have outside : (valuesOfAll count scopes.current).length ≤ field := by
        rw [length_valuesOfAll]
        exact Nat.le_of_not_lt inside
      rw [List.set_eq_of_length_le outside, List.getElem?_eq_none outside]
      rfl

/-- A tuple is added by the operation that completes it. -/
theorem tuples_next_eq (positive : 0 < count) (scopes : ValueScopes)
    (identity : IdentityConstraint) (declarer : String) (operation : StoreOperation) :
    (scopes.next operation).tuples count = scopes.tuples count ++
      (operation.outcome identity declarer
        ((scopes.given count).map List.head?)).tuple.toList := by
  by_cases begins : operation = .beginTuple
  · subst begins
    have first : (valuesOfAll count [])[0]? = some [] := getElem?_valuesOfAll positive []
    rw [tuples_eq, given, next, tupleOf?_of_nil first]
    rfl
  · rw [tuples_next begins, tuples_eq, tupleOf?_eq, tupleOf?_eq, heads_next, List.append_assoc,
      StoreOperation.completed_heldBehind begins]

/-- A scope has no further tuple behind its complete one. -/
theorem tuples_foldl_of_complete (positive : 0 < count) {scopes : ValueScopes}
    (complete : none ∉ (scopes.given count).map List.head?) {operations : List StoreOperation}
    (goesOn : .beginTuple ∉ operations) :
    (operations.foldl next scopes).tuples count = scopes.tuples count := by
  induction operations generalizing scopes with
  | nil => rfl
  | cons operation rest ofRest =>
    obtain ⟨here, later⟩ := not_or.mp (mt List.mem_cons.mpr goesOn)
    obtain ⟨held, nothing⟩ :=
      StoreOperation.heldBehind_of_complete (Ne.symm here) complete default default
    have still : none ∉ ((scopes.next operation).given count).map List.head? := by
      rw [heads_next, held]
      exact complete
    rw [List.foldl_cons, ofRest still later, scopes.tuples_next_eq positive default default,
      nothing]
    exact List.append_nil _

end ValueScopes

/-! ### Repetitions -/

/-- A rule that is broken by tuples of a constraint that were there before. -/
def IdentityConstraint.tellsRepetition (identity : IdentityConstraint) (rule : Rule) : Bool :=
  match identity.kind with
  | .unique => rule == .duplicateUnique
  | .key => rule == .duplicateKey
  | .keyRef => false

theorem IdentityConstraint.eq_of_tellsRepetition {identity : IdentityConstraint} {rule : Rule}
    (tells : identity.tellsRepetition rule = true) :
    rule = .duplicateUnique ∨ rule = .duplicateKey := by
  unfold tellsRepetition at tells
  split at tells
  · exact .inl (beq_iff_eq.mp tells)
  · exact .inr (beq_iff_eq.mp tells)
  · cases tells

section Repetitions

variable {identity : IdentityConstraint} {declarer : String}

/-- A repetition belongs to what is told of tuples. -/
theorem countP_gist (identity : IdentityConstraint) (diagnostics : List Diagnostic) :
    (gist diagnostics).countP (fun said => identity.tellsRepetition said.1) =
      diagnostics.countP fun diagnostic => identity.tellsRepetition diagnostic.rule := by
  rw [gist, List.countP_map, List.countP_filter]
  refine List.countP_congr fun diagnostic _ => ?_
  simp only [Function.comp_apply, Bool.and_eq_true, and_iff_left_iff_imp]
  intro tells
  rcases IdentityConstraint.eq_of_tellsRepetition tells with rule | rule <;> rw [rule] <;> rfl

theorem countP_repetition (refers : identity.isKeyRef = false) (declarer : String) (tuple : Tuple) :
    (identity.repetition declarer tuple).countP (fun said => identity.tellsRepetition said.1) =
      1 := by
  unfold IdentityConstraint.repetition IdentityConstraint.tellsRepetition
  cases kind : identity.kind with
  | unique => rfl
  | key => rfl
  | keyRef =>
    rw [IdentityConstraint.isKeyRef, kind] at refers
    cases refers

/-- What an operation calls for by itself is no repetition. -/
theorem ne_duplicate_of_mem_told {held : List (Option Value)} {operation : StoreOperation}
    {said : Rule × List String}
    (member : said ∈ (operation.outcome identity declarer held).told) :
    said.1 ≠ .duplicateUnique ∧ said.1 ≠ .duplicateKey := by
  cases operation with
  | beginTuple => cases member
  | noteNillable shown => cases member
  | give field value shown =>
    rw [StoreOperation.outcome] at member
    split at member
    · cases member
    · obtain rfl := List.mem_singleton.mp member
      exact ⟨by simp, by simp⟩
    · obtain rfl := List.mem_singleton.mp member
      exact ⟨by simp, by simp⟩
  | endTuple shown =>
    rw [StoreOperation.outcome] at member
    dsimp only at member
    unfold IdentityConstraint.absence IdentityConstraint.shortage at member
    split at member
    · split at member
      · obtain rfl := List.mem_singleton.mp member
        exact ⟨by simp, by simp⟩
      · cases member
    · split at member
      · cases member
      · obtain rfl := List.mem_singleton.mp member
        cases identity.kind <;> exact ⟨by simp, by simp⟩

/-- An operation is told to repeat a tuple if it completes one that is the same as one before. -/
theorem countP_tidings (refers : identity.isKeyRef = false) (declarer : String)
    (recorded : List Tuple) (held : List (Option Value)) (operation : StoreOperation) :
    ((operation.outcome identity declarer held).tidings identity declarer recorded).countP
        (fun said => identity.tellsRepetition said.1) =
      (operation.outcome identity declarer held).tuple.toList.countP fun tuple =>
        recorded.any fun earlier => Value.sameItems earlier tuple := by
  have silent : (operation.outcome identity declarer held).told.countP
      (fun said => identity.tellsRepetition said.1) = 0 := by
    refine List.countP_eq_zero.mpr fun said member tells => ?_
    obtain ⟨noUnique, noKey⟩ := ne_duplicate_of_mem_told member
    exact (IdentityConstraint.eq_of_tellsRepetition tells).elim noUnique noKey
  rw [StoreOutcome.tidings, List.countP_append, silent, Nat.zero_add]
  cases (operation.outcome identity declarer held).tuple with
  | none => rfl
  | some tuple =>
    dsimp only
    rw [Option.toList_some, List.countP_singleton]
    split
    · exact countP_repetition refers declarer tuple
    · rfl

end Repetitions

/-! ### The end of a scope -/

theorem tupleOf?_isSome_iff {values : List (List Value)} :
    (tupleOf? values).isSome = true ↔ ∀ given ∈ values, given ≠ [] := by
  rw [tupleOf?]
  split
  · rename_i full
    simpa using full
  · rename_i incomplete
    simpa using incomplete

namespace IdentityConstraint

/-- What is told at the end depends on whether all fields, none or just some of them have values. -/
theorem lack_cases (identity : IdentityConstraint) (declarer : String)
    (values : List (List Value)) :
    ((∀ given ∈ values, given ≠ []) ∧ identity.lack declarer values = []) ∨
    ((∀ given ∈ values, given = []) ∧
      identity.lack declarer values = identity.absence declarer) ∨
    ((∃ given ∈ values, given = []) ∧ (∃ given ∈ values, given ≠ []) ∧
      identity.lack declarer values = [identity.shortage declarer]) := by
  rw [lack]
  by_cases full : ∀ given ∈ values, given ≠ []
  · obtain ⟨tuple, complete⟩ := Option.isSome_iff_exists.mp (tupleOf?_isSome_iff.mpr full)
    rw [complete]
    exact .inl ⟨full, rfl⟩
  · have incomplete : tupleOf? values = none :=
      Option.not_isSome_iff_eq_none.mp (mt tupleOf?_isSome_iff.mp full)
    rw [incomplete]
    by_cases nowhere : ∀ given ∈ values, given = []
    · have all : values.all List.isEmpty = true := by simpa using nowhere
      exact .inr (.inl ⟨nowhere, if_pos all⟩)
    · have empty : ∃ given ∈ values, given = [] := by
        simpa only [not_forall, not_not, exists_prop] using full
      have filled : ∃ given ∈ values, given ≠ [] := by
        simpa only [not_forall, exists_prop] using nowhere
      have notAll : ¬ values.all List.isEmpty = true := by simpa using nowhere
      exact .inr (.inr ⟨empty, filled, if_neg notAll⟩)

theorem shortage_ne_absentKeyValue (identity : IdentityConstraint) (declarer : String) :
    (identity.shortage declarer).1 ≠ .absentKeyValue := by
  unfold shortage
  cases identity.kind <;> simp

theorem rule_of_mem_absence {identity : IdentityConstraint} {declarer : String}
    {said : Rule × List String} (member : said ∈ identity.absence declarer) :
    said.1 = .absentKeyValue := by
  unfold absence at member
  split at member
  · obtain rfl := List.mem_singleton.mp member
    rfl
  · cases member

theorem length_lack_le (identity : IdentityConstraint) (declarer : String)
    (values : List (List Value)) : (identity.lack declarer values).length ≤ 1 := by
  rcases identity.lack_cases declarer values with ⟨-, told⟩ | ⟨-, told⟩ | ⟨-, -, told⟩
  · rw [told]
    exact Nat.zero_le 1
  · rw [told, absence]
    cases identity.isKey with
    | true => exact le_refl 1
    | false => exact Nat.zero_le 1
  · rw [told]
    exact le_refl 1

theorem lack_of_complete (identity : IdentityConstraint) (declarer : String)
    {values : List (List Value)} (complete : (tupleOf? values).isSome = true) :
    identity.lack declarer values = [] := by
  obtain ⟨tuple, found⟩ := Option.isSome_iff_exists.mp complete
  rw [lack, found]

/-- It is told that the fields have no values if the constraint is a key, and they have none. -/
theorem lack_tells_absence_iff (identity : IdentityConstraint) (declarer : String)
    {values : List (List Value)} (nonempty : values ≠ []) :
    (∃ said ∈ identity.lack declarer values, said.1 = .absentKeyValue) ↔
      identity.isKey = true ∧ ∀ given ∈ values, given = [] := by
  rcases identity.lack_cases declarer values with
    ⟨full, told⟩ | ⟨all, told⟩ | ⟨-, ⟨other, inside, filled⟩, told⟩
  · obtain ⟨given, member⟩ := List.exists_mem_of_ne_nil values nonempty
    rw [told]
    exact iff_of_false (by simp) fun absent => full given member (absent.2 given member)
  · rw [told, absence, and_iff_left all]
    cases identity.isKey <;> simp
  · rw [told]
    refine iff_of_false ?_ fun absent => filled (absent.2 other inside)
    rintro ⟨said, member, rule⟩
    obtain rfl := List.mem_singleton.mp member
    exact identity.shortage_ne_absentKeyValue declarer rule

/-- It is told that there are not enough values if some fields have one, and some have none. -/
theorem lack_tells_shortage_iff (identity : IdentityConstraint) (declarer : String)
    (values : List (List Value)) :
    (∃ said ∈ identity.lack declarer values, said.1 = (identity.shortage declarer).1) ↔
      (∃ given ∈ values, given ≠ []) ∧ ∃ given ∈ values, given = [] := by
  rcases identity.lack_cases declarer values with
    ⟨full, told⟩ | ⟨all, told⟩ | ⟨empty, filled, told⟩
  · rw [told]
    refine iff_of_false (by simp) ?_
    rintro ⟨-, given, member, empty⟩
    exact full given member empty
  · rw [told]
    refine iff_of_false ?_ ?_
    · rintro ⟨said, member, rule⟩
      exact identity.shortage_ne_absentKeyValue declarer
        (rule.symm.trans (rule_of_mem_absence member))
    · rintro ⟨⟨given, member, filled⟩, -⟩
      exact filled (all given member)
  · rw [told]
    exact iff_of_true ⟨_, List.mem_singleton_self _, rfl⟩ ⟨filled, empty⟩

end IdentityConstraint

/-! ### The tuples of a store -/

namespace TupleSet

theorem length_insert (set : TupleSet) (tuple : Tuple) :
    (set.insert tuple).tuples.length + [tuple].countP set.contains = set.tuples.length + 1 := by
  rw [List.countP_singleton, insert]
  split
  · rfl
  · rw [List.length_append]
    rfl

/-- A set has no members but those that were inserted, and keeps their order. -/
theorem sublist_foldl_insert (set : TupleSet) (tuples : List Tuple) :
    (tuples.foldl insert set).tuples.Sublist (set.tuples ++ tuples) := by
  induction tuples generalizing set with
  | nil => rw [List.append_nil, List.foldl_nil]
  | cons tuple rest ofRest =>
    have here : (set.insert tuple).tuples.Sublist (set.tuples ++ [tuple]) := by
      rw [insert]
      split
      · exact List.sublist_append_left ..
      · exact List.Sublist.refl _
    have both := (ofRest (set.insert tuple)).trans (here.append_right rest)
    rwa [List.append_assoc] at both

end TupleSet

namespace ValueStore

variable {store : ValueStore} {identity : IdentityConstraint} {declarer : String}
  {recorded : List Tuple}

theorem record_tuples {store : ValueStore} (refers : store.identity.isKeyRef = false)
    (tuple : Tuple) : (store.record tuple).tuples = store.tuples.insert tuple := by
  unfold record
  split
  · rename_i kind
    rw [IdentityConstraint.isKeyRef, kind] at refers
    cases refers
  · rfl
  · rfl

/-- A tuple that is complete is inserted. -/
theorem HasSeen.perform_tuples (seen : store.HasSeen identity declarer recorded)
    (refers : identity.isKeyRef = false) (operation : StoreOperation) :
    (store.perform operation).1.tuples =
      (operation.outcome identity declarer store.current).tuple.toList.foldl TupleSet.insert
        store.tuples := by
  have identities := seen.same
  cases operation with
  | beginTuple => rfl
  | noteNillable shown => rfl
  | endTuple shown => rfl
  | give field value shown =>
    show (store.addValue field value shown).1.tuples = _
    rw [StoreOperation.outcome]
    rcases seen.addValue_cases field value shown with
      ⟨unknown, outside, added⟩ | ⟨expression, known, ⟨first, taken, added⟩ | ⟨empty, added⟩⟩
    · rw [added, unknown, outside]
      rfl
    · rw [added, known, taken]
      rfl
    · rw [added, empty]
      dsimp only
      cases completed (store.current.set field (some value)) with
      | none => rfl
      | some tuple =>
        dsimp only
        rw [(complete_eq _ tuple shown).1]
        exact record_tuples (identities ▸ refers) tuple

/-! ### The books -/

/-- What a store has come to behind some scopes, and what it has reported. -/
structure IsBehind (store : ValueStore) (identity : IdentityConstraint) (declarer : String)
    (scopes : ValueScopes) (reported : List Diagnostic) : Prop where
  seen : store.HasSeen identity declarer (scopes.tuples identity.fields.length)
  holds : store.current = (scopes.given identity.fields.length).map List.head?
  inserted : identity.isKeyRef = false →
    store.tuples = (scopes.tuples identity.fields.length).foldl TupleSet.insert .empty
  balanced : identity.isKeyRef = false →
    store.tuples.tuples.length +
        reported.countP (fun diagnostic => identity.tellsRepetition diagnostic.rule) =
      (scopes.tuples identity.fields.length).length

variable {scopes : ValueScopes} {reported : List Diagnostic}

theorem isBehind_start (positive : 0 < identity.fields.length) (declarer : String) :
    (start identity declarer).IsBehind identity declarer ⟨[], []⟩ [] := by
  have empty : ValueScopes.tuples ⟨[], []⟩ identity.fields.length = [] := by
    rw [ValueScopes.tuples_eq, ValueScopes.given,
      tupleOf?_of_nil (getElem?_valuesOfAll positive [])]
    rfl
  refine ⟨empty ▸ hasSeen_start identity declarer, ?_, fun _ => empty ▸ rfl, fun _ => empty ▸ rfl⟩
  show (identity.fields.map fun _ => none) = (valuesOfAll _ []).map List.head?
  rw [valuesOfAll_nil, List.map_replicate, List.map_const']
  rfl

/-- An operation keeps the books right. -/
theorem IsBehind.perform (positive : 0 < identity.fields.length)
    (behind : store.IsBehind identity declarer scopes reported) (operation : StoreOperation) :
    (store.perform operation).1.IsBehind identity declarer (scopes.next operation)
      (reported ++ (store.perform operation).2) := by
  obtain ⟨seen, holds, inserted, balanced⟩ := behind
  obtain ⟨seenNext, held, told⟩ := seen.perform operation
  have completing := scopes.tuples_next_eq positive identity declarer operation
  rw [← holds] at completing
  refine ⟨completing ▸ seenNext, ?_, fun refers => ?_, fun refers => ?_⟩
  · rw [held, holds, ValueScopes.heads_next]
  · rw [seen.perform_tuples refers, inserted refers, completing, List.foldl_append]
  · have tells := countP_tidings refers declarer
      (scopes.tuples identity.fields.length) store.current operation
    rw [← told, countP_gist] at tells
    rw [List.countP_append, tells, completing, List.length_append, ← balanced refers,
      seen.perform_tuples refers]
    cases (operation.outcome identity declarer store.current).tuple with
    | none => rfl
    | some tuple =>
      have inserting := store.tuples.length_insert tuple
      have same : store.tuples.contains = fun tuple =>
          (scopes.tuples identity.fields.length).any fun earlier =>
            Value.sameItems earlier tuple := funext (seen.holds refers)
      rw [← same]
      simp only [Option.toList_some, List.foldl_cons, List.foldl_nil, List.length_singleton]
      omega

theorem IsBehind.performAll (positive : 0 < identity.fields.length)
    (behind : store.IsBehind identity declarer scopes reported)
    (operations : List StoreOperation) :
    (store.performAll operations).1.IsBehind identity declarer
      (operations.foldl ValueScopes.next scopes) (reported ++ (store.performAll operations).2) := by
  induction operations generalizing store scopes reported with
  | nil => exact (List.append_nil reported).symm ▸ behind
  | cons operation rest ofRest =>
    have := ofRest (behind.perform positive operation)
    rwa [List.append_assoc] at this

theorem IsBehind.endTuple_eq (positive : 0 < identity.fields.length)
    (behind : store.IsBehind identity declarer scopes reported) (shown : String) :
    store.endTuple shown =
      (identity.lack declarer (scopes.given identity.fields.length)).map
        fun said => ⟨said.1, shown, said.2⟩ := by
  rw [behind.seen.endTuple_eq, behind.seen.same, behind.seen.sameElement, behind.holds,
    ← told_endTuple identity declarer (scopes.given_ne_nil positive) shown]
  rfl

/-- At the end of a scope at most one thing is reported: of a key, that no field has a value, or
else that some fields have none. -/
theorem IsBehind.endTuple_reports (positive : 0 < identity.fields.length)
    (behind : store.IsBehind identity declarer scopes reported) (shown : String) :
    let values := scopes.given identity.fields.length
    (store.endTuple shown).length ≤ 1 ∧
    ((tupleOf? values).isSome = true → store.endTuple shown = []) ∧
    ((∃ diagnostic ∈ store.endTuple shown, diagnostic.rule = .absentKeyValue) ↔
      identity.isKey = true ∧ ∀ given ∈ values, given = []) ∧
    ((∃ diagnostic ∈ store.endTuple shown, diagnostic.rule = (identity.shortage declarer).1) ↔
      (∃ given ∈ values, given ≠ []) ∧ ∃ given ∈ values, given = []) := by
  intro values
  have tells (rule : Rule) : (∃ diagnostic ∈ store.endTuple shown, diagnostic.rule = rule) ↔
      ∃ said ∈ identity.lack declarer values, said.1 = rule := by
    rw [behind.endTuple_eq positive]
    simp only [List.mem_map, exists_exists_and_eq_and]
    exact Iff.rfl
  refine ⟨?_, fun complete => ?_, ?_, ?_⟩
  · rw [behind.endTuple_eq positive, List.length_map]
    exact identity.length_lack_le declarer values
  · rw [behind.endTuple_eq positive, identity.lack_of_complete declarer complete, List.map_nil]
  · rw [tells]
    exact identity.lack_tells_absence_iff declarer (scopes.given_ne_nil positive)
  · rw [tells]
    exact identity.lack_tells_shortage_iff declarer values

/-! ### What the books say -/

/-- Whatever is asked of a store, the number of fields with a value is known, and these have the
first values that they were given in the scope. A field keeps its value as long as the scope goes
on, and any other value for it is told to be one too many. A tuple is complete with the value of
the last field without one, and the scope has no other tuple behind it. No two recorded tuples of a
key or a unique constraint are the same, they are complete ones, each complete one is the same as
one of them, and the others have been reported; a reference has recorded all of them. At the end of
a scope what its fields lack is reported. -/
theorem keeps_books (identity : IdentityConstraint) (declarer : String)
    (nonempty : identity.fields ≠ []) (operations : List StoreOperation) :
    let count := identity.fields.length
    let scopes := ValueScopes.ofOperations operations
    let performed := (start identity declarer).performAll operations
    let store := performed.1
    store.assigned = store.current.countP Option.isSome ∧
    store.current = (scopes.given count).map List.head? ∧
    (∀ field first, store.current[field]? = some (some first) →
      (∀ further, .beginTuple ∉ further →
        (store.performAll further).1.current[field]? = some (some first)) ∧
      ∃ expression, identity.fields[field]? = some expression ∧ ∀ value shown,
        store.addValue field value shown =
          (store, [⟨.fieldMultipleMatch, shown, [expression]⟩])) ∧
    (∀ operation, ∃ completing : Option Tuple,
      (ValueScopes.ofOperations (operations ++ [operation])).tuples count =
        scopes.tuples count ++ completing.toList ∧
      ∀ tuple, completing = some tuple ↔
        none ∈ store.current ∧ (store.perform operation).1.current = tuple.map some) ∧
    (none ∉ store.current → ∀ further, .beginTuple ∉ further →
      (ValueScopes.ofOperations (operations ++ further)).tuples count = scopes.tuples count) ∧
    (identity.isKeyRef = false →
      store.tuples.IsDistinct ∧
      store.tuples.tuples.Sublist (scopes.tuples count) ∧
      (∀ tuple ∈ scopes.tuples count, store.tuples.contains tuple = true) ∧
      store.tuples.tuples.length +
          performed.2.countP (fun diagnostic => identity.tellsRepetition diagnostic.rule) =
        (scopes.tuples count).length) ∧
    (identity.isKeyRef = true → store.references = scopes.tuples count) ∧
    ∀ shown,
      (store.endTuple shown).length ≤ 1 ∧
      ((tupleOf? (scopes.given count)).isSome = true → store.endTuple shown = []) ∧
      ((∃ diagnostic ∈ store.endTuple shown, diagnostic.rule = .absentKeyValue) ↔
        identity.isKey = true ∧ ∀ given ∈ scopes.given count, given = []) ∧
      ((∃ diagnostic ∈ store.endTuple shown,
          diagnostic.rule = (identity.shortage declarer).1) ↔
        (∃ given ∈ scopes.given count, given ≠ []) ∧
          ∃ given ∈ scopes.given count, given = []) := by
  intro count scopes performed store
  have positive : 0 < identity.fields.length := List.length_pos_iff.mpr nonempty
  have behind : store.IsBehind identity declarer scopes performed.2 :=
    (isBehind_start positive declarer).performAll positive operations
  have seen := behind.seen
  refine ⟨seen.counted, behind.holds, fun field first taken => ⟨fun further goesOn => ?_, ?_⟩,
    fun operation => ⟨(operation.outcome identity declarer store.current).tuple, ?_,
      fun tuple => ?_⟩, fun complete further goesOn => ?_,
    fun refers => ⟨?_, ?_, fun tuple member => ?_, behind.balanced refers⟩, seen.refers,
    behind.endTuple_reports positive⟩
  · rw [(seen.performAll further).2.1]
    exact heldBehindAll_of_some goesOn taken
  · have inside : field < identity.fields.length :=
      seen.fits ▸ (List.getElem?_eq_some_iff.mp taken).1
    have standing := List.getElem?_eq_getElem inside
    have known : store.identity.fields[field]? = some identity.fields[field] := by
      rw [seen.same, standing]
    exact ⟨_, standing, addValue_of_some known taken⟩
  · rw [ValueScopes.ofOperations_append_singleton, behind.holds]
    exact scopes.tuples_next_eq positive identity declarer operation
  · have filled : store.current ≠ [] := List.ne_nil_of_length_pos (seen.fits ▸ positive)
    rw [(seen.perform operation).2.1]
    exact operation.outcome_tuple_eq_some_iff filled identity declarer
  · rw [ValueScopes.ofOperations, List.foldl_append]
    exact ValueScopes.tuples_foldl_of_complete positive (behind.holds ▸ complete) goesOn
  · rw [behind.inserted refers]
    exact TupleSet.isDistinct_empty.merge ⟨scopes.tuples count⟩
  · rw [behind.inserted refers]
    exact TupleSet.sublist_foldl_insert .empty _
  · rw [seen.holds refers, List.any_eq_true]
    exact ⟨tuple, member, Value.sameItems_self tuple⟩

/-- Orders have a number and a year. -/
def orderKey : IdentityConstraint :=
  ⟨⟨none, "orderKey"⟩, .key, "order", ["@number", "@year"], none, []⟩

/-- A value before the first order, an order with two numbers and a value for no field, the same
order again, and an order without a number. -/
def orderOperations (year : Value) : List StoreOperation := [
  .give 1 year "orders",
  .beginTuple, .give 0 (.decimal ⟨1, 0⟩) "order", .give 0 (.decimal ⟨10, 1⟩) "order",
  .give 5 year "order", .give 1 year "order", .endTuple "order",
  .beginTuple, .give 1 year "order", .give 0 (.decimal ⟨10, 1⟩) "order", .endTuple "order",
  .beginTuple, .give 1 year "order"]

theorem keeps_books_orders :
    let year : Value := .string "2024"
    ∃ store reported,
      (start orderKey "orders").performAll (orderOperations year) = (store, reported) ∧
      orderKey.fields ≠ [] ∧ store.current = [none, some year] ∧ store.assigned = 1 ∧
      (ValueScopes.ofOperations (orderOperations year)).tuples 2 =
        [[.decimal ⟨1, 0⟩, year], [.decimal ⟨10, 1⟩, year]] ∧
      store.tuples.IsDistinct ∧ store.tuples.tuples.length = 1 ∧
      reported.countP (fun diagnostic => orderKey.tellsRepetition diagnostic.rule) = 1 ∧
      store.addValue 1 year "order" = (store, [⟨.fieldMultipleMatch, "order", ["@year"]⟩]) ∧
      ∃ diagnostic ∈ store.endTuple "order", diagnostic.rule = .keyNotEnoughValues := by
  intro year
  have nonempty : orderKey.fields ≠ [] := by decide
  have books := keeps_books orderKey "orders" nonempty (orderOperations year)
  have single : ((start orderKey "orders").performAll
      (orderOperations year)).1.tuples.tuples.length = 1 := by decide +kernel
  have given : (ValueScopes.ofOperations (orderOperations year)).given 2 = [[], [year]] := by rfl
  have tuples : (ValueScopes.ofOperations (orderOperations year)).tuples 2 =
      [[.decimal ⟨1, 0⟩, year], [.decimal ⟨10, 1⟩, year]] := by rfl
  have two : orderKey.fields.length = 2 := by rfl
  cases done : (start orderKey "orders").performAll (orderOperations year) with
  | mk store reported =>
    rw [done] at single
    simp only [done, two, tuples] at books
    obtain ⟨counted, held, kept, -, -, recorded, -, ending⟩ := books
    obtain ⟨distinct, -, -, balanced⟩ := recorded rfl
    have slots : store.current = [none, some year] := held.trans (congrArg (List.map _) given)
    refine ⟨store, reported, rfl, nonempty, slots, counted.trans (congrArg (List.countP _) slots),
      tuples, distinct, single, ?_, ?_, ?_⟩
    · rw [single] at balanced
      exact Nat.add_left_cancel balanced
    · obtain ⟨expression, standing, refused⟩ := (kept 1 year (congrArg (·[1]?) slots)).2
      obtain rfl := Option.some.inj standing
      exact refused year "order"
    · refine (ending "order").2.2.2.mpr ⟨⟨[year], ?_, List.cons_ne_nil _ _⟩, [], ?_, rfl⟩
      · exact given ▸ List.mem_cons_of_mem _ (List.mem_singleton_self _)
      · exact given ▸ List.mem_cons_self

end ValueStore

end SchemaAssessment
