/-
Selected elements inside of each other. A store has one tuple in progress for all of them,
and whenever a further one begins, the values found so far are dropped. What one of
them sees of its own fields is the same in any company; what becomes of it is the same
as if it were the only one just if, whenever it is its turn, the values given since a
selected element last began come to the same as those that its own fields have found.
-/

import SchemaAssessment.Proofs.Identity.Tuples

namespace SchemaAssessment

/-! ### What is seen of one selected element -/

/-- The selected element that a sighting is about, by its place. -/
def Sighting.place : Sighting → Nat
  | .begun place | .given place _ _ _ | .noted place _ | .ended place _ => place

/-- The sighting is about the selected element at a place. -/
def Sighting.isAbout (place : Nat) (sighting : Sighting) : Bool := sighting.place == place

namespace OpenSelection

variable {fields : List IdentityPath} {selection : OpenSelection} {sighting : Sighting}

theorem place_of_mem_atStart {event : ElementStart}
    (member : sighting ∈ selection.atStart fields event) : sighting.place = selection.place := by
  rcases eq_of_mem_atStart member with ⟨field, value, -, rfl⟩ | rfl <;> rfl

theorem place_of_mem_atFinish {value : Option Value} {shown : String}
    (member : sighting ∈ selection.atFinish fields value shown) :
    sighting.place = selection.place := by
  obtain ⟨field, given, -, rfl⟩ := eq_of_mem_atFinish member
  rfl

/-- Of what some selected elements see, one of them sees its own part. -/
theorem filter_isAbout_flatMap {make : OpenSelection → List Sighting}
    (own : ∀ selection, ∀ sighting ∈ make selection, sighting.place = selection.place)
    (place : Nat) (selections : List OpenSelection) :
    (selections.flatMap make).filter (Sighting.isAbout place) =
      (selections.filter fun selection => selection.place == place).flatMap make := by
  rw [List.filter_flatMap, flatMap_filter]
  refine List.flatMap_congr fun selection _ => ?_
  cases same : selection.place == place with
  | true =>
    refine List.filter_eq_self.mpr fun sighting member => ?_
    rw [Sighting.isAbout, own selection sighting member, same]
  | false =>
    refine List.filter_eq_nil_iff.mpr fun sighting member => ?_
    rw [Sighting.isAbout, own selection sighting member, same]
    exact Bool.false_ne_true

theorem filter_map_enter (name : ExpandedName) (place : Nat) (around : List OpenSelection) :
    (around.map (enter name)).filter (fun selection => selection.place == place) =
      (around.filter fun selection => selection.place == place).map (enter name) :=
  List.filter_map

end OpenSelection

namespace CompiledIdentity

variable (constraint : CompiledIdentity) {names : List ExpandedName} {place other : Nat}

theorem filter_selectedAt_of_ne (different : place ≠ other) :
    (constraint.selectedAt place names).filter
      (fun selection => selection.place == other) = [] := by
  unfold selectedAt
  split
  · exact List.filter_cons_of_neg fun same => different (beq_iff_eq.mp same)
  · rfl

theorem startSightings_isAbout (event : ElementStart) (own around : List OpenSelection) :
    (constraint.startSightings event own around).filter (Sighting.isAbout other) =
      constraint.startSightings event (own.filter fun selection => selection.place == other)
        (around.filter fun selection => selection.place == other) := by
  rw [startSightings, List.filter_append, OpenSelection.filter_isAbout_flatMap,
    OpenSelection.filter_isAbout_flatMap]
  · rfl
  · exact fun selection sighting => OpenSelection.place_of_mem_atStart
  · intro selection sighting member
    rcases List.mem_cons.mp member with rfl | later
    · rfl
    · exact OpenSelection.place_of_mem_atStart later

theorem finishSightings_isAbout (value : Option Value) (shown : String)
    (own around : List OpenSelection) :
    (constraint.finishSightings value shown own around).filter (Sighting.isAbout other) =
      constraint.finishSightings value shown (own.filter fun selection => selection.place == other)
        (around.filter fun selection => selection.place == other) := by
  rw [finishSightings, List.filter_append, OpenSelection.filter_isAbout_flatMap,
    List.filter_reverse, List.filter_append, List.filter_map]
  · rfl
  · exact fun selection sighting => OpenSelection.place_of_mem_atFinish

/-- Of some elements, a selected element around them sees what its fields find there, and one that
is neither around them nor among them sees nothing. -/
theorem sightings_isAbout_around (place : Nat) (names : List ExpandedName) (content : Assessed)
    {around : List OpenSelection} (outside : other < place ∨ place + content.size ≤ other)
    (mine : Option OpenSelection)
    (standing : around.filter (fun selection => selection.place == other) = mine.toList) :
    (constraint.sightings place names around content).filter (Sighting.isAbout other) =
      mine.toList.flatMap fun selection => selection.within constraint.fields content := by
  induction content generalizing place names around mine with
  | nothing => cases mine <;> rfl
  | element start inside value later ofInside ofLater =>
    rw [Assessed.size] at outside
    have unselected : (constraint.selectedAt place (names ++ [start.name])).filter
        (fun selection => selection.place == other) = [] :=
      constraint.filter_selectedAt_of_ne (by omega)
    have entered : (around.map (OpenSelection.enter start.name)).filter
        (fun selection => selection.place == other) =
          (mine.map (OpenSelection.enter start.name)).toList := by
      rw [OpenSelection.filter_map_enter, standing, Option.toList_map]
    have standingInside : (around.map (OpenSelection.enter start.name) ++
        constraint.selectedAt place (names ++ [start.name])).filter
          (fun selection => selection.place == other) =
            (mine.map (OpenSelection.enter start.name)).toList := by
      rw [List.filter_append, entered, unselected, List.append_nil]
    have within := ofInside (place + 1) (names ++ [start.name]) (by omega) _ standingInside
    have behind := ofLater (place + 1 + inside.size) names (by omega) mine standing
    rw [sightings, List.filter_append, List.filter_append, List.filter_append,
      startSightings_isAbout, finishSightings_isAbout, within, behind, unselected, entered]
    cases mine with
    | none => rfl
    | some selection =>
      simp [startSightings, finishSightings, OpenSelection.within]

/-- What a constraint sees of one element and of what is inside of it, when the names lead to it. -/
def elementSightings (place : Nat) (here : List ExpandedName) (around : List OpenSelection)
    (element : AssessedElement) : List Sighting :=
  let own := constraint.selectedAt place here
  constraint.startSightings element.start own around ++
    (constraint.sightings (place + 1) here (around ++ own) element.inside ++
      constraint.finishSightings element.value element.start.shown own around)

theorem sightings_eq_append (place : Nat) (names : List ExpandedName) (around : List OpenSelection)
    (start : ElementStart) (inside : Assessed) (value : Option Value) (later : Assessed) :
    constraint.sightings place names around (.element start inside value later) =
      constraint.elementSightings place (names ++ [start.name])
          (around.map (OpenSelection.enter start.name)) ⟨start, inside, value⟩ ++
        constraint.sightings (place + 1 + inside.size) names around later := by
  rw [sightings, elementSightings]
  simp only [List.append_assoc]

variable {around : List OpenSelection}

theorem place_of_mem_append_selectedAt (before : ∀ selection ∈ around, selection.place < place)
    {here : List ExpandedName} {selection : OpenSelection}
    (member : selection ∈ around ++ constraint.selectedAt place here) :
    selection.place < place + 1 := by
  rcases List.mem_append.mp member with outer | own
  · exact Nat.lt_succ_of_lt (before selection outer)
  · unfold selectedAt at own
    split at own
    · obtain rfl := List.mem_singleton.mp own
      exact Nat.lt_succ_self place
    · cases own

theorem filter_around_eq_nil (before : ∀ selection ∈ around, selection.place < other) :
    around.filter (fun selection => selection.place == other) = [] :=
  List.filter_eq_nil_iff.mpr fun selection standing same =>
    absurd (beq_iff_eq.mp same) (before selection standing).ne

/-- An element that is selected sees just what it would see as the only one. -/
theorem elementSightings_isAbout_self (before : ∀ selection ∈ around, selection.place < place)
    {here : List ExpandedName} (selects : constraint.selector.selects here = true)
    (element : AssessedElement) :
    (constraint.elementSightings place here around element).filter (Sighting.isAbout place) =
      Selected.window constraint.fields ⟨place, element⟩ := by
  have own : constraint.selectedAt place here = [⟨place, []⟩] := if_pos selects
  have kept : [OpenSelection.mk place []].filter (fun selection => selection.place == place) =
      [⟨place, []⟩] :=
    List.filter_cons_of_pos (beq_self_eq_true place)
  have standing : (around ++ [OpenSelection.mk place []]).filter
      (fun selection => selection.place == place) = (some (OpenSelection.mk place [])).toList := by
    rw [List.filter_append, filter_around_eq_nil before, kept]
    rfl
  have inner := constraint.sightings_isAbout_around (place + 1) here element.inside
    (.inl (Nat.lt_succ_self place)) _ standing
  rw [elementSightings, own, List.filter_append, List.filter_append, startSightings_isAbout,
    finishSightings_isAbout, inner, kept, filter_around_eq_nil before]
  simp [startSightings, finishSightings, Selected.window, Selected.own]

/-- What is seen at the tags of an element is not about those that are selected inside of it. -/
theorem elementSightings_isAbout_other (before : ∀ selection ∈ around, selection.place < place)
    (inner : place < other) (here : List ExpandedName) (element : AssessedElement) :
    (constraint.elementSightings place here around element).filter (Sighting.isAbout other) =
      (constraint.sightings (place + 1) here (around ++ constraint.selectedAt place here)
        element.inside).filter (Sighting.isAbout other) := by
  have apart : around.filter (fun selection => selection.place == other) = [] :=
    filter_around_eq_nil fun selection standing => (before selection standing).trans inner
  rw [elementSightings, List.filter_append, List.filter_append, startSightings_isAbout,
    finishSightings_isAbout, apart, constraint.filter_selectedAt_of_ne inner.ne]
  exact List.append_nil _

/-- Of some elements, a selected one among them sees just what it would see as the only one. -/
theorem sightings_isAbout_selected {content : Assessed}
    (before : ∀ selection ∈ around, selection.place < place) {chosen : Selected}
    (member : chosen ∈ content.selected constraint.selector place names) :
    (constraint.sightings place names around content).filter (Sighting.isAbout chosen.place) =
      chosen.window constraint.fields := by
  induction content generalizing place names around with
  | nothing => cases member
  | element start inside value later ofInside ofLater =>
    have least := (Assessed.place_of_mem_selected member).1
    have entered : ∀ selection ∈ around.map (OpenSelection.enter start.name),
        selection.place < place := by
      intro selection standing
      obtain ⟨outer, inside, rfl⟩ := List.mem_map.mp standing
      exact before outer inside
    have apart : around.filter (fun selection => selection.place == chosen.place) =
        (none : Option OpenSelection).toList :=
      filter_around_eq_nil fun selection standing => (before selection standing).trans_le least
    rw [sightings_eq_append, List.filter_append]
    rcases List.mem_append.mp member with here | further
    · split at here
      · rename_i selects
        obtain rfl := List.mem_singleton.mp here
        have behind := constraint.sightings_isAbout_around (place + 1 + inside.size) names later
          (.inl (by show place < _; omega)) _ apart
        rw [behind, elementSightings_isAbout_self constraint entered selects]
        exact List.append_nil _
      · cases here
    · rcases List.mem_append.mp further with within | behind
      · obtain ⟨inner, greatest⟩ := Assessed.place_of_mem_selected within
        have last := constraint.sightings_isAbout_around (place + 1 + inside.size) names later
          (.inl (by omega)) _ apart
        rw [last, elementSightings_isAbout_other constraint entered inner]
        refine (List.append_nil _).trans (ofInside ?_ within)
        exact fun selection => constraint.place_of_mem_append_selectedAt entered
      · obtain ⟨inner, -⟩ := Assessed.place_of_mem_selected behind
        have standing : (around.map (OpenSelection.enter start.name) ++
            constraint.selectedAt place (names ++ [start.name])).filter
              (fun selection => selection.place == chosen.place) =
                (none : Option OpenSelection).toList :=
          filter_around_eq_nil fun selection member =>
            (constraint.place_of_mem_append_selectedAt entered member).trans_le (by omega)
        have within := constraint.sightings_isAbout_around (place + 1) (names ++ [start.name])
          inside (.inr (by omega)) _ standing
        rw [elementSightings_isAbout_other constraint entered (by omega), within]
        exact ofLater (fun selection standing => (before selection standing).trans (by omega)) behind

/-- Whatever other elements are selected, inside of it or around it, a selected element sees just
what it would see as the only one. -/
theorem sightingsOf_isAbout {element : AssessedElement} {chosen : Selected}
    (member : chosen ∈ element.selected constraint.selector) :
    (constraint.sightingsOf element).filter (Sighting.isAbout chosen.place) =
      chosen.window constraint.fields := by
  have nobody : ∀ selection ∈ ([] : List OpenSelection), selection.place < 0 :=
    fun selection member => absurd member List.not_mem_nil
  show (constraint.elementSightings 0 [] [] element).filter _ = _
  rcases List.mem_append.mp member with here | within
  · split at here
    · rename_i selects
      obtain rfl := List.mem_singleton.mp here
      exact constraint.elementSightings_isAbout_self nobody selects element
    · cases here
  · have inner := (Assessed.place_of_mem_selected within).1
    rw [constraint.elementSightings_isAbout_other nobody inner]
    refine constraint.sightings_isAbout_selected ?_ within
    exact fun selection => constraint.place_of_mem_append_selectedAt nobody

end CompiledIdentity

/-! ### The values in progress -/

/-- A selected element begins. -/
def Sighting.isBegun : Sighting → Bool
  | .begun _ => true
  | _ => false

/-- What was seen since a selected element last began. -/
def lately (seen : List Sighting) : List Sighting :=
  (seen.reverse.takeWhile fun sighting => !sighting.isBegun).reverse

/-- The first value of each field among those that were given. -/
def CompiledIdentity.firsts (compiled : CompiledIdentity) (seen : List Sighting) :
    List (Option Value) :=
  (valuesOfAll compiled.fields.length (seen.map Sighting.operation)).map List.head?

theorem lately_begun (seen : List Sighting) (place : Nat) :
    lately (seen ++ [.begun place]) = [] := by
  rw [lately, List.reverse_append]
  rfl

theorem lately_other {sighting : Sighting} (other : sighting.isBegun = false)
    (seen : List Sighting) : lately (seen ++ [sighting]) = lately seen ++ [sighting] := by
  rw [lately, List.reverse_append, List.reverse_singleton, List.singleton_append,
    List.takeWhile_cons_of_pos (by rw [other]; rfl), List.reverse_cons]
  rfl

theorem lately_append_begun {later : List Sighting}
    (others : ∀ sighting ∈ later, sighting.isBegun = false) (earlier : List Sighting)
    (place : Nat) :
    lately (earlier ++ .begun place :: later) = later := by
  induction later using List.reverseRecOn with
  | nil => exact lately_begun earlier place
  | append_singleton later last ofLater =>
    have before := ofLater fun sighting member => others sighting (List.mem_append_left _ member)
    rw [← List.cons_append, ← List.append_assoc,
      lately_other (others last (List.mem_append_right _ List.mem_cons_self)), before]

namespace CompiledIdentity

variable (compiled : CompiledIdentity)

theorem firsts_silent {sighting : Sighting}
    (silent : ∀ field, valuesGiven field [sighting.operation] = []) (seen : List Sighting) :
    compiled.firsts (seen ++ [sighting]) = compiled.firsts seen := by
  rw [firsts, List.map_append, List.map_singleton, valuesOfAll_append_singleton silent]
  rfl

/-- A value that is given is kept unless the field has one. -/
theorem firsts_given (seen : List Sighting) (place field : Nat) (value : Value) (shown : String) :
    compiled.firsts (seen ++ [.given place field value shown]) =
      (StoreOperation.give field value shown).heldBehind (compiled.firsts seen) := by
  have known := List.getElem?_map (f := List.head?) (i := field)
    (l := valuesOfAll compiled.fields.length (seen.map Sighting.operation))
  rw [firsts, List.map_append, List.map_singleton, Sighting.operation, valuesOfAll_give,
    StoreOperation.heldBehind, firsts, known]
  by_cases inside : field < compiled.fields.length
  · have has := getElem?_valuesOfAll inside (seen.map Sighting.operation)
    rw [has]
    cases given : valuesGiven field (seen.map Sighting.operation) with
    | nil => exact heads_set_first _ field value
    | cons first others => exact heads_set_further (given ▸ has) value
  · have outside : (valuesOfAll compiled.fields.length (seen.map Sighting.operation)).length ≤
        field := by
      rw [length_valuesOfAll]
      exact Nat.le_of_not_lt inside
    rw [List.set_eq_of_length_le outside, List.getElem?_eq_none outside]
    rfl

/-- The values in progress are the first ones that were given since a selected element last
began. -/
theorem heldBehindAll_eq (seen : List Sighting) :
    heldBehindAll (List.replicate compiled.fields.length none) (seen.map Sighting.operation) =
      compiled.firsts (lately seen) := by
  have nothing : compiled.firsts [] = List.replicate compiled.fields.length none := by
    rw [firsts, List.map_nil, valuesOfAll_nil, List.map_replicate]
    rfl
  induction seen using List.reverseRecOn with
  | nil => exact nothing.symm
  | append_singleton seen sighting ofSeen =>
    rw [List.map_append, heldBehindAll, List.foldl_append]
    show sighting.operation.heldBehind (heldBehindAll _ (seen.map Sighting.operation)) = _
    cases sighting with
    | begun place =>
      rw [lately_begun, nothing]
      show (List.map (fun _ => none) _) = _
      rw [List.map_const', length_heldBehindAll, List.length_replicate]
    | given place field value shown =>
      rw [ofSeen, lately_other rfl, firsts_given]
      rfl
    | noted place shown =>
      rw [ofSeen, lately_other rfl, compiled.firsts_silent fun _ => rfl]
      rfl
    | ended place shown =>
      rw [ofSeen, lately_other rfl, compiled.firsts_silent fun _ => rfl]
      rfl

end CompiledIdentity

/-! ### What becomes of sightings -/

/-- Some sightings, each with what a store makes of it. -/
def ValueStore.answers (store : ValueStore) : List Sighting → List (Sighting × StoreOutcome)
  | [] => []
  | sighting :: rest =>
    (sighting, sighting.operation.outcome store.identity store.element store.current) ::
      (store.perform sighting.operation).1.answers rest

namespace ValueStore

variable {store : ValueStore} {identity : IdentityConstraint} {declarer : String}
  {recorded : List Tuple}

theorem answers_eq_zip (seen : store.HasSeen identity declarer recorded) (saw : List Sighting) :
    store.answers saw =
      saw.zip (outcomesOf identity declarer store.current (saw.map Sighting.operation)) := by
  induction saw generalizing store recorded with
  | nil => rfl
  | cons sighting rest ofRest =>
    obtain ⟨recording, held, -⟩ := seen.perform sighting.operation
    rw [answers, ofRest recording, held, seen.same, seen.sameElement]
    rfl

theorem outcomesOf_answers (seen : store.HasSeen identity declarer recorded)
    (saw : List Sighting) :
    (store.answers saw).map Prod.snd =
      outcomesOf identity declarer store.current (saw.map Sighting.operation) := by
  rw [answers_eq_zip seen]
  refine List.map_snd_zip (Nat.le_of_eq ?_)
  rw [length_outcomesOf, List.length_map]

theorem answers_append (store : ValueStore) (first second : List Sighting) :
    store.answers (first ++ second) =
      store.answers first ++
        (store.performAll (first.map Sighting.operation)).1.answers second := by
  induction first generalizing store with
  | nil => rfl
  | cons sighting rest ofRest => exact congrArg (_ :: ·) (ofRest _)

/-- What becomes of a sighting depends on the values in progress. -/
theorem answers_append_singleton (seen : store.HasSeen identity declarer recorded)
    (saw : List Sighting) (sighting : Sighting) :
    store.answers (saw ++ [sighting]) =
      store.answers saw ++
        [(sighting, sighting.operation.outcome identity declarer
          (heldBehindAll store.current (saw.map Sighting.operation)))] := by
  obtain ⟨recording, held, -⟩ := seen.performAll (saw.map Sighting.operation)
  rw [answers_append, answers, answers, recording.same, recording.sameElement, held]

/-- One selected element is answered among others as if it were the only one just if, whenever it is
its turn, the values in progress come to the same as those in progress without the others. -/
theorem filter_answers_eq_iff (seen : store.HasSeen identity declarer recorded) (place : Nat)
    (saw : List Sighting) :
    (store.answers saw).filter (fun answer => answer.1.isAbout place) =
        store.answers (saw.filter (Sighting.isAbout place)) ↔
      ∀ before sighting after, saw = before ++ sighting :: after →
        sighting.isAbout place = true →
          sighting.operation.outcome identity declarer
              (heldBehindAll store.current (before.map Sighting.operation)) =
            sighting.operation.outcome identity declarer
              (heldBehindAll store.current
                ((before.filter (Sighting.isAbout place)).map Sighting.operation)) := by
  induction saw using List.reverseRecOn with
  | nil =>
    refine iff_of_true rfl fun before sighting after whole => ?_
    exact absurd whole.symm (List.append_ne_nil_of_right_ne_nil _ (List.cons_ne_nil _ _))
  | append_singleton saw last ofSaw =>
    -- a sighting among these is the last one, or it is among those before
    have split (condition : List Sighting → Sighting → Prop) :
        (∀ before sighting after, saw ++ [last] = before ++ sighting :: after →
            sighting.isAbout place = true → condition before sighting) ↔
          (∀ before sighting after, saw = before ++ sighting :: after →
            sighting.isAbout place = true → condition before sighting) ∧
          (last.isAbout place = true → condition saw last) := by
      constructor
      · refine fun all => ⟨fun before sighting after whole => ?_, all saw last [] rfl⟩
        exact all before sighting (after ++ [last]) (by rw [whole, List.append_assoc]; rfl)
      · rintro ⟨earlier, ofLast⟩ before sighting after whole about
        rcases List.eq_nil_or_concat' after with rfl | ⟨front, final, rfl⟩
        · obtain ⟨rfl, same⟩ := List.append_inj' whole rfl
          obtain rfl := List.singleton_inj.mp same
          exact ofLast about
        · rw [← List.cons_append, ← List.append_assoc] at whole
          exact earlier before sighting front (List.append_inj' whole rfl).1 about
    rw [split, ← ofSaw, answers_append_singleton seen, List.filter_append, List.filter_append]
    cases about : last.isAbout place with
    | false =>
      simp only [List.filter_cons, List.filter_nil, about, Bool.false_eq_true, if_false,
        List.append_nil]
      exact (and_iff_left False.elim).symm
    | true =>
      simp only [List.filter_cons, List.filter_nil, about, if_true]
      rw [answers_append_singleton seen]
      constructor
      · intro whole
        obtain ⟨earlier, same⟩ := List.append_inj' whole rfl
        exact ⟨earlier, fun _ => (Prod.mk.inj (List.singleton_inj.mp same)).2⟩
      · rintro ⟨earlier, same⟩
        rw [earlier, same trivial]

end ValueStore

namespace CompiledIdentity

variable (compiled : CompiledIdentity)

/-- Whenever it is the turn of a selected element, that is when one of its fields finds a value and
when it ends, the first values that were given since a selected element last began come to the same
as the first values that its own fields have found. -/
def Undisturbed (identity : IdentityConstraint) (declarer : String) (element : AssessedElement)
    (chosen : Selected) : Prop :=
  ∀ before sighting after, compiled.sightingsOf element = before ++ sighting :: after →
    sighting.isAbout chosen.place = true →
      sighting.operation.outcome identity declarer (compiled.firsts (lately before)) =
        sighting.operation.outcome identity declarer
          (compiled.firsts (before.filter (Sighting.isAbout chosen.place)))

variable {compiled} {identity : IdentityConstraint} {element : AssessedElement}
  {chosen : Selected}

theorem isBegun_of_mem_own {sighting : Sighting} (member : sighting ∈ chosen.own compiled.fields) :
    sighting.isBegun = false := by
  cases sighting with
  | begun place => cases Selected.isGift_of_mem_own (List.mem_map_of_mem member)
  | _ => rfl

theorem firsts_begun (place : Nat) (seen : List Sighting) :
    compiled.firsts (.begun place :: seen) = compiled.firsts seen := rfl

/-- As long as a selected element is the only one, what was given since it began is what its own
fields have found. -/
theorem firsts_lately_window {before after : List Sighting} {sighting : Sighting}
    (whole : chosen.window compiled.fields = before ++ sighting :: after) :
    compiled.firsts (lately before) = compiled.firsts before := by
  cases before with
  | nil => rfl
  | cons first later =>
    obtain ⟨rfl, further⟩ := List.cons.inj whole
    have others : ∀ sighting ∈ later, sighting.isBegun = false := by
      intro earlier member
      have inside : earlier ∈ chosen.own compiled.fields ++
          [.ended chosen.place chosen.element.start.shown] := by
        rw [further]
        exact List.mem_append_left _ member
      rcases List.mem_append.mp inside with own | last
      · exact isBegun_of_mem_own own
      · obtain rfl := List.mem_singleton.mp last
        rfl
    rw [firsts_begun]
    exact congrArg _ (lately_append_begun others [] chosen.place)

/-- A selected element gets the answers that it would get as the only one, just if it is
undisturbed. -/
theorem filter_answers_iff_undisturbed
    (fits : identity.fields.length = compiled.fields.length) (declarer : String)
    (member : chosen ∈ element.selected compiled.selector) :
    let store := ValueStore.start identity declarer
    (store.answers (compiled.sightingsOf element)).filter
        (fun answer => answer.1.isAbout chosen.place) =
          store.answers (chosen.window compiled.fields) ↔
      compiled.Undisturbed identity declarer element chosen := by
  intro store
  have empty : store.current = List.replicate compiled.fields.length none := by
    rw [← fits]
    exact List.map_const' ..
  have own := compiled.sightingsOf_isAbout member
  rw [← own, ValueStore.filter_answers_eq_iff (ValueStore.hasSeen_start identity declarer), empty,
    Undisturbed]
  refine forall₅_congr fun before sighting after whole about => ?_
  have window : chosen.window compiled.fields =
      before.filter (Sighting.isAbout chosen.place) ++
        sighting :: after.filter (Sighting.isAbout chosen.place) := by
    rw [← own, whole, List.filter_append, List.filter_cons_of_pos about]
  rw [heldBehindAll_eq, heldBehindAll_eq, firsts_lately_window window]

/-! ### Selected elements apart from the others -/

theorem outcomesOf_beginTuple (identity : IdentityConstraint) (declarer : String)
    {held other : List (Option Value)} (same : held.length = other.length) (rest : List StoreOperation) :
    outcomesOf identity declarer held (.beginTuple :: rest) =
      outcomesOf identity declarer other (.beginTuple :: rest) := by
  have empty : held.map (fun _ => (none : Option Value)) = other.map fun _ => none := by
    rw [List.map_const', List.map_const', same]
  show _ :: outcomesOf identity declarer (held.map fun _ => none) rest = _
  rw [empty]
  rfl

theorem filter_answers_eq_nil {store : ValueStore} {recorded : List Tuple} {declarer : String}
    (seen : store.HasSeen identity declarer recorded) {place : Nat} {saw : List Sighting}
    (others : saw.filter (Sighting.isAbout place) = []) :
    (store.answers saw).filter (fun answer => answer.1.isAbout place) = [] := by
  rw [ValueStore.answers_eq_zip seen, List.filter_eq_nil_iff]
  exact fun answer member => List.filter_eq_nil_iff.mp others _ (List.of_mem_zip member).1

/-- A selected element that neither lies inside of another nor has one inside of it is
undisturbed. -/
theorem undisturbed_of_apart (fits : identity.fields.length = compiled.fields.length)
    (declarer : String) (member : chosen ∈ element.selected compiled.selector)
    (apart : ∀ other ∈ element.selected compiled.selector,
      ¬ other.Contains chosen ∧ ¬ chosen.Contains other) :
    compiled.Undisturbed identity declarer element chosen := by
  obtain ⟨earlier, later, whole⟩ := exists_window_of_apart member apart
  have own := compiled.sightingsOf_isAbout member
  have ofWindow : ∀ sighting ∈ chosen.window compiled.fields,
      sighting.isAbout chosen.place = true := by
    rw [← own]
    exact fun sighting => List.of_mem_filter
  rw [whole, List.filter_append, List.filter_append, List.filter_eq_self.mpr ofWindow] at own
  have lengths := congrArg List.length own
  rw [List.length_append, List.length_append] at lengths
  have before : earlier.filter (Sighting.isAbout chosen.place) = [] :=
    List.eq_nil_of_length_eq_zero (by omega)
  have behind : later.filter (Sighting.isAbout chosen.place) = [] :=
    List.eq_nil_of_length_eq_zero (by omega)
  let store := ValueStore.start identity declarer
  have seen := ValueStore.hasSeen_start identity declarer
  obtain ⟨seenThen, -⟩ := seen.performAll (earlier.map Sighting.operation)
  obtain ⟨seenLast, -⟩ := seenThen.performAll
    ((chosen.window compiled.fields).map Sighting.operation)
  have same : outcomesOf identity declarer
      (store.performAll (earlier.map Sighting.operation)).1.current
        ((chosen.window compiled.fields).map Sighting.operation) =
      outcomesOf identity declarer store.current
        ((chosen.window compiled.fields).map Sighting.operation) :=
    outcomesOf_beginTuple identity declarer (seenThen.fits.trans seen.fits.symm) _
  refine (filter_answers_iff_undisturbed fits declarer member).mp ?_
  rw [whole, ValueStore.answers_append, ValueStore.answers_append, List.filter_append,
    List.filter_append, filter_answers_eq_nil seen before, filter_answers_eq_nil seenLast behind,
    List.nil_append, List.append_nil, ValueStore.answers_eq_zip seenThen,
    ValueStore.answers_eq_zip seen, same]
  exact List.filter_eq_self.mpr fun answer inside => ofWindow _ (List.of_mem_zip inside).1

end CompiledIdentity

end SchemaAssessment
