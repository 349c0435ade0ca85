/-
What an identity constraint sees of an element, without matchers. Where its selector
selects an element, a tuple begins, and it ends with that element; in between the fields
of the selected element give the values that they find from there. Selected elements may
lie inside each other, so several of them may be open at a time. The matchers of the
constraint ask their store for just these things in just this order.
-/

import SchemaAssessment.Proofs.Identity.Tree
import SchemaAssessment.Proofs.Path.Selection

namespace SchemaAssessment

/-! ### Parts of lists -/

theorem flatMap_filter {α β : Type} (items : List α) (kept : α → Bool) (make : α → List β) :
    (items.filter kept).flatMap make =
      items.flatMap fun item => if kept item then make item else [] := by
  induction items with
  | nil => rfl
  | cons item rest ofRest =>
    rw [List.filter_cons, List.flatMap_cons, ← ofRest]
    split <;> rfl

theorem filter_zipIdx {α : Type} (items : List α) (start index : Nat) :
    (items.zipIdx start).filter (fun item => item.2 == start + index) =
      (items[index]?.map fun item => (item, start + index)).toList := by
  induction items generalizing start index with
  | nil => rfl
  | cons item rest ofRest =>
    rw [List.zipIdx_cons, List.filter_cons]
    cases index with
    | zero =>
      have others : (rest.zipIdx (start + 1)).filter (fun item => item.2 == start + 0) = [] :=
        List.filter_eq_nil_iff.mpr fun other member => by
          have later := (List.mem_zipIdx member).1
          rw [beq_iff_eq]
          omega
      rw [others]
      exact if_pos (beq_iff_eq.mpr rfl)
    | succ index =>
      rw [if_neg (by rw [beq_iff_eq]; show ¬ start = start + (index + 1); omega),
        List.getElem?_cons_succ, ← Nat.add_assoc, Nat.add_right_comm]
      exact ofRest (start + 1) index

/-! ### Sightings -/

/-- A selected element whose end tag is still to come, by its place among all start tags, with the
names on the way from it down to the present element. -/
structure OpenSelection where
  place : Nat
  names : List ExpandedName

/-- What an identity constraint sees: a selected element begins or ends, one of its fields has a
value, or one of its fields stands at an element that may be nil. -/
inductive Sighting where
  | begun (place : Nat)
  | given (place field : Nat) (value : Value) (shown : String)
  | noted (place : Nat) (shown : String)
  | ended (place : Nat) (shown : String)

/-- What a store is asked for at a sighting. -/
def Sighting.operation : Sighting → StoreOperation
  | .begun _ => .beginTuple
  | .given _ field value shown => .give field value shown
  | .noted _ shown => .noteNillable shown
  | .ended _ shown => .endTuple shown

/-- The selected element behind a start tag further down. -/
def OpenSelection.enter (name : ExpandedName) (selection : OpenSelection) : OpenSelection :=
  { selection with names := selection.names ++ [name] }

/-- The values of the attributes that a path selects on an element, when the names lead to it. -/
def ElementStart.attributeValues (event : ElementStart) (path : IdentityPath)
    (names : List ExpandedName) : List Value :=
  (path.attributesAt names event.attributeNames).filterMap event.attributeValue?

/-- The number of elements. -/
def Assessed.size : Assessed → Nat
  | .nothing => 0
  | .element _ inside _ later => 1 + inside.size + later.size

namespace OpenSelection

/-- What the fields of a selected element see at a start tag. -/
def atStart (fields : List IdentityPath) (event : ElementStart) (selection : OpenSelection) :
    List Sighting :=
  fields.zipIdx.flatMap fun (path, field) =>
    (event.attributeValues path selection.names).map
        (.given selection.place field · event.shown) ++
      if path.selects selection.names && event.isNillable then
        [.noted selection.place event.shown]
      else []

/-- What the fields of a selected element see at an end tag. The last field comes first. -/
def atFinish (fields : List IdentityPath) (value : Option Value) (shown : String)
    (selection : OpenSelection) : List Sighting :=
  fields.zipIdx.reverse.flatMap fun (path, field) =>
    if path.selects selection.names then
      (value.map (.given selection.place field · shown)).toList
    else []

/-- At a start tag a field is given a value, or it is noted that the element may be nil. -/
theorem eq_of_mem_atStart {fields : List IdentityPath} {event : ElementStart}
    {selection : OpenSelection} {sighting : Sighting}
    (member : sighting ∈ selection.atStart fields event) :
    (∃ field value, field < fields.length ∧
        sighting = .given selection.place field value event.shown) ∨
      sighting = .noted selection.place event.shown := by
  obtain ⟨⟨path, field⟩, item, seen⟩ := List.mem_flatMap.mp member
  rcases List.mem_append.mp seen with given | noted
  · obtain ⟨value, -, rfl⟩ := List.mem_map.mp given
    exact .inl ⟨field, value, List.snd_lt_of_mem_zipIdx item, rfl⟩
  · split at noted
    · exact .inr (List.mem_singleton.mp noted)
    · cases noted

/-- At an end tag a field is given a value. -/
theorem eq_of_mem_atFinish {fields : List IdentityPath} {value : Option Value} {shown : String}
    {selection : OpenSelection} {sighting : Sighting}
    (member : sighting ∈ selection.atFinish fields value shown) :
    ∃ field value, field < fields.length ∧ sighting = .given selection.place field value shown := by
  obtain ⟨⟨path, field⟩, item, seen⟩ := List.mem_flatMap.mp member
  dsimp only at seen
  split at seen
  · obtain ⟨given, -, rfl⟩ := Option.map_eq_some_iff.mp (Option.mem_toList.mp seen)
    exact ⟨field, given, List.snd_lt_of_mem_zipIdx (List.mem_reverse.mp item), rfl⟩
  · cases seen

end OpenSelection

namespace CompiledIdentity

variable (constraint : CompiledIdentity)

/-- The element at the end of the names as a selected one, if it is selected. -/
def selectedAt (place : Nat) (names : List ExpandedName) : List OpenSelection :=
  if constraint.selector.selects names then [⟨place, []⟩] else []

/-- What a constraint sees at a start tag: what begins there, and then what the selected elements
around it find there. -/
def startSightings (event : ElementStart) (own around : List OpenSelection) : List Sighting :=
  (own.flatMap fun selection =>
      .begun selection.place :: selection.atStart constraint.fields event) ++
    around.flatMap (OpenSelection.atStart constraint.fields event)

/-- What a constraint sees at an end tag: what the selected elements find there, the innermost one
first, and then what ends there. -/
def finishSightings (value : Option Value) (shown : String) (own around : List OpenSelection) :
    List Sighting :=
  (around ++ own).reverse.flatMap (OpenSelection.atFinish constraint.fields value shown) ++
    own.map fun selection => .ended selection.place shown

/-- What a constraint sees of some elements. They are numbered from a place on, the names lead from
the element of the constraint to their parent, and some selected elements lie around them. -/
def sightings (place : Nat) (names : List ExpandedName) (around : List OpenSelection) :
    Assessed → List Sighting
  | .nothing => []
  | .element start inside value later =>
    let here := names ++ [start.name]
    let own := constraint.selectedAt place here
    let entered := around.map (OpenSelection.enter start.name)
    constraint.startSightings start own entered ++
      (sightings (place + 1) here (entered ++ own) inside ++
        (constraint.finishSightings value start.shown own entered ++
          sightings (place + 1 + inside.size) names around later))

/-- What a constraint sees of the element that carries it. -/
def sightingsOf (element : AssessedElement) : List Sighting :=
  let own := constraint.selectedAt 0 []
  constraint.startSightings element.start own [] ++
    (constraint.sightings 1 [] own element.inside ++
      constraint.finishSightings element.value element.start.shown own [])

end CompiledIdentity

/-! ### The matchers of a constraint -/

open IdentityEngine

/-- The matchers of the fields of a selected element. -/
def fieldWatchers (id : Nat) (fields : List IdentityPath) (selection : OpenSelection) :
    List ActiveMatcher :=
  fields.zipIdx.map fun (path, field) =>
    ⟨Matcher.after path selection.names, id, .field field⟩

/-- The matchers of a constraint inside of an element to which the names lead, with some selected
elements open. -/
def watchers (id : Nat) (constraint : CompiledIdentity) (names : List ExpandedName)
    (selections : List OpenSelection) : List ActiveMatcher :=
  ⟨Matcher.after constraint.selector names, id, .selector constraint.fields⟩ ::
    selections.flatMap (fieldWatchers id constraint.fields)

section Watchers

variable {id : Nat} {constraint : CompiledIdentity} {names : List ExpandedName}

theorem fieldRequests_eq (event : ElementStart) (selection : OpenSelection) (path : IdentityPath)
    (field : Nat) :
    event.fieldRequests field (path.selection selection.names event.attributeNames) =
      ((event.attributeValues path selection.names).map
          (Sighting.given selection.place field · event.shown) ++
        if path.selects selection.names && event.isNillable then
          [Sighting.noted selection.place event.shown]
        else []).map Sighting.operation := by
  rw [ElementStart.fieldRequests, List.map_append, List.map_map, ElementStart.attributeRequests]
  refine congr (congrArg _ ?_) ?_
  · rw [ElementStart.attributeValues, List.map_filterMap]
    rfl
  · show (if path.selects selection.names && event.isNillable then _ else _) = _
    split <;> rfl

/-- The fields of a selected element ask for what they see at a start tag further down. -/
theorem startRequests_fieldWatchers (event : ElementStart) (selection : OpenSelection)
    (fields : List IdentityPath) :
    (fieldWatchers id fields selection).flatMap (ActiveMatcher.startRequests event) =
      ((selection.enter event.name).atStart fields event).map Sighting.operation := by
  rw [fieldWatchers, List.flatMap_map, OpenSelection.atStart, List.map_flatMap]
  refine List.flatMap_congr fun member _ => ?_
  obtain ⟨path, field⟩ := member
  show event.fieldRequests field
    ((Matcher.after path selection.names).start event.name event.attributeNames).2 = _
  rw [Matcher.start_after]
  exact fieldRequests_eq event (selection.enter event.name) path field

/-- The fields of an element that was just selected ask for what they see at its start tag. -/
theorem ownRequests_eq (event : ElementStart) (place : Nat) (fields : List IdentityPath) :
    event.ownRequests fields.zipIdx =
      (OpenSelection.atStart fields event ⟨place, []⟩).map Sighting.operation := by
  rw [ElementStart.ownRequests, OpenSelection.atStart, List.map_flatMap]
  refine List.flatMap_congr fun member _ => ?_
  obtain ⟨path, field⟩ := member
  show event.fieldRequests field
    ((Matcher.ofPath path).start event.name event.attributeNames).2 = _
  rw [Matcher.start_ofPath]
  exact fieldRequests_eq event ⟨place, []⟩ path field

theorem finish_selected (path : IdentityPath) (names : List ExpandedName) :
    (Matcher.after path names).finish.2 = path.selects names := by
  rcases List.eq_nil_or_concat' names with rfl | ⟨front, name, rfl⟩
  · rw [Matcher.finish_after_nil]
  · rw [Matcher.finish_after]

theorem finishRequests_fieldWatchers (value : Option Value) (shown : String)
    (selection : OpenSelection) (fields : List IdentityPath) :
    (fieldWatchers id fields selection).reverse.flatMap (ActiveMatcher.finishRequests value shown) =
      (selection.atFinish fields value shown).map Sighting.operation := by
  rw [fieldWatchers, ← List.map_reverse, List.flatMap_map, OpenSelection.atFinish, List.map_flatMap]
  refine List.flatMap_congr fun member _ => ?_
  obtain ⟨path, field⟩ := member
  unfold ActiveMatcher.finishRequests
  show (if (Matcher.after path selection.names).finish.2 then _ else _) = _
  rw [finish_selected]
  dsimp only
  split
  · cases value <;> rfl
  · rfl

theorem started_fieldWatchers (event : ElementStart) (fields : List IdentityPath)
    (selection : OpenSelection) :
    (fieldWatchers id fields selection).map (ActiveMatcher.started event) =
      fieldWatchers id fields (selection.enter event.name) := by
  rw [fieldWatchers, fieldWatchers, List.map_map]
  refine List.map_congr_left fun member _ => ?_
  obtain ⟨path, field⟩ := member
  show ActiveMatcher.mk ((Matcher.after path selection.names).start event.name
    event.attributeNames).1 id (.field field) = _
  rw [Matcher.start_after]
  rfl

theorem brought_fieldWatchers (event : ElementStart) (fields : List IdentityPath)
    (selection : OpenSelection) :
    (fieldWatchers id fields selection).flatMap (ActiveMatcher.brought event) = [] := by
  rw [fieldWatchers, List.flatMap_map, List.flatMap_eq_nil_iff]
  exact fun _ _ => rfl

theorem ofField_eq (event : ElementStart) (place : Nat) (fields : List IdentityPath) :
    (fields.zipIdx.map fun (path, field) => ActiveMatcher.ofField event id path field) =
      fieldWatchers id fields ⟨place, []⟩ := by
  rw [fieldWatchers]
  refine List.map_congr_left fun member _ => ?_
  obtain ⟨path, field⟩ := member
  show ActiveMatcher.mk ((Matcher.ofPath path).start event.name event.attributeNames).1 id
    (.field field) = _
  rw [Matcher.start_ofPath]

/-- A selector that has moved on brings the fields of the element there if it selects it. -/
theorem brought_selector (event : ElementStart) (place : Nat) (fields : List IdentityPath)
    {selector : IdentityPath} {matcher : Matcher} {here : List ExpandedName}
    (selects : (matcher.start event.name event.attributeNames).2.element = selector.selects here) :
    ActiveMatcher.brought event ⟨matcher, id, .selector fields⟩ =
      (CompiledIdentity.selectedAt ⟨selector, fields⟩ place here).flatMap
        (fieldWatchers id fields) := by
  show (if (matcher.start event.name event.attributeNames).2.element then _ else _) = _
  rw [selects, CompiledIdentity.selectedAt]
  split
  · rw [List.flatMap_singleton]
    exact ofField_eq event place fields
  · rfl

/-- A selector that has moved on asks for a tuple and for what the fields of the element see
there, if it selects the element. -/
theorem startRequests_selector (event : ElementStart) (place : Nat) (fields : List IdentityPath)
    {selector : IdentityPath} {matcher : Matcher} {here : List ExpandedName}
    (selects : (matcher.start event.name event.attributeNames).2.element = selector.selects here) :
    ActiveMatcher.startRequests event ⟨matcher, id, .selector fields⟩ =
      (CompiledIdentity.startSightings ⟨selector, fields⟩ event
        (CompiledIdentity.selectedAt ⟨selector, fields⟩ place here) []).map
          Sighting.operation := by
  show (if (matcher.start event.name event.attributeNames).2.element then _ else _) = _
  rw [selects, CompiledIdentity.startSightings, CompiledIdentity.selectedAt, List.flatMap_nil,
    List.append_nil]
  split
  · rw [List.flatMap_singleton, List.map_cons, ownRequests_eq event place]
    rfl
  · rfl

/-- At a selected element the fields begin to be watched, and those of the selected elements
around it go on. -/
theorem startedAll_watchers (event : ElementStart) (place : Nat)
    (selections : List OpenSelection) :
    startedAll event (watchers id constraint names selections) =
      watchers id constraint (names ++ [event.name])
        (selections.map (OpenSelection.enter event.name) ++
          constraint.selectedAt place (names ++ [event.name])) := by
  have moved := Matcher.start_after constraint.selector names event.name event.attributeNames
  have around : (selections.flatMap (fieldWatchers id constraint.fields)).map
      (ActiveMatcher.started event) = (selections.map (OpenSelection.enter event.name)).flatMap
        (fieldWatchers id constraint.fields) := by
    rw [List.map_flatMap, List.flatMap_map]
    exact List.flatMap_congr fun selection _ => started_fieldWatchers event _ selection
  have nothing : (selections.flatMap (fieldWatchers id constraint.fields)).flatMap
      (ActiveMatcher.brought event) = [] := by
    rw [List.flatMap_assoc, List.flatMap_eq_nil_iff]
    exact fun selection _ => brought_fieldWatchers event _ selection
  rw [startedAll, watchers, List.map_cons, List.flatMap_cons, around, nothing, List.append_nil,
    brought_selector event place constraint.fields (congrArg (fun both => both.2.element) moved),
    watchers, List.flatMap_append, List.cons_append]
  refine congrArg (· :: _) ?_
  show ActiveMatcher.mk ((Matcher.after constraint.selector names).start event.name
    event.attributeNames).1 id (.selector constraint.fields) = _
  rw [moved]

/-- A selector that has seen no tag before is at the element of its constraint. -/
theorem startedAll_selector (event : ElementStart) (place : Nat) :
    startedAll event [⟨.ofPath constraint.selector, id, .selector constraint.fields⟩] =
      watchers id constraint [] (constraint.selectedAt place []) := by
  have moved := Matcher.start_ofPath constraint.selector event.name event.attributeNames
  rw [startedAll, List.flatMap_singleton, List.map_singleton,
    brought_selector event place constraint.fields (congrArg (fun both => both.2.element) moved),
    watchers, List.singleton_append]
  refine congrArg (· :: _) ?_
  show ActiveMatcher.mk ((Matcher.ofPath constraint.selector).start event.name
    event.attributeNames).1 id (.selector constraint.fields) = _
  rw [moved]

theorem startOperations_selector (event : ElementStart) (place : Nat) :
    startOperations event [⟨.ofPath constraint.selector, id, .selector constraint.fields⟩] =
      (constraint.startSightings event (constraint.selectedAt place []) []).map
        Sighting.operation := by
  have moved := Matcher.start_ofPath constraint.selector event.name event.attributeNames
  rw [startOperations, List.flatMap_singleton,
    startRequests_selector event place constraint.fields
      (congrArg (fun both => both.2.element) moved)]

/-- What is asked for at a start tag is what the constraint sees there. -/
theorem startOperations_watchers (event : ElementStart) (place : Nat)
    (selections : List OpenSelection) :
    startOperations event (watchers id constraint names selections) =
      (constraint.startSightings event (constraint.selectedAt place (names ++ [event.name]))
        (selections.map (OpenSelection.enter event.name))).map Sighting.operation := by
  have moved := Matcher.start_after constraint.selector names event.name event.attributeNames
  have around : (selections.flatMap (fieldWatchers id constraint.fields)).flatMap
      (ActiveMatcher.startRequests event) =
        ((selections.map (OpenSelection.enter event.name)).flatMap
          (OpenSelection.atStart constraint.fields event)).map Sighting.operation := by
    rw [List.flatMap_assoc, List.flatMap_map, List.map_flatMap]
    exact List.flatMap_congr fun selection _ =>
      startRequests_fieldWatchers event selection constraint.fields
  rw [startOperations, watchers, List.flatMap_cons, around,
    startRequests_selector event place constraint.fields
      (congrArg (fun both => both.2.element) moved),
    CompiledIdentity.startSightings, CompiledIdentity.startSightings, List.flatMap_nil,
    List.append_nil, List.map_append]

/-- What is asked for at an end tag is what the constraint sees there. -/
theorem finishOperations_watchers (value : Option Value) (shown : String) (place : Nat)
    (here : List ExpandedName) (around : List OpenSelection) :
    finishOperations value shown
        (watchers id constraint here (around ++ constraint.selectedAt place here)) =
      (constraint.finishSightings value shown (constraint.selectedAt place here) around).map
        Sighting.operation := by
  have fields (selections : List OpenSelection) :
      (selections.flatMap (fieldWatchers id constraint.fields)).reverse.flatMap
          (ActiveMatcher.finishRequests value shown) =
        (selections.reverse.flatMap
          (OpenSelection.atFinish constraint.fields value shown)).map Sighting.operation := by
    rw [List.reverse_flatMap, List.flatMap_assoc, List.map_flatMap]
    exact List.flatMap_congr fun selection _ => finishRequests_fieldWatchers value shown selection _
  have selector : ActiveMatcher.finishRequests value shown
      ⟨Matcher.after constraint.selector here, id, .selector constraint.fields⟩ =
        ((constraint.selectedAt place here).map fun selection =>
          Sighting.ended selection.place shown).map Sighting.operation := by
    show (if (Matcher.after constraint.selector here).finish.2 then _ else _) = _
    rw [finish_selected, CompiledIdentity.selectedAt]
    split <;> rfl
  rw [finishOperations, watchers, List.reverse_cons, List.flatMap_append, List.flatMap_singleton,
    fields, selector, CompiledIdentity.finishSightings, List.map_append]

/-- The matchers of a constraint ask its store for what the constraint sees. -/
theorem follow_watchers (place : Nat) (selections : List OpenSelection) (content : Assessed) :
    follow (watchers id constraint names selections) content =
      (constraint.sightings place names selections content).map Sighting.operation := by
  induction content generalizing place names selections with
  | nothing => rfl
  | element start inside value later ofInside ofLater =>
    rw [follow, startOperations_watchers start place, startedAll_watchers start place,
      ofInside (place + 1), finishOperations_watchers, ofLater (place + 1 + inside.size),
      CompiledIdentity.sightings]
    simp only [List.map_append]

end Watchers

end SchemaAssessment
