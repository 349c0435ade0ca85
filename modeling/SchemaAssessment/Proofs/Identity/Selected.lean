/-
The elements that a selector selects, and the values that fields find from them. Where no
selected element lies inside of another, a constraint sees one selected element after
the other, and of each of them just what its own fields find; and of a selected element
that neither lies inside of another nor has one inside of it, this holds whatever the
others do.
-/

import SchemaAssessment.Proofs.Identity.Sightings

namespace SchemaAssessment

/-! ### Selected elements -/

/-- A selected element, by its place among all start tags. -/
structure Selected where
  place : Nat
  element : AssessedElement

/-- The second element lies inside of the first. -/
def Selected.Contains (outer inner : Selected) : Prop :=
  outer.place < inner.place ∧ inner.place ≤ outer.place + outer.element.inside.size

instance (outer inner : Selected) : Decidable (outer.Contains inner) :=
  inferInstanceAs (Decidable (_ ∧ _))

/-- The elements that a path selects among some elements, in the order of their start tags. The
elements are numbered from a place on, and the names lead to their parent. -/
def Assessed.selected (path : IdentityPath) (place : Nat) (names : List ExpandedName) :
    Assessed → List Selected
  | .nothing => []
  | .element start inside value later =>
    let here := names ++ [start.name]
    (if path.selects here then [⟨place, ⟨start, inside, value⟩⟩] else []) ++
      (inside.selected path (place + 1) here ++
        later.selected path (place + 1 + inside.size) names)

/-- The elements that a path selects from an element, which may be one of them. -/
def AssessedElement.selected (path : IdentityPath) (element : AssessedElement) : List Selected :=
  (if path.selects [] then [⟨0, element⟩] else []) ++ element.inside.selected path 1 []

/-- The values that a path finds in some elements, when the names lead to their parent: attributes
have theirs at the start tag, and elements at the end tag. -/
def Assessed.valuesOf (path : IdentityPath) (names : List ExpandedName) : Assessed → List Value
  | .nothing => []
  | .element start inside value later =>
    let here := names ++ [start.name]
    start.attributeValues path here ++ (inside.valuesOf path here ++
      ((if path.selects here then value.toList else []) ++ later.valuesOf path names))

/-- The values that a path finds from an element. -/
def AssessedElement.valuesOf (path : IdentityPath) (element : AssessedElement) : List Value :=
  element.start.attributeValues path [] ++ (element.inside.valuesOf path [] ++
    if path.selects [] then element.value.toList else [])

/-! ### Places -/

theorem Assessed.place_of_mem_selected {path : IdentityPath} {content : Assessed} {place : Nat}
    {names : List ExpandedName} {chosen : Selected}
    (member : chosen ∈ content.selected path place names) :
    place ≤ chosen.place ∧ chosen.place + chosen.element.inside.size < place + content.size := by
  induction content generalizing place names with
  | nothing => cases member
  | element start inside value later ofInside ofLater =>
    rw [Assessed.size]
    rcases List.mem_append.mp member with here | further
    · split at here
      · obtain rfl := List.mem_singleton.mp here
        exact ⟨le_rfl, by show place + inside.size < _; omega⟩
      · cases here
    · rcases List.mem_append.mp further with within | behind
      · obtain ⟨least, greatest⟩ := ofInside within
        omega
      · obtain ⟨least, greatest⟩ := ofLater behind
        omega

/-- The elements inside of a selected element are just those that have it around them. -/
theorem Assessed.contains_of_mem_selected {path : IdentityPath} {start : ElementStart}
    {inside : Assessed} {value : Option Value} {place : Nat} {names : List ExpandedName}
    {chosen : Selected} (member : chosen ∈ inside.selected path (place + 1) names) :
    Selected.Contains ⟨place, ⟨start, inside, value⟩⟩ chosen := by
  obtain ⟨least, greatest⟩ := place_of_mem_selected member
  exact ⟨least, by show chosen.place ≤ place + inside.size; omega⟩

/-! ### What one selected element sees -/

/-- What the fields of a selected element see in some elements further down. -/
def OpenSelection.within (fields : List IdentityPath) (selection : OpenSelection) :
    Assessed → List Sighting
  | .nothing => []
  | .element start inside value later =>
    let entered := selection.enter start.name
    entered.atStart fields start ++ (within fields entered inside ++
      (entered.atFinish fields value start.shown ++ within fields selection later))

/-- What the fields of a selected element see from it. -/
def Selected.own (fields : List IdentityPath) (chosen : Selected) : List Sighting :=
  let selection : OpenSelection := ⟨chosen.place, []⟩
  selection.atStart fields chosen.element.start ++
    (selection.within fields chosen.element.inside ++
      selection.atFinish fields chosen.element.value chosen.element.start.shown)

/-- A selected element from its beginning to its end, as if it were the only one. -/
def Selected.window (fields : List IdentityPath) (chosen : Selected) : List Sighting :=
  .begun chosen.place :: (chosen.own fields ++ [.ended chosen.place chosen.element.start.shown])

namespace CompiledIdentity

variable {constraint : CompiledIdentity} {place : Nat} {names : List ExpandedName}

/-- A selected element without others inside of it sees what its own fields find. -/
theorem sightings_of_selection {content : Assessed}
    (unselected : content.selected constraint.selector place names = [])
    (selection : OpenSelection) :
    constraint.sightings place names [selection] content =
      selection.within constraint.fields content := by
  induction content generalizing place names selection with
  | nothing => rfl
  | element start inside value later ofInside ofLater =>
    obtain ⟨here, further⟩ := List.append_eq_nil_iff.mp unselected
    obtain ⟨within, behind⟩ := List.append_eq_nil_iff.mp further
    have refused : ¬ constraint.selector.selects (names ++ [start.name]) = true := fun selects => by
      rw [if_pos selects] at here
      cases here
    have own : constraint.selectedAt place (names ++ [start.name]) = [] := if_neg refused
    rw [sightings, OpenSelection.within, own, List.append_nil, List.map_singleton, ofInside within,
      ofLater behind, startSightings, finishSightings, List.flatMap_nil, List.nil_append,
      List.flatMap_singleton, List.append_nil, List.reverse_singleton, List.flatMap_singleton,
      List.map_nil, List.append_nil]

/-- An element that is selected, with none inside of it that is, is seen as if it were the only
one. -/
theorem sightings_element {start : ElementStart} {inside : Assessed}
    {here : List ExpandedName} (selects : constraint.selector.selects here = true)
    (unselected : inside.selected constraint.selector (place + 1) here = [])
    (value : Option Value) :
    constraint.startSightings start (constraint.selectedAt place here) [] ++
        (constraint.sightings (place + 1) here (constraint.selectedAt place here) inside ++
          constraint.finishSightings value start.shown (constraint.selectedAt place here) []) =
      Selected.window constraint.fields ⟨place, ⟨start, inside, value⟩⟩ := by
  have own : constraint.selectedAt place here = [⟨place, []⟩] := if_pos selects
  rw [own, sightings_of_selection unselected, startSightings, finishSightings, Selected.window,
    Selected.own, List.flatMap_singleton, List.flatMap_nil, List.append_nil, List.nil_append,
    List.reverse_singleton, List.flatMap_singleton, List.map_singleton]
  simp only [List.append_assoc, List.cons_append]

theorem sightings_cons_selected {start : ElementStart} {inside : Assessed}
    (selects : constraint.selector.selects (names ++ [start.name]) = true)
    (unselected : inside.selected constraint.selector (place + 1) (names ++ [start.name]) = [])
    (value : Option Value) (later : Assessed) :
    constraint.sightings place names [] (.element start inside value later) =
      Selected.window constraint.fields ⟨place, ⟨start, inside, value⟩⟩ ++
        constraint.sightings (place + 1 + inside.size) names [] later := by
  rw [← sightings_element selects unselected value, sightings]
  simp only [List.map_nil, List.nil_append, List.append_assoc]

theorem sightings_cons_unselected {start : ElementStart}
    (refused : ¬ constraint.selector.selects (names ++ [start.name]) = true)
    (inside : Assessed) (value : Option Value) (later : Assessed) :
    constraint.sightings place names [] (.element start inside value later) =
      constraint.sightings (place + 1) (names ++ [start.name]) [] inside ++
        constraint.sightings (place + 1 + inside.size) names [] later := by
  have own : constraint.selectedAt place (names ++ [start.name]) = [] := if_neg refused
  rw [sightings, own]
  rfl

theorem exists_sightings_append (start : ElementStart) (inside : Assessed) (value : Option Value)
    (later : Assessed) :
    ∃ before, constraint.sightings place names [] (.element start inside value later) =
      before ++ constraint.sightings (place + 1 + inside.size) names [] later := by
  rw [sightings]
  simp only [← List.append_assoc]
  exact ⟨_, rfl⟩

/-! ### Elements that lie apart -/

/-- Where no selected element lies inside of another, they are seen one after the other. -/
theorem sightings_of_apart {content : Assessed}
    (apart : ∀ outer ∈ content.selected constraint.selector place names,
      ∀ inner ∈ content.selected constraint.selector place names, ¬ outer.Contains inner) :
    constraint.sightings place names [] content =
      (content.selected constraint.selector place names).flatMap
        (Selected.window constraint.fields) := by
  induction content generalizing place names with
  | nothing => rfl
  | element start inside value later ofInside ofLater =>
    rw [Assessed.selected] at apart ⊢
    have apartLater := ofLater fun outer memberOuter inner memberInner =>
      apart outer (List.mem_append_right _ (List.mem_append_right _ memberOuter))
        inner (List.mem_append_right _ (List.mem_append_right _ memberInner))
    by_cases selects : constraint.selector.selects (names ++ [start.name]) = true
    · rw [if_pos selects] at apart ⊢
      have unselected :
          inside.selected constraint.selector (place + 1) (names ++ [start.name]) = [] :=
        List.eq_nil_iff_forall_not_mem.mpr fun inner member =>
          apart _ List.mem_cons_self inner
            (List.mem_append_right _ (List.mem_append_left _ member))
            (Assessed.contains_of_mem_selected member)
      rw [sightings_cons_selected selects unselected, unselected, apartLater, List.nil_append,
        List.flatMap_append, List.flatMap_singleton]
    · rw [if_neg selects] at apart ⊢
      have apartInside := ofInside fun outer memberOuter inner memberInner =>
        apart outer (List.mem_append_right _ (List.mem_append_left _ memberOuter))
          inner (List.mem_append_right _ (List.mem_append_left _ memberInner))
      rw [sightings_cons_unselected selects, apartInside, apartLater, List.nil_append,
        List.flatMap_append]

/-- A selected element apart from all others is seen as if it were the only one. -/
theorem exists_window {content : Assessed} {chosen : Selected}
    (member : chosen ∈ content.selected constraint.selector place names)
    (apart : ∀ other ∈ content.selected constraint.selector place names,
      ¬ other.Contains chosen ∧ ¬ chosen.Contains other) :
    ∃ earlier later, constraint.sightings place names [] content =
      earlier ++ (chosen.window constraint.fields ++ later) := by
  induction content generalizing place names with
  | nothing => cases member
  | element start inside value later ofInside ofLater =>
    rw [Assessed.selected] at member apart
    rcases List.mem_append.mp member with here | further
    · split at here
      · rename_i selects
        obtain rfl := List.mem_singleton.mp here
        have unselected :
            inside.selected constraint.selector (place + 1) (names ++ [start.name]) = [] :=
          List.eq_nil_iff_forall_not_mem.mpr fun inner member =>
            (apart inner (List.mem_append_right _ (List.mem_append_left _ member))).2
              (Assessed.contains_of_mem_selected member)
        exact ⟨[], _, sightings_cons_selected selects unselected value later⟩
      · cases here
    · rcases List.mem_append.mp further with within | behind
      · by_cases selects : constraint.selector.selects (names ++ [start.name]) = true
        · rw [if_pos selects] at apart
          exact absurd (Assessed.contains_of_mem_selected within)
            (apart ⟨place, ⟨start, inside, value⟩⟩ List.mem_cons_self).1
        · obtain ⟨earlier, behind, same⟩ := ofInside within fun other memberOther =>
            apart other (List.mem_append_right _ (List.mem_append_left _ memberOther))
          refine ⟨earlier,
            behind ++ constraint.sightings (place + 1 + inside.size) names [] later, ?_⟩
          rw [sightings_cons_unselected selects, same]
          simp only [List.append_assoc]
      · obtain ⟨earlier, last, same⟩ := ofLater behind fun other memberOther =>
          apart other (List.mem_append_right _ (List.mem_append_right _ memberOther))
        obtain ⟨before, whole⟩ := exists_sightings_append start inside value later
        refine ⟨before ++ earlier, last, ?_⟩
        rw [whole, same, List.append_assoc]

/-! ### The element of the constraint -/

variable {element : AssessedElement}

theorem sightingsOf_selected (selects : constraint.selector.selects [] = true)
    (unselected : element.inside.selected constraint.selector 1 [] = []) :
    constraint.sightingsOf element = Selected.window constraint.fields ⟨0, element⟩ :=
  sightings_element selects unselected element.value

theorem sightingsOf_unselected (refused : ¬ constraint.selector.selects [] = true) :
    constraint.sightingsOf element = constraint.sightings 1 [] [] element.inside := by
  have own : constraint.selectedAt 0 [] = [] := if_neg refused
  rw [sightingsOf, own]
  exact List.append_nil _

/-- If no selected element lies inside of another, a constraint sees one after the other. -/
theorem sightingsOf_of_apart
    (apart : ∀ outer ∈ element.selected constraint.selector,
      ∀ inner ∈ element.selected constraint.selector, ¬ outer.Contains inner) :
    constraint.sightingsOf element =
      (element.selected constraint.selector).flatMap (Selected.window constraint.fields) := by
  rw [AssessedElement.selected] at apart ⊢
  by_cases selects : constraint.selector.selects [] = true
  · rw [if_pos selects] at apart ⊢
    have unselected : element.inside.selected constraint.selector 1 [] = [] :=
      List.eq_nil_iff_forall_not_mem.mpr fun inner member =>
        apart _ List.mem_cons_self inner (List.mem_append_right _ member)
          (Assessed.contains_of_mem_selected member)
    rw [sightingsOf_selected selects unselected, unselected, List.append_nil,
      List.flatMap_singleton]
  · rw [if_neg selects, List.nil_append] at apart ⊢
    rw [sightingsOf_unselected selects, sightings_of_apart apart]

/-- A selected element apart from all others is seen as if it were the only one. -/
theorem exists_window_of_apart {chosen : Selected}
    (member : chosen ∈ element.selected constraint.selector)
    (apart : ∀ other ∈ element.selected constraint.selector,
      ¬ other.Contains chosen ∧ ¬ chosen.Contains other) :
    ∃ earlier later, constraint.sightingsOf element =
      earlier ++ (chosen.window constraint.fields ++ later) := by
  rw [AssessedElement.selected] at member apart
  by_cases selects : constraint.selector.selects [] = true
  · rw [if_pos selects] at member apart
    rcases List.mem_cons.mp member with rfl | inside
    · have unselected : element.inside.selected constraint.selector 1 [] = [] :=
        List.eq_nil_iff_forall_not_mem.mpr fun inner memberInner =>
          (apart inner (List.mem_append_right _ memberInner)).2
            (Assessed.contains_of_mem_selected memberInner)
      exact ⟨[], [], by rw [sightingsOf_selected selects unselected, List.append_nil]; rfl⟩
    · exact absurd (Assessed.contains_of_mem_selected inside)
        (apart ⟨0, element⟩ List.mem_cons_self).1
  · rw [if_neg selects, List.nil_append] at member apart
    rw [sightingsOf_unselected selects]
    exact exists_window member apart

end CompiledIdentity

/-! ### Values from a selected element -/

/-- The values that some operations give to a field. -/
def valuesGiven (field : Nat) (operations : List StoreOperation) : List Value :=
  operations.filterMap fun operation => match operation with
    | .give other value _ => if other = field then some value else none
    | _ => none

theorem valuesGiven_append (field : Nat) (first second : List StoreOperation) :
    valuesGiven field (first ++ second) = valuesGiven field first ++ valuesGiven field second :=
  List.filterMap_append

theorem valuesGiven_flatMap {α : Type} (field : Nat) (items : List α)
    (make : α → List StoreOperation) :
    valuesGiven field (items.flatMap make) =
      items.flatMap fun item => valuesGiven field (make item) := by
  rw [valuesGiven, List.filterMap_flatMap]
  rfl

theorem flatMap_zipIdx_single {α β : Type} (items : List α) (make : α → List β) (index : Nat) :
    (items.zipIdx.flatMap fun item => if item.2 = index then make item.1 else []) =
      (items[index]?.map make).getD [] := by
  have chosen := flatMap_filter items.zipIdx (fun item => item.2 == 0 + index)
    fun item => make item.1
  rw [filter_zipIdx] at chosen
  simp only [beq_iff_eq, Nat.zero_add] at chosen
  rw [← chosen]
  cases items[index]? with
  | none => rfl
  | some item => exact List.flatMap_singleton ..

namespace OpenSelection

variable {fields : List IdentityPath} {field : Nat} {path : IdentityPath}

theorem valuesGiven_atStart (standing : fields[field]? = some path) (event : ElementStart)
    (selection : OpenSelection) :
    valuesGiven field ((selection.atStart fields event).map Sighting.operation) =
      event.attributeValues path selection.names := by
  have each (item : IdentityPath × Nat) :
      valuesGiven field (List.map Sighting.operation
        ((event.attributeValues item.1 selection.names).map
            (Sighting.given selection.place item.2 · event.shown) ++
          if item.1.selects selection.names && event.isNillable then
            [Sighting.noted selection.place event.shown]
          else [])) =
        if item.2 = field then event.attributeValues item.1 selection.names else [] := by
    have noted : valuesGiven field (List.map Sighting.operation
        (if item.1.selects selection.names && event.isNillable then
          [Sighting.noted selection.place event.shown]
        else [])) = [] := by
      split <;> rfl
    rw [List.map_append, valuesGiven_append, noted, List.append_nil, List.map_map, valuesGiven,
      List.filterMap_map]
    split
    · rename_i same
      subst same
      simp [Function.comp_def, Sighting.operation]
    · rename_i different
      simp [Function.comp_def, Sighting.operation, different]
  rw [atStart, List.map_flatMap, valuesGiven_flatMap]
  refine (List.flatMap_congr fun item _ => each item).trans ?_
  rw [flatMap_zipIdx_single fields (fun path => event.attributeValues path selection.names),
    standing]
  rfl

theorem valuesGiven_atFinish (standing : fields[field]? = some path) (value : Option Value)
    (shown : String) (selection : OpenSelection) :
    valuesGiven field ((selection.atFinish fields value shown).map Sighting.operation) =
      if path.selects selection.names then value.toList else [] := by
  have each (item : IdentityPath × Nat) :
      (valuesGiven field (List.map Sighting.operation
        (if item.1.selects selection.names then
          (value.map (Sighting.given selection.place item.2 · shown)).toList
        else []))).reverse =
        if item.2 = field then
          if item.1.selects selection.names then value.toList else []
        else [] := by
    cases value with
    | none => simp [valuesGiven]
    | some value =>
      split
      · by_cases same : item.2 = field
        · simp [valuesGiven, Sighting.operation, same]
        · simp [valuesGiven, Sighting.operation, same]
      · simp [valuesGiven]
  rw [atFinish, List.map_flatMap, valuesGiven_flatMap, List.flatMap_reverse]
  have all := flatMap_zipIdx_single fields
    (fun path => if path.selects selection.names then value.toList else []) field
  rw [standing] at all
  refine (congrArg List.reverse ((List.flatMap_congr fun item _ => each item).trans all)).trans ?_
  show (if path.selects selection.names then value.toList else []).reverse = _
  split
  · cases value <;> rfl
  · rfl

/-- What is given to a field further down are the values that its path finds there. -/
theorem valuesGiven_within (standing : fields[field]? = some path) (selection : OpenSelection)
    (content : Assessed) :
    valuesGiven field ((selection.within fields content).map Sighting.operation) =
      content.valuesOf path selection.names := by
  induction content generalizing selection with
  | nothing => rfl
  | element start inside value later ofInside ofLater =>
    simp only [within, List.map_append, valuesGiven_append, valuesGiven_atStart standing,
      valuesGiven_atFinish standing, ofInside, ofLater]
    rfl

end OpenSelection

/-- What a selected element gives to a field are the values that the path of the field finds. -/
theorem Selected.valuesGiven_own {fields : List IdentityPath} {field : Nat} {path : IdentityPath}
    (standing : fields[field]? = some path) (chosen : Selected) :
    valuesGiven field ((chosen.own fields).map Sighting.operation) =
      chosen.element.valuesOf path := by
  simp only [own, List.map_append, valuesGiven_append, OpenSelection.valuesGiven_atStart standing,
    OpenSelection.valuesGiven_within standing, OpenSelection.valuesGiven_atFinish standing]
  rfl

end SchemaAssessment
