/-
What a run makes of selected elements that lie inside of each other. The store of the
constraint tells and records what becomes of the tuple in progress, and for each selected
element that is what would become of it as the only one, just if it is undisturbed.
-/

import SchemaAssessment.Proofs.Assessment.Tuples
import SchemaAssessment.Proofs.Identity.Nested

namespace SchemaAssessment

namespace Validator

variable {validator : Validator} {name ending : QualifiedName} {attributes : Attributes}
  {inside : Fragment} {event : ElementStart}

/-- In every run, the store that was opened for a constraint tells and records what becomes of the
sightings of all selected elements. As the only one, a selected element would have the tuple of the
first values of its fields recorded, and would be told what they lack or have beyond that; and just
if it is undisturbed, this is what becomes of it. It is undisturbed at least if it neither lies
inside of another selected element nor has one inside of it. -/
theorem run_answers_iff_undisturbed (reachable : validator.Reachable)
    (runs : (validator.run (elementEvents name attributes inside ending)).failure = none)
    (shown : validator.shownStart? name attributes = some event) {index : Nat}
    {identity : IdentityConstraint} {compiled : CompiledIdentity}
    (constraint : event.constraints[index]? = some (identity, compiled)) {chosen : Selected} :
    let element := validator.assessedElement event name attributes inside
    let reports := validator.identities.reportsAll element.tags
    let store := validator.identities.cache.nextId + index
    let fresh := ValueStore.start identity event.declarer
    let answers := fresh.answers (compiled.sightingsOf element)
    let alone := fresh.answers (chosen.window compiled.fields)
    let values := chosen.values compiled
    chosen ∈ element.selected compiled.selector →
      gist (validator.run (elementEvents name attributes inside ending)).diagnostics =
          gist (reports.map Prod.snd) ∧
        gist (ofStore store reports) =
          tidings identity event.declarer [] (answers.map Prod.snd) ∧
        (∃ filled, (validator.identities.closing element).stores[store]? = some filled ∧
          filled.HasSeen identity event.declarer (tuplesOf (answers.map Prod.snd))) ∧
        tuplesOf (alone.map Prod.snd) = (tupleOf? values).toList ∧
        ((alone.map Prod.snd).flatMap StoreOutcome.told).Perm
          (surplus identity.fields values ++ identity.lack event.declarer values) ∧
        (answers.filter (fun answer => answer.1.isAbout chosen.place) = alone ↔
          compiled.Undisturbed identity event.declarer element chosen) ∧
        ((∀ other ∈ element.selected compiled.selector,
            ¬ other.Contains chosen ∧ ¬ chosen.Contains other) →
          compiled.Undisturbed identity event.declarer element chosen) := by
  intro element reports store fresh answers alone values member
  have seen := ValueStore.hasSeen_start identity event.declarer
  obtain ⟨fits, nonempty⟩ := IdentityConstraint.fields_of_compile
    (event.compile_of_constraint constraint)
  have carried : element.start.constraints[index]? = some (identity, compiled) := constraint
  obtain ⟨standing, reported⟩ := IdentityEngine.store_of_element reachable.isTidy carried
  obtain ⟨recorded, -, told⟩ :=
    seen.performAll ((compiled.sightingsOf element).map Sighting.operation)
  obtain ⟨tuples, lacking⟩ := CompiledIdentity.outcomesOf_window event.declarer nonempty fits
    (seen.fits.trans fits) chosen
  have outcomes := ValueStore.outcomesOf_answers seen (compiled.sightingsOf element)
  have own := ValueStore.outcomesOf_answers seen (chosen.window compiled.fields)
  refine ⟨?_, ?_, ⟨_, standing, ?_⟩, ?_, ?_, ?_, ?_⟩
  · rw [← gist_ofIdentity, (run_element reachable.settled runs shown).2, gist_ofIdentity]
    exact IdentityEngine.gist_readAll _ _
  · rw [outcomes]
    exact (congrArg gist reported).trans told
  · rw [outcomes]
    exact recorded
  · rw [own]
    exact tuples
  · rw [own]
    exact lacking
  · exact CompiledIdentity.filter_answers_iff_undisturbed fits event.declarer member
  · exact CompiledIdentity.undisturbed_of_apart fits event.declarer member

/-! ### A branch inside of another -/

/-- Branches are told apart by their labels. -/
def branchUnique : IdentityConstraint :=
  ⟨.unqualified "branchUnique", .unique, ".//branch", ["label"], none, []⟩

/-- A declaration under which an element may have one child of each of some names. -/
def holding (localName : String) (identities : List IdentityConstraint) (children : List String) :
    ElementDeclaration :=
  let particles : List (Particle ElementTerm) :=
    children.map fun child => .element (.global (.unqualified child)) ⟨0, some 1⟩
  { ElementDeclaration.ofName (.unqualified localName) with
    type := some (.complex (.ofContent none .elementOnly (some (.mk .all particles .once))))
    identities }

/-- A declaration under which an element has text alone. -/
def ofText (localName : String) : ElementDeclaration :=
  { ElementDeclaration.ofName (.unqualified localName) with
    type := some (.named (.ofSchema "string")) }

/-- A validator that knows of branches. -/
def ofBranches : Validator :=
  .initial (.put .nothing ((((Grammar.empty none).addElement
    (holding "tree" [branchUnique] ["branch"])).addElement
      (holding "branch" [] ["branch", "label"])).addElement (ofText "label"))) none {}

/-- A label, and nothing behind it. -/
def label (text : String) : Fragment :=
  .element (plain "label") [] (.piece (.characters text) rfl .nothing) (plain "label") .nothing

/-- A branch with a label that lies inside of another one, whose own label comes behind it. -/
def branches : Fragment :=
  .element (plain "branch") []
    (.element (plain "branch") [] (label "1") (plain "branch") (label "2"))
    (plain "branch") .nothing

/-- The start tag of a tree. -/
def treeStart : ElementStart :=
  ⟨.unqualified "tree", "tree", [], [], some (holding "tree" [branchUnique] ["branch"])⟩

/-- The paths of the constraint on branches. -/
def branchPaths : CompiledIdentity :=
  let child (name : String) : NameTest := .name (.unqualified name)
  ⟨⟨".//branch", [⟨true, [⟨.child, child "branch"⟩]⟩]⟩,
    [⟨"label", [⟨false, [⟨.child, child "label"⟩]⟩]⟩]⟩

/-- The tree of a branch with another one inside of it. -/
def branchTree : AssessedElement := ofBranches.assessedElement treeStart (plain "tree") [] branches

theorem run_answers_iff_undisturbed_branches :
    let chosen := branchTree.selected branchPaths.selector
    (ofBranches.run (elementEvents (plain "tree") [] branches (plain "tree"))).failure = none ∧
      ∃ outer ∈ chosen, ∃ inner ∈ chosen, outer.Contains inner ∧
        ¬ branchPaths.Undisturbed branchUnique "tree" branchTree outer ∧
        branchPaths.Undisturbed branchUnique "tree" branchTree inner := by
  intro chosen
  have runs : (ofBranches.run (elementEvents (plain "tree") [] branches (plain "tree"))).failure =
      none := by
    decide +kernel
  have shown : ofBranches.shownStart? (plain "tree") [] = some treeStart := rfl
  have constraint : treeStart.constraints[0]? = some (branchUnique, branchPaths) := by
    decide +kernel
  have answered {selected : Selected} (member : selected ∈ chosen) :=
    (run_answers_iff_undisturbed (.initial ..) runs shown constraint member).2.2.2.2.2.1
  have around := List.mem_of_getElem?
    (rfl : (branchTree.selected branchPaths.selector)[0]? = some _)
  have within := List.mem_of_getElem?
    (rfl : (branchTree.selected branchPaths.selector)[1]? = some _)
  refine ⟨runs, _, around, _, within, by decide +kernel, fun undisturbed => ?_,
    (answered within).mp rfl⟩
  -- as the only one, the outer branch would not be told anything
  have told := congrArg (fun answers => (answers.map Prod.snd).flatMap StoreOutcome.told)
    ((answered around).mpr undisturbed)
  exact absurd told (by decide +kernel)

/-- Of two branches of which one lies inside of the other, each has one label; but of the outer one
it is told that it has more, and its label is not recorded. -/
theorem outer_branch_disturbed :
    let chosen := branchTree.selected branchPaths.selector
    let answers := (ValueStore.start branchUnique "tree").answers
      (branchPaths.sightingsOf branchTree)
    let outer := (answers.filter fun answer => answer.1.isAbout 1).map Prod.snd
    (ofBranches.run (elementEvents (plain "tree") [] branches (plain "tree"))).failure = none ∧
      ofBranches.shownStart? (plain "tree") [] = some treeStart ∧
      treeStart.constraints[0]? = some (branchUnique, branchPaths) ∧
      chosen.map (fun selected =>
          (selected.place, (selected.values branchPaths).map (List.map Value.text))) =
        [(1, [["2"]]), (2, [["1"]])] ∧
      (ofBranches.run (elementEvents (plain "tree") [] branches (plain "tree"))).diagnostics =
        [⟨.fieldMultipleMatch, "label", ["label"]⟩] ∧
      outer.flatMap StoreOutcome.told = [(.fieldMultipleMatch, ["label"])] ∧
      (tuplesOf outer).map Tuple.text = [] := by
  refine ⟨?_, rfl, ?_, ?_, ?_, ?_, ?_⟩ <;> decide +kernel

end Validator

end SchemaAssessment
