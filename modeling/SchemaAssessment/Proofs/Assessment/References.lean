/-
The scope of references in a run. When an assessed element ends, its references are
looked up among the keys and unique constraints of its own subtree and of the subtrees of
the siblings before it, as far as they were assessed. Nothing else counts: neither what
comes behind the element, nor what belongs to the elements around it or to their siblings.
-/

import SchemaAssessment.Proofs.Assessment.Tuples
import SchemaAssessment.Proofs.Identity.References

namespace SchemaAssessment

theorem ofReference_ofIdentity (diagnostics : List Diagnostic) :
    ofReference (ofIdentity diagnostics) = ofReference diagnostics := by
  rw [ofReference, ofIdentity, List.filter_filter, ofReference]
  refine List.filter_congr fun diagnostic _ => ?_
  cases diagnostic.rule <;> rfl

namespace Validator

/-- A state in which no sibling of the next element has ended: nothing has been seen, a document
begins or has ended, or the start tag of the parent has just been taken. -/
inductive IsOpening : Validator → Prop where
  | initial (registry : Registry) (source : Option GrammarSource)
      (configuration : Configuration) : IsOpening (.initial registry source configuration)
  | startDocument {validator : Validator} (reachable : validator.Reachable) :
      IsOpening (validator.step .startDocument).validator
  | endDocument {validator : Validator} (reachable : validator.Reachable) :
      IsOpening (validator.step .endDocument).validator
  | startElement {validator : Validator} (reachable : validator.Reachable)
      {name : QualifiedName} {attributes : Attributes}
      (passes : (validator.step (.startElement name attributes)).failure = none) :
      IsOpening (validator.step (.startElement name attributes)).validator

theorem IsOpening.reachable {validator : Validator} (opens : validator.IsOpening) :
    validator.Reachable := by
  cases opens with
  | initial registry source configuration => exact .initial registry source configuration
  | startDocument reachable => exact reachable.step _
  | endDocument reachable => exact reachable.step _
  | startElement reachable passes => exact reachable.step _

/-- Where no sibling has ended the table is empty, unless no element is shown there at all. -/
theorem IsOpening.table {validator : Validator} (opens : validator.IsOpening) :
    validator.identities.cache.table = [] ∨ validator.Quiet := by
  cases opens with
  | initial registry source configuration => exact .inl rfl
  | startDocument reachable => exact .inl rfl
  | endDocument reachable => exact .inl rfl
  | @startElement validator reachable name attributes passes =>
    have opening := validator.start_opening name attributes passes
    cases shown : validator.shownStart? name attributes with
    | none =>
      rw [shown] at opening
      exact .inr opening.quiet
    | some event =>
      have read := (validator.start_identities name attributes).1
      rw [shown] at read
      refine .inl ?_
      show (validator.start name attributes).validator.identities.cache.table = []
      rw [read]
      exact IdentityEngine.start_table validator.identities event

variable {validator : Validator} {name ending : QualifiedName} {attributes : Attributes}
  {inside : Fragment} {event : ElementStart}

/-- The table behind some siblings stands for what was active in them, wherever another element is
shown. -/
theorem represents_siblings (opens : validator.IsOpening) {siblings : Fragment}
    (runs : (validator.run siblings.events).failure = none)
    (passes : ((validator.run siblings.events).validator.start name attributes).failure = none)
    (shown : (validator.run siblings.events).validator.shownStart? name attributes = some event) :
    (validator.run siblings.events).validator.identities.cache.table.Represents
      (validator.assessed siblings).activations := by
  obtain ⟨stands, tags, -⟩ := run_fragment runs opens.reachable.settled
  have within : ∀ event ∈ siblings.events, event.isWithin = true :=
    fun event member => Fragment.isWithin_of_mem_events member
  rcases opens.table with empty | quiet
  · have fresh : validator.identities.cache.table.Represents [] := by
      rw [empty]
      exact KeyTable.represents_nil
    rw [(validator.run_identities within runs).1, tags]
    exact IdentityEngine.represents_readAll opens.reachable.isTidy fresh
  · have opening := start_opening _ name attributes passes
    cases shown.symm.trans (opening.eq_none (stands.quiet quiet))

/-- The engine of identity constraints between the tags of an element that is shown. -/
theorem identities_inside (settled : validator.Settled)
    (runs : (validator.run (elementEvents name attributes inside ending)).failure = none)
    (shown : validator.shownStart? name attributes = some event) :
    let element := validator.assessedElement event name attributes inside
    let inner := ((validator.start name attributes).validator.run inside.events).validator
    inner.identities =
        (validator.identities.readAll (.start event :: element.inside.tags)).1 ∧
      inner.shown? (.endElement ending) = some (.finish element.value event.shown) := by
  intro element inner
  obtain ⟨passes, further, -⟩ := run_cons_of_runs runs
  obtain ⟨runsInside, -⟩ := runs_of_runs_append further
  have opening := validator.start_opening name attributes passes
  obtain ⟨stands, tags, -⟩ := run_fragment runsInside (opening.settled settled)
  have within : ∀ event ∈ inside.events, event.isWithin = true :=
    fun event member => Fragment.isWithin_of_mem_events member
  have read := (run_identities _ within runsInside).1
  have started := (validator.start_identities name attributes).1
  rw [shown] at opening started
  refine ⟨?_, (finish_opening opening settled stands ending).2⟩
  rw [tags] at read
  refine read.trans ?_
  show (IdentityEngine.readAll (validator.start name attributes).validator.identities _).1 = _
  rw [started]
  rfl

/-- In every run, the end tag of an assessed element tells of each of its references what is wrong
in the light of the keys and unique constraints in its own subtree and in its preceding
siblings: that none of the wanted name has been active, or else every complete tuple that
none of them has recorded. -/
theorem references_of_end (opens : validator.IsOpening) {siblings : Fragment}
    (runs :
      (validator.run (siblings.events ++ elementEvents name attributes inside ending)).failure =
      none) :
    let before := (validator.run siblings.events).validator
    before.shownStart? name attributes = some event →
      let element := before.assessedElement event name attributes inside
      let inner := ((before.start name attributes).validator.run inside.events).validator
      ofReference (inner.step (.endElement ending)).diagnostics =
          element.unresolved (validator.assessed siblings).activations ∧
        (before.identities.closing element).stores.drop before.identities.cache.nextId =
          element.filledStores := by
  intro before shown element inner
  obtain ⟨runsSiblings, runsElement, -⟩ := runs_of_runs_append runs
  have reachable : before.Reachable := opens.reachable.run siblings.events
  obtain ⟨passes, -⟩ := run_cons_of_runs runsElement
  obtain ⟨identities, shownEnd⟩ := identities_inside reachable.settled runsElement shown
  have represents := represents_siblings opens runsSiblings passes shown
  refine ⟨?_, IdentityEngine.closing_stores reachable.isTidy element⟩
  have found := (inner.finish_identities ending).2
  rw [shownEnd, identities] at found
  show ofReference (inner.finish ending).diagnostics = _
  rw [← ofReference_ofIdentity, found, ofReference_ofIdentity]
  refine (congrArg ofReference (List.append_nil _)).trans ?_
  exact IdentityEngine.references_of_element reachable.isTidy element represents

/-- Deliveries have to refer to orders. -/
def deliveryReference : IdentityConstraint :=
  ⟨.unqualified "deliveryReference", .keyRef, "delivery", ["@order"],
    some (.unqualified "orderKey"), []⟩

/-- A validator that knows of shops with orders and deliveries. -/
def ofShops : Validator :=
  .initial (.put .nothing ([bareDeclaration "shop" [], bareDeclaration "orders" [orderKey],
    bareDeclaration "order" [], bareDeclaration "deliveries" [deliveryReference],
    bareDeclaration "delivery" []].foldl Grammar.addElement (.empty none))) none {}

theorem references_of_end_shop :
    let opened := (ofShops.step (.startElement (plain "shop") [])).validator
    let siblings := Fragment.element (plain "orders") [] (leaf "order" "number" "1" .nothing)
      (plain "orders") .nothing
    let before := (opened.run siblings.events).validator
    let inside := leaf "delivery" "order" "1" (leaf "delivery" "order" "2" .nothing)
    let inner := ((before.start (plain "deliveries") []).validator.run inside.events).validator
    ofReference (inner.step (.endElement (plain "deliveries"))).diagnostics =
      [⟨.keyNotFound, "deliveries", ["2", "deliveries"]⟩] := by
  intro opened siblings before inside inner
  have opens : opened.IsOpening := .startElement (.initial ..) (by decide +kernel)
  have runs : (opened.run (siblings.events ++
      elementEvents (plain "deliveries") [] inside (plain "deliveries"))).failure = none := by
    decide +kernel
  have shown := (Option.some_get (show (before.shownStart? (plain "deliveries") []).isSome = true by
    decide +kernel)).symm
  have told := references_of_end opens runs shown
  refine told.1.trans ?_
  decide +kernel

end Validator

end SchemaAssessment
