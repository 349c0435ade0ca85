/-
What a run tells of the elements that an identity constraint selects. The element that
carries the constraint may stand anywhere in any document, among any other constraints.
If the selected elements lie apart, then each of them is told what the values of its
fields call for, in the light of the complete ones before it.
-/

import SchemaAssessment.Proofs.Assessment.Reachable
import SchemaAssessment.Proofs.Identity.Reports
import SchemaAssessment.Proofs.Identity.Tuples

namespace SchemaAssessment

theorem isIdentity_of_isOfTuple {rule : Rule} (ofTuple : rule.isOfTuple = true) :
    rule.isIdentity = true := by
  cases rule <;> first | rfl | cases ofTuple

theorem gist_ofIdentity (diagnostics : List Diagnostic) :
    gist (ofIdentity diagnostics) = gist diagnostics := by
  rw [gist, ofIdentity, List.filter_filter, gist]
  refine congrArg (List.map _) (List.filter_congr fun diagnostic _ => ?_)
  cases ofTuple : diagnostic.rule.isOfTuple with
  | false => rfl
  | true => exact isIdentity_of_isOfTuple ofTuple

namespace Validator

/-- The events of an element. -/
def elementEvents (name : QualifiedName) (attributes : Attributes) (inside : Fragment)
    (ending : QualifiedName) : List Event :=
  (Fragment.element name attributes inside ending .nothing).events

variable {validator : Validator} {name ending : QualifiedName} {attributes : Attributes}
  {inside : Fragment} {event : ElementStart}

/-- An element whose start tag is shown is shown with what is inside of it. -/
theorem tags_element (settled : validator.Settled)
    (runs : (validator.run (elementEvents name attributes inside ending)).failure = none)
    (shown : validator.shownStart? name attributes = some event) :
    validator.tags (elementEvents name attributes inside ending) =
      (validator.assessedElement event name attributes inside).tags := by
  have whole := (run_fragment runs settled).2.1
  rw [assessed, shown] at whole
  exact whole

/-- An element that is shown reads its tags. -/
theorem run_element (settled : validator.Settled)
    (runs : (validator.run (elementEvents name attributes inside ending)).failure = none)
    (shown : validator.shownStart? name attributes = some event) :
    let element := validator.assessedElement event name attributes inside
    let outcome := validator.run (elementEvents name attributes inside ending)
    outcome.validator.identities = (validator.identities.readAll element.tags).1 ∧
      ofIdentity outcome.diagnostics =
        ofIdentity (validator.identities.readAll element.tags).2 := by
  intro element outcome
  have within : ∀ event ∈ elementEvents name attributes inside ending, event.isWithin = true :=
    fun event member => Fragment.isWithin_of_mem_events member
  have read := validator.run_identities within runs
  rw [tags_element settled runs shown] at read
  exact read

/-- In every run, the tuple findings of an element are the reports of stores; and the store that
was opened for one of its constraints reports, if no selected element lies inside of another,
for each of them what the values of its fields call for. -/
theorem run_reports_of_apart (reachable : validator.Reachable)
    (runs : (validator.run (elementEvents name attributes inside ending)).failure = none)
    (shown : validator.shownStart? name attributes = some event) {index : Nat}
    {identity : IdentityConstraint} {compiled : CompiledIdentity}
    (constraint : event.constraints[index]? = some (identity, compiled)) :
    let element := validator.assessedElement event name attributes inside
    let reports := validator.identities.reportsAll element.tags
    let store := validator.identities.cache.nextId + index
    let chosen := element.selected compiled.selector
    (∀ outer ∈ chosen, ∀ inner ∈ chosen, ¬ outer.Contains inner) →
      gist (validator.run (elementEvents name attributes inside ending)).diagnostics =
          gist (reports.map Prod.snd) ∧
        (validator.identities.opened event).stores[store]? =
            some (.start identity event.declarer) ∧
          ∃ parts, gist (ofStore store reports) = parts.flatten ∧
            List.Forall₂ List.Perm parts (compiled.verdicts identity event.declarer chosen) := by
  intro element reports store chosen apart
  refine ⟨?_, ?_, ?_⟩
  · rw [← gist_ofIdentity, (run_element reachable.settled runs shown).2, gist_ofIdentity]
    exact IdentityEngine.gist_readAll _ _
  · exact validator.identities.opened_store constraint
  · exact IdentityEngine.reports_of_apart reachable.isTidy constraint apart

/-! ### Two orders with one number -/

/-- Orders are told apart by their numbers. -/
def orderKey : IdentityConstraint :=
  ⟨.unqualified "orderKey", .key, "order", ["@number"], none, []⟩

/-- A declaration under which an element has attributes alone. -/
def bareDeclaration (localName : String) (identities : List IdentityConstraint) :
    ElementDeclaration :=
  { ElementDeclaration.ofName (.unqualified localName) with
    type := some (.complex { ComplexType.ofContent none .empty none with
      attributes := { wildcard := some (Wildcard.any .lax) } })
    identities }

/-- A validator that knows of orders. -/
def ofOrders : Validator :=
  .initial (.put .nothing (((Grammar.empty none).addElement
    (bareDeclaration "orders" [orderKey])).addElement (bareDeclaration "order" []))) none {}

/-- A name in no namespace. -/
def plain (localName : String) : QualifiedName := ⟨none, localName, none⟩

/-- An element with nothing but an attribute, and what comes behind it. -/
def leaf (name attributeName value : String) (later : Fragment) : Fragment :=
  .element (plain name) [.specified (plain attributeName) value] .nothing (plain name) later

/-- The start tag of a list of orders. -/
def ordersStart : ElementStart :=
  ⟨.unqualified "orders", "orders", [], [], some (bareDeclaration "orders" [orderKey])⟩

theorem run_reports_of_apart_orders :
    let inside := leaf "order" "number" "1" (leaf "order" "number" "1" .nothing)
    let name := plain "orders"
    let element := ofOrders.assessedElement ordersStart name [] inside
    (ofOrders.run (elementEvents name [] inside name)).failure = none ∧
      ∃ parts,
        gist (ofStore 0 (ofOrders.identities.reportsAll element.tags)) = parts.flatten ∧
          List.Forall₂ List.Perm parts [[], [(.duplicateKey, ["1", "orders"])]] := by
  intro inside name element
  let child (name : String) : NameTest := .name (.unqualified name)
  let compiled : CompiledIdentity :=
    ⟨⟨"order", [⟨false, [⟨.child, child "order"⟩]⟩]⟩,
      [⟨"@number", [⟨false, [⟨.attribute, child "number"⟩]⟩]⟩]⟩
  have runs : (ofOrders.run (elementEvents name [] inside name)).failure = none := by
    decide +kernel
  have shown : ofOrders.shownStart? name [] = some ordersStart := rfl
  have constraint : ordersStart.constraints[0]? = some (orderKey, compiled) := by decide +kernel
  have apart : ∀ outer ∈ element.selected compiled.selector,
      ∀ inner ∈ element.selected compiled.selector, ¬ outer.Contains inner := by
    decide +kernel
  have verdicts : compiled.verdicts orderKey "orders" (element.selected compiled.selector) =
      [[], [(.duplicateKey, ["1", "orders"])]] := by
    decide +kernel
  obtain ⟨-, -, parts, told, alike⟩ :=
    run_reports_of_apart (.initial ..) runs shown constraint apart
  exact ⟨runs, parts, told, verdicts ▸ alike⟩

end Validator

end SchemaAssessment
