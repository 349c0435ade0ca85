/-
The order of attributes says nothing. The same attributes are supplied behind them, each
has the same value, and as much is found under each rule. Only the texts of findings may
differ: of several identifiers behind the wildcard the first is the one that the others
are told with, and that is told with an identifier of the type.
-/

import SchemaAssessment.Proofs.Assessment.AttributeFindings
import SchemaAssessment.Proofs.Assessment.Supplies

namespace SchemaAssessment

theorem Attributes.has_perm {attributes others : Attributes} (same : attributes.Perm others)
    (name : ExpandedName) : others.has name = attributes.has name :=
  same.symm.any_eq

namespace AttributeContext

variable {context : AttributeContext} {group : AttributeGroup TypeReference}

/-! ### What is found together -/

/-- Under the rule of several identifiers is found one for each but the first. -/
theorem rules_repeatedIds (ids : List String) :
    (context.repeatedIds ids).map Diagnostic.rule =
      List.replicate (ids.length - 1) .multipleWildcardIds := by
  cases ids with
  | nil => rfl
  | cons first others =>
    rw [repeatedIds, List.map_map]
    exact List.map_const' ..

theorem rules_checkBothIds {ids others : List String} (same : ids.Perm others) :
    (context.checkBothIds group ids.head?).map Diagnostic.rule =
      (context.checkBothIds group others.head?).map Diagnostic.rule := by
  cases ids with
  | nil => rw [same.nil_eq]
  | cons first rest =>
    cases others with
    | nil => cases same.eq_nil
    | cons other more =>
      unfold checkBothIds
      dsimp only [List.head?_cons]
      cases context.declaredId? group <;> rfl

theorem checkRequired_perm {attributes others : Attributes} (same : attributes.Perm others) :
    context.checkRequired group attributes = context.checkRequired group others := by
  unfold checkRequired
  congr 1
  funext use
  rw [same.any_eq]

/-- Attributes in another order are found to break the same rules as often. -/
theorem rules_check_perm {attributes others : Attributes} (same : attributes.Perm others) :
    ((context.check group attributes).2.map Diagnostic.rule).Perm
      ((context.check group others).2.map Diagnostic.rule) := by
  have ids : (context.wildcardIds group attributes).Perm (context.wildcardIds group others) :=
    same.filterMap _
  refine (context.check_found group attributes).map Diagnostic.rule |>.trans ?_
  refine .trans ?_ ((context.check_found group others).map Diagnostic.rule).symm
  simp only [List.map_append]
  rw [rules_repeatedIds, rules_repeatedIds, ids.length_eq, rules_checkBothIds ids,
    checkRequired_perm same]
  exact ((((same.flatMap_right _).map _).append_right _).append_right _).append_right _

theorem rules_checkNone_perm {attributes others : Attributes} (same : attributes.Perm others) :
    ((context.checkNone attributes).map Diagnostic.rule).Perm
      ((context.checkNone others).map Diagnostic.rule) :=
  ((same.filter _).map _).map _

/-! ### Values -/

/-- The value of an attribute of an element, if there is one: only where attributes are checked. -/
def valueOf (context : AttributeContext) (isValidating : Bool)
    (group : Option (AttributeGroup TypeReference)) (member : Attribute) :
    Option TypedAttribute :=
  if isValidating then group.bind fun group => context.typed? group member else none

theorem assess_values (context : AttributeContext) (isValidating : Bool)
    (group : Option (AttributeGroup TypeReference)) (attributes : Attributes) :
    let assessed := context.assess isValidating group attributes
    assessed.2.1 = assessed.1.map (context.valueOf isValidating group) := by
  cases group with
  | none => cases isValidating <;> rfl
  | some group =>
    cases isValidating with
    | false => rfl
    | true => exact context.checkEach_typed group (group.supply attributes) none

/-- Attributes in another order are checked alike: as much is found under each rule, the same
attributes are supplied behind them in the same order, and each attribute has the same value. -/
theorem assess_perm (context : AttributeContext) (isValidating : Bool)
    (group : Option (AttributeGroup TypeReference)) {attributes others : Attributes}
    (same : attributes.Perm others) :
    let first := context.assess isValidating group attributes
    let second := context.assess isValidating group others
    (first.2.2.map Diagnostic.rule).Perm (second.2.2.map Diagnostic.rule) ∧
      (∃ supplied, first.1 = attributes ++ supplied ∧ second.1 = others ++ supplied) ∧
      ∃ value : Attribute → Option TypedAttribute,
        first.2.1 = first.1.map value ∧ second.2.1 = second.1.map value := by
  intro first second
  have values : ∃ value : Attribute → Option TypedAttribute,
      first.2.1 = first.1.map value ∧ second.2.1 = second.1.map value :=
    ⟨context.valueOf isValidating group, context.assess_values isValidating group attributes,
      context.assess_values isValidating group others⟩
  cases group with
  | none =>
    refine ⟨?_, ⟨[], (List.append_nil _).symm, (List.append_nil _).symm⟩, values⟩
    cases isValidating with
    | false => exact .refl _
    | true => exact rules_checkNone_perm same
  | some group =>
    obtain ⟨supplied, here, there⟩ := group.supply_of_has (Attributes.has_perm same)
    have augmented : (group.supply attributes).Perm (group.supply others) := by
      rw [here, there]
      exact same.append_right supplied
    have supplies : ∃ supplied, first.1 = attributes ++ supplied ∧
        second.1 = others ++ supplied :=
      ⟨supplied, (context.assess_supplies isValidating group attributes).trans here,
        (context.assess_supplies isValidating group others).trans there⟩
    refine ⟨?_, supplies, values⟩
    cases isValidating with
    | false => exact .refl _
    | true => exact rules_check_perm augmented

/-- A grammar with two attributes that declare identifiers. -/
def badgeGrammar : Grammar :=
  let identifier (localName : String) : AttributeDeclaration TypeReference :=
    ⟨.unqualified localName, some (.simple (.ofDatatype .id)), none⟩
  ((Grammar.empty none).addAttribute (identifier "serial")).addAttribute (identifier "card")

/-- The attributes of a badge: its owner, which is an identifier, its level, which is supplied, and
any other attribute. -/
def badgeAttributes : AttributeGroup TypeReference where
  uses := [
    ⟨⟨.unqualified "owner", some (.simple (.ofDatatype .id)), none⟩, .optional, none⟩,
    ⟨⟨.unqualified "level", none, some (.default "guest")⟩, .optional, none⟩]
  wildcard := some (Wildcard.any .lax)

/-- Of the two identifiers of a badge the second is told with the first, whichever that is, and
either is valid. -/
theorem assess_perm_badge :
    let check := assess ⟨.put .nothing badgeGrammar, .initial, "badge"⟩ true (some badgeAttributes)
    let serial : Attribute := .specified (.unqualified "serial") "s7"
    let card : Attribute := .specified (.unqualified "card") "c7"
    let first := check [serial, card]
    let second := check [card, serial]
    [serial, card].Perm [card, serial] ∧
      first.2.2.map Diagnostic.rule = [.multipleWildcardIds, .wildcardIdWithDeclaredId] ∧
      first.2.2 ≠ second.2.2 ∧
      (first.2.2.map Diagnostic.rule).Perm (second.2.2.map Diagnostic.rule) ∧
      (∃ supplied, supplied ≠ [] ∧ first.1 = serial :: card :: supplied ∧
        second.1 = card :: serial :: supplied) ∧
      (∃ value : Attribute → Option TypedAttribute,
        (value serial).isSome = true ∧ first.2.1 = first.1.map value ∧
          second.2.1 = second.1.map value) := by
  intro check serial card first second
  have swapped : [serial, card].Perm [card, serial] := .swap ..
  obtain ⟨rules, ⟨supplied, here, there⟩, value, values, valuesAgain⟩ :=
    assess_perm ⟨.put .nothing badgeGrammar, .initial, "badge"⟩ true (some badgeAttributes) swapped
  have one : first.1.length = 3 := by decide +kernel
  have typed : (first.2.1.head?.join).isSome = true := by decide +kernel
  refine ⟨swapped, by decide +kernel, by decide +kernel, rules, ⟨supplied, ?_, here, there⟩,
    value, ?_, values, valuesAgain⟩
  · rintro rfl
    cases (congrArg List.length here).symm.trans one
  · rw [values, here] at typed
    exact typed

end AttributeContext

end SchemaAssessment
