/-
Attributes that a type supplies. They come behind those of the document, each under a name
that was missing and none under a name twice, and with them no use that gives a value is
missing. What is supplied is decided by which names are there. So a second check of the
same attributes finds nothing left to supply, and is the first one over again.
-/

import Mathlib.Logic.Function.Iterate
import SchemaAssessment.Assessment.Attributes

namespace SchemaAssessment

namespace Attributes

theorem has_append (attributes others : Attributes) (name : ExpandedName) :
    has (attributes ++ others) name = (attributes.has name || others.has name) :=
  List.any_append

theorem has_iff_mem {attributes : Attributes} {name : ExpandedName} :
    attributes.has name = true ↔ name ∈ attributes.map Attribute.expanded := by
  simp [has]

end Attributes

namespace AttributeGroup

variable {τ : Type}

/-! ### One use -/

theorem supplied?_eq_none {use : AttributeUse τ} {attributes : Attributes} :
    supplied? use attributes = none ↔ use.isProhibited = true ∨
      attributes.has use.declaration.name = true ∨ use.effectiveConstraint = none := by
  unfold supplied?
  by_cases passed : (use.isProhibited || attributes.has use.declaration.name) = true
  · rw [if_pos passed, ← or_assoc, ← Bool.or_eq_true]
    exact iff_of_true rfl (.inl passed)
  · rw [if_neg passed, Option.map_eq_none_iff, ← or_assoc, ← Bool.or_eq_true]
    exact (or_iff_right passed).symm

theorem supplied?_eq_none_append {use : AttributeUse τ} {attributes : Attributes}
    (nothing : supplied? use attributes = none) (others : Attributes) :
    supplied? use (attributes ++ others) = none := by
  rw [supplied?_eq_none] at nothing ⊢
  refine nothing.imp_right (Or.imp_left fun present => ?_)
  rw [Attributes.has_append, Bool.or_eq_true]
  exact .inl present

/-- A use that gives a value supplies an attribute of its name, where the name is missing. -/
theorem of_supplied? {use : AttributeUse τ} {attributes : Attributes} {member : Attribute}
    (supplies : supplied? use attributes = some member) :
    member.isSpecified = false ∧ member.expanded = use.declaration.name ∧
      use.effectiveConstraint.isSome = true ∧
        attributes.has use.declaration.name = false := by
  unfold supplied? at supplies
  split at supplies
  · cases supplies
  · rename_i wanted
    obtain ⟨constraint, gives, rfl⟩ := Option.map_eq_some_iff.mp supplies
    rw [Bool.or_eq_true, not_or] at wanted
    exact ⟨rfl, rfl, Option.isSome_of_eq_some gives, Bool.eq_false_iff.mpr wanted.2⟩

/-- Behind the attribute that a use supplies, the use supplies none. -/
theorem supplied?_again (use : AttributeUse τ) (attributes : Attributes) :
    supplied? use (attributes ++ (supplied? use attributes).toList) = none := by
  cases supplies : supplied? use attributes with
  | none => exact supplied?_eq_none_append supplies _
  | some member =>
    obtain ⟨-, named, -⟩ := of_supplied? supplies
    have present : Attributes.has (attributes ++ [member]) use.declaration.name = true := by
      simp [Attributes.has, named]
    exact supplied?_eq_none.mpr (.inr (.inl present))

/-! ### All uses -/

/-- Some attributes that come behind others as supplied ones: under names that are missing there,
and none twice. -/
structure AreSupplied (attributes supplied : Attributes) : Prop where
  unspecified : ∀ member ∈ supplied, member.isSpecified = false
  absent : ∀ member ∈ supplied, attributes.has member.expanded = false
  distinct : (supplied.map Attribute.expanded).Nodup

theorem AreSupplied.cons {attributes supplied : Attributes} {member : Attribute}
    (unspecified : member.isSpecified = false) (absent : attributes.has member.expanded = false)
    (later : AreSupplied (attributes ++ [member]) supplied) :
    AreSupplied attributes (member :: supplied) := by
  have apart : ∀ other ∈ supplied, attributes.has other.expanded = false ∧
      other.expanded ≠ member.expanded := by
    intro other inside
    have missing := later.absent other inside
    rw [Attributes.has_append, Bool.or_eq_false_iff] at missing
    refine ⟨missing.1, fun same => ?_⟩
    rw [same] at missing
    simp [Attributes.has] at missing
  refine ⟨List.forall_mem_cons.mpr ⟨unspecified, later.unspecified⟩,
    List.forall_mem_cons.mpr ⟨absent, fun other inside => (apart other inside).1⟩, ?_⟩
  rw [List.map_cons, List.nodup_cons]
  refine ⟨fun again => ?_, later.distinct⟩
  obtain ⟨other, inside, same⟩ := List.mem_map.mp again
  exact (apart other inside).2 same

theorem supply_supplies (group : AttributeGroup τ) (attributes : Attributes) :
    ∃ supplied, group.supply attributes = attributes ++ supplied ∧
      AreSupplied attributes supplied := by
  unfold supply
  induction group.uses generalizing attributes with
  | nil => exact ⟨[], (List.append_nil _).symm, nofun, nofun, List.nodup_nil⟩
  | cons use rest ofRest =>
    rw [List.foldl_cons]
    cases supplies : supplied? use attributes with
    | none =>
      rw [Option.toList_none, List.append_nil]
      exact ofRest attributes
    | some member =>
      obtain ⟨unspecified, named, -, absent⟩ := of_supplied? supplies
      obtain ⟨supplied, same, later⟩ := ofRest (attributes ++ [member])
      refine ⟨member :: supplied, ?_, .cons unspecified (named ▸ absent) later⟩
      rw [Option.toList_some, same, List.append_assoc, List.singleton_append]

theorem supplied?_supply {group : AttributeGroup τ} {use : AttributeUse τ}
    (member : use ∈ group.uses) (attributes : Attributes) :
    supplied? use (group.supply attributes) = none := by
  obtain ⟨uses, wildcard⟩ := group
  induction uses generalizing attributes with
  | nil => cases member
  | cons first rest ofRest =>
    rcases List.mem_cons.mp member with rfl | later
    · obtain ⟨supplied, same, -⟩ :=
        supply_supplies ⟨rest, wildcard⟩ (attributes ++ (supplied? use attributes).toList)
      show supplied? use (supply ⟨rest, wildcard⟩ _) = none
      rw [same]
      exact supplied?_eq_none_append (supplied?_again use attributes) supplied
    · exact ofRest _ later

theorem supply_eq_self {group : AttributeGroup τ} {attributes : Attributes}
    (nothing : ∀ use ∈ group.uses, supplied? use attributes = none) :
    group.supply attributes = attributes := by
  unfold supply
  revert nothing
  induction group.uses with
  | nil => exact fun _ => rfl
  | cons use rest ofRest =>
    intro nothing
    obtain ⟨here, later⟩ := List.forall_mem_cons.mp nothing
    rw [List.foldl_cons, here, Option.toList_none, List.append_nil]
    exact ofRest later

/-- To supply attributes a second time adds none. -/
theorem supply_supply (group : AttributeGroup τ) (attributes : Attributes) :
    group.supply (group.supply attributes) = group.supply attributes :=
  supply_eq_self fun _ member => supplied?_supply member attributes

/-- Supplied attributes leave no name twice, unless it was there twice before. -/
theorem nodup_supply {group : AttributeGroup τ} {attributes : Attributes}
    (distinct : (attributes.map Attribute.expanded).Nodup) :
    ((group.supply attributes).map Attribute.expanded).Nodup := by
  obtain ⟨supplied, same, areSupplied⟩ := group.supply_supplies attributes
  rw [same, List.map_append, List.nodup_append]
  refine ⟨distinct, areSupplied.distinct, fun name before other behind same => ?_⟩
  obtain ⟨member, inside, rfl⟩ := List.mem_map.mp behind
  have present := Attributes.has_iff_mem.mpr (same ▸ before)
  exact Bool.false_ne_true ((areSupplied.absent member inside).symm.trans present)

/-- Behind supplied attributes every use that gives a value has one of its name. -/
theorem has_supply {group : AttributeGroup τ} {use : AttributeUse τ} (member : use ∈ group.uses)
    (allowed : use.isProhibited = false) (gives : use.effectiveConstraint.isSome = true)
    (attributes : Attributes) :
    (group.supply attributes).has use.declaration.name = true := by
  rcases supplied?_eq_none.mp (supplied?_supply member attributes) with
    prohibited | present | nothing
  · cases allowed.symm.trans prohibited
  · exact present
  · rw [nothing] at gives
    cases gives

/-- Where the same names are there, the same attributes are supplied. -/
theorem supply_of_has (group : AttributeGroup τ) {attributes others : Attributes}
    (same : ∀ name, others.has name = attributes.has name) :
    ∃ supplied, group.supply attributes = attributes ++ supplied ∧
      group.supply others = others ++ supplied := by
  unfold supply
  induction group.uses generalizing attributes others with
  | nil => exact ⟨[], (List.append_nil _).symm, (List.append_nil _).symm⟩
  | cons use rest ofRest =>
    have supplies : supplied? use others = supplied? use attributes := by
      rw [supplied?, supplied?, same]
    have alike (name : ExpandedName) :
        Attributes.has (others ++ (supplied? use attributes).toList) name =
          Attributes.has (attributes ++ (supplied? use attributes).toList) name := by
      rw [Attributes.has_append, Attributes.has_append, same]
    obtain ⟨supplied, first, second⟩ := ofRest alike
    refine ⟨(supplied? use attributes).toList ++ supplied, ?_, ?_⟩
    · rw [List.foldl_cons, first, List.append_assoc]
    · rw [List.foldl_cons, supplies, second, List.append_assoc]

end AttributeGroup

namespace AttributeContext

/-! ### Checking again -/

theorem assess_supplies (context : AttributeContext) (isValidating : Bool)
    (group : AttributeGroup TypeReference) (attributes : Attributes) :
    (context.assess isValidating (some group) attributes).1 = group.supply attributes := by
  cases isValidating <;> rfl

/-- The attributes that one check leaves are checked like those it was given. -/
theorem assess_assessed (context : AttributeContext) (isValidating : Bool)
    (group : Option (AttributeGroup TypeReference)) (attributes : Attributes) :
    context.assess isValidating group (context.assess isValidating group attributes).1 =
      context.assess isValidating group attributes := by
  cases group with
  | none => rfl
  | some group =>
    rw [assess_supplies, assess, assess, group.supply_supply]

/-- A check keeps the attributes that it is given, and what it supplies behind them is not of the
document and stands under names that were missing; so no name comes twice unless one was there
twice. Behind it every use that gives a value has an attribute of its name. And after any number of
checks a further one supplies nothing, gives the same values, and finds the same in the same
order. -/
theorem assess_settles (context : AttributeContext) (isValidating : Bool)
    (group : Option (AttributeGroup TypeReference)) (attributes : Attributes) :
    let check := context.assess isValidating group
    let first := check attributes
    (∃ supplied, first.1 = attributes ++ supplied ∧ ∀ member ∈ supplied,
        member.isSpecified = false ∧ attributes.has member.expanded = false) ∧
      ((attributes.map Attribute.expanded).Nodup →
        (first.1.map Attribute.expanded).Nodup) ∧
      (∀ held, group = some held → ∀ use ∈ held.uses, use.isProhibited = false →
        use.effectiveConstraint.isSome = true →
          first.1.has use.declaration.name = true) ∧
      ∀ rounds, check ((fun given => (check given).1)^[rounds] first.1) = first := by
  intro check first
  have again : check first.1 = first := context.assess_assessed isValidating group attributes
  have settled (rounds : Nat) :
      check ((fun given => (check given).1)^[rounds] first.1) = first := by
    have fixed : (check first.1).1 = first.1 := congrArg Prod.fst again
    rw [Function.iterate_fixed fixed rounds, again]
  cases group with
  | none =>
    exact ⟨⟨[], (List.append_nil _).symm, nofun⟩, id, nofun, settled⟩
  | some group =>
    have supplies : first.1 = group.supply attributes :=
      context.assess_supplies isValidating group attributes
    obtain ⟨supplied, same, areSupplied⟩ := group.supply_supplies attributes
    refine ⟨⟨supplied, supplies.trans same, fun member inside =>
      ⟨areSupplied.unspecified member inside, areSupplied.absent member inside⟩⟩, ?_, ?_, settled⟩
    · rw [supplies]
      exact AttributeGroup.nodup_supply
    · rintro _ ⟨⟩ use inside allowed gives
      rw [supplies]
      exact AttributeGroup.has_supply inside allowed gives attributes

/-- The attributes of a box: its lid, which is on unless said otherwise, though a second use of the
name says it is off; its unit, which has to be given, and for which the use fixes another value than
the declaration; and its label, which may not be given. -/
def boxAttributes : AttributeGroup TypeReference where
  uses := [
    ⟨⟨.unqualified "lid", some (.simple (.ofDatatype .boolean)), some (.default "true")⟩,
      .optional, none⟩,
    ⟨⟨.unqualified "lid", some (.simple (.ofDatatype .boolean)), none⟩,
      .optional, some (.fixed "false")⟩,
    ⟨⟨.unqualified "unit", none, some (.default "cm")⟩, .required, some (.fixed "mm")⟩,
    ⟨⟨.unqualified "label", none, some (.default "box")⟩, .prohibited, none⟩]

/-- The lid and the unit of a box are supplied once, and the unit is told as missing each time. -/
theorem assess_settles_box :
    let check := assess ⟨.nothing, .initial, "box"⟩ true (some boxAttributes)
    let note : Attribute := .specified (.unqualified "note") "fragile"
    let first := check [note]
    first.1 = [note, .supplied (.unqualified "lid") "true", .supplied (.unqualified "unit") "mm"] ∧
      first.2.2.map Diagnostic.rule = [.attributeNotAllowed, .requiredAttributeMissing] ∧
      (first.1.map Attribute.expanded).Nodup ∧ first.1.has (.unqualified "unit") = true ∧
      check ((fun given => (check given).1)^[3] first.1) = first := by
  intro check note first
  obtain ⟨-, distinct, present, settled⟩ :=
    assess_settles ⟨.nothing, .initial, "box"⟩ true (some boxAttributes) [note]
  exact ⟨by decide +kernel, by decide +kernel, distinct (by decide +kernel),
    present boxAttributes rfl ⟨⟨.unqualified "unit", none, some (.default "cm")⟩, .required,
      some (.fixed "mm")⟩ (by simp [boxAttributes]) rfl rfl, settled 3⟩

end AttributeContext

end SchemaAssessment
