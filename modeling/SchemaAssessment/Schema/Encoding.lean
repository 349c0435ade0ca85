/-
Schema components as JSON values. Fields that are absent, and lists that are empty,
are mostly left out.
-/

import SchemaAssessment.Json.Component
import SchemaAssessment.Schema.Component

namespace SchemaAssessment

open Json (member memberOf memberOfList variant ofMembers)

/-! ### Names and simple parts -/

/-- A name as a record. -/
def ExpandedName.toJson (name : ExpandedName) : Json :=
  ofMembers [memberOf "namespace" .string name.space, member "local_name" (.string name.localName)]

/-- Occurrence bounds as a record. -/
def Occurs.toJson (occurs : Occurs) : Json :=
  .object [("min", .nat occurs.min), ("max", .ofOption .nat occurs.max)]

/-- A namespace constraint as a choice. -/
def NamespaceConstraint.toJson : NamespaceConstraint → Json
  | .any => .string "any"
  | .other target => variant "other" (.object [("target_namespace", .ofOption .string target)])
  | .among spaces => variant "enumeration" (.array (spaces.map .string))

/-- A wildcard as a record. -/
def Wildcard.toJson (wildcard : Wildcard) : Json :=
  .object [("namespace", wildcard.spaces.toJson),
    ("process_contents", .string wildcard.processContents.name),
    ("occurs", wildcard.occurs.toJson)]

/-- A value constraint as a choice. -/
def ValueConstraint.toJson : ValueConstraint → Json
  | .default value => variant "default" (.string value)
  | .fixed value => variant "fixed" (.string value)

/-- Blocked derivations as a record. -/
def Block.toJson (block : Block) : Json :=
  .object [("restriction", .bool block.restriction), ("extension", .bool block.extension),
    ("substitution", .bool block.substitution)]

/-- Texts under their names, as an object. -/
def bindingsToJson (bindings : List (String × String)) : Json :=
  .object (bindings.map fun binding => (binding.1, .string binding.2))

/-- An identity constraint as a record. -/
def IdentityConstraint.toJson (identity : IdentityConstraint) : Json :=
  ofMembers [
    member "name" identity.name.toJson,
    member "kind" (.string identity.kind.name),
    member "selector" (.string identity.selector),
    member "fields" (.array (identity.fields.map .string)),
    memberOf "refer" ExpandedName.toJson identity.refer,
    if identity.bindings.isEmpty then none else member "namespaces" (bindingsToJson identity.bindings)]

/-! ### Simple types -/

/-- Facets as a record. -/
def Facets.toJson (facets : Facets) : Json :=
  ofMembers [
    memberOf "white_space" (fun mode => .string mode.name) facets.whiteSpace,
    memberOf "length" .nat facets.length,
    memberOf "min_length" .nat facets.minLength,
    memberOf "max_length" .nat facets.maxLength,
    memberOfList "patterns" .string facets.patterns,
    memberOfList "enumeration" .string facets.enumeration,
    memberOf "min_inclusive" .string facets.minInclusive,
    memberOf "max_inclusive" .string facets.maxInclusive,
    memberOf "min_exclusive" .string facets.minExclusive,
    memberOf "max_exclusive" .string facets.maxExclusive,
    memberOf "total_digits" .nat facets.totalDigits,
    memberOf "fraction_digits" .nat facets.fractionDigits]

mutual

/-- A simple type as a record. -/
def SimpleType.toJson : SimpleType → Json
  | .mk name base variety facets =>
    ofMembers [
      memberOf "name" ExpandedName.toJson name,
      memberOf "base" ExpandedName.toJson base,
      member "variety" variety.toJson,
      if facets.isEmpty then none else member "facets" facets.toJson]

/-- A variety as a choice. -/
def Variety.toJson : Variety → Json
  | .atomic datatype => variant "atomic" (.string datatype.localName)
  | .list item => variant "list" item.toJson
  | .union members => variant "union" (.array (SimpleType.listToJson members))

/-- Simple types as records. -/
def SimpleType.listToJson : List SimpleType → List Json
  | [] => []
  | type :: rest => type.toJson :: SimpleType.listToJson rest

end

/-! ### Declarations and complex types -/

mutual

/-- A reference to a type as a choice. -/
def TypeReference.toJson : TypeReference → Json
  | .named name => variant "named" name.toJson
  | .simple type => variant "simple" type.toJson
  | .complex type => variant "complex" type.toJson

/-- The reference to a type under a key, if there is one. -/
def TypeReference.memberToJson (key : String) : Option TypeReference → Option (String × Json)
  | none => none
  | some type => member key type.toJson

/-- A complex type as a record. -/
def ComplexType.toJson : ComplexType → Json
  | ⟨name, base, derivation, content, group, simpleType, attributes, isAbstract, block⟩ =>
    ofMembers [
      memberOf "name" ExpandedName.toJson name,
      memberOf "base" ExpandedName.toJson base,
      member "derivation" (.string derivation.name),
      member "content_type" (.string content.name),
      Group.memberToJson group,
      TypeReference.memberToJson "simple_type" simpleType,
      if attributes.isEmpty then none else member "attributes" (AttributeGroup.toJson attributes),
      member "abstract" (.bool isAbstract),
      member "block" block.toJson]

/-- The group of a type under its key, if there is one. -/
def Group.memberToJson : Option (Group ElementTerm) → Option (String × Json)
  | none => none
  | some group => member "particle" (Group.toJson group)

/-- A group as a record. -/
def Group.toJson : Group ElementTerm → Json
  | .mk compositor particles occurs =>
    .object [("model", .string compositor.name), ("particles", .array (Particle.listToJson particles)),
      ("occurs", occurs.toJson)]

/-- Particles as choices. -/
def Particle.listToJson : List (Particle ElementTerm) → List Json
  | [] => []
  | particle :: rest => Particle.toJson particle :: Particle.listToJson rest

/-- A particle as a choice. -/
def Particle.toJson : Particle ElementTerm → Json
  | .element term occurs =>
    variant "element" (.object [("term", term.toJson), ("occurs", occurs.toJson)])
  | .any wildcard => variant "any" wildcard.toJson
  | .nested group => variant "group" (Group.toJson group)

/-- The element of a particle as a choice. -/
def ElementTerm.toJson : ElementTerm → Json
  | .declared declaration => variant "local" declaration.toJson
  | .global name => variant "global" name.toJson

/-- An element declaration as a record. -/
def ElementDeclaration.toJson : ElementDeclaration → Json
  | ⟨name, type, isNillable, isAbstract, constraint, block, substitutionGroup, identities⟩ =>
    ofMembers [
      member "name" name.toJson,
      TypeReference.memberToJson "type" type,
      member "nillable" (.bool isNillable),
      member "abstract" (.bool isAbstract),
      memberOf "value_constraint" ValueConstraint.toJson constraint,
      member "block" block.toJson,
      memberOf "substitution_group" ExpandedName.toJson substitutionGroup,
      memberOfList "identities" IdentityConstraint.toJson identities]

/-- An attribute declaration as a record. -/
def AttributeDeclaration.toJson : AttributeDeclaration TypeReference → Json
  | ⟨name, type, constraint⟩ =>
    ofMembers [
      member "name" name.toJson,
      TypeReference.memberToJson "type" type,
      memberOf "value_constraint" ValueConstraint.toJson constraint]

/-- The use of an attribute as a record. -/
def AttributeUse.toJson : AttributeUse TypeReference → Json
  | ⟨declaration, mode, constraint⟩ =>
    ofMembers [
      member "attribute" (AttributeDeclaration.toJson declaration),
      member "use" (.string mode.name),
      memberOf "value_constraint" ValueConstraint.toJson constraint]

/-- The uses of attributes as records. -/
def AttributeUse.listToJson : List (AttributeUse TypeReference) → List Json
  | [] => []
  | use :: rest => AttributeUse.toJson use :: AttributeUse.listToJson rest

/-- The attributes of a type as a record. -/
def AttributeGroup.toJson : AttributeGroup TypeReference → Json
  | ⟨uses, wildcard⟩ =>
    ofMembers [
      if uses.isEmpty then none else member "uses" (.array (AttributeUse.listToJson uses)),
      memberOf "wildcard" Wildcard.toJson wildcard]

end

end SchemaAssessment
