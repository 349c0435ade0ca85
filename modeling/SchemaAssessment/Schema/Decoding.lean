/-
Schema components from JSON values. Types may hold types, so reading one is bounded
by the depth of the value that holds them all.
-/

import SchemaAssessment.Json.Component
import SchemaAssessment.Schema.Component

namespace SchemaAssessment

open Json (Fault Fields toFields toText toBool toCount toSize toList toMembers toNamed toVariant)

/-! ### Names and simple parts -/

/-- Reads a name. -/
def ExpandedName.ofJson (json : Json) : Except Fault ExpandedName := do
  let fields ← toFields ["namespace", "local_name"] json
  return ⟨← fields.optional "namespace" toText, ← fields.required "local_name" toText⟩

/-- Reads occurrence bounds. -/
def Occurs.ofJson (json : Json) : Except Fault Occurs := do
  let fields ← toFields ["min", "max"] json
  return ⟨← fields.required "min" toCount, ← fields.nullable "max" toCount⟩

/-- A variant has to have content. -/
def withContent (content : Option Json) : Except Fault Json :=
  match content with
  | some json => .ok json
  | none => .error (.expected "content")

/-- Reads a namespace constraint. -/
def NamespaceConstraint.ofJson (json : Json) : Except Fault NamespaceConstraint := do
  match ← toVariant json with
  | ("any", none) => return .any
  | ("any", some .null) => return .any
  | ("other", content) =>
    let fields ← toFields ["target_namespace"] (← withContent content)
    return .other (← fields.nullable "target_namespace" toText)
  | ("enumeration", content) => return .ofSpaces (← toList toText (← withContent content))
  | (name, _) => throw (.unknown name)

/-- Reads a mode of wildcards. -/
def ProcessContents.ofJson : Json → Except Fault ProcessContents := toNamed names

/-- Reads a wildcard. -/
def Wildcard.ofJson (json : Json) : Except Fault Wildcard := do
  let fields ← toFields ["namespace", "process_contents", "occurs"] json
  return ⟨← fields.defaulting "namespace" .any NamespaceConstraint.ofJson,
    ← fields.defaulting "process_contents" .strict ProcessContents.ofJson,
    ← fields.defaulting "occurs" .once Occurs.ofJson⟩

/-- Reads a value constraint. -/
def ValueConstraint.ofJson (json : Json) : Except Fault ValueConstraint := do
  match ← toVariant json with
  | ("default", content) => return .default (← toText (← withContent content))
  | ("fixed", content) => return .fixed (← toText (← withContent content))
  | (name, _) => throw (.unknown name)

/-- Reads blocked derivations. -/
def Block.ofJson (json : Json) : Except Fault Block := do
  let fields ← toFields ["restriction", "extension", "substitution"] json
  return ⟨← fields.defaulting "restriction" false toBool,
    ← fields.defaulting "extension" false toBool,
    ← fields.defaulting "substitution" false toBool⟩

/-- Reads an identity constraint. -/
def IdentityConstraint.ofJson (json : Json) : Except Fault IdentityConstraint := do
  let fields ← toFields ["name", "kind", "selector", "fields", "refer", "namespaces"] json
  let name ← fields.required "name" ExpandedName.ofJson
  let kind ← fields.required "kind" (toNamed IdentityKind.names)
  let selector ← fields.required "selector" toText
  let paths ← fields.required "fields" (toList toText)
  let refer ← fields.optional "refer" ExpandedName.ofJson
  let bindings ← fields.defaulting "namespaces" [] (toMembers toText)
  return ⟨name, kind, selector, paths, refer, sortBindings bindings⟩

/-! ### Simple types -/

/-- The fields of facets. -/
def Facets.fieldNames : List String := [
  "white_space", "length", "min_length", "max_length", "patterns", "enumeration",
  "min_inclusive", "max_inclusive", "min_exclusive", "max_exclusive", "total_digits",
  "fraction_digits"]

/-- Reads facets. -/
def Facets.ofJson (json : Json) : Except Fault Facets := do
  let fields ← toFields Facets.fieldNames json
  return {
    whiteSpace := ← fields.optional "white_space" (toNamed WhiteSpace.names)
    length := ← fields.optional "length" toSize
    minLength := ← fields.optional "min_length" toSize
    maxLength := ← fields.optional "max_length" toSize
    patterns := ← fields.listOf "patterns" toText
    enumeration := ← fields.listOf "enumeration" toText
    minInclusive := ← fields.optional "min_inclusive" toText
    maxInclusive := ← fields.optional "max_inclusive" toText
    minExclusive := ← fields.optional "min_exclusive" toText
    maxExclusive := ← fields.optional "max_exclusive" toText
    totalDigits := ← fields.optional "total_digits" toCount
    fractionDigits := ← fields.optional "fraction_digits" toCount }

/-- Reads a datatype by its name. -/
def Datatype.ofJson : Json → Except Fault Datatype :=
  toNamed (Datatype.all.map fun type => (type.localName, type))

/-- Reads a variety whose parts are read by `decode`. -/
def Variety.ofJsonWith (decode : Json → Except Fault SimpleType) (json : Json) :
    Except Fault Variety := do
  match ← toVariant json with
  | ("atomic", content) => return .atomic (← Datatype.ofJson (← withContent content))
  | ("list", content) => return .list (← decode (← withContent content))
  | ("union", content) => return .union (← toList decode (← withContent content))
  | (name, _) => throw (.unknown name)

/-- Reads a simple type of at most so many levels. -/
def SimpleType.ofJsonWithin : Nat → Json → Except Fault SimpleType
  | 0, _ => .error (.expected "fewer levels")
  | levels + 1, json => do
    let fields ← toFields ["name", "base", "variety", "facets"] json
    return .mk (← fields.optional "name" ExpandedName.ofJson)
      (← fields.optional "base" ExpandedName.ofJson)
      (← fields.required "variety" (Variety.ofJsonWith (SimpleType.ofJsonWithin levels)))
      (← fields.defaulting "facets" {} Facets.ofJson)

/-- Reads a simple type. -/
def SimpleType.ofJson (json : Json) : Except Fault SimpleType :=
  SimpleType.ofJsonWithin (json.depth + 1) json

/-! ### Attributes -/

/-- Reads an attribute declaration whose type is read by `decode`. -/
def AttributeDeclaration.ofJsonWith {τ : Type} (decode : Json → Except Fault τ) (json : Json) :
    Except Fault (AttributeDeclaration τ) := do
  let fields ← toFields ["name", "type", "value_constraint"] json
  return ⟨← fields.required "name" ExpandedName.ofJson, ← fields.optional "type" decode,
    ← fields.optional "value_constraint" ValueConstraint.ofJson⟩

/-- Reads the use of an attribute. -/
def AttributeUse.ofJsonWith {τ : Type} (decode : Json → Except Fault τ) (json : Json) :
    Except Fault (AttributeUse τ) := do
  let fields ← toFields ["attribute", "use", "value_constraint"] json
  return ⟨← fields.required "attribute" (AttributeDeclaration.ofJsonWith decode),
    ← fields.defaulting "use" .optional (toNamed UseMode.names),
    ← fields.optional "value_constraint" ValueConstraint.ofJson⟩

/-- Reads the attributes of a type. -/
def AttributeGroup.ofJsonWith {τ : Type} (decode : Json → Except Fault τ) (json : Json) :
    Except Fault (AttributeGroup τ) := do
  let fields ← toFields ["uses", "wildcard"] json
  return ⟨← fields.listOf "uses" (AttributeUse.ofJsonWith decode),
    ← fields.optional "wildcard" Wildcard.ofJson⟩

/-! ### Groups -/

/-- Reads a particle whose elements and groups are read by the given functions. -/
def Particle.ofJsonWith {τ : Type} (decodeTerm : Json → Except Fault τ)
    (decodeGroup : Json → Except Fault (Group τ)) (json : Json) : Except Fault (Particle τ) := do
  match ← toVariant json with
  | ("element", content) =>
    let fields ← toFields ["term", "occurs"] (← withContent content)
    return .element (← fields.required "term" decodeTerm)
      (← fields.defaulting "occurs" .once Occurs.ofJson)
  | ("any", content) => return .any (← Wildcard.ofJson (← withContent content))
  | ("group", content) => return .nested (← decodeGroup (← withContent content))
  | (name, _) => throw (.unknown name)

/-- Reads a group of at most so many levels. -/
def Group.ofJsonWithin {τ : Type} (decodeTerm : Json → Except Fault τ) :
    Nat → Json → Except Fault (Group τ)
  | 0, _ => .error (.expected "fewer levels")
  | levels + 1, json => do
    let fields ← toFields ["model", "particles", "occurs"] json
    return .mk (← fields.required "model" (toNamed Compositor.names))
      (← fields.listOf "particles"
        (Particle.ofJsonWith decodeTerm (Group.ofJsonWithin decodeTerm levels)))
      (← fields.defaulting "occurs" .once Occurs.ofJson)

/-- Reads a group whose elements are read by `decodeTerm`. -/
def Group.ofJsonWith {τ : Type} (decodeTerm : Json → Except Fault τ) (json : Json) :
    Except Fault (Group τ) :=
  Group.ofJsonWithin decodeTerm (json.depth + 1) json

/-! ### Declarations and complex types -/

/-- Reads an element declaration whose type is read by `decode`. -/
def ElementDeclaration.ofJsonWith (decode : Json → Except Fault TypeReference) (json : Json) :
    Except Fault ElementDeclaration := do
  let fields ← toFields ["name", "type", "nillable", "abstract", "value_constraint", "block",
    "substitution_group", "identities"] json
  return {
    name := ← fields.required "name" ExpandedName.ofJson
    type := ← fields.optional "type" decode
    isNillable := ← fields.defaulting "nillable" false toBool
    isAbstract := ← fields.defaulting "abstract" false toBool
    constraint := ← fields.optional "value_constraint" ValueConstraint.ofJson
    block := ← fields.defaulting "block" .nothing Block.ofJson
    substitutionGroup := ← fields.optional "substitution_group" ExpandedName.ofJson
    identities := ← fields.listOf "identities" IdentityConstraint.ofJson }

/-- Reads the element of a particle. -/
def ElementTerm.ofJsonWith (decode : Json → Except Fault TypeReference) (json : Json) :
    Except Fault ElementTerm := do
  match ← toVariant json with
  | ("local", content) =>
    return .declared (← ElementDeclaration.ofJsonWith decode (← withContent content))
  | ("global", content) => return .global (← ExpandedName.ofJson (← withContent content))
  | (name, _) => throw (.unknown name)

/-- Reads a complex type whose types are read by `decode`. -/
def ComplexType.ofJsonWith (decode : Json → Except Fault TypeReference) (json : Json) :
    Except Fault ComplexType := do
  let fields ← toFields ["name", "base", "derivation", "content_type", "particle", "simple_type",
    "attributes", "abstract", "block"] json
  return {
    name := ← fields.optional "name" ExpandedName.ofJson
    base := ← fields.optional "base" ExpandedName.ofJson
    derivation := ← fields.defaulting "derivation" .restriction (toNamed DerivationMethod.names)
    content := ← fields.required "content_type" (toNamed ContentKind.names)
    group := ← fields.optional "particle" (Group.ofJsonWith (ElementTerm.ofJsonWith decode))
    simpleType := ← fields.optional "simple_type" decode
    attributes := ← fields.defaulting "attributes" {} (AttributeGroup.ofJsonWith decode)
    isAbstract := ← fields.defaulting "abstract" false toBool
    block := ← fields.defaulting "block" .nothing Block.ofJson }

/-- Reads a reference to a type of at most so many levels. -/
def TypeReference.ofJsonWithin : Nat → Json → Except Fault TypeReference
  | 0, _ => .error (.expected "fewer levels")
  | levels + 1, json => do
    match ← toVariant json with
    | ("named", content) => return .named (← ExpandedName.ofJson (← withContent content))
    | ("simple", content) => return .simple (← SimpleType.ofJson (← withContent content))
    | ("complex", content) =>
      return .complex
        (← ComplexType.ofJsonWith (TypeReference.ofJsonWithin levels) (← withContent content))
    | (name, _) => throw (.unknown name)

/-- Reads a reference to a type. -/
def TypeReference.ofJson (json : Json) : Except Fault TypeReference :=
  TypeReference.ofJsonWithin (json.depth + 1) json

/-- Reads a value whose types lie below its own level. -/
def readBelow {α : Type} (decode : (Json → Except Fault TypeReference) → Json → Except Fault α)
    (json : Json) : Except Fault α :=
  decode (TypeReference.ofJsonWithin (json.depth + 1)) json

/-- Reads a complex type. -/
def ComplexType.ofJson : Json → Except Fault ComplexType := readBelow ComplexType.ofJsonWith

/-- Reads an element declaration. -/
def ElementDeclaration.ofJson : Json → Except Fault ElementDeclaration :=
  readBelow ElementDeclaration.ofJsonWith

/-- Reads an attribute declaration. -/
def AttributeDeclaration.ofJson : Json → Except Fault (AttributeDeclaration TypeReference) :=
  readBelow AttributeDeclaration.ofJsonWith

/-- Reads the use of an attribute. -/
def AttributeUse.ofJson : Json → Except Fault (AttributeUse TypeReference) :=
  readBelow AttributeUse.ofJsonWith

/-- Reads the attributes of a type. -/
def AttributeGroup.ofJson : Json → Except Fault (AttributeGroup TypeReference) :=
  readBelow AttributeGroup.ofJsonWith

/-- Reads a group. -/
def Group.ofJson : Json → Except Fault (Group ElementTerm) :=
  readBelow fun decode => Group.ofJsonWith (ElementTerm.ofJsonWith decode)

end SchemaAssessment
