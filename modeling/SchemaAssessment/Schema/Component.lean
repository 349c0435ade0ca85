/-
Element declarations and complex types, which hold each other: a type has a content
model with element declarations of its own, and a declaration may have a type of its
own. Names lead from one global component to another.
-/

import SchemaAssessment.Schema.Attribute
import SchemaAssessment.Schema.Group
import SchemaAssessment.Schema.Identity
import SchemaAssessment.SimpleType.Basic

namespace SchemaAssessment

/-- What stands between the tags of an element. -/
inductive ContentKind where
  | empty
  | simple
  | mixed
  | elementOnly
  deriving DecidableEq, Repr, Inhabited

namespace ContentKind

/-- The names of the kinds. -/
def names : List (String × ContentKind) := [
  ("empty", .empty), ("simple", .simple), ("mixed", .mixed), ("element-only", .elementOnly)]

/-- The name of a kind. -/
def name : ContentKind → String
  | .empty => "empty"
  | .simple => "simple"
  | .mixed => "mixed"
  | .elementOnly => "element-only"

end ContentKind

mutual

/-- How a declaration refers to its type: by name, or by holding it. -/
inductive TypeReference where
  | named (name : ExpandedName)
  | simple (type : SimpleType)
  | complex (type : ComplexType)

/-- A complex type. The group describes the children, the simple type the text. -/
structure ComplexType where
  name : Option ExpandedName
  base : Option ExpandedName
  derivation : DerivationMethod
  content : ContentKind
  group : Option (Group ElementTerm)
  simpleType : Option TypeReference
  attributes : AttributeGroup TypeReference
  isAbstract : Bool
  block : Block

/-- The element of a particle: a declaration of its own, or the name of a global one, for which
members of its substitution group may stand. -/
inductive ElementTerm where
  | declared (declaration : ElementDeclaration)
  | global (name : ExpandedName)

/-- An element declaration. Without a type it has that of the head of its substitution group, or
any. -/
structure ElementDeclaration where
  name : ExpandedName
  type : Option TypeReference
  isNillable : Bool
  isAbstract : Bool
  constraint : Option ValueConstraint
  block : Block
  substitutionGroup : Option ExpandedName
  identities : List IdentityConstraint

end

instance : Inhabited TypeReference := ⟨.named default⟩
instance : Inhabited ElementTerm := ⟨.global default⟩
instance : Inhabited ElementDeclaration :=
  ⟨default, none, false, false, none, .nothing, none, []⟩
instance : Inhabited ComplexType :=
  ⟨none, none, .restriction, .empty, none, none, {}, false, .nothing⟩

/-! ### Element declarations -/

/-- An element declaration cannot be made without a name. -/
structure MissingName where
  deriving DecidableEq, Repr, Inhabited

/-- The message about the missing name of an element. -/
def MissingName.message (_ : MissingName) : String := "Element name is required"

namespace ElementDeclaration

/-- A declaration of which only the name is told. -/
def ofName (name : ExpandedName) : ElementDeclaration :=
  ⟨name, none, false, false, none, .nothing, none, []⟩

/-- A declaration of which only the name is told, or why there is none. -/
def named? (name : Option ExpandedName) : Except MissingName ElementDeclaration :=
  name.elim (.error ⟨⟩) fun name => .ok (ofName name)

/-- The fixed value of the declaration. -/
def fixed? (declaration : ElementDeclaration) : Option String :=
  declaration.constraint.bind ValueConstraint.fixed?

end ElementDeclaration

namespace ElementTerm

/-- The name of the element. -/
def name : ElementTerm → ExpandedName
  | .declared declaration => declaration.name
  | .global name => name

/-- The name as descriptions of content models show it. -/
def label (term : ElementTerm) : String := term.name.text

end ElementTerm

namespace TypeReference

/-- The name of the type; a type that is held may have none. -/
def name? : TypeReference → Option ExpandedName
  | .named name => some name
  | .simple type => type.name
  | .complex type => type.name

end TypeReference

/-! ### Complex types -/

namespace ComplexType

/-- The name of the type that every type is derived from. -/
def anyTypeName : ExpandedName := .ofSchema "anyType"

/-- A type that restricts the most general one, with the given content. -/
def ofContent (name : Option ExpandedName) (content : ContentKind)
    (group : Option (Group ElementTerm)) : ComplexType :=
  ⟨name, some anyTypeName, .restriction, content, group, none, {}, false, .nothing⟩

/-- A type whose text has a simple type, which it extends by attributes. -/
def ofSimpleType (name : Option ExpandedName) (type : TypeReference) : ComplexType :=
  { ofContent name .simple none with
    base := type.name?, derivation := .extension, simpleType := some type }

/-- The most general type: any text, any children, any attributes, validated as far as they are
declared. -/
def anyType : ComplexType :=
  let children : Wildcard := { Wildcard.any .lax with occurs := .anyNumber }
  { ofContent (some anyTypeName) .mixed (some (.mk .sequence [.any children] .once)) with
    base := none, attributes := { wildcard := some (Wildcard.any .lax) } }

/-- The type has the name of the most general one. -/
def isAnyType (type : ComplexType) : Bool := type.name == some anyTypeName

/-- The name that messages show. -/
def shownName (type : ComplexType) : String :=
  match type.name with
  | some name => name.text
  | none => "#AnonType"

/-- The group that describes the children, where the content has children. -/
def contentGroup? (type : ComplexType) : Option (Group ElementTerm) :=
  match type.content with
  | .elementOnly | .mixed => some (type.group.getD .empty)
  | .empty | .simple => none

/-- What a complex type is made from. -/
structure Parts where
  name : Option ExpandedName := none
  group : Option (Group ElementTerm) := none
  simpleType : Option TypeReference := none
  base : Option (ExpandedName × DerivationMethod) := none
  isMixed : Bool := false
  isAbstract : Bool := false
  block : Block := .nothing
  attributes : AttributeGroup TypeReference := {}

/-- The content that the parts make: that of a simple type before all, then children with or
without text. A group without particles makes no content unless it is mixed. -/
def Parts.content (parts : Parts) : ComplexType :=
  match parts.simpleType, parts.group with
  | some type, _ => ofSimpleType parts.name type
  | none, some group =>
    if parts.isMixed then ofContent parts.name .mixed (some group)
    else if group.isEmpty then ofContent parts.name .empty none
    else ofContent parts.name .elementOnly (some group)
  | none, none =>
    if parts.isMixed then ofContent parts.name .mixed (some .empty)
    else ofContent parts.name .empty none

/-- The complex type that the parts make. -/
def ofParts (parts : Parts) : ComplexType :=
  let type := parts.content
  let type := match parts.base with
    | some (base, method) => { type with base := some base, derivation := method }
    | none => type
  { type with
    isAbstract := parts.isAbstract, block := parts.block, attributes := parts.attributes }

end ComplexType

end SchemaAssessment
