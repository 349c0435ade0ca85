/-
The attributes of an element under the attributes of its type. First the values that
the type gives are supplied where they are missing. Then each attribute is governed
by a use, or by a global declaration that a wildcard lets in, or is refused; its
value has to be valid and to agree with the fixed values. Last come what is missing
and the rules on identifiers behind wildcards.
-/

import SchemaAssessment.Assessment.Diagnostic
import SchemaAssessment.Grammar.Registry
import SchemaAssessment.Markup.Event

namespace SchemaAssessment

/-- The value of a valid attribute, and its part in identification. -/
structure TypedAttribute where
  value : Value
  idKind : IdKind
  deriving Repr, Inhabited

namespace Attribute

/-- The attributes by which an instance speaks to its validator. -/
def instanceNames : List String := ["type", "nil", "schemaLocation", "noNamespaceSchemaLocation"]

/-- The attribute is for the validator, or declares a namespace. No type has to allow it. -/
def isSpecial (member : Attribute) : Bool :=
  if member.name.space == some instanceNamespace then instanceNames.contains member.name.localName
  else if member.name.space == some declarationNamespace then true
  else
    member.name.namePrefix == some "xmlns" ||
      (member.name.namePrefix.isNone && member.name.localName == "xmlns")

end Attribute

/-! ### Supplied attributes -/

namespace AttributeGroup

/-- The attribute that a use supplies, if it gives a value and the name is missing. -/
def supplied? (use : AttributeUse τ) (attributes : Attributes) : Option Attribute :=
  if use.isProhibited || attributes.has use.declaration.name then none
  else use.effectiveConstraint.map fun constraint =>
    .supplied use.declaration.name constraint.text

/-- The attributes with those that the uses supply behind them. -/
def supply (group : AttributeGroup τ) (attributes : Attributes) : Attributes :=
  group.uses.foldl (fun done use => done ++ (supplied? use done).toList) attributes

end AttributeGroup

/-! ### What governs an attribute -/

/-- What governs an attribute: a use of the type, or a global declaration; or nothing, so that it
is passed over or refused. -/
inductive AttributeGovernor where
  | use (use : AttributeUse TypeReference)
  | declaration (declaration : AttributeDeclaration TypeReference)
  | nothing
  | refusal
  deriving Inhabited

namespace Registry

/-- What governs an attribute that a wildcard lets in. -/
def governorBehind (registry : Registry) (wildcard : Wildcard) (name : ExpandedName) :
    AttributeGovernor :=
  match wildcard.processContents, registry.attribute? name with
  | .skip, _ => .nothing
  | _, some declaration => .declaration declaration
  | .lax, none => .nothing
  | .strict, none => .refusal

/-- What governs an attribute of an element. -/
def governor (registry : Registry) (group : AttributeGroup TypeReference) (member : Attribute) :
    AttributeGovernor :=
  if member.isSpecial then .nothing
  else match group.use? member.expanded, group.wildcard with
    | some use, _ => .use use
    | none, some wildcard =>
      if wildcard.allows member.name.space then registry.governorBehind wildcard member.expanded
      else .refusal
    | none, none => .refusal

/-- The part in identification of the attributes of a declaration. -/
def idKindOf (registry : Registry) (declaration : AttributeDeclaration TypeReference) : IdKind :=
  (registry.simpleTypeOf declaration.type).idKind

end Registry

/-! ### Checks -/

/-- What attributes are checked against: the grammars, the bindings in scope, and the element that
findings name. -/
structure AttributeContext where
  registry : Registry
  scopes : NamespaceScopes
  element : String

namespace AttributeContext

/-- A finding about an attribute. Its first argument is the element. -/
def finding (context : AttributeContext) (rule : Rule) (arguments : List String) : Diagnostic :=
  ⟨rule, context.element, context.element :: arguments⟩

/-- What is found when a value does not agree with a fixed one. -/
def checkFixed (context : AttributeContext) (rule : Rule) (type : SimpleType) (member : Attribute)
    (value : Value) (constraint : Option ValueConstraint) : List Diagnostic :=
  match constraint.bind ValueConstraint.fixed? with
  | none => []
  | some fixed =>
    if type.agrees context.scopes value fixed then []
    else [context.finding rule [member.name.raw, member.value, fixed]]

/-- Checks the value of an attribute under a declaration, and a use if there is one. -/
def checkValue (context : AttributeContext) (member : Attribute)
    (declaration : AttributeDeclaration TypeReference) (ofUse : Option ValueConstraint) :
    Option TypedAttribute × List Diagnostic :=
  let type := context.registry.simpleTypeOf declaration.type
  match type.validate context.scopes member.value with
  | .error fault =>
    (none, [context.finding .attributeValue
      [member.name.raw, type.normalize member.value, fault.message]])
  | .ok value =>
    (some ⟨value, type.idKind⟩,
      context.checkFixed .attributeFixed type member value declaration.constraint ++
        context.checkFixed .attributeUseFixed type member value ofUse)

/-- Checks that a declaration behind a wildcard is not the second one of identifiers. The local name
of the first is kept. -/
def checkWildcardId (context : AttributeContext) (earlier : Option String)
    (declaration : AttributeDeclaration TypeReference) : Option String × List Diagnostic :=
  if context.registry.idKindOf declaration != .declares then (earlier, [])
  else match earlier with
    | none => (some declaration.name.localName, [])
    | some first =>
      (earlier, [context.finding .multipleWildcardIds [declaration.name.localName, first]])

/-- Checks the attributes in turn. Told are the values, the local name of the first identifier
behind the wildcard, and what is found. -/
def checkEach (context : AttributeContext) (group : AttributeGroup TypeReference)
    (wildcardId : Option String) :
    Attributes → List (Option TypedAttribute) × Option String × List Diagnostic
  | [] => ([], wildcardId, [])
  | member :: rest =>
    let (typed, wildcardId, found) :=
      match context.registry.governor group member with
      | .nothing => (none, wildcardId, [])
      | .refusal =>
        (none, wildcardId, [context.finding .attributeNotAllowed [member.name.raw]])
      | .use use =>
        let (typed, found) := context.checkValue member use.declaration use.constraint
        (typed, wildcardId, found)
      | .declaration declaration =>
        let (wildcardId, repeated) := context.checkWildcardId wildcardId declaration
        let (typed, found) := context.checkValue member declaration none
        (typed, wildcardId, repeated ++ found)
    let (others, wildcardId, more) := context.checkEach group wildcardId rest
    (typed :: others, wildcardId, found ++ more)

/-- What is found about required attributes that the document does not give. -/
def checkRequired (context : AttributeContext) (group : AttributeGroup TypeReference)
    (attributes : Attributes) : List Diagnostic :=
  (group.uses.filter AttributeUse.isRequired).filterMap fun use =>
    if attributes.any fun member => member.isSpecified && member.expanded == use.declaration.name
    then none
    else some (context.finding .requiredAttributeMissing [use.declaration.name.localName])

/-- The local name of the first attribute of the type that declares identifiers. -/
def declaredId? (context : AttributeContext) (group : AttributeGroup TypeReference) :
    Option String :=
  (group.uses.find? fun use =>
    !use.isProhibited && context.registry.idKindOf use.declaration == .declares).map
      fun use => use.declaration.name.localName

/-- What is found when identifiers stand both behind the wildcard and among the uses. -/
def checkBothIds (context : AttributeContext) (group : AttributeGroup TypeReference)
    (wildcardId : Option String) : List Diagnostic :=
  match wildcardId, context.declaredId? group with
  | some wildcardId, some declared =>
    [context.finding .wildcardIdWithDeclaredId [wildcardId, declared]]
  | _, _ => []

/-- Checks the attributes of an element whose type has attributes. -/
def check (context : AttributeContext) (group : AttributeGroup TypeReference)
    (attributes : Attributes) : List (Option TypedAttribute) × List Diagnostic :=
  let (typed, wildcardId, found) := context.checkEach group none attributes
  (typed, found ++ context.checkRequired group attributes ++ context.checkBothIds group wildcardId)

/-- What is found about the attributes of an element of a simple type, which has none. -/
def checkNone (context : AttributeContext) (attributes : Attributes) : List Diagnostic :=
  (attributes.filter fun member => !member.isSpecial).map fun member =>
    context.finding .simpleTypeAttribute [member.name.raw]

/-- The attributes of an element with those that are supplied, their values as far as they are
valid, and what is found. Without validation nothing is checked. -/
def assess (context : AttributeContext) (isValidating : Bool)
    (group : Option (AttributeGroup TypeReference)) (attributes : Attributes) :
    Attributes × List (Option TypedAttribute) × List Diagnostic :=
  match group with
  | none =>
    (attributes, attributes.map fun _ => none,
      if isValidating then context.checkNone attributes else [])
  | some group =>
    let attributes := group.supply attributes
    if isValidating then (attributes, context.check group attributes)
    else (attributes, attributes.map fun _ => none, [])

end AttributeContext

end SchemaAssessment
