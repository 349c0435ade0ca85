/-
Start tags. An element is assessed if its parent's content takes it or has nothing to
say, and if a declaration or the instance itself gives it a type; else its subtree is
passed through. Findings are told in the order of the steps: hints, the content of
the parent, the declaration, the type, the claim to be nil, the attributes, and the
identity constraints.
-/

import SchemaAssessment.Assessment.Validator

namespace SchemaAssessment

/-- The name of an attribute by which an instance speaks to its validator. -/
def instanceName (localName : String) : ExpandedName := ⟨some instanceNamespace, localName⟩

/-- What becomes of an element: it is assessed under a declaration, if there is one, or its subtree
is passed through. A strict wildcard asks for a declaration. -/
inductive Reception where
  | assessed (declaration : Option KnownElement) (isStrict : Bool)
  | skipped
  deriving Inhabited

/-- What becomes of an element that its parent admits or rejects. -/
def Admission.receive (registry : Registry) (name : ExpandedName) : Admission → Reception
  | .taken (.element declaration) => .assessed (some declaration) false
  | .taken (.wildcard wildcard) =>
    match wildcard.processContents with
    | .skip => .skipped
    | .lax => .assessed (registry.element? name) false
    | .strict => .assessed (registry.element? name) true
  | .byName => .assessed (registry.element? name) false
  | .rejected _ => .skipped

namespace Validator

/-! ### Before the element is looked at -/

/-- Goes one element deeper and checks the limits. -/
def checkLimits (validator : Validator) (attributes : Attributes) : Except LimitFault Unit := do
  validator.configuration.limits.check .depth validator.depth
  validator.configuration.limits.check .attributes attributes.length

/-- Opens a scope with the bindings that were announced. Nothing is bound to an empty name. -/
def bindPending (validator : Validator) : Validator :=
  { validator with
    scopes := validator.pending.foldl (fun scopes binding =>
      scopes.declare binding.1 (if binding.2.isEmpty then none else some binding.2))
      validator.scopes.push
    pending := [] }

/-- No assessed element is open. -/
def isAtRoot (validator : Validator) : Bool := validator.frames.isEmpty

/-- A root element decides anew whether findings are told. -/
def beginRoot (validator : Validator) : Validator :=
  if validator.isAtRoot then { validator with isValidating := validator.configuration.validates }
  else validator

/-- Words two by two; an odd last one is left out. -/
def pairs : List String → List (Option String × String)
  | space :: hint :: rest => (some space, hint) :: pairs rest
  | _ => []

/-- The hints of a start tag: namespaces with places where a grammar for them may be found. -/
def hints (attributes : Attributes) : List (Option String × String) :=
  let qualified := (attributes.value? (instanceName "schemaLocation")).map fun value =>
    pairs (Text.words value)
  let unqualified := (attributes.value? (instanceName "noNamespaceSchemaLocation")).map fun value =>
    [((none : Option String), Text.trim value)]
  qualified.getD [] ++ unqualified.getD []

/-- Follows a hint, unless there is a grammar for the namespace or a hint for it has been
followed. -/
def followHint (validator : Validator) (element : String) (space : Option String)
    (hint : String) : Validator × List Diagnostic :=
  if validator.registry.has space || validator.attempted.contains space then (validator, [])
  else
    let validator := { validator with attempted := space :: validator.attempted }
    match validator.registry.load validator.source space hint validator.configuration.directory with
    | .ok registry => ({ validator with registry }, [])
    | .error failure => (validator, [⟨.schemaLoad, element, [hint, failure.message]⟩])

/-- Follows hints in turn. -/
def followHints (validator : Validator) (element : String) :
    List (Option String × String) → Validator × List Diagnostic
  | [] => (validator, [])
  | (space, hint) :: rest =>
    let (validator, found) := validator.followHint element space hint
    let (validator, more) := validator.followHints element rest
    (validator, found ++ more)

/-- Follows the hints of a start tag if hints are to be followed. -/
def loadHinted (validator : Validator) (element : String) (attributes : Attributes) :
    Validator × List Diagnostic :=
  if validator.configuration.followsHints then validator.followHints element (hints attributes)
  else (validator, [])

/-- A root element without a grammar turns dynamic validation off. -/
def decideDynamic (validator : Validator) (space : Option String) : Validator :=
  if validator.isAtRoot && validator.configuration.isDynamic && !validator.registry.has space then
    { validator with isValidating := false }
  else validator

/-- Offers the element to the parent, which takes or rejects it. -/
def offer (validator : Validator) (name : ExpandedName) : Validator × Admission :=
  match validator.frames with
  | [] => (validator, .byName)
  | parent :: outer =>
    let (parent, admission) := parent.takeChild validator.registry name
    ({ validator with frames := parent :: outer }, admission)

/-- What is found when a parent rejects an element. -/
def rejection (element : String) : Admission → List Diagnostic
  | .rejected expected => [⟨.invalidChild, element, [element, expected]⟩]
  | _ => []

/-! ### The type of the element -/

/-- The type that an instance chooses by name, in place of the declared one. -/
def chosenType (validator : Validator) (element : String) (declaration : Option KnownElement)
    (declared : Option KnownType) (value : String) : Option KnownType × List Diagnostic :=
  let written := Text.trim value
  let refuse (rule : Rule) : Option KnownType × List Diagnostic :=
    (declared, [⟨rule, element, [element, written]⟩])
  match validator.scopes.resolve written, Name.isQName written with
  | .ok name, true =>
    match validator.registry.type? name, declared with
    | none, _ => refuse .xsiTypeNotFound
    | some chosen, none => (some chosen, [])
    | some chosen, some type =>
      let own := (declaration.map fun found => found.declaration.block).getD .nothing
      if validator.registry.isDerivedFrom chosen type (own.union type.definition.block) then
        (some chosen, [])
      else refuse .xsiTypeNotDerived
  | _, _ => refuse .invalidXsiType

/-- The type that governs an element. -/
def governingType (validator : Validator) (element : String) (declaration : Option KnownElement)
    (attributes : Attributes) : Option KnownType × List Diagnostic :=
  let declared := declaration.map validator.registry.elementType
  match attributes.value? (instanceName "type") with
  | some value => validator.chosenType element declaration declared value
  | none => (declared, [])

/-- What is found when an abstract declaration governs an element. -/
def abstractDeclaration (element : String) (declaration : Option KnownElement) :
    List Diagnostic :=
  if declaration.any fun found => found.declaration.isAbstract then
    [⟨.abstractElement, element, [element]⟩]
  else []

/-- What is found when nothing gives an element a type. -/
def undeclared (validator : Validator) (element : String) (isStrict : Bool) : List Diagnostic :=
  if validator.isAtRoot then [⟨.elementNotDeclared, element, [element]⟩]
  else if isStrict then [⟨.strictWildcardUndeclared, element, [element]⟩]
  else []

/-- What is found when an abstract type governs an element. -/
def abstractType (element : String) (type : KnownType) : List Diagnostic :=
  if type.definition.isAbstract then [⟨.abstractType, element, [element]⟩] else []

/-! ### The claim to be nil -/

/-- What becomes of the claim of an element to be nil. -/
structure NilClaim where
  isNil : Bool := false
  isRefused : Bool := false
  found : List Diagnostic := []

/-- What becomes of a claim under a declaration that allows elements to be nil. -/
def nilClaim (validator : Validator) (element : String) (declaration : ElementDeclaration)
    (value : String) : NilClaim :=
  match Datatype.boolean.parse validator.scopes (Text.trim value) with
  | .ok (.boolean true) =>
    { isNil := true
      found := if declaration.fixed?.isSome then [⟨.nilWithFixed, element, [element]⟩] else [] }
  | .ok _ => {}
  | .error fault =>
    { found := [⟨.attributeValue, element, [element, "xsi:nil", value, fault.message]⟩] }

/-- What becomes of the claim of an element, if it makes one. -/
def claimNil (validator : Validator) (element : String) (declaration : Option KnownElement)
    (attributes : Attributes) : NilClaim :=
  match attributes.value? (instanceName "nil"), declaration with
  | none, _ => {}
  | some value, some found =>
    if found.declaration.isNillable then validator.nilClaim element found.declaration value
    else { isRefused := true, found := [⟨.notNillable, element, [element]⟩] }
  | some _, none => { isRefused := true, found := [⟨.notNillable, element, [element]⟩] }

/-! ### Attributes -/

/-- The attributes of the type of an element. -/
def attributesOf : TypeDefinition → Option (AttributeGroup TypeReference)
  | .simple _ => none
  | .complex type => some type.attributes

/-- The content model of a type, if its elements have children. -/
def contentModel? : TypeDefinition → Option (ContentModel ElementTerm)
  | .simple _ => none
  | .complex type => type.contentGroup?.map (ContentModel.ofGroup ElementTerm.label)

/-- Takes in the identifiers among the values of attributes. -/
def takeIdentifiers (identifiers : Identifiers) (element : String) :
    List (Option TypedAttribute) → Identifiers × List Diagnostic
  | [] => (identifiers, [])
  | none :: rest => takeIdentifiers identifiers element rest
  | some typed :: rest =>
    let (identifiers, found) := identifiers.take element typed.value typed.idKind
    let (identifiers, more) := takeIdentifiers identifiers element rest
    (identifiers, found ++ more)

/-! ### Opening elements -/

/-- Opens a subtree that is passed through. -/
def enterSkip (validator : Validator) (name : QualifiedName) : Validator :=
  { validator with
    frames := { name : Frame } :: validator.frames
    skipDepth := some validator.depth }

/-- Shows the start tag to the identity constraints. -/
def startIdentities (validator : Validator) (event : ElementStart) :
    Validator × List Diagnostic :=
  if validator.isValidating then
    let (identities, found) := validator.identities.start event
    ({ validator with identities }, found)
  else (validator, [])

/-- Opens an element with a type. Told are its attributes, with those that are supplied. -/
def openTyped (validator : Validator) (name : QualifiedName) (attributes : Attributes)
    (declaration : Option KnownElement) (type : KnownType) :
    Validator × Attributes × List Diagnostic :=
  let claim := validator.claimNil name.raw declaration attributes
  let context : AttributeContext := ⟨validator.registry, validator.scopes, name.raw⟩
  let (supplied, typed, ofAttributes) :=
    context.assess validator.isValidating (attributesOf type.definition) attributes
  let (identifiers, ofIdentifiers) := takeIdentifiers validator.identifiers name.raw typed
  let frame : Frame := {
    name, declaration, type := some type
    content := (contentModel? type.definition).map OpenContent.start
    isNil := claim.isNil, isNilRefused := claim.isRefused }
  let opened := { validator with identifiers, frames := frame :: validator.frames }
  let (opened, ofIdentities) := opened.startIdentities {
    name := name.expanded, shown := name.raw, attributes := supplied
    values := typed.map fun typed => typed.map TypedAttribute.value
    declaration := declaration.map KnownElement.declaration }
  (opened, supplied,
    abstractType name.raw type ++ claim.found ++ ofAttributes ++ ofIdentifiers ++ ofIdentities)

/-- Opens an element that the parent has admitted. It is passed through if nothing gives it a
type. -/
def openElement (validator : Validator) (name : QualifiedName) (attributes : Attributes)
    (declaration : Option KnownElement) (isStrict : Bool) :
    Validator × Attributes × List Diagnostic :=
  let ofDeclaration := abstractDeclaration name.raw declaration
  let (type, ofType) := validator.governingType name.raw declaration attributes
  match type with
  | none =>
    (validator.enterSkip name, attributes,
      ofDeclaration ++ ofType ++ validator.undeclared name.raw isStrict)
  | some type =>
    let (opened, supplied, found) := validator.openTyped name attributes declaration type
    (opened, supplied, ofDeclaration ++ ofType ++ found)

/-- Receives an element outside of the subtrees that are passed through. -/
def receive (validator : Validator) (name : QualifiedName) (attributes : Attributes) :
    Validator × Attributes × List Diagnostic :=
  let (validator, admission) := validator.offer name.expanded
  let rejected := rejection name.raw admission
  match admission.receive validator.registry name.expanded with
  | .skipped => (validator.enterSkip name, attributes, rejected)
  | .assessed declaration isStrict =>
    let (validator, supplied, found) := validator.openElement name attributes declaration isStrict
    (validator, supplied, rejected ++ found)

/-- Assesses a start tag outside of the subtrees that are passed through. -/
def assessStart (validator : Validator) (name : QualifiedName) (attributes : Attributes) :
    Outcome :=
  let begun := validator.beginRoot
  let (loaded, ofHints) := begun.loadHinted name.raw attributes
  let decided := loaded.decideDynamic name.space
  let (opened, supplied, found) := decided.receive name attributes
  { validator := opened
    diagnostics := told begun.isValidating ofHints ++ told decided.isValidating found
    events := [.startElement name supplied] }

/-- A start tag. -/
def start (validator : Validator) (name : QualifiedName) (attributes : Attributes) : Outcome :=
  let deeper := { validator with depth := validator.depth + 1 }
  match deeper.checkLimits attributes with
  | .error fault => { validator := deeper, failure := some (.limit fault) }
  | .ok () =>
    let bound := deeper.bindPending
    if bound.isSkipping then bound.pass (.startElement name attributes)
    else bound.assessStart name attributes

end Validator

end SchemaAssessment
