/-
All grammars that are known, by their target namespace, and the questions that
lead from one component to another: what a name means, which type an element has,
whether a type is derived from another, and which elements may stand for the head of
a substitution group. Chains of names are followed for a bounded number of steps, so
grammars whose chains run in circles do no harm.

A type without a name is the same only as itself. What "itself" means is told by
where the type was found: each grammar is numbered when it is registered, and a
global component is known by that number and its key.
-/

import SchemaAssessment.Grammar.Basic

namespace SchemaAssessment

/-- The place of a global component: the number of its grammar, and its key there. -/
structure ComponentKey where
  registration : Nat
  key : String
  deriving DecidableEq, Repr, Inhabited

/-- Where a type was found: under its own key, or held by a declaration that is global or not.
Declarations that are not global are told apart by a number. -/
inductive TypeOrigin where
  | global (place : ComponentKey)
  | heldByGlobal (place : ComponentKey)
  | held (owner : Nat)
  | builtin
  deriving DecidableEq, Repr, Inhabited

/-- A type and where it was found. -/
structure KnownType where
  definition : TypeDefinition
  origin : TypeOrigin
  deriving Inhabited

/-- An element declaration, and its place if it is global. -/
structure KnownElement where
  declaration : ElementDeclaration
  place : Option ComponentKey
  deriving Inhabited

/-- A grammar under the number that it got when it was registered. -/
structure Registration where
  number : Nat
  grammar : Grammar
  deriving Inhabited

/-- The grammars by target namespace, the latest first, and the next number. -/
structure Registry where
  registrations : List Registration
  nextNumber : Nat
  deriving Inhabited

namespace KnownType

/-- The most general type. -/
def anyType : KnownType := ⟨.complex .anyType, .builtin⟩

/-- Both are one type: of the same kind, and found at the same place or having the same name. -/
def isSame (left right : KnownType) : Bool :=
  left.definition.isSimple == right.definition.isSimple &&
    (left.origin == right.origin ||
      (left.definition.name?.isSome && left.definition.name? == right.definition.name?))

/-- A type is the same as itself. -/
theorem isSame_self (type : KnownType) : type.isSame type = true := by
  simp [isSame]

/-- Sameness has no direction. -/
theorem isSame_comm (left right : KnownType) : left.isSame right = right.isSame left := by
  unfold isSame
  rw [Bool.beq_comm (a := left.definition.isSimple), BEq.comm (a := left.origin)]
  cases hl : left.definition.name? <;> cases hr : right.definition.name? <;>
    simp [BEq.comm]

end KnownType

namespace KnownElement

/-- Where the type that the declaration holds is found. -/
def heldOrigin (element : KnownElement) : TypeOrigin :=
  match element.place with
  | some place => .heldByGlobal place
  | none => .held 0

/-- A declaration that is not global. -/
def ofDeclaration (declaration : ElementDeclaration) : KnownElement := ⟨declaration, none⟩

end KnownElement

/-! ### Values of types -/

/-- Where the simple type of a value is found: at once, behind a name, or nowhere. -/
inductive ValueSource where
  | here (type : SimpleType)
  | behind (name : ExpandedName)
  | nowhere
  deriving Inhabited

mutual

/-- Goes into the types that a reference holds, as far as they have simple content. -/
def TypeReference.valueSource : TypeReference → ValueSource
  | .named name => .behind name
  | .simple type => .here type
  | .complex type => type.valueSource

/-- The source of the text of a complex type. -/
def ComplexType.valueSource : ComplexType → ValueSource
  | ⟨_, _, _, content, _, simpleType, _, _, _⟩ =>
    match content with
    | .simple => TypeReference.optionalValueSource simpleType
    | _ => .nowhere

/-- The source behind a reference that may be missing. -/
def TypeReference.optionalValueSource : Option TypeReference → ValueSource
  | none => .nowhere
  | some reference => reference.valueSource

end

namespace Registry

/-- The longest chain of names that is followed. -/
def longestChain : Nat := 64

/-! ### Grammars -/

/-- No grammar at all. -/
def nothing : Registry := ⟨[], 0⟩

/-- Registers a grammar in place of the one with the same target. -/
def put (registry : Registry) (grammar : Grammar) : Registry :=
  { registrations := ⟨registry.nextNumber, grammar⟩
      :: registry.registrations.filter fun present => present.grammar.target != grammar.target
    nextNumber := registry.nextNumber + 1 }

/-- The built-in grammar alone. -/
def initial : Registry := nothing.put .builtin

/-- The registration of a namespace. -/
def registration? (registry : Registry) (space : Option String) : Option Registration :=
  registry.registrations.find? fun present => present.grammar.target == space

/-- The grammar of a namespace. -/
def grammar? (registry : Registry) (space : Option String) : Option Grammar :=
  (registry.registration? space).map Registration.grammar

/-- A grammar is registered for the namespace. -/
def has (registry : Registry) (space : Option String) : Bool :=
  (registry.registration? space).isSome

/-- The target namespaces, the empty text standing for none, in order. -/
def targets (registry : Registry) : List String :=
  (registry.registrations.map fun present => present.grammar.target.getD "").mergeSort (· ≤ ·)

/-- A registered grammar is found under its target. -/
theorem grammar?_put_self (registry : Registry) (grammar : Grammar) :
    (registry.put grammar).grammar? grammar.target = some grammar := by
  simp [grammar?, registration?, put]

/-- Registering a grammar leaves those of other namespaces as they are. -/
theorem grammar?_put_of_ne (registry : Registry) (grammar : Grammar) {space : Option String}
    (apart : space ≠ grammar.target) :
    (registry.put grammar).grammar? space = registry.grammar? space := by
  have differs : (grammar.target == space) = false := by
    rw [beq_eq_false_iff_ne]
    exact fun equal => apart equal.symm
  simp only [grammar?, registration?, put, List.find?_cons, differs, List.find?_filter]
  congr 2
  funext present
  by_cases equal : present.grammar.target = space
  · simp [equal, apart]
  · simp [equal]

/-! ### Global components -/

/-- The global element with a name. -/
def element? (registry : Registry) (name : ExpandedName) : Option KnownElement := do
  let found ← registry.registration? name.space
  let declaration ← found.grammar.elements.lookup name.localName
  return ⟨declaration, some ⟨found.number, name.localName⟩⟩

/-- The global type with a name. -/
def type? (registry : Registry) (name : ExpandedName) : Option KnownType := do
  let found ← registry.registration? name.space
  let definition ← found.grammar.types.lookup name.localName
  return ⟨definition, .global ⟨found.number, name.localName⟩⟩

/-- The global attribute with a name. -/
def attribute? (registry : Registry) (name : ExpandedName) :
    Option (AttributeDeclaration TypeReference) := do
  let found ← registry.registration? name.space
  found.grammar.attributes.lookup name.localName

/-- The type that a reference means; a type that the reference holds is found at `origin`. -/
def resolve? (registry : Registry) (origin : TypeOrigin) : TypeReference → Option KnownType
  | .named name => registry.type? name
  | .simple type => some ⟨.simple type, origin⟩
  | .complex type => some ⟨.complex type, origin⟩

/-! ### Simple types -/

/-- The type that takes any text. -/
def anySimpleType : SimpleType := .ofDatatype .anySimpleType

/-- The simple type found from a source by at most so many names. -/
def simpleTypeFrom (registry : Registry) : Nat → ValueSource → Option SimpleType
  | _, .here type => some type
  | _, .nowhere => some anySimpleType
  | 0, .behind _ => none
  | names + 1, .behind name =>
    match registry.type? name with
    | some ⟨.simple type, _⟩ => some type
    | some ⟨.complex type, _⟩ => simpleTypeFrom registry names type.valueSource
    | none => some anySimpleType

/-- The number of global types. -/
def typeCount (registry : Registry) : Nat :=
  registry.registrations.foldl (fun count present => count + present.grammar.types.length) 0

/-- The simple type of an attribute or of simple content: that which the reference leads to, and
the one that takes any text where it leads to none. Nothing is found where the names run in a
circle. -/
def simpleTypeOf? (registry : Registry) (reference : Option TypeReference) : Option SimpleType :=
  registry.simpleTypeFrom (registry.typeCount + 1) (TypeReference.optionalValueSource reference)

/-- The simple type of an attribute or of simple content; where names run in a circle it takes any
text. -/
def simpleTypeOf (registry : Registry) (reference : Option TypeReference) : SimpleType :=
  (registry.simpleTypeOf? reference).getD anySimpleType

/-! ### Types of elements -/

/-- The type of an element within so many declarations. A declaration without a type has that of
the head of its substitution group. -/
def elementTypeWithin (registry : Registry) : Nat → KnownElement → KnownType
  | 0, _ => .anyType
  | declarations + 1, element =>
    match element.declaration.type with
    | some reference => (registry.resolve? element.heldOrigin reference).getD .anyType
    | none =>
      match element.declaration.substitutionGroup.bind registry.element? with
      | some head => elementTypeWithin registry declarations head
      | none => .anyType

/-- The type that an element declaration gives. -/
def elementType (registry : Registry) (element : KnownElement) : KnownType :=
  registry.elementTypeWithin longestChain element

/-! ### Derivation -/

/-- The next type on the way to the most general one. -/
def base? (registry : Registry) (type : KnownType) : Option KnownType :=
  type.definition.base?.bind registry.type?

/-- The type leads to the base by less than so many derivations, none of them blocked. -/
def leadsTo (registry : Registry) (base : KnownType) (block : Block) : Nat → KnownType → Bool
  | 0, _ => false
  | steps + 1, type =>
    if type.isSame base then true
    else if block.blocks type.definition.derivation then false
    else match registry.base? type with
      | some next => leadsTo registry base block steps next
      | none => false

/-- The type is a named member of a union. -/
def isUnionMember (type base : TypeDefinition) : Bool :=
  match type, base with
  | .simple member, .simple union => member.name.any fun name => union.hasMember name
  | _, _ => false

/-- The type is the most general one. -/
def isAnyType : TypeDefinition → Bool
  | .complex type => type.isAnyType
  | .simple _ => false

/-- The type is derived from the base where some derivations are blocked. -/
def isDerivedFrom (registry : Registry) (type base : KnownType) (block : Block) : Bool :=
  isAnyType base.definition || isUnionMember type.definition base.definition ||
    registry.leadsTo base block longestChain type

/-! ### Substitution groups -/

/-- The heads lead to the wanted one by less than so many steps. -/
def headsReach (registry : Registry) (wanted : ExpandedName) : Nat → Option ExpandedName → Bool
  | 0, _ => false
  | _, none => false
  | steps + 1, some head =>
    head == wanted ||
      headsReach registry wanted steps
        ((registry.element? head).bind fun found => found.declaration.substitutionGroup)

/-- The declaration of an element that may stand for the head of a substitution group: it leads to
the head, is not abstract, and its type is derived from that of the head. -/
def substitute? (registry : Registry) (name head : ExpandedName) : Option KnownElement := do
  let headElement ← registry.element? head
  if headElement.declaration.block.substitution then none
  let member ← registry.element? name
  let reaches := registry.headsReach head longestChain member.declaration.substitutionGroup
  if !reaches || member.declaration.isAbstract then none
  let headType := registry.elementType headElement
  let block := headElement.declaration.block.union headType.definition.block
  if registry.isDerivedFrom (registry.elementType member) headType block then some member else none

/-- The declaration of a child with the given name, if the element of a particle takes it. A global
element without a declaration has that of its name. -/
def takes (registry : Registry) (name : ExpandedName) : ElementTerm → Option KnownElement
  | .declared declaration =>
    if declaration.name == name then some (.ofDeclaration declaration) else none
  | .global head =>
    if head == name then
      some ((registry.element? head).getD (.ofDeclaration (.ofName head)))
    else registry.substitute? name head

end Registry

end SchemaAssessment
