/-
Grammars: the global declarations of one namespace under their local names, in the
order in which they were made. The built-in grammar holds the most general type, the
atomic datatypes and the built-in lists.
-/

import SchemaAssessment.Json.Printer
import SchemaAssessment.Schema.Decoding
import SchemaAssessment.Schema.Encoding

namespace SchemaAssessment

/-- A type definition. -/
inductive TypeDefinition where
  | simple (type : SimpleType)
  | complex (type : ComplexType)
  deriving Inhabited

namespace TypeDefinition

/-- The name of the type. -/
def name? : TypeDefinition → Option ExpandedName
  | .simple type => type.name
  | .complex type => type.name

/-- The name that messages show. -/
def shownName : TypeDefinition → String
  | .simple type => type.shownName
  | .complex type => type.shownName

/-- The name of the base. -/
def base? : TypeDefinition → Option ExpandedName
  | .simple type => type.base
  | .complex type => type.base

/-- How the type is derived from its base. -/
def derivation : TypeDefinition → DerivationMethod
  | .simple _ => .restriction
  | .complex type => type.derivation

/-- No element may have the type itself. -/
def isAbstract : TypeDefinition → Bool
  | .simple _ => false
  | .complex type => type.isAbstract

/-- What the type blocks. -/
def block : TypeDefinition → Block
  | .simple _ => .nothing
  | .complex type => type.block

/-- The type is simple. -/
def isSimple : TypeDefinition → Bool
  | .simple _ => true
  | .complex _ => false

/-- A type definition as a choice. -/
def toJson : TypeDefinition → Json
  | .simple type => Json.variant "simple" type.toJson
  | .complex type => Json.variant "complex" type.toJson

/-- Reads a type definition. -/
def ofJson (json : Json) : Except Json.Fault TypeDefinition := do
  match ← Json.toVariant json with
  | ("simple", content) => return .simple (← SimpleType.ofJson (← withContent content))
  | ("complex", content) => return .complex (← ComplexType.ofJson (← withContent content))
  | (name, _) => throw (.unknown name)

end TypeDefinition

/-- Values under keys, in the order in which the keys came. -/
abbrev Entries (α : Type) := List (String × α)

namespace Entries

variable {α : Type}

/-- Puts a value under a key; a key that is there keeps its place. -/
def insert (key : String) (value : α) : Entries α → Entries α
  | [] => [(key, value)]
  | (other, old) :: rest =>
    if other == key then (other, value) :: rest else (other, old) :: insert key value rest

/-- Puts all values under their keys in turn. -/
def ofList (entries : List (String × α)) : Entries α :=
  entries.foldl (fun done entry => done.insert entry.1 entry.2) []

/-- The keys in order. -/
def keys (entries : Entries α) : List String := entries.map Prod.fst

/-- Entries as an object. -/
def toJson (encode : α → Json) (entries : Entries α) : Json :=
  .object (entries.map fun entry => (entry.1, encode entry.2))

/-- Reads entries. -/
def ofJson (decode : Json → Except Json.Fault α) (json : Json) : Except Json.Fault (Entries α) :=
  (Json.toMembers decode json).map ofList

/-- A value is found under the key where it was put last. -/
theorem lookup_insert_self (key : String) (value : α) (entries : Entries α) :
    (entries.insert key value).lookup key = some value := by
  induction entries with
  | nil => simp [insert]
  | cons entry rest inductionHypothesis =>
    obtain ⟨other, old⟩ := entry
    unfold insert
    split
    · next same => simp [eq_of_beq same]
    · next differs =>
      have apart : (key == other) = false := by
        rw [beq_eq_false_iff_ne]
        intro equal
        exact differs (by rw [equal]; exact beq_self_eq_true other)
      simpa [List.lookup_cons, apart] using inductionHypothesis

end Entries

/-- The global declarations of a namespace. -/
structure Grammar where
  target : Option String
  elements : Entries ElementDeclaration
  types : Entries TypeDefinition
  attributes : Entries (AttributeDeclaration TypeReference)
  deriving Inhabited

namespace Grammar

/-- A grammar without declarations. -/
def empty (target : Option String) : Grammar := ⟨target, [], [], []⟩

/-- A grammar with one more global element. -/
def addElement (grammar : Grammar) (declaration : ElementDeclaration) : Grammar :=
  { grammar with elements := grammar.elements.insert declaration.name.localName declaration }

/-- A grammar with one more global type; a type without a name is not added. -/
def addType (grammar : Grammar) (type : TypeDefinition) : Grammar :=
  match type.name? with
  | some name => { grammar with types := grammar.types.insert name.localName type }
  | none => grammar

/-- A grammar with one more global attribute. -/
def addAttribute (grammar : Grammar) (declaration : AttributeDeclaration TypeReference) : Grammar :=
  { grammar with attributes := grammar.attributes.insert declaration.name.localName declaration }

/-- The grammar of the namespace of schemas. -/
def builtin : Grammar :=
  let types := TypeDefinition.complex ComplexType.anyType
    :: Datatype.all.map (fun datatype => .simple (.ofDatatype datatype))
    ++ SimpleType.builtinLists.map fun (name, item) => .simple (.ofBuiltinList name item)
  types.foldl addType (empty (some schemaNamespace))

/-- A grammar as a record. -/
def toJson (grammar : Grammar) : Json :=
  Json.ofMembers [
    Json.memberOf "target_namespace" .string grammar.target,
    Json.member "elements" (grammar.elements.toJson ElementDeclaration.toJson),
    Json.member "types" (grammar.types.toJson TypeDefinition.toJson),
    Json.member "attributes" (grammar.attributes.toJson AttributeDeclaration.toJson)]

/-- Reads a grammar. -/
def ofJson (json : Json) : Except Json.Fault Grammar := do
  let fields ← Json.toFields ["target_namespace", "elements", "types", "attributes"] json
  return ⟨← fields.optional "target_namespace" Json.toText,
    ← fields.defaulting "elements" [] (Entries.ofJson ElementDeclaration.ofJson),
    ← fields.defaulting "types" [] (Entries.ofJson TypeDefinition.ofJson),
    ← fields.defaulting "attributes" [] (Entries.ofJson AttributeDeclaration.ofJson)⟩

/-- Reads a grammar from text. -/
def ofText (text : String) : Except Json.Fault Grammar := do ofJson (← Json.read text)

/-- A grammar as indented text. -/
def text (grammar : Grammar) : String := grammar.toJson.print

end Grammar

end SchemaAssessment
