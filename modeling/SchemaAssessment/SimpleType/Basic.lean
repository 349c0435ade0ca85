/-
Simple types: an atomic datatype, a list of values of an item type, or a union of
member types, each with facets. A text is brought to the white space of the type,
read, and checked against the facets. The items of a list and the members of a
union are read by their own types.
-/

import SchemaAssessment.SimpleType.Facet
import SchemaAssessment.Value.Lexical

namespace SchemaAssessment

mutual

/-- How the values of a simple type are made. -/
inductive Variety where
  | atomic (datatype : Datatype)
  | list (item : SimpleType)
  | union (members : List SimpleType)

/-- A simple type: its name, the name of the type that it was derived from, its variety and its
facets. -/
inductive SimpleType where
  | mk (name : Option ExpandedName) (base : Option ExpandedName) (variety : Variety)
    (facets : Facets)

end

instance : Inhabited SimpleType := ⟨.mk none none (.atomic .anySimpleType) {}⟩

/-- What the values of a type are to the identifiers of a document. -/
inductive IdKind where
  | none
  | declares
  | refers
  deriving DecidableEq, Repr, Inhabited

/-- The name of a kind. -/
def IdKind.name : IdKind → String
  | .none => "none"
  | .declares => "id"
  | .refers => "idref"

namespace SimpleType

/-! ### Parts -/

/-- The name of the type; an anonymous type has none. -/
def name : SimpleType → Option ExpandedName
  | .mk name _ _ _ => name

/-- The name of the type that it was derived from. -/
def base : SimpleType → Option ExpandedName
  | .mk _ base _ _ => base

/-- How its values are made. -/
def variety : SimpleType → Variety
  | .mk _ _ variety _ => variety

/-- Its facets. -/
def facets : SimpleType → Facets
  | .mk _ _ _ facets => facets

/-! ### Making simple types -/

/-- A built-in atomic type. -/
def ofDatatype (datatype : Datatype) : SimpleType :=
  .mk (some datatype.expandedName) (datatype.base.map Datatype.expandedName) (.atomic datatype) {}

/-- A list type over an item type. -/
def listOf (name : Option ExpandedName) (item : SimpleType) : SimpleType :=
  .mk name (some Datatype.anySimpleType.expandedName) (.list item) {}

/-- A union type over member types. -/
def unionOf (name : Option ExpandedName) (members : List SimpleType) : SimpleType :=
  .mk name (some Datatype.anySimpleType.expandedName) (.union members) {}

/-- A type with the values of another and facets of its own in place of its facets. -/
def restriction (name : Option ExpandedName) (type : SimpleType) (facets : Facets) : SimpleType :=
  .mk name type.name type.variety facets

/-- The built-in list types and the datatypes of their items. -/
def builtinLists : List (String × Datatype) := [
  ("NMTOKENS", .nmToken), ("IDREFS", .idRef), ("ENTITIES", .entity)]

/-- A built-in list type; its lists have at least one item. -/
def ofBuiltinList (localName : String) (item : Datatype) : SimpleType :=
  .mk (some (.ofSchema localName)) (some Datatype.anySimpleType.expandedName)
    (.list (ofDatatype item)) { minLength := some 1 }

/-! ### Properties -/

/-- The name that messages show. -/
def shownName (type : SimpleType) : String :=
  match type.name with
  | some name => name.text
  | none => "#AnonType"

/-- The datatype of an atomic type. -/
def datatype? (type : SimpleType) : Option Datatype :=
  match type.variety with
  | .atomic datatype => some datatype
  | _ => none

/-- What the type does with white space. Lists and unions collapse it unless a facet says
otherwise. -/
def whiteSpace (type : SimpleType) : WhiteSpace :=
  match type.facets.whiteSpace, type.variety with
  | some mode, _ => mode
  | none, .atomic datatype => datatype.whiteSpace
  | none, _ => .collapse

/-- A text as the type leaves it before it is read. -/
def normalize (type : SimpleType) (text : String) : String := type.whiteSpace.normalize text

/-- The part of the values in identification: an identifier, references, or none. -/
def idKind : SimpleType → IdKind
  | .mk _ _ (.atomic datatype) _ =>
    if datatype.isDerivedFrom .id then .declares
    else if datatype.isDerivedFrom .idRef then .refers else .none
  | .mk _ _ (.list item) _ => if item.idKind == .refers then .refers else .none
  | .mk _ _ (.union _) _ => .none

mutual

/-- The union lists a type of this name, at any depth. -/
def hasMember (member : ExpandedName) : SimpleType → Bool
  | .mk _ _ (.union members) _ => anyMember member members
  | .mk _ _ _ _ => false

/-- One of the types has the name or lists it. -/
def anyMember (member : ExpandedName) : List SimpleType → Bool
  | [] => false
  | type :: rest => type.name == some member || hasMember member type || anyMember member rest

end

/-! ### Reading values -/

/-- The list of the values of the items between spaces, which are all read alike. -/
def readList (read : String → Except ValueFault Value) (text : String) :
    Except ValueFault Value := do
  let items ← ((Text.runs (· == ' ') text.toList).map String.ofList).mapM read
  return .list items

mutual

/-- The value of a text, given as the type left its white space. -/
def readNormalized (scopes : NamespaceScopes) : SimpleType → String → Except ValueFault Value
  | .mk _ _ (.atomic datatype) facets, text => do
    let value ← datatype.parse scopes text
    facets.check text value fun limit =>
      datatype.parse scopes (datatype.whiteSpace.normalize limit)
    return value
  | .mk _ _ (.list item) facets, text => do
    let read := readList fun word => readNormalized scopes item (item.normalize word)
    let value ← read text
    facets.check text value fun limit => read (WhiteSpace.collapse.normalize limit)
    return value
  | .mk _ _ (.union members) facets, text => do
    let value ← readMember scopes members text
    facets.check text value (readMember scopes members)
    return value

/-- The value in the first of the types that accepts the text. -/
def readMember (scopes : NamespaceScopes) : List SimpleType → String → Except ValueFault Value
  | [], text => .error (.noUnionMember text)
  | member :: rest, text =>
    match readNormalized scopes member (member.normalize text) with
    | .ok value => .ok value
    | .error _ => readMember scopes rest text

end

/-- The value that a text stands for in a type. -/
def validate (type : SimpleType) (scopes : NamespaceScopes) (text : String) :
    Except ValueFault Value :=
  type.readNormalized scopes (type.normalize text)

/-- The value is the one that a text of the schema stands for. A text that is not valid itself is
compared with the value as written. -/
def agrees (type : SimpleType) (scopes : NamespaceScopes) (value : Value) (text : String) : Bool :=
  match type.validate scopes text with
  | .ok constraint => value.same constraint
  | .error _ => value.text == type.normalize text

end SimpleType

end SchemaAssessment
