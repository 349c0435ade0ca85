/-
Documents as sequences of events. A prefix comes into scope before the start tag that
declares it and goes out of scope after the end tag of that element.
-/

import SchemaAssessment.Name.Expanded

namespace SchemaAssessment

/-- An attribute of a start tag. An attribute that the document does not hold was supplied by a
schema. -/
structure Attribute where
  name : QualifiedName
  value : String
  isSpecified : Bool
  deriving DecidableEq, Repr, Inhabited

namespace Attribute

/-- An attribute of the document. -/
def specified (name : QualifiedName) (value : String) : Attribute := ⟨name, value, true⟩

/-- An attribute that a schema supplies. -/
def supplied (name : ExpandedName) (value : String) : Attribute :=
  ⟨⟨none, name.localName, name.space⟩, value, false⟩

/-- What the name of the attribute means. -/
def expanded (member : Attribute) : ExpandedName := member.name.expanded

end Attribute

/-- The attributes of a start tag in order. -/
abbrev Attributes := List Attribute

namespace Attributes

/-- An attribute with the given name is there. -/
def has (attributes : Attributes) (name : ExpandedName) : Bool :=
  attributes.any fun member => member.expanded == name

/-- The value of the first attribute with the given name. -/
def value? (attributes : Attributes) (name : ExpandedName) : Option String :=
  (attributes.find? fun member => member.expanded == name).map Attribute.value

end Attributes

/-- A piece of a document. -/
inductive Event where
  | startDocument
  | declaration (version : String) (encoding standalone : Option String)
  | doctype (text : String)
  | startPrefix (prefixName uri : String)
  | endPrefix (prefixName : String)
  | startElement (name : QualifiedName) (attributes : Attributes)
  | characters (text : String)
  | endElement (name : QualifiedName)
  | comment (text : String)
  | instruction (target : String) (data : Option String)
  | startCData
  | endCData
  | startEntity (name : String)
  | endEntity (name : String)
  | endDocument
  deriving DecidableEq, Repr, Inhabited

namespace Event

/-- The character data of an event. -/
def characters? : Event → Option String
  | .characters text => some text
  | _ => none

/-- The attributes of a start tag. -/
def attributes? : Event → Option Attributes
  | .startElement _ attributes => some attributes
  | _ => none

/-- The character data of some events together. -/
def textOf (events : List Event) : String := String.join (events.filterMap characters?)

end Event

end SchemaAssessment
