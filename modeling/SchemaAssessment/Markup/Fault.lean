/-
Why a text is not a document that can be read: a piece of markup that does not end or
does not begin as it should, a tag with malformed attributes, a reference that means
nothing, or tags that do not make one tree.
-/

namespace SchemaAssessment

/-- What is wrong with a piece of markup. -/
inductive SyntaxFault where
  | unknownMarkup
  | openComment
  | openSection
  | openDoctype
  | emptyDoctype
  | openInstruction
  | openTag
  | wrongEnd (expected found : String)
  | needlessEnd (found : String)
  deriving DecidableEq, Repr, Inhabited

/-- The fault in words. -/
def SyntaxFault.message : SyntaxFault → String
  | .unknownMarkup => "a declaration of this kind cannot be read"
  | .openComment => "a comment does not begin or end as it should"
  | .openSection => "a character data section does not begin or end as it should"
  | .openDoctype => "a document type declaration does not begin or end as it should"
  | .emptyDoctype => "a document type declaration is empty"
  | .openInstruction => "a processing instruction does not end"
  | .openTag => "a tag does not end"
  | .wrongEnd expected found => s!"the end tag of <{expected}> names <{found}>"
  | .needlessEnd found => s!"the end tag of <{found}> has no start tag"

/-- What is wrong with the attributes of a tag. -/
inductive TagFault where
  | noEquals
  | noValue
  | noQuote
  | openValue
  | repeated (key : String)
  deriving DecidableEq, Repr, Inhabited

/-- The fault in words. -/
def TagFault.message : TagFault → String
  | .noEquals => "an attribute has no equals sign"
  | .noValue => "an attribute has no value"
  | .noQuote => "a value does not stand between quotes"
  | .openValue => "a value does not end"
  | .repeated key => s!"the attribute {key} is repeated"

/-- What is wrong with a reference. -/
inductive ReferenceFault where
  | unclosed
  | unknown (name : String)
  | noCharacter (digits : String)
  deriving DecidableEq, Repr, Inhabited

/-- The fault in words. -/
def ReferenceFault.message : ReferenceFault → String
  | .unclosed => "a reference does not end"
  | .unknown name => s!"the entity {name} is not known"
  | .noCharacter digits => s!"no character has the number {digits}"

/-- What is wrong with the declaration at the head of a document. -/
inductive DeclarationFault where
  | noVersion
  | versionNotFirst (key : String)
  | tag (fault : TagFault)
  deriving DecidableEq, Repr, Inhabited

/-- The fault in words. -/
def DeclarationFault.message : DeclarationFault → String
  | .noVersion => "no version is given"
  | .versionNotFirst key => s!"{key} stands before the version"
  | .tag fault => fault.message

/-- Why a document cannot be read further. -/
inductive MarkupFault where
  | syntaxAt (position : Nat) (fault : SyntaxFault)
  | attributes (fault : TagFault)
  | textReference (fault : ReferenceFault)
  | valueReference (fault : ReferenceFault)
  | declaration (fault : DeclarationFault)
  | repeatedAttribute (name element : String)
  | textOutside
  | openElement (name : String)
  | noRoot
  deriving DecidableEq, Repr, Inhabited

/-- The message about a document that cannot be read. -/
def MarkupFault.message : MarkupFault → String
  | .syntaxAt position fault => s!"Error parsing XML at position {position}: {fault.message}"
  | .attributes fault => s!"Failed to parse attribute: {fault.message}"
  | .textReference fault => s!"Failed to unescape text: {fault.message}"
  | .valueReference fault => s!"Failed to unescape attribute value: {fault.message}"
  | .declaration fault => s!"Invalid XML declaration: {fault.message}"
  | .repeatedAttribute name element => s!"duplicate attribute {name} in <{element}>"
  | .textOutside => "text outside of the root element"
  | .openElement name => s!"unclosed element <{name}>"
  | .noRoot => "document has no root element"

end SchemaAssessment
