/-
Names with their namespace. An expanded name is what a name means: a namespace, if
there is one, and a local part. A qualified name is what a tag writes: it also
keeps the prefix, which only messages show.
-/

import SchemaAssessment.Text.Blank

namespace SchemaAssessment

/-- A namespace, if any, and a local name. -/
structure ExpandedName where
  space : Option String
  localName : String
  deriving DecidableEq, Repr, Inhabited

/-- A name as written on a tag, with the namespace that its prefix stands for. -/
structure QualifiedName where
  namePrefix : Option String
  localName : String
  space : Option String
  deriving DecidableEq, Repr, Inhabited

/-- The namespace of schemas, in which the built-in types live. -/
def schemaNamespace : String := "http://www.w3.org/2001/XMLSchema"

/-- The namespace of the attributes by which an instance speaks to its validator. -/
def instanceNamespace : String := "http://www.w3.org/2001/XMLSchema-instance"

/-- The namespace that the prefix `xml` is always bound to. -/
def xmlNamespace : String := "http://www.w3.org/XML/1998/namespace"

/-- The namespace of namespace declarations. -/
def declarationNamespace : String := "http://www.w3.org/2000/xmlns/"

namespace ExpandedName

/-- A name in no namespace. -/
def unqualified (localName : String) : ExpandedName := ⟨none, localName⟩

/-- A name in the namespace of schemas. -/
def ofSchema (localName : String) : ExpandedName := ⟨some schemaNamespace, localName⟩

/-- The namespace between braces, if there is one, then the local name. -/
def text (name : ExpandedName) : String :=
  match name.space with
  | some space => "\x7b" ++ space ++ "\x7d" ++ name.localName
  | none => name.localName

/-- The name that a text gives: a namespace between braces, if the text begins with them, and the
local name behind it. -/
def ofText (text : String) : ExpandedName :=
  match text.toList with
  | [] => unqualified text
  | c :: rest =>
    if c.toNat == 0x7B then
      match Text.splitAtFirst (fun c => c.toNat == 0x7D) rest with
      | some (space, localName) => ⟨some (.ofList space), .ofList localName⟩
      | none => unqualified text
    else unqualified text

end ExpandedName

namespace QualifiedName

/-- An unprefixed name in no namespace. -/
def unqualified (localName : String) : QualifiedName := ⟨none, localName, none⟩

/-- What the name means. -/
def expanded (name : QualifiedName) : ExpandedName := ⟨name.space, name.localName⟩

/-- The name as written; an empty prefix is left out. -/
def raw (name : QualifiedName) : String :=
  match name.namePrefix with
  | some namePrefix =>
    if namePrefix.isEmpty then name.localName else namePrefix ++ ":" ++ name.localName
  | none => name.localName

end QualifiedName

end SchemaAssessment
