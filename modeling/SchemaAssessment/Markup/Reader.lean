/-
Reading a document: its text as a sequence of events. The reader goes over the tokens
once. It keeps the namespace bindings in scope and the open elements, and gives the
meaning of every name. What it finds wrong ends the reading; the events before that
stand.
-/

import SchemaAssessment.Failure
import SchemaAssessment.Markup.Event
import SchemaAssessment.Markup.Reference
import SchemaAssessment.Markup.Tag

namespace SchemaAssessment.Markup

/-- An open element: its name as the tag writes it and what that means, and the prefixes that the
tag declares, in order. -/
structure OpenElement where
  written : String
  name : QualifiedName
  prefixes : List String
  deriving DecidableEq, Repr, Inhabited

/-- Where the reader is: the bindings in scope, the open elements, innermost first, and whether a
start tag has been seen. -/
structure ReaderState where
  scopes : NamespaceScopes
  opened : List OpenElement
  hasRoot : Bool
  deriving DecidableEq, Repr, Inhabited

/-- Before the first token. -/
def ReaderState.initial : ReaderState := ⟨.initial, [], false⟩

/-- The events that a token makes, and where the reader is behind it unless reading ends there. -/
abbrev Emitted := List Event × Except Failure ReaderState

/-! ### Start tags -/

/-- A tag with its namespace declarations bound, and its other attributes. -/
structure BoundTag where
  scopes : NamespaceScopes
  /-- The prefixes that the tag declares, with the names of their namespaces. -/
  declared : List (String × String) := []
  attributes : List (String × String) := []
  deriving DecidableEq, Repr, Inhabited

/-- The prefix that an attribute declares. The empty prefix is that of the default namespace. -/
def declaredPrefix? (key : String) : Option String :=
  if key == "xmlns" then some ""
  else (Text.dropPrefix? "xmlns:".toList key.toList).map String.ofList

/-- Takes an attribute to a tag. Nothing is bound to an empty name. -/
def BoundTag.take (tag : BoundTag) (key value : String) : BoundTag :=
  match declaredPrefix? key with
  | some prefixName =>
    { tag with
      scopes := tag.scopes.declare prefixName (if value.isEmpty then none else some value)
      declared := tag.declared ++ [(prefixName, value)] }
  | none => { tag with attributes := tag.attributes ++ [(key, value)] }

/-- Takes attributes to a tag in turn, as far as their values can be read. -/
def BoundTag.takeAll (tag : BoundTag) : List RawAttribute → BoundTag × Option ReferenceFault
  | [] => (tag, none)
  | member :: rest =>
    match expandReferences member.value with
    | .error fault => (tag, some fault)
    | .ok value => (tag.take member.key value).takeAll rest

/-- What a written name means. The default namespace is that of elements without a prefix. -/
def resolveName (scopes : NamespaceScopes) (space : Option String) (place : String → PrefixPlace)
    (written : String) : Except Failure QualifiedName :=
  match Text.splitOnce ':' written with
  | some (prefixName, localName) =>
    match scopes.lookup prefixName with
    | some space => .ok ⟨some prefixName, localName, some space⟩
    | none => .error (.unboundPrefix ⟨prefixName⟩ (place written))
  | none => .ok ⟨none, written, space⟩

/-- Gives the attributes of an element their meaning. No two of them may mean the same. -/
def resolveAttributes (scopes : NamespaceScopes) (element : String) (done : Attributes) :
    List (String × String) → Except Failure Attributes
  | [] => .ok done
  | (key, value) :: rest => do
    let name ← resolveName scopes none .attribute key
    if done.has name.expanded then throw (.markup (.repeatedAttribute name.raw element))
    resolveAttributes scopes element (done ++ [.specified name value]) rest

/-- Gives a tag its meaning: the name of the element and the attributes. -/
def resolveTag (tag : BoundTag) (written : String) : Except Failure (QualifiedName × Attributes) := do
  let name ← resolveName tag.scopes tag.scopes.default .tag written
  let attributes ← resolveAttributes tag.scopes written [] tag.attributes
  return (name, attributes)

/-- The events of the declarations of a tag. -/
def BoundTag.declarations (tag : BoundTag) : List Event :=
  tag.declared.map fun (prefixName, uri) => .startPrefix prefixName uri

/-- Opens an element. -/
def openTag (state : ReaderState) (tag : RawTag) : Emitted :=
  let (written, fault) := tag.attributes
  let (bound, unreadable) := ({ scopes := state.scopes.push : BoundTag }).takeAll written
  match unreadable, fault with
  | some fault, _ => (bound.declarations, .error (.markup (.valueReference fault)))
  | none, some fault => (bound.declarations, .error (.markup (.attributes fault)))
  | none, none =>
    match resolveTag bound tag.name with
    | .error failure => (bound.declarations, .error failure)
    | .ok (name, attributes) =>
      let element : OpenElement := ⟨tag.name, name, bound.declared.map Prod.fst⟩
      (bound.declarations ++ [.startElement name attributes],
        .ok ⟨bound.scopes, element :: state.opened, true⟩)

/-! ### End tags -/

/-- Closes the innermost element. The prefixes that it declares go in reverse order. -/
def closeElement (state : ReaderState) (element : OpenElement) (outer : List OpenElement) :
    Emitted :=
  (.endElement element.name :: element.prefixes.reverse.map .endPrefix,
    .ok { state with scopes := state.scopes.pop, opened := outer })

/-- Closes the innermost element by a tag, which has to name it as its start tag does. -/
def closeTag (position : Nat) (state : ReaderState) (written : String) : Emitted :=
  match state.opened with
  | [] => ([], .error (.markup (.syntaxAt position (.needlessEnd written))))
  | element :: outer =>
    if element.written == written then closeElement state element outer
    else ([], .error (.markup (.syntaxAt position (.wrongEnd element.written written))))

/-- An element without content is opened and closed at once. -/
def emptyTag (state : ReaderState) (tag : RawTag) : Emitted :=
  match openTag state tag with
  | (events, .ok inside) =>
    match inside.opened with
    | element :: outer =>
      let (more, result) := closeElement inside element outer
      (events ++ more, result)
    | [] => (events, .ok inside)
  | failed => failed

/-! ### The other tokens -/

/-- Text between markup. Outside of the root element only blanks are allowed, and passed over. -/
def text (state : ReaderState) (raw : List Char) : Emitted :=
  match expandReferences raw with
  | .error fault => ([], .error (.markup (.textReference fault)))
  | .ok text =>
    if !state.opened.isEmpty then ([.characters text], .ok state)
    else if (Text.trim text).isEmpty then ([], .ok state)
    else ([], .error (.markup .textOutside))

/-- The declaration of a document. -/
def declaration (state : ReaderState) (content : List Char) : Emitted :=
  let attributes := readAttributes content
  match versionOf attributes with
  | .error fault => ([], .error (.markup (.declaration fault)))
  | .ok version =>
    ([.declaration version (declared "encoding" attributes.1) (declared "standalone" attributes.1)],
      .ok state)

/-- A processing instruction: its target, and what follows behind blanks. -/
def instruction (content : String) : Event :=
  match Text.splitAtFirst Text.isBlank content.toList with
  | some (target, data) => .instruction (.ofList target) (some (.ofList (Text.trimStart data)))
  | none => .instruction content none

/-- The events of a token at a position. -/
def step (position : Nat) (state : ReaderState) : Token → Emitted
  | .text raw => text state raw
  | .startTag tag => openTag state tag
  | .emptyTag tag => emptyTag state tag
  | .endTag written => closeTag position state written
  | .characterData text => ([.startCData, .characters text, .endCData], .ok state)
  | .comment text => ([.comment text], .ok state)
  | .instruction content => ([instruction content], .ok state)
  | .declaration content => declaration state content
  | .doctype text => ([.doctype text], .ok state)

/-! ### Documents -/

/-- What reading a document gives: the events up to its end, or up to where reading failed. -/
structure Reading where
  events : List Event
  failure : Option Failure

/-- Behind the last token: everything has to be closed, and there has to be an element. -/
def finish (position : Nat) (fault : Option SyntaxFault) (state : ReaderState) : Reading :=
  match fault, state.opened with
  | some fault, _ => ⟨[], some (.markup (.syntaxAt position fault))⟩
  | none, element :: _ => ⟨[], some (.markup (.openElement element.name.raw))⟩
  | none, [] =>
    if state.hasRoot then ⟨[.endDocument], none⟩ else ⟨[], some (.markup .noRoot)⟩

/-- Reads the tokens from a position on. -/
def readFrom (position : Nat) (fault : Option SyntaxFault) (state : ReaderState) :
    List Token → Reading
  | [] => finish position fault state
  | token :: rest =>
    match step position state token with
    | (events, .error failure) => ⟨events, some failure⟩
    | (events, .ok next) =>
      let reading := readFrom (position + 1) fault next rest
      ⟨events ++ reading.events, reading.failure⟩

/-- The text without the mark that tells the order of bytes. -/
def withoutByteOrderMark : List Char → List Char
  | c :: rest => if c.toNat == 0xFEFF then rest else c :: rest
  | [] => []

/-- Reads a document of a size that the limits allow. -/
def read (limits : Limits) (document : String) : Reading :=
  match limits.check .size document.utf8ByteSize with
  | .error fault => ⟨[], some (.limit fault)⟩
  | .ok () =>
    let (tokens, fault) := tokens (withoutByteOrderMark document.toList)
    let reading := readFrom 0 fault .initial tokens
    ⟨.startDocument :: reading.events, reading.failure⟩

end SchemaAssessment.Markup
