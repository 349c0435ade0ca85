/-
Identity constraints while a document goes by. Every element opens a context; the
constraints that its declaration carries get a store and a matcher for their
selector there. An element that a selector selects begins a tuple and gets a matcher
for each field. Attributes give their values at the start tag, and elements at their
end tag. When the context is closed, keys and unique constraints are published
before references are checked.
-/

import SchemaAssessment.Identity.Store
import SchemaAssessment.Markup.Event
import SchemaAssessment.Path.Matcher
import SchemaAssessment.Schema.Component

namespace SchemaAssessment

/-- What a matcher is followed for: the tuples of a store, or one of their fields. -/
inductive MatcherRole where
  | selector (fields : List IdentityPath)
  | field (field : Nat)
  deriving DecidableEq, Repr, Inhabited

/-- A matcher in use, with the store that it feeds. -/
structure ActiveMatcher where
  matcher : Matcher
  store : Nat
  role : MatcherRole
  deriving DecidableEq, Repr, Inhabited

/-- How many matchers and stores there were when an element began. -/
structure IdentityContext where
  matchers : Nat
  stores : Nat
  deriving DecidableEq, Repr, Inhabited

/-- A start tag as the engine sees it. -/
structure ElementStart where
  name : ExpandedName
  /-- The name as written, for messages. -/
  shown : String
  attributes : Attributes
  /-- The values of the attributes that were valid, by place. -/
  values : List (Option Value)
  declaration : Option ElementDeclaration

/-- The matchers in use, the contexts of the open elements, innermost first, and the stores. -/
structure IdentityEngine where
  matchers : List ActiveMatcher
  contexts : List IdentityContext
  cache : StoreCache
  deriving Repr, Inhabited

/-- The stores together with what was found. -/
abbrev Collected := StoreCache × List Diagnostic

namespace ElementStart

/-- The names of the attributes. -/
def attributeNames (event : ElementStart) : List ExpandedName :=
  event.attributes.map Attribute.expanded

/-- The value of an attribute: its typed value, or the text if it has none. -/
def attributeValue? (event : ElementStart) (index : Nat) : Option Value :=
  (event.values[index]?.join).or
    (event.attributes[index]?.map fun member => .string member.value)

/-- The declaration of the element allows it to be nil. -/
def isNillable (event : ElementStart) : Bool :=
  event.declaration.any ElementDeclaration.isNillable

end ElementStart

namespace IdentityEngine

/-- No element is open. -/
def idle : IdentityEngine := ⟨[], [], .empty⟩

/-- The number of open contexts. -/
def depth (engine : IdentityEngine) : Nat := engine.contexts.length

/-! ### Start tags -/

/-- Gives a field the values of attributes in turn. -/
def addAttributes (event : ElementStart) (store field : Nat) (collected : Collected)
    (indexes : List Nat) : Collected :=
  indexes.foldl (fun (cache, found) index =>
    match event.attributeValue? index with
    | some value =>
      let (cache, more) := cache.addValue store field value event.shown
      (cache, found ++ more)
    | none => (cache, found)) collected

/-- What is to be told when a field selects an element that may be nil: for keys, just that. -/
def nillableField (event : ElementStart) (store : ValueStore) : List Diagnostic :=
  if store.identity.isKey && event.isNillable then
    [⟨.keyMatchesNillable, event.shown, [store.element]⟩]
  else []

/-- What a field takes from a start tag. -/
def fieldSelects (event : ElementStart) (store field : Nat) (selection : Selection)
    (collected : Collected) : Collected :=
  match collected.1.stores[store]? with
  | none => collected
  | some values =>
    let (cache, found) := addAttributes event store field collected selection.attributes
    (cache, if selection.element then found ++ nillableField event values else found)

/-- The matchers of the fields of an element that was just selected. Each begins there. -/
def beginFields (event : ElementStart) (store : Nat) (fields : List (IdentityPath × Nat))
    (collected : Collected) : List ActiveMatcher × Collected :=
  fields.foldl (fun (matchers, collected) (path, field) =>
    let (matcher, selection) := (Matcher.ofPath path).start event.name event.attributeNames
    (matchers ++ [⟨matcher, store, .field field⟩], fieldSelects event store field selection collected))
    ([], collected)

/-- Shows a start tag to one matcher, which may bring further ones. -/
def startMatcher (event : ElementStart) (active : ActiveMatcher) (collected : Collected) :
    ActiveMatcher × List ActiveMatcher × Collected :=
  let (matcher, selection) := active.matcher.start event.name event.attributeNames
  let active := { active with matcher }
  match active.role with
  | .selector fields =>
    if selection.element then
      let (more, collected) :=
        beginFields event active.store fields.zipIdx
          (collected.1.beginTuple active.store, collected.2)
      (active, more, collected)
    else (active, [], collected)
  | .field field => (active, [], fieldSelects event active.store field selection collected)

/-- Shows a start tag to all matchers in turn. The matchers that they bring stand behind them. -/
def startMatchers (event : ElementStart) (matchers : List ActiveMatcher) (cache : StoreCache) :
    List ActiveMatcher × Collected :=
  let (kept, brought, collected) := matchers.foldl
    (fun (kept, brought, collected) active =>
      let (active, more, collected) := startMatcher event active collected
      (kept ++ [active], brought ++ more, collected))
    (([] : List ActiveMatcher), ([] : List ActiveMatcher), ((cache, []) : Collected))
  (kept ++ brought, collected)

/-- The constraints of a declaration: those that are referred to before those that refer. -/
def ordered (declaration : ElementDeclaration) : List IdentityConstraint :=
  declaration.identities.filter (fun identity => !identity.isKeyRef)
    ++ declaration.identities.filter IdentityConstraint.isKeyRef

/-- Opens a store and a matcher for each constraint of a declaration. A malformed constraint is
left out. -/
def activate (declaration : ElementDeclaration) (matchers : List ActiveMatcher)
    (cache : StoreCache) : List ActiveMatcher × StoreCache :=
  (ordered declaration).foldl (fun (matchers, cache) identity =>
    match identity.compile with
    | .ok compiled =>
      (matchers ++ [⟨.ofPath compiled.selector, cache.nextId, .selector compiled.fields⟩],
        cache.create identity declaration.name.localName)
    | .error _ => (matchers, cache)) (matchers, cache)

/-- A start tag. -/
def start (engine : IdentityEngine) (event : ElementStart) : IdentityEngine × List Diagnostic :=
  let context : IdentityContext := ⟨engine.matchers.length, engine.cache.nextId⟩
  let (matchers, cache) := match event.declaration with
    | some declaration => activate declaration engine.matchers engine.cache.startElement
    | none => (engine.matchers, engine.cache.startElement)
  let (matchers, cache, found) := startMatchers event matchers cache
  (⟨matchers, context :: engine.contexts, cache⟩, found)

/-! ### End tags -/

/-- Shows an end tag to one matcher. -/
def finishMatcher (value : Option Value) (element : String) (active : ActiveMatcher)
    (collected : Collected) : ActiveMatcher × Collected :=
  let (matcher, selected) := active.matcher.finish
  let active := { active with matcher }
  if !selected then (active, collected)
  else match active.role, value with
    | .field field, some value =>
      let (cache, found) := collected.1.addValue active.store field value element
      (active, cache, collected.2 ++ found)
    | .field _, none => (active, collected)
    | .selector _, _ =>
      (active, collected.1, collected.2 ++ collected.1.endTuple active.store element)

/-- Shows an end tag to all matchers, the latest first. -/
def finishMatchers (value : Option Value) (element : String) (matchers : List ActiveMatcher)
    (cache : StoreCache) : List ActiveMatcher × Collected :=
  matchers.foldr (fun active (later, collected) =>
    let (active, collected) := finishMatcher value element active collected
    (active :: later, collected)) ([], (cache, []))

/-- The stores of some numbers whose constraint refers to another, or does not. -/
def storesThat (refers : Bool) (cache : StoreCache) (ids : List Nat) : List Nat :=
  ids.filter fun id => cache.stores[id]?.any fun store => store.identity.isKeyRef == refers

/-- Closes a context: publishes what can be referred to, checks the references, and drops the
stores of the element. -/
def closeContext (context : IdentityContext) (element : String) (cache : StoreCache) :
    StoreCache × List Diagnostic :=
  let ids := (List.range cache.nextId).drop context.stores
  let published := (storesThat false cache ids).foldl StoreCache.publish cache
  let found := (storesThat true published ids).flatMap fun id => published.checkReference id element
  (published.truncate context.stores, found)

/-- An end tag. The value of the element is absent when it is nil. -/
def finish (engine : IdentityEngine) (value : Option Value) (element : String) :
    IdentityEngine × List Diagnostic :=
  let (matchers, cache, found) := finishMatchers value element engine.matchers engine.cache
  match engine.contexts with
  | [] => (⟨matchers, [], cache.endElement⟩, found)
  | context :: outer =>
    let (cache, more) := closeContext context element cache
    (⟨matchers.take context.matchers, outer, cache.endElement⟩, found ++ more)

end IdentityEngine

end SchemaAssessment
