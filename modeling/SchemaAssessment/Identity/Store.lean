/-
The values that identity constraints collect. A store belongs to one constraint on
one element; it gathers a value for each field of the selected element at hand and
keeps the tuples that were completed. The table of all constraints whose element
has ended is kept per element: a start tag puts the table aside and begins an empty
one, and the end tag joins the two, so that the table at an end tag holds what ended
inside the element, and the one put aside what ended before it under its parent.
-/

import SchemaAssessment.Assessment.Diagnostic
import SchemaAssessment.Identity.Compile
import SchemaAssessment.Value.Basic

namespace SchemaAssessment

/-- One value for each field. -/
abbrev Tuple := List Value

/-- The values of a tuple with commas between them. -/
def Tuple.text (tuple : Tuple) : String := ",".intercalate (tuple.map Value.text)

/-! ### Sets of tuples -/

/-- Tuples of which no two are the same, in the order in which they came. -/
structure TupleSet where
  tuples : List Tuple
  deriving Repr, Inhabited

namespace TupleSet

/-- The set without tuples. -/
def empty : TupleSet := ⟨[]⟩

/-- A tuple with the same values is in the set. -/
def contains (set : TupleSet) (tuple : Tuple) : Bool :=
  set.tuples.any fun member => Value.sameItems member tuple

/-- Adds a tuple unless the same one is there. -/
def insert (set : TupleSet) (tuple : Tuple) : TupleSet :=
  if set.contains tuple then set else ⟨set.tuples ++ [tuple]⟩

/-- Adds the tuples of another set in turn. -/
def merge (set others : TupleSet) : TupleSet := others.tuples.foldl insert set

/-- Both sets hold the same tuples in the same order. -/
def same (left right : TupleSet) : Bool :=
  left.tuples.length == right.tuples.length &&
    (left.tuples.zip right.tuples).all fun (left, right) => Value.sameItems left right

end TupleSet

/-! ### Stores -/

/-- The values of a constraint on one element. -/
structure ValueStore where
  identity : IdentityConstraint
  /-- The local name of the element that declares the constraint. -/
  element : String
  /-- The values of the fields in progress. -/
  current : List (Option Value)
  /-- How many fields have taken a value since the tuple began. -/
  assigned : Nat
  /-- The tuples of a key or a unique constraint. -/
  tuples : TupleSet
  /-- The tuples of a reference, repetitions included. -/
  references : List Tuple
  deriving Repr, Inhabited

namespace ValueStore

/-- A store without values. -/
def start (identity : IdentityConstraint) (element : String) : ValueStore :=
  ⟨identity, element, identity.fields.map fun _ => none, 0, .empty, []⟩

/-- Begins a new tuple. -/
def beginTuple (store : ValueStore) : ValueStore :=
  { store with current := store.current.map fun _ => none, assigned := 0 }

/-- As many fields have taken a value as there are. -/
def isComplete (store : ValueStore) : Bool := store.assigned == store.current.length

/-- Keeps a completed tuple. Of keys and unique constraints, a tuple that is there already is
told. -/
def complete (store : ValueStore) (tuple : Tuple) (element : String) :
    ValueStore × List Diagnostic :=
  let duplicate (rule : Rule) : ValueStore × List Diagnostic :=
    if store.tuples.contains tuple then
      (store, [⟨rule, element, [tuple.text, store.element]⟩])
    else ({ store with tuples := store.tuples.insert tuple }, [])
  match store.identity.kind with
  | .keyRef => ({ store with references := store.references ++ [tuple] }, [])
  | .unique => duplicate .duplicateUnique
  | .key => duplicate .duplicateKey

/-- Gives a field its value. A field takes one value per tuple. -/
def addValue (store : ValueStore) (field : Nat) (value : Value) (element : String) :
    ValueStore × List Diagnostic :=
  match store.identity.fields[field]?, store.current[field]? with
  | some _, some none =>
    let filled :=
      { store with current := store.current.set field (some value), assigned := store.assigned + 1 }
    if filled.isComplete then filled.complete (filled.current.filterMap id) element
    else (filled, [])
  | some expression, _ => (store, [⟨.fieldMultipleMatch, element, [expression]⟩])
  | none, _ => (store, [⟨.unknownField, element, [toString field]⟩])

/-- What is to be told when the selected element ends: a key without any value, or a tuple that is
not complete. -/
def endTuple (store : ValueStore) (element : String) : List Diagnostic :=
  if store.assigned = 0 then
    if store.identity.isKey then [⟨.absentKeyValue, element, [store.element]⟩] else []
  else if store.isComplete then []
  else match store.identity.kind with
    | .unique => [⟨.uniqueNotEnoughValues, element, [store.element]⟩]
    | .key => [⟨.keyNotEnoughValues, element, [store.element, store.identity.name.localName]⟩]
    | .keyRef =>
      let refer := (store.identity.refer.map ExpandedName.localName).getD ""
      [⟨.keyRefNotEnoughValues, element, [store.element, refer]⟩]

end ValueStore

/-! ### The table -/

/-- The tuples of the constraints that have ended, by the name of the constraint. -/
abbrev KeyTable := List (ExpandedName × TupleSet)

namespace KeyTable

/-- Adds tuples under a name. The name is in the table afterwards, even without tuples. -/
def add (name : ExpandedName) (tuples : TupleSet) : KeyTable → KeyTable
  | [] => [(name, TupleSet.empty.merge tuples)]
  | (other, present) :: rest =>
    if other == name then (other, present.merge tuples) :: rest
    else (other, present) :: add name tuples rest

/-- Adds all tuples of another table. -/
def join (table others : KeyTable) : KeyTable :=
  others.foldl (fun table entry => add entry.1 entry.2 table) table

end KeyTable

/-- The stores of the open elements, the table at hand, and those put aside, innermost first. -/
structure StoreCache where
  stores : List ValueStore
  table : KeyTable
  saved : List KeyTable
  deriving Repr, Inhabited

namespace StoreCache

/-- Nothing is stored. -/
def empty : StoreCache := ⟨[], [], []⟩

/-- A start tag: the table is put aside. -/
def startElement (cache : StoreCache) : StoreCache :=
  { cache with table := [], saved := cache.table :: cache.saved }

/-- An end tag: the table that was put aside is joined to the one at hand. -/
def endElement (cache : StoreCache) : StoreCache :=
  match cache.saved with
  | [] => cache
  | aside :: outer => { cache with table := cache.table.join aside, saved := outer }

/-- The number of the next store. -/
def nextId (cache : StoreCache) : Nat := cache.stores.length

/-- Opens a store for a constraint. -/
def create (cache : StoreCache) (identity : IdentityConstraint) (element : String) : StoreCache :=
  { cache with stores := cache.stores ++ [.start identity element] }

/-- Begins a new tuple in a store. -/
def beginTuple (cache : StoreCache) (id : Nat) : StoreCache :=
  { cache with stores := cache.stores.modify id ValueStore.beginTuple }

/-- Gives a field of a store its value. -/
def addValue (cache : StoreCache) (id field : Nat) (value : Value) (element : String) :
    StoreCache × List Diagnostic :=
  match cache.stores[id]? with
  | some store =>
    let (store, found) := store.addValue field value element
    ({ cache with stores := cache.stores.set id store }, found)
  | none => (cache, [])

/-- What is to be told when the selected element of a store ends. -/
def endTuple (cache : StoreCache) (id : Nat) (element : String) : List Diagnostic :=
  match cache.stores[id]? with
  | some store => store.endTuple element
  | none => []

/-- Adds the tuples of a store to the table. -/
def publish (cache : StoreCache) (id : Nat) : StoreCache :=
  match cache.stores[id]? with
  | some store => { cache with table := cache.table.add store.identity.name store.tuples }
  | none => cache

/-- Whether the tuples of a reference are found: in the table at hand, or in the one put aside
last. Without either the reference is out of scope. -/
def checkReference (cache : StoreCache) (id : Nat) (element : String) : List Diagnostic :=
  match cache.stores[id]? with
  | none => []
  | some store =>
    match store.identity.refer with
    | none => []
    | some refer =>
      let inside := cache.table.lookup refer
      let beside := (cache.saved.head?.bind fun table => table.lookup refer)
      if inside.isNone && beside.isNone then
        [⟨.keyRefOutOfScope, element, [store.identity.name.localName]⟩]
      else
        let isFound (tuple : Tuple) : Bool :=
          inside.any (·.contains tuple) || beside.any (·.contains tuple)
        (store.references.filter fun tuple => !isFound tuple).map fun tuple =>
          ⟨.keyNotFound, element, [tuple.text, store.element]⟩

/-- Drops the stores from a number on. -/
def truncate (cache : StoreCache) (base : Nat) : StoreCache :=
  { cache with stores := cache.stores.take base }

end StoreCache

end SchemaAssessment
