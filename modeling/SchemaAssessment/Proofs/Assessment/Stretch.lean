/-
Stretches of a document: events in which every element that begins also ends. They are
trees, so that what holds along a stretch is proved by induction on it. Whatever came
before, the events so far either end in a stretch behind the start tag of the innermost
open element, or no element is open behind them.
-/

import SchemaAssessment.Assessment.Run

namespace SchemaAssessment

/-- An event at which no element begins or ends and no document begins. -/
def Event.isFlat : Event → Bool
  | .startDocument | .startElement .. | .endElement _ => false
  | _ => true

/-- Events in which every element that begins also ends, and no document begins. -/
inductive Stretch where
  | nothing
  | flat (event : Event) (isFlat : event.isFlat = true) (later : Stretch)
  | element (name : QualifiedName) (attributes : Attributes) (inside : Stretch)
      (ending : QualifiedName) (later : Stretch)

namespace Stretch

/-- The events of a stretch in order. -/
def events : Stretch → List Event
  | .nothing => []
  | .flat event _ later => event :: later.events
  | .element name attributes inside ending later =>
    .startElement name attributes :: (inside.events ++ .endElement ending :: later.events)

/-- The text of a stretch, without that of its elements. -/
def text : Stretch → String
  | .nothing => ""
  | .flat event _ later => event.characters?.getD "" ++ later.text
  | .element _ _ _ _ later => later.text

/-- The number of elements of a stretch, without those inside of others. -/
def breadth : Stretch → Nat
  | .nothing => 0
  | .flat _ _ later => later.breadth
  | .element _ _ _ _ later => later.breadth + 1

/-- One stretch behind another. -/
def append : Stretch → Stretch → Stretch
  | .nothing, last => last
  | .flat event isFlat later, last => .flat event isFlat (later.append last)
  | .element name attributes inside ending later, last =>
    .element name attributes inside ending (later.append last)

theorem events_append (first last : Stretch) :
    (first.append last).events = first.events ++ last.events := by
  induction first with
  | nothing => rfl
  | flat event isFlat later ofLater => exact congrArg (event :: ·) ofLater
  | element name attributes inside ending later _ ofLater =>
    simp only [append, events, ofLater, List.cons_append, List.append_assoc]

end Stretch

/-! ### The innermost open element -/

/-- Events behind which no element is open: nothing has happened, or a document has just begun, and
then come stretches, and end tags that belong to no start tag. -/
inductive Unopened : List Event → Prop where
  | nothing : Unopened []
  | begins (events : List Event) : Unopened (events ++ [.startDocument])
  | stretch {events : List Event} (unopened : Unopened events) (stretch : Stretch) :
      Unopened (events ++ stretch.events)
  | stray {events : List Event} (unopened : Unopened events) (ending : QualifiedName) :
      Unopened (events ++ [.endElement ending])

/-- What has happened is a start tag and a stretch behind it, or no element is open. -/
def IsSorted (events : List Event) : Prop :=
  Unopened events ∨ ∃ (before : List Event) (name : QualifiedName) (attributes : Attributes)
    (inside : Stretch), events = before ++ .startElement name attributes :: inside.events

/-- A stretch does not change which element is the innermost open one. -/
theorem IsSorted.append {events : List Event} (sorted : IsSorted events) (stretch : Stretch) :
    IsSorted (events ++ stretch.events) := by
  rcases sorted with unopened | ⟨before, name, attributes, inside, rfl⟩
  · exact .inl (unopened.stretch stretch)
  · refine .inr ⟨before, name, attributes, inside.append stretch, ?_⟩
    rw [Stretch.events_append, List.append_assoc, List.cons_append]

/-- Of all that has happened, either there is a last start tag whose element is still open, or no
element is open. -/
theorem isSorted (events : List Event) : IsSorted events := by
  -- an end tag sends us back to before the start tag it belongs to, hence the length
  induction length : events.length using Nat.strongRecOn generalizing events with
  | ind bound ofShorter =>
    subst length
    rcases List.eq_nil_or_concat events with rfl | ⟨earlier, event, rfl⟩
    · exact .inl .nothing
    · rw [List.concat_eq_append] at ofShorter ⊢
      have ofEarlier := ofShorter earlier.length (by simp) earlier rfl
      by_cases isFlat : event.isFlat = true
      · exact ofEarlier.append (.flat event isFlat .nothing)
      · cases event with
        | startDocument => exact .inl (.begins earlier)
        | startElement name attributes => exact .inr ⟨earlier, name, attributes, .nothing, rfl⟩
        | endElement ending =>
          rcases ofEarlier with unopened | ⟨before, name, attributes, inside, rfl⟩
          · exact .inl (unopened.stray ending)
          · have around := (ofShorter before.length (by simp) before rfl).append
              (.element name attributes inside ending .nothing)
            rw [List.append_assoc, List.cons_append]
            exact around
        | _ => exact absurd rfl isFlat

/-! ### Balanced events -/

/-- The number of open elements behind some events, if so many are open before them. There is none
where an end tag belongs to none of the start tags, or a document begins. -/
def openBehind? (count : Nat) : List Event → Option Nat
  | [] => some count
  | .startDocument :: _ => none
  | .startElement .. :: rest => openBehind? (count + 1) rest
  | .endElement _ :: rest => if count = 0 then none else openBehind? (count - 1) rest
  | _ :: rest => openBehind? count rest

/-- Every end tag belongs to one of the start tags, and every start tag to one of the end tags. -/
def IsBalanced (events : List Event) : Prop := openBehind? 0 events = some 0

instance (events : List Event) : Decidable (IsBalanced events) :=
  inferInstanceAs (Decidable (_ = _))

theorem openBehind?_append (count : Nat) (first rest : List Event) :
    openBehind? count (first ++ rest) =
      (openBehind? count first).bind fun behind => openBehind? behind rest := by
  induction first generalizing count with
  | nil => rfl
  | cons event others ofOthers =>
    cases event with
    | startDocument => rfl
    | endElement ending =>
      by_cases none : count = 0
      · simp only [List.cons_append, openBehind?, if_pos none, Option.bind_none]
      · simp only [List.cons_append, openBehind?, if_neg none]
        exact ofOthers _
    | _ => exact ofOthers _

theorem openBehind?_flat {event : Event} (isFlat : event.isFlat = true) (count : Nat)
    (rest : List Event) : openBehind? count (event :: rest) = openBehind? count rest := by
  cases event <;> first | rfl | cases isFlat

/-- Behind a stretch the elements are open that were open before it. -/
theorem Stretch.openBehind?_events (stretch : Stretch) (count : Nat) :
    openBehind? count stretch.events = some count := by
  induction stretch generalizing count with
  | nothing => rfl
  | flat event isFlat later ofLater =>
    rw [events, openBehind?_flat isFlat]
    exact ofLater count
  | element name attributes inside ending later ofInside ofLater =>
    rw [events, openBehind?, openBehind?_append, ofInside]
    exact ofLater count

theorem Unopened.exists_stretch {events : List Event} (unopened : Unopened events) {count : Nat}
    (counted : openBehind? 0 events = some count) :
    count = 0 ∧ ∃ stretch : Stretch, events = stretch.events := by
  induction unopened generalizing count with
  | nothing => exact ⟨(Option.some.inj counted).symm, .nothing, rfl⟩
  | begins earlier =>
    rw [openBehind?_append] at counted
    obtain ⟨between, -, impossible⟩ := Option.bind_eq_some_iff.mp counted
    cases impossible
  | stretch unopened stretch ofEarlier =>
    rw [openBehind?_append] at counted
    obtain ⟨between, first, last⟩ := Option.bind_eq_some_iff.mp counted
    obtain ⟨rfl, before, rfl⟩ := ofEarlier first
    rw [stretch.openBehind?_events] at last
    exact ⟨(Option.some.inj last).symm, before.append stretch, (Stretch.events_append ..).symm⟩
  | stray unopened ending ofEarlier =>
    rw [openBehind?_append] at counted
    obtain ⟨between, first, last⟩ := Option.bind_eq_some_iff.mp counted
    obtain ⟨rfl, -⟩ := ofEarlier first
    cases last

/-- The balanced events are those of stretches. -/
theorem isBalanced_iff_exists_stretch (events : List Event) :
    IsBalanced events ↔ ∃ stretch : Stretch, events = stretch.events := by
  constructor
  · intro balanced
    rcases isSorted events with unopened | ⟨before, name, attributes, inside, rfl⟩
    · exact (unopened.exists_stretch balanced).2
    · -- the element of the last start tag would still be open
      rw [IsBalanced, openBehind?_append] at balanced
      obtain ⟨between, -, last⟩ := Option.bind_eq_some_iff.mp balanced
      rw [openBehind?, inside.openBehind?_events] at last
      cases last
  · rintro ⟨stretch, rfl⟩
    exact stretch.openBehind?_events 0

/-! ### Parts of a stretch -/

/-- What has been seen of an element and of what comes behind it is nothing, or its start tag and
something from inside, or the whole element and something from behind. -/
theorem Stretch.cases_of_prefix {name ending : QualifiedName} {attributes : Attributes}
    {inside later : Stretch} {seen : List Event}
    (part : seen <+: (Stretch.element name attributes inside ending later).events) :
    seen = [] ∨
      (∃ within, within <+: inside.events ∧ seen = .startElement name attributes :: within) ∨
        ∃ behind, behind <+: later.events ∧ seen =
          .startElement name attributes :: (inside.events ++ .endElement ending :: behind) := by
  obtain ⟨others, whole⟩ := part
  rcases List.append_eq_cons_iff.mp whole with ⟨rfl, -⟩ | ⟨rest, rfl, split⟩
  · exact .inl rfl
  · rcases List.append_eq_append_iff.mp split with ⟨last, rfl, ends⟩ | ⟨unseen, within, -⟩
    · rcases List.append_eq_cons_iff.mp ends.symm with ⟨rfl, -⟩ | ⟨behind, rfl, follows⟩
      · rw [List.append_nil]
        exact .inr (.inl ⟨inside.events, List.prefix_rfl, rfl⟩)
      · exact .inr (.inr ⟨behind, ⟨others, follows.symm⟩, rfl⟩)
    · exact .inr (.inl ⟨rest, ⟨unseen, within.symm⟩, rfl⟩)

end SchemaAssessment
