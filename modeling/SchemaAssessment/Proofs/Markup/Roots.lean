/-
What stands at the outermost level of a document, outside of every element. A document
has one root if there is one element at that level and no text. Whether the reader tells
of one root is up to what it reads: it makes sure that there is an element, and that no
text between markup stands outside of one. A further element is told as the first one
is, and a section of character data is told wherever it stands.
-/

import SchemaAssessment.Proofs.Markup.Brackets

namespace SchemaAssessment

/-- The members of a list that come where nothing is open. The depth behind a member follows from
the depth before it. -/
def outermost {Member : Type} (behind : Member → Nat → Nat) (depth : Nat) :
    List Member → List Member
  | [] => []
  | member :: rest =>
    (if depth = 0 then [member] else []) ++ outermost behind (behind member depth) rest

/-- The depth behind some members of a list. -/
def depthBehind {Member : Type} (behind : Member → Nat → Nat) (depth : Nat)
    (members : List Member) : Nat :=
  members.foldl (fun depth member => behind member depth) depth

theorem outermost_append {Member : Type} (behind : Member → Nat → Nat) (depth : Nat)
    (first rest : List Member) :
    outermost behind depth (first ++ rest) =
      outermost behind depth first ++ outermost behind (depthBehind behind depth first) rest := by
  induction first generalizing depth with
  | nil => rfl
  | cons member others ofOthers =>
    rw [List.cons_append, outermost, ofOthers, outermost, List.append_assoc]
    rfl

/-- Something that matters at the outermost level: an element, or text. -/
inductive Landmark where
  | element
  | text (text : String)
  deriving DecidableEq, Repr

namespace Event

/-- How many elements are open behind an event. -/
def depthBehind : Event → Nat → Nat
  | .startElement .., depth => depth + 1
  | .endElement _, depth => depth - 1
  | _, depth => depth

/-- What begins with an event. -/
def landmark? : Event → Option Landmark
  | .startElement .. => some .element
  | .characters text => some (.text text)
  | _ => none

/-- What some events tell of the outermost level, where some elements are open before them. -/
def landmarks (depth : Nat) (events : List Event) : List Landmark :=
  (outermost depthBehind depth events).filterMap landmark?

end Event

/-- The events have one element at the outermost level, and all text stands inside of it. -/
def HasOneRoot (events : List Event) : Prop := Event.landmarks 0 events = [.element]

instance (events : List Event) : Decidable (HasOneRoot events) :=
  inferInstanceAs (Decidable (_ = _))

namespace Event

theorem landmarks_append (depth : Nat) (first rest : List Event) :
    landmarks depth (first ++ rest) = landmarks depth first ++
      landmarks (SchemaAssessment.depthBehind depthBehind depth first) rest := by
  rw [landmarks, outermost_append, List.filterMap_append]
  rfl

/-- Inside of an element an event tells nothing of the outermost level. -/
theorem landmarks_singleton (depth : Nat) (event : Event) :
    landmarks depth [event] = if depth = 0 then event.landmark?.toList else [] := by
  unfold landmarks
  rw [outermost, outermost, List.append_nil]
  split
  · cases told : event.landmark? <;> simp [told]
  · rfl

/-- Events by which nothing begins and nothing ends. -/
theorem landmarks_of_level (depth : Nat) {events : List Event}
    (level : ∀ event ∈ events, event.landmark? = none ∧ event.isTag = false) :
    landmarks depth events = [] ∧
      SchemaAssessment.depthBehind depthBehind depth events = depth := by
  induction events with
  | nil => exact ⟨rfl, rfl⟩
  | cons event rest ofRest =>
    obtain ⟨⟨nothing, still⟩, later⟩ := List.forall_mem_cons.mp level
    obtain ⟨none, same⟩ := ofRest later
    have stays : event.depthBehind depth = depth := by cases event <;> first | rfl | cases still
    have alone : landmarks depth [event] = [] := by
      rw [landmarks_singleton, nothing]
      exact ite_self _
    refine ⟨?_, ?_⟩
    · rw [← List.singleton_append, landmarks_append, alone]
      show landmarks (event.depthBehind depth) rest = []
      rw [stays, none]
    · show SchemaAssessment.depthBehind depthBehind (event.depthBehind depth) rest = depth
      rw [stays, same]

end Event

theorem announcements_level (declarations : Declarations) :
    ∀ event ∈ announcements declarations, event.landmark? = none ∧ event.isTag = false := by
  intro event inside
  obtain ⟨declaration, -, rfl⟩ := List.mem_map.mp inside
  exact ⟨rfl, rfl⟩

theorem endings_level (prefixes : List String) :
    ∀ event ∈ endings prefixes, event.landmark? = none ∧ event.isTag = false := by
  intro event inside
  obtain ⟨prefixName, -, rfl⟩ := List.mem_map.mp inside
  exact ⟨rfl, rfl⟩

namespace Markup

namespace Token

/-- How many elements are open behind a token. -/
def depthBehind : Token → Nat → Nat
  | .startTag _, depth => depth + 1
  | .endTag _, depth => depth - 1
  | _, depth => depth

/-- What begins with a token: an element, or a section of character data. -/
def landmark? : Token → Option Landmark
  | .startTag _ | .emptyTag _ => some .element
  | .characterData content => some (.text content)
  | _ => none

/-- The elements and the sections of character data at the outermost level of some tokens. -/
def landmarks (depth : Nat) (tokens : List Token) : List Landmark :=
  (outermost depthBehind depth tokens).filterMap landmark?

theorem landmarks_cons (depth : Nat) (token : Token) (rest : List Token) :
    landmarks depth (token :: rest) = (if depth = 0 then token.landmark?.toList else []) ++
      landmarks (token.depthBehind depth) rest := by
  unfold landmarks
  rw [outermost, List.filterMap_append]
  split
  · cases told : token.landmark? <;> simp [told]
  · rfl

end Token

/-! ### The reader -/

/-- What the events of a token tell of the outermost level is what begins there with the token, and
the reader counts the open elements. -/
structure TellsOf (token : Token) (events : List Event) (depth behind : Nat) : Prop where
  landmarks : Event.landmarks depth events = if depth = 0 then token.landmark?.toList else []
  events : depthBehind Event.depthBehind depth events = behind
  token : token.depthBehind depth = behind

section tokens

variable {state next : ReaderState} {events : List Event}

/-- The events of a start tag count as the start tag alone. -/
theorem opening_counts (depth : Nat) (declarations : Declarations) (name : QualifiedName)
    (attributes : Attributes) :
    let events := announcements declarations ++ [.startElement name attributes]
    Event.landmarks depth events = (if depth = 0 then [.element] else []) ∧
      depthBehind Event.depthBehind depth events = depth + 1 := by
  obtain ⟨nothing, same⟩ := Event.landmarks_of_level depth
    (announcements_level declarations)
  refine ⟨?_, ?_⟩
  · rw [Event.landmarks_append, nothing, same, List.nil_append, Event.landmarks_singleton]
    rfl
  · rw [depthBehind, List.foldl_append]
    exact congrArg (· + 1) same

/-- The events of an end tag count as the end tag alone. -/
theorem closing_counts (depth : Nat) (name : QualifiedName) (prefixes : List String) :
    let events := Event.endElement name :: endings prefixes
    Event.landmarks depth events = [] ∧
      depthBehind Event.depthBehind depth events = depth - 1 := by
  obtain ⟨nothing, same⟩ := Event.landmarks_of_level (depth - 1) (endings_level prefixes)
  refine ⟨?_, same⟩
  rw [← List.singleton_append, Event.landmarks_append, Event.landmarks_singleton]
  have alone : (if depth = 0 then (Event.endElement name).landmark?.toList else []) = [] :=
    ite_self _
  rw [alone]
  exact nothing

theorem openTag_tells {tag : RawTag} (opens : openTag state tag = (events, .ok next)) :
    TellsOf (.startTag tag) events state.opened.length next.opened.length := by
  obtain ⟨name, attributes, -, opened, -, -, rfl⟩ := openTag_opens opens
  obtain ⟨landmarks, deeper⟩ :=
    opening_counts state.opened.length tag.declarations name attributes
  rw [opened]
  exact ⟨landmarks, deeper, rfl⟩

theorem emptyTag_tells {tag : RawTag} (reads : emptyTag state tag = (events, .ok next)) :
    TellsOf (.emptyTag tag) events state.opened.length next.opened.length := by
  unfold emptyTag at reads
  split at reads
  · rename_i opening inside opens
    have told := openTag_tells opens
    obtain ⟨name, attributes, -, opened, -⟩ := openTag_opens opens
    rw [opened] at reads told
    obtain ⟨rfl, behind⟩ := Prod.mk.inj reads
    obtain rfl := Except.ok.inj behind
    obtain ⟨nothing, shallower⟩ := closing_counts (state.opened.length + 1) name
      (tag.declarations.map Prod.fst)
    refine ⟨?_, ?_, rfl⟩
    · rw [Event.landmarks_append, told.events, told.landmarks]
      exact (congrArg _ nothing).trans (List.append_nil _)
    · rw [depthBehind, List.foldl_append]
      exact (congrArg (List.foldl _ · _) told.events).trans shallower
  · rename_i failed
    exact absurd reads (failed events next)

theorem closeTag_tells {position : Nat} {written : String}
    (closes : closeTag position state written = (events, .ok next)) :
    TellsOf (.endTag written) events state.opened.length next.opened.length := by
  unfold closeTag at closes
  split at closes
  · cases closes
  · rename_i element outer opened
    split at closes
    · obtain ⟨rfl, behind⟩ := Prod.mk.inj closes
      obtain rfl := Except.ok.inj behind
      obtain ⟨nothing, shallower⟩ :=
        closing_counts state.opened.length element.name element.prefixes
      have counted : state.opened.length - 1 = outer.length := by
        rw [opened, List.length_cons, Nat.add_sub_cancel]
      exact ⟨nothing.trans (ite_self _).symm, shallower.trans counted, counted⟩
    · cases closes

/-- Text between markup is told inside of elements only. -/
theorem text_tells {raw : List Char} (reads : text state raw = (events, .ok next)) :
    TellsOf (.text raw) events state.opened.length next.opened.length := by
  unfold text at reads
  split at reads
  · cases reads
  · split at reads
    · rename_i inside
      cases reads
      have deep : state.opened.length ≠ 0 := by
        rw [ne_eq, List.length_eq_zero_iff, ← List.isEmpty_iff]
        simpa using inside
      refine ⟨?_, rfl, rfl⟩
      rw [Event.landmarks_singleton, if_neg deep, if_neg deep]
    · split at reads
      · cases reads
        exact ⟨(ite_self _).symm, rfl, rfl⟩
      · cases reads

theorem declaration_tells {content : List Char}
    (reads : declaration state content = (events, .ok next)) :
    TellsOf (.declaration content) events state.opened.length next.opened.length := by
  unfold declaration at reads
  dsimp only at reads
  split at reads
  · cases reads
  · cases reads
    exact ⟨Event.landmarks_singleton _ _, rfl, rfl⟩

theorem instruction_tells (content : String) (depth : Nat) :
    TellsOf (.instruction content) [instruction content] depth depth := by
  unfold instruction
  split <;> exact ⟨Event.landmarks_singleton _ _, rfl, rfl⟩

/-- The characters of a section of character data are told wherever it stands. -/
theorem section_tells (text : String) (depth : Nat) :
    TellsOf (.characterData text) [.startCData, .characters text, .endCData] depth depth := by
  refine ⟨?_, rfl, rfl⟩
  by_cases outside : depth = 0
  · rw [if_pos outside, outside]
    rfl
  · rw [if_neg outside]
    simp [Event.landmarks, outermost, Event.depthBehind, outside]

theorem step_tells {position : Nat} {token : Token}
    (steps : step position state token = (events, .ok next)) :
    TellsOf token events state.opened.length next.opened.length := by
  cases token with
  | startTag tag => exact openTag_tells steps
  | emptyTag tag => exact emptyTag_tells steps
  | endTag written => exact closeTag_tells steps
  | text raw => exact text_tells steps
  | declaration content => exact declaration_tells steps
  | instruction content =>
    cases steps
    exact instruction_tells content _
  | characterData text =>
    cases steps
    exact section_tells text _
  | comment text =>
    cases steps
    exact ⟨Event.landmarks_singleton _ _, rfl, rfl⟩
  | doctype text =>
    cases steps
    exact ⟨Event.landmarks_singleton _ _, rfl, rfl⟩

/-- Before the first start tag the reader stays where it is, and the first one is at the outermost
level. -/
theorem step_before_root {position : Nat} {token : Token} (closed : state.opened = [])
    (steps : step position state token = (events, .ok next)) :
    next = state ∨ token.landmark? = some .element := by
  cases token with
  | startTag tag | emptyTag tag => exact .inr rfl
  | endTag written =>
    change closeTag position state written = _ at steps
    rw [closeTag, closed] at steps
    cases steps
  | text raw => exact .inl (text_silent steps).1
  | declaration content => exact .inl (declaration_silent steps).1
  | _ =>
    cases steps
    exact .inl rfl

end tokens

/-- Where reading comes to an end, what was told of the outermost level is what begins there with
the tokens. -/
theorem readFrom_landmarks (position : Nat) (fault : Option SyntaxFault) (state : ReaderState)
    (tokens : List Token) (done : (readFrom position fault state tokens).failure = none) :
    Event.landmarks state.opened.length (readFrom position fault state tokens).events =
      Token.landmarks state.opened.length tokens := by
  induction tokens generalizing position state with
  | nil =>
    rw [readFrom] at done ⊢
    unfold finish at done ⊢
    split at done
    · cases done
    · cases done
    · split at done
      · rename_i rooted
        rw [if_pos rooted, Event.landmarks_singleton]
        exact ite_self _
      · cases done
  | cons token rest ofRest =>
    rw [readFrom] at done ⊢
    cases steps : step position state token with
    | mk events result =>
      rw [steps] at done
      cases result with
      | error failure => cases done
      | ok next =>
        have told := step_tells steps
        have later := ofRest (position + 1) next done
        dsimp only
        rw [Event.landmarks_append, told.landmarks, told.events, later, Token.landmarks_cons,
          told.token]

/-- Where reading comes to an end, there has been an element at the outermost level. -/
theorem readFrom_root (position : Nat) (fault : Option SyntaxFault) (state : ReaderState)
    (tokens : List Token) (closed : state.opened = []) (fresh : state.hasRoot = false)
    (done : (readFrom position fault state tokens).failure = none) :
    .element ∈ Token.landmarks 0 tokens := by
  induction tokens generalizing position with
  | nil =>
    rw [readFrom] at done
    unfold finish at done
    split at done
    · cases done
    · cases done
    · rw [fresh] at done
      cases done
  | cons token rest ofRest =>
    rw [readFrom] at done
    rw [Token.landmarks_cons, if_pos rfl]
    cases steps : step position state token with
    | mk events result =>
      rw [steps] at done
      cases result with
      | error failure => cases done
      | ok next =>
        rcases step_before_root closed steps with rfl | root
        · have level : token.depthBehind 0 = 0 := by
            have told := (step_tells steps).token
            rwa [closed] at told
          rw [level]
          exact List.mem_append_right _ (ofRest (position + 1) done)
        · rw [root]
          exact List.mem_append_left _ List.mem_cons_self

/-! ### Documents -/

/-- The elements and the sections of character data at the outermost level of a text. -/
def landmarksIn (document : String) : List Landmark :=
  Token.landmarks 0 (tokens (withoutByteOrderMark document.toList)).1

/-- A text that the reader gets through has an element at the outermost level. The reader tells of
one root exactly if the text has no further element there, and no section of character data. -/
theorem hasOneRoot_of_read {limits : Limits} {document : String}
    (done : (read limits document).failure = none) :
    Event.landmarks 0 (read limits document).events = landmarksIn document ∧
      .element ∈ landmarksIn document ∧
      (HasOneRoot (read limits document).events ↔ landmarksIn document = [.element]) := by
  have same : Event.landmarks 0 (read limits document).events = landmarksIn document ∧
      .element ∈ landmarksIn document := by
    unfold read at done ⊢
    cases checked : limits.check .size document.utf8ByteSize with
    | error fault =>
      rw [checked] at done
      cases done
    | ok small =>
      rw [checked] at done
      exact ⟨readFrom_landmarks _ _ _ _ done, readFrom_root _ _ _ _ rfl rfl done⟩
  refine ⟨same.1, same.2, ?_⟩
  rw [HasOneRoot, same.1]

theorem hasOneRoot_of_read_note :
    (read .usual "<note><![CDATA[1]]></note>").failure = none ∧
      HasOneRoot (read .usual "<note><![CDATA[1]]></note>").events := by
  have done : (read .usual "<note><![CDATA[1]]></note>").failure = none := by decide +kernel
  exact ⟨done, (hasOneRoot_of_read done).2.2.mpr (by decide +kernel)⟩

/-- A text that is read to its end, though it has two elements and a section of character data at
the outermost level. -/
theorem read_two_roots :
    (read .usual "<a/><![CDATA[x]]><b/>").failure = none ∧
      Event.landmarks 0 (read .usual "<a/><![CDATA[x]]><b/>").events =
        [.element, .text "x", .element] ∧
      ¬ HasOneRoot (read .usual "<a/><![CDATA[x]]><b/>").events := by
  decide +kernel

end Markup

end SchemaAssessment
