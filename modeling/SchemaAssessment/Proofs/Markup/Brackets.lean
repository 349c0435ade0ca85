/-
How the events of a document are bracketed. Between the beginning of a document and its
end stands a forest: every start tag has its end tag, the prefixes that a tag declares
come into scope right before it, and they go out of scope, in reverse, right after the
end tag. No start tag holds a declaration among its attributes, or two attributes that
mean the same. The reader tells every document so, and where it fails, it has told the
first events of such a document.
-/

import Mathlib.Data.List.Nodup
import SchemaAssessment.Proofs.Markup.Prefixes
import SchemaAssessment.Proofs.Text.Pieces

namespace SchemaAssessment

/-- What stands between tags: no tag, no prefix that comes or goes, and neither end of the
document. -/
def Event.isPlain : Event → Bool
  | .startElement .. | .endElement _ | .startPrefix .. | .endPrefix _ => false
  | .startDocument | .endDocument => false
  | _ => true

/-- A name, as it is written, by which a tag declares a prefix: `xmlns`, or one with this prefix. -/
def QualifiedName.isDeclaring (name : QualifiedName) : Bool :=
  match name.namePrefix with
  | some prefixName => prefixName == "xmlns"
  | none => name.localName == "xmlns"

/-- Attributes as a start tag may hold them. None of them declares a prefix, and no two of them have
the same namespace and the same local name. -/
structure Attributes.AreProper (attributes : Attributes) : Prop where
  declareNothing : ∀ member ∈ attributes, member.name.isDeclaring = false
  distinct : (attributes.map Attribute.expanded).Nodup

theorem Attributes.areProper_nil : Attributes.AreProper [] :=
  ⟨fun _ inside => absurd inside List.not_mem_nil, List.nodup_nil⟩

/-- Elements and plain events behind one another. An element comes with the declarations of its tag,
its attributes, and what stands inside of it. -/
inductive Forest where
  | empty
  | plain (event : Event) (isPlain : event.isPlain = true) (later : Forest)
  | element (declarations : Declarations) (name : QualifiedName) (attributes : Attributes)
      (proper : attributes.AreProper) (inside later : Forest)

/-- The events by which prefixes go out of scope, the last one first. -/
def endings (prefixes : List String) : List Event := prefixes.reverse.map .endPrefix

namespace Forest

/-- The events of a forest. -/
def events : Forest → List Event
  | empty => []
  | plain event _ later => event :: later.events
  | element declarations name attributes _ inside later =>
    announcements declarations ++ .startElement name attributes :: (inside.events ++
      .endElement name :: (endings (declarations.map Prod.fst) ++ later.events))

/-- The declarations of each element of a forest, in the order of the start tags. -/
def declarations : Forest → List Declarations
  | empty => []
  | plain _ _ later => later.declarations
  | element declarations _ _ _ inside later =>
    declarations :: (inside.declarations ++ later.declarations)

/-- The events of a document with the elements of a forest. -/
def document (forest : Forest) : List Event := .startDocument :: (forest.events ++ [.endDocument])

end Forest

namespace Markup

/-! ### The attributes of a start tag -/

/-- A name that declares nothing is not one by which a tag declares. -/
theorem resolveName_declares_nothing {scopes : NamespaceScopes} {space : Option String}
    {place : String → PrefixPlace} {written : String} {name : QualifiedName}
    (resolved : resolveName scopes space place written = .ok name)
    (nothing : declaredPrefix? written = none) : name.isDeclaring = false := by
  unfold resolveName at resolved
  split at resolved
  · rename_i prefixName localName split
    split at resolved
    · cases resolved
      obtain ⟨⟨before, after⟩, found, named⟩ := Option.map_eq_some_iff.mp split
      obtain ⟨rfl, rfl⟩ := Prod.mk.inj named
      obtain ⟨c, colon, chars, -⟩ := Text.splitAtFirst_eq_some found
      obtain rfl : c = ':' := eq_of_beq colon
      -- With the prefix `xmlns` the written name would declare what stands behind the colon.
      refine beq_eq_false_iff_ne.mpr fun same => ?_
      have begins : written.toList = "xmlns:".toList ++ after := by
        rw [chars, ← String.toList_ofList (l := before), same]
        rfl
      rw [declaredPrefix?, begins, Text.dropPrefix?_append] at nothing
      split at nothing <;> cases nothing
    · cases resolved
  · cases resolved
    refine beq_eq_false_iff_ne.mpr fun same => ?_
    change written = "xmlns" at same
    rw [same] at nothing
    cases nothing

/-- Attributes that declare nothing are given their meaning one by one, so that none declares
anything and no two mean the same. -/
theorem resolveAttributes_proper {scopes : NamespaceScopes} {element : String}
    {done attributes : Attributes} {members : List (String × String)} (proper : done.AreProper)
    (nothing : ∀ member ∈ members, declaredPrefix? member.1 = none)
    (resolved : resolveAttributes scopes element done members = .ok attributes) :
    attributes.AreProper := by
  induction members generalizing done with
  | nil =>
    cases resolved
    exact proper
  | cons member rest ofRest =>
    obtain ⟨key, value⟩ := member
    rw [resolveAttributes] at resolved
    cases named : resolveName scopes none .attribute key with
    | error failure =>
      rw [named] at resolved
      cases resolved
    | ok name =>
      rw [named] at resolved
      cases repeated : done.has name.expanded with
      | true =>
        simp [repeated, bind, Except.bind, throw, throwThe, MonadExceptOf.throw] at resolved
      | false =>
        simp only [repeated, bind, Except.bind] at resolved
        have declaresNothing := nothing (key, value) List.mem_cons_self
        refine ofRest ⟨fun member inside => ?_, ?_⟩
          (fun member inside => nothing member (List.mem_cons_of_mem _ inside)) resolved
        · rcases List.mem_append.mp inside with earlier | last
          · exact proper.declareNothing member earlier
          · obtain rfl := List.mem_singleton.mp last
            exact resolveName_declares_nothing named declaresNothing
        · rw [List.map_append, List.map_singleton, ← List.concat_eq_append]
          refine List.Nodup.concat (fun told => ?_) proper.distinct
          obtain ⟨member, inside, same⟩ := List.mem_map.mp told
          exact List.any_eq_false.mp repeated member inside (beq_iff_eq.mpr same)

/-- What is taken to a tag as an attribute declares nothing. -/
theorem BoundTag.takeAll_attributes (tag : BoundTag) (members : List RawAttribute)
    (nothing : ∀ member ∈ tag.attributes, declaredPrefix? member.1 = none) :
    ∀ member ∈ (tag.takeAll members).1.attributes, declaredPrefix? member.1 = none := by
  induction members generalizing tag with
  | nil => exact nothing
  | cons raw rest ofRest =>
    rw [takeAll]
    cases expandReferences raw.value with
    | error fault => exact nothing
    | ok value =>
      refine ofRest (tag.take raw.key value) fun member inside => ?_
      unfold take at inside
      split at inside
      · exact nothing member inside
      · rename_i keyed
        rcases List.mem_append.mp inside with earlier | last
        · exact nothing member earlier
        · obtain rfl := List.mem_singleton.mp last
          exact keyed

/-- The attributes of a tag are proper, whatever the tag declares, before them or behind them. -/
theorem resolveTag_proper {state : ReaderState} {tag : RawTag} {name : QualifiedName}
    {attributes : Attributes}
    (resolved : resolveTag (state.taken tag) tag.name = .ok (name, attributes)) :
    attributes.AreProper := by
  unfold resolveTag at resolved
  cases named : resolveName (state.taken tag).scopes (state.taken tag).scopes.default .tag
      tag.name with
  | error failure =>
    rw [named] at resolved
    cases resolved
  | ok name =>
    cases given : resolveAttributes (state.taken tag).scopes tag.name []
        (state.taken tag).attributes with
    | error failure =>
      rw [named, given] at resolved
      cases resolved
    | ok attributes =>
      rw [named, given] at resolved
      cases resolved
      exact resolveAttributes_proper Attributes.areProper_nil
        (BoundTag.takeAll_attributes _ _ fun _ inside => absurd inside List.not_mem_nil) given

/-! ### What is missing behind some events -/

/-- Events complete a document inside of open elements, the innermost one first: they go on with a
forest, end the innermost element and its prefixes, and complete the document outside of it. The
declarations are those of the elements that begin on the way. -/
def Completes : List OpenElement → List Event → List Declarations → Prop
  | [], events, told =>
    ∃ forest : Forest, events = forest.events ++ [.endDocument] ∧ told = forest.declarations
  | element :: outer, events, told =>
    ∃ (forest : Forest) (behind : List Event) (later : List Declarations),
      events = forest.events ++ .endElement element.name :: (endings element.prefixes ++ behind) ∧
        told = forest.declarations ++ later ∧ Completes outer behind later

section completes

variable {opened : List OpenElement} {events : List Event} {told : List Declarations}

/-- A plain event may come anywhere. -/
theorem completes_plain {event : Event} (isPlain : event.isPlain = true)
    (completes : Completes opened events told) : Completes opened (event :: events) told := by
  cases opened with
  | nil =>
    obtain ⟨forest, rfl, rfl⟩ := completes
    exact ⟨.plain event isPlain forest, rfl, rfl⟩
  | cons element outer =>
    obtain ⟨forest, behind, later, rfl, rfl, outside⟩ := completes
    exact ⟨.plain event isPlain forest, behind, later, rfl, rfl, outside⟩

/-- An element begins: what completes the document inside of it ends it too. -/
theorem completes_start {declarations : Declarations} {written : String} {name : QualifiedName}
    {attributes : Attributes} (proper : attributes.AreProper)
    (completes : Completes (⟨written, name, declarations.map Prod.fst⟩ :: opened) events told) :
    Completes opened (announcements declarations ++ .startElement name attributes :: events)
      (declarations :: told) := by
  obtain ⟨inside, behind, later, rfl, rfl, outside⟩ := completes
  cases opened with
  | nil =>
    obtain ⟨forest, rfl, rfl⟩ := outside
    exact ⟨.element declarations name attributes proper inside forest,
      by simp [Forest.events], rfl⟩
  | cons element outer =>
    obtain ⟨forest, beyond, last, rfl, rfl, around⟩ := outside
    exact ⟨.element declarations name attributes proper inside forest, beyond, last,
      by simp [Forest.events], by simp [Forest.declarations], around⟩

/-- The innermost element ends. -/
theorem completes_finish (element : OpenElement) (completes : Completes opened events told) :
    Completes (element :: opened)
      (.endElement element.name :: (endings element.prefixes ++ events)) told :=
  ⟨.empty, events, told, rfl, rfl, completes⟩

/-- Whatever is open can be closed at once. -/
theorem exists_completes (opened : List OpenElement) : ∃ events, Completes opened events [] := by
  induction opened with
  | nil => exact ⟨[.endDocument], .empty, rfl, rfl⟩
  | cons element outer ofOuter =>
    obtain ⟨events, completes⟩ := ofOuter
    exact ⟨_, completes_finish element completes⟩

/-- Declarations that have been announced in part: the others follow, and then an element. -/
theorem exists_completes_announced (opened : List OpenElement) {part declarations : Declarations}
    (first : part <+: declarations) :
    ∃ rest, Completes opened (announcements part ++ rest) [declarations] := by
  obtain ⟨missing, rfl⟩ := first
  let element : OpenElement := ⟨"", .unqualified "", (part ++ missing).map Prod.fst⟩
  obtain ⟨events, completes⟩ := exists_completes (element :: opened)
  have started := completes_start Attributes.areProper_nil completes
  rw [announcements, List.map_append, List.append_assoc] at started
  exact ⟨_, started⟩

end completes

/-! ### The reader -/

/-- The declarations of the elements that a token opens, which is one at most. -/
def Token.told : Token → List Declarations
  | .startTag tag | .emptyTag tag => [tag.declarations]
  | _ => []

section tokens

variable {state next : ReaderState} {token : Token} {position : Nat}
  {events rest : List Event} {told : List Declarations}

theorem openTag_completes {tag : RawTag} (opens : openTag state tag = (events, .ok next))
    (completes : Completes next.opened rest told) :
    Completes state.opened (events ++ rest) (tag.declarations :: told) := by
  obtain ⟨name, attributes, resolved, opened, -, -, rfl⟩ := openTag_opens opens
  rw [opened] at completes
  rw [List.append_assoc]
  exact completes_start (resolveTag_proper resolved) completes

theorem emptyTag_completes {tag : RawTag} (reads : emptyTag state tag = (events, .ok next))
    (completes : Completes next.opened rest told) :
    Completes state.opened (events ++ rest) (tag.declarations :: told) := by
  unfold emptyTag at reads
  split at reads
  · rename_i opening inside opens
    obtain ⟨name, attributes, -, opened, -⟩ := openTag_opens opens
    rw [opened] at reads
    obtain ⟨rfl, behind⟩ := Prod.mk.inj reads
    obtain rfl := Except.ok.inj behind
    rw [List.append_assoc]
    refine openTag_completes opens ?_
    rw [opened]
    exact completes_finish _ completes
  · rename_i failed
    exact absurd reads (failed events next)

theorem closeTag_completes {written : String}
    (closes : closeTag position state written = (events, .ok next))
    (completes : Completes next.opened rest told) :
    Completes state.opened (events ++ rest) told := by
  unfold closeTag at closes
  split at closes
  · cases closes
  · rename_i element outer opened
    rw [opened]
    split at closes
    · obtain ⟨rfl, behind⟩ := Prod.mk.inj closes
      obtain rfl := Except.ok.inj behind
      exact completes_finish element completes
    · cases closes

theorem text_completes {raw : List Char} (reads : text state raw = (events, .ok next))
    (completes : Completes next.opened rest told) :
    Completes state.opened (events ++ rest) told := by
  unfold text at reads
  split at reads
  · cases reads
  · split at reads
    · cases reads
      exact completes_plain rfl completes
    · split at reads <;> cases reads
      exact completes

theorem declaration_completes {content : List Char}
    (reads : declaration state content = (events, .ok next))
    (completes : Completes next.opened rest told) :
    Completes state.opened (events ++ rest) told := by
  unfold declaration at reads
  dsimp only at reads
  split at reads
  · cases reads
  · cases reads
    exact completes_plain rfl completes

theorem isPlain_instruction (content : String) : (instruction content).isPlain = true := by
  unfold instruction
  split <;> rfl

/-- Whatever completes a document behind a token completes it from the token on. -/
theorem step_completes (steps : step position state token = (events, .ok next))
    (completes : Completes next.opened rest told) :
    Completes state.opened (events ++ rest) (token.told ++ told) := by
  cases token with
  | startTag tag => exact openTag_completes steps completes
  | emptyTag tag => exact emptyTag_completes steps completes
  | endTag written => exact closeTag_completes steps completes
  | text raw => exact text_completes steps completes
  | declaration content => exact declaration_completes steps completes
  | instruction content =>
    cases steps
    exact completes_plain (isPlain_instruction content) completes
  | characterData text =>
    cases steps
    exact completes_plain rfl (completes_plain rfl (completes_plain rfl completes))
  | comment text =>
    cases steps
    exact completes_plain rfl completes
  | doctype text =>
    cases steps
    exact completes_plain rfl completes

/-- What has been told where reading fails can be completed. -/
theorem step_completes_of_fails {failure : Failure}
    (fails : step position state token = (events, .error failure)) :
    ∃ rest told, Completes state.opened (events ++ rest) told ∧ told <+: token.told := by
  obtain ⟨part, first, rfl⟩ := step_fails fails
  cases token with
  | startTag tag | emptyTag tag =>
    obtain ⟨rest, completes⟩ := exists_completes_announced state.opened first
    exact ⟨rest, _, completes, List.prefix_rfl⟩
  | _ =>
    obtain rfl := List.prefix_nil.mp first
    obtain ⟨rest, completes⟩ := exists_completes state.opened
    exact ⟨rest, [], completes, List.nil_prefix⟩

end tokens

/-- What the reader tells of some tokens completes the document, or begins something that does. -/
theorem readFrom_completes (position : Nat) (fault : Option SyntaxFault) (state : ReaderState)
    (tokens : List Token) :
    let reading := readFrom position fault state tokens
    let all := tokens.flatMap Token.told
    (reading.failure = none → Completes state.opened reading.events all) ∧
      ∃ rest told, Completes state.opened (reading.events ++ rest) told ∧ told <+: all := by
  -- where reading has failed, nothing is to be shown about getting through
  have failed {failure : Failure} {done : Prop} (passes : some failure = none) : done :=
    absurd passes (Option.some_ne_none failure)
  induction tokens generalizing position state with
  | nil =>
    rw [readFrom]
    obtain ⟨rest, completes⟩ := exists_completes state.opened
    unfold finish
    split
    · exact ⟨failed, rest, [], completes, List.nil_prefix⟩
    · exact ⟨failed, rest, [], completes, List.nil_prefix⟩
    · rename_i closed
      split
      · rw [closed]
        have ended : Completes [] [.endDocument] [] := ⟨.empty, rfl, rfl⟩
        exact ⟨fun _ => ended, [], [], ended, List.nil_prefix⟩
      · exact ⟨failed, rest, [], completes, List.nil_prefix⟩
  | cons token later ofLater =>
    rw [readFrom, List.flatMap_cons]
    cases steps : step position state token with
    | mk events result =>
      cases result with
      | error failure =>
        obtain ⟨rest, told, completes, first⟩ := step_completes_of_fails steps
        exact ⟨failed, rest, told, completes, first.trans (List.prefix_append _ _)⟩
      | ok next =>
        obtain ⟨whole, rest, told, completes, first⟩ := ofLater (position + 1) next
        refine ⟨fun done => step_completes steps (whole done), rest, token.told ++ told, ?_, ?_⟩
        · rw [List.append_assoc]
          exact step_completes steps completes
        · exact (List.prefix_append_right_inj _).mpr first

/-! ### Documents -/

/-- The declarations of each start tag of a text, those of empty elements included, in the order of
the text. -/
def declarationsIn (document : String) : List Declarations :=
  (tokens (withoutByteOrderMark document.toList)).1.flatMap Token.told

/-- What the reader tells of a text that it gets through is a properly bracketed document, and each
element begins with the declarations of its tag. What it tells of any text are the first events of
such a document, where the elements have the declarations of the first tags. -/
theorem read_brackets (limits : Limits) (document : String) :
    let reading := read limits document
    (reading.failure = none → ∃ forest : Forest, reading.events = forest.document ∧
        forest.declarations = declarationsIn document) ∧
      ∃ forest : Forest, reading.events <+: forest.document ∧
        forest.declarations <+: declarationsIn document := by
  unfold read
  cases limits.check .size document.utf8ByteSize with
  | error fault => exact ⟨nofun, .empty, List.nil_prefix, List.nil_prefix⟩
  | ok small =>
    let cut := tokens (withoutByteOrderMark document.toList)
    obtain ⟨whole, rest, told, ⟨forest, events, rfl⟩, first⟩ :=
      readFrom_completes 0 cut.2 .initial cut.1
    refine ⟨fun done => ?_, forest, (List.prefix_cons_inj _).mpr ⟨rest, events⟩, first⟩
    obtain ⟨all, complete, declarations⟩ := whole done
    exact ⟨all, congrArg (Event.startDocument :: ·) complete, declarations.symm⟩

/-- A note with two prefixes for one namespace, and an entry that declares nothing. -/
def aliasedNote : String := "<p:note xmlns:p=\"u\" xmlns:q=\"u\" p:on=\"1\"><entry/></p:note>"

/-- A note with an attribute that means the same as another one, by a prefix declared behind it. -/
def repeatingNote : String := "<note xmlns:p=\"u\" p:on=\"1\" q:on=\"2\" xmlns:q=\"u\"/>"

theorem read_brackets_notes :
    let reading := read .usual aliasedNote
    let broken := read .usual repeatingNote
    reading.failure = none ∧
      (∃ forest : Forest, reading.events = forest.document ∧
        forest.declarations = [[("p", "u"), ("q", "u")], []]) ∧
      broken.failure.isSome = true ∧
      broken.events = [.startDocument, .startPrefix "p" "u", .startPrefix "q" "u"] ∧
      ∃ forest : Forest, broken.events <+: forest.document := by
  intro reading broken
  have gets : reading.failure = none := by decide +kernel
  obtain ⟨forest, events, declarations⟩ := (read_brackets .usual aliasedNote).1 gets
  obtain ⟨whole, first, -⟩ := (read_brackets .usual repeatingNote).2
  exact ⟨gets, ⟨forest, events, declarations.trans (by decide +kernel)⟩, by decide +kernel,
    by decide +kernel, whole, first⟩

end Markup

end SchemaAssessment
