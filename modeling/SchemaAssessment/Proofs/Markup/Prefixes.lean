/-
Which namespace a prefix stands for at a tag. The declarations of an element are among
its attributes as they are written, and those of the elements around it are known from
the tokens; the innermost declaration of a prefix counts. The reader keeps its bindings
accordingly. Whoever hears only the events, with the prefixes announced in front of a
start tag, comes to the same bindings at every tag.
-/

import Mathlib.Data.List.Induction
import SchemaAssessment.Markup.Reader

namespace SchemaAssessment

/-- The declarations of a tag in order: prefixes, with the names of their namespaces. -/
abbrev Declarations := List (String × String)

/-- The namespace of a prefix, given the declarations of an element and of those around it, the
innermost ones first. The last declaration counts where a tag declares the prefix twice, the empty
name stands for none, and `xml` needs no declaration. -/
def declaredSpace (prefixName : String) : List Declarations → Option String
  | [] => if prefixName = "xml" then some xmlNamespace else none
  | declarations :: around =>
    match declarations.reverse.lookup prefixName with
    | some uri => if uri.isEmpty then none else some uri
    | none => declaredSpace prefixName around

namespace NamespaceScopes

/-- Binds declared prefixes in turn. Nothing is bound to an empty name. -/
def declareAll (scopes : NamespaceScopes) (declarations : Declarations) : NamespaceScopes :=
  declarations.foldl (fun scopes declaration => scopes.declare declaration.1
    (if declaration.2.isEmpty then none else some declaration.2)) scopes

/-- Opens a scope with declarations. -/
def enter (scopes : NamespaceScopes) (declarations : Declarations) : NamespaceScopes :=
  scopes.push.declareAll declarations

/-- The bindings inside of elements with declarations, the innermost one first. -/
def within (around : List Declarations) : NamespaceScopes :=
  around.foldr (fun declarations scopes => scopes.enter declarations) initial

theorem declareAll_append (scopes : NamespaceScopes) (first rest : Declarations) :
    scopes.declareAll (first ++ rest) = (scopes.declareAll first).declareAll rest :=
  List.foldl_append

theorem declareAll_singleton (scopes : NamespaceScopes) (prefixName uri : String) :
    scopes.declareAll [(prefixName, uri)] =
      scopes.declare prefixName (if uri.isEmpty then none else some uri) :=
  rfl

theorem lookup_push (scopes : NamespaceScopes) (prefixName : String) :
    scopes.push.lookup prefixName = scopes.lookup prefixName :=
  rfl

theorem opened_declare_ne_nil {scopes : NamespaceScopes} (inside : scopes.opened ≠ [])
    (prefixName : String) (space : Option String) :
    (scopes.declare prefixName space).opened ≠ [] := by
  obtain ⟨opened, outermost⟩ := scopes
  cases opened with
  | nil => exact absurd rfl inside
  | cons innermost rest => exact List.cons_ne_nil _ _

theorem pop_declareAll (declarations : Declarations) {scopes : NamespaceScopes}
    (inside : scopes.opened ≠ []) : (scopes.declareAll declarations).pop = scopes.pop := by
  induction declarations generalizing scopes with
  | nil => rfl
  | cons declaration rest ofRest =>
    refine (ofRest (opened_declare_ne_nil inside _ _)).trans ?_
    exact pop_declare scopes declaration.1 _ inside

/-- The declarations of an element are forgotten at its end. -/
theorem pop_enter (scopes : NamespaceScopes) (declarations : Declarations) :
    (scopes.enter declarations).pop = scopes :=
  pop_declareAll declarations (List.cons_ne_nil _ _)

/-- Of several declarations of a prefix the last one counts. -/
theorem lookup_declareAll (scopes : NamespaceScopes) (declarations : Declarations)
    (prefixName : String) :
    (scopes.declareAll declarations).lookup prefixName =
      match declarations.reverse.lookup prefixName with
      | some uri => if uri.isEmpty then none else some uri
      | none => scopes.lookup prefixName := by
  induction declarations using List.reverseRecOn with
  | nil => rfl
  | append_singleton earlier declaration ofEarlier =>
    obtain ⟨other, uri⟩ := declaration
    rw [declareAll_append, declareAll_singleton, List.reverse_append, List.reverse_singleton,
      List.singleton_append, List.lookup_cons]
    by_cases same : prefixName = other
    · rw [← same, lookup_declare_self, beq_self_eq_true]
    · rw [lookup_declare_of_ne _ _ same, ofEarlier, beq_eq_false_iff_ne.mpr same]

theorem lookup_initial (prefixName : String) :
    initial.lookup prefixName = if prefixName = "xml" then some xmlNamespace else none := by
  by_cases same : prefixName = "xml"
  · simp [initial, lookup, same]
  · have apart : (prefixName == "xml") = false := beq_eq_false_iff_ne.mpr same
    simp [initial, lookup, same, List.lookup_cons, apart]

/-- Inside of some elements a prefix stands for what its innermost declaration says. -/
theorem lookup_within (around : List Declarations) (prefixName : String) :
    (within around).lookup prefixName = declaredSpace prefixName around := by
  induction around with
  | nil => exact lookup_initial prefixName
  | cons declarations around ofAround =>
    show ((within around).enter declarations).lookup prefixName = _
    rw [enter, lookup_declareAll, lookup_push, ofAround, declaredSpace]

/-- Leaving the innermost of some elements. -/
theorem pop_within (around : List Declarations) : (within around).pop = within around.tail := by
  cases around with
  | nil => rfl
  | cons declarations around => exact pop_enter _ _

end NamespaceScopes

/-! ### Hearing events -/

/-- An element begins or ends. -/
def Event.isTag : Event → Bool
  | .startElement .. | .endElement _ => true
  | _ => false

/-- The events that announce declarations. -/
def announcements (declarations : Declarations) : List Event :=
  declarations.map fun declaration => .startPrefix declaration.1 declaration.2

/-- The bindings in scope, and the prefixes that have been announced for the next start tag. -/
structure Hearing where
  scopes : NamespaceScopes
  announced : Declarations
  deriving DecidableEq, Repr

namespace Hearing

/-- An event: announced prefixes are bound at a start tag, and an end tag closes a scope. -/
def hear (hearing : Hearing) : Event → Hearing
  | .startDocument => ⟨.initial, []⟩
  | .startPrefix prefixName uri =>
    { hearing with announced := hearing.announced ++ [(prefixName, uri)] }
  | .startElement .. => ⟨hearing.scopes.enter hearing.announced, []⟩
  | .endElement _ => { hearing with scopes := hearing.scopes.pop }
  | _ => hearing

/-- The bindings in scope at an event, those of the tag itself included. -/
def scopesAt (hearing : Hearing) : Event → NamespaceScopes
  | .startElement .. => hearing.scopes.enter hearing.announced
  | _ => hearing.scopes

/-- Events in turn. -/
def hearAll (hearing : Hearing) (events : List Event) : Hearing := events.foldl hear hearing

/-- The tags among some events, with the bindings in scope at each. -/
def tags (hearing : Hearing) : List Event → List (Event × NamespaceScopes)
  | [] => []
  | event :: rest =>
    (if event.isTag then [(event, hearing.scopesAt event)] else []) ++ (hearing.hear event).tags rest

theorem hearAll_append (hearing : Hearing) (first rest : List Event) :
    hearing.hearAll (first ++ rest) = (hearing.hearAll first).hearAll rest :=
  List.foldl_append

theorem tags_append (hearing : Hearing) (first rest : List Event) :
    hearing.tags (first ++ rest) = hearing.tags first ++ (hearing.hearAll first).tags rest := by
  induction first generalizing hearing with
  | nil => rfl
  | cons event others ofOthers =>
    rw [List.cons_append, tags, ofOthers, tags, List.append_assoc]
    rfl

/-- The tags are told as they come. -/
theorem tags_fst (hearing : Hearing) (events : List Event) :
    (hearing.tags events).map Prod.fst = events.filter Event.isTag := by
  induction events generalizing hearing with
  | nil => rfl
  | cons event rest ofRest =>
    rw [tags, List.map_append, ofRest, List.filter_cons]
    split <;> rfl

/-- What is heard of the first events is the first part of what is heard of all. -/
theorem tags_prefix (hearing : Hearing) {events all : List Event} (first : events <+: all) :
    hearing.tags events = (hearing.tags all).take (events.filter Event.isTag).length := by
  obtain ⟨rest, rfl⟩ := first
  have counted : (events.filter Event.isTag).length = (hearing.tags events).length := by
    rw [← hearing.tags_fst events, List.length_map]
  rw [tags_append, counted, List.take_left]

/-- Announced declarations are kept for the next start tag. -/
theorem hear_announcements (scopes : NamespaceScopes) (announced declared : Declarations) :
    (Hearing.mk scopes announced).hearAll (announcements declared) =
        ⟨scopes, announced ++ declared⟩ ∧
      (Hearing.mk scopes announced).tags (announcements declared) = [] := by
  induction declared generalizing announced with
  | nil => exact ⟨by rw [List.append_nil]; rfl, rfl⟩
  | cons declaration rest ofRest =>
    obtain ⟨behind, none⟩ := ofRest (announced ++ [declaration])
    rw [List.append_assoc, List.singleton_append] at behind
    exact ⟨behind, none⟩

theorem hear_endings (hearing : Hearing) (prefixes : List String) :
    hearing.hearAll (prefixes.map Event.endPrefix) = hearing ∧
      hearing.tags (prefixes.map Event.endPrefix) = [] := by
  induction prefixes with
  | nil => exact ⟨rfl, rfl⟩
  | cons prefixName rest ofRest => exact ofRest

end Hearing

namespace Markup

/-! ### The reader -/

/-- The declaration that an attribute makes, if it makes one. -/
def RawAttribute.declaration? (member : RawAttribute) : Option (String × String) :=
  (declaredPrefix? member.key).bind fun prefixName =>
    (expandReferences member.value).toOption.map fun uri => (prefixName, uri)

/-- The declarations of a tag as it is written. -/
def RawTag.declarations (tag : RawTag) : Declarations :=
  tag.attributes.1.filterMap RawAttribute.declaration?

/-- The declarations of the tag of a token. A token that opens no element declares nothing. -/
def Token.declarations : Token → Declarations
  | .startTag tag | .emptyTag tag => tag.declarations
  | _ => []

/-- The bindings that the reader has in scope at the tag of a token: at a start tag those with its
own declarations, at an end tag those of the element that ends. -/
def ReaderState.scopesAt (state : ReaderState) : Token → NamespaceScopes
  | .startTag tag | .emptyTag tag =>
    (({ scopes := state.scopes.push } : BoundTag).takeAll tag.attributes.1).1.scopes
  | _ => state.scopes

/-- A tag that the reader tells: the event, the bindings that the reader has in scope, and the
declarations of the element and of those around it, the innermost ones first. -/
structure ToldTag where
  event : Event
  scopes : NamespaceScopes
  around : List Declarations

/-- The declarations that a token stands inside of, those of its own tag included. -/
def Token.within (around : List Declarations) : Token → List Declarations
  | .startTag tag | .emptyTag tag => tag.declarations :: around
  | _ => around

/-- The declarations that what follows a token stands inside of. -/
def Token.behind (around : List Declarations) : Token → List Declarations
  | .startTag tag => tag.declarations :: around
  | .endTag _ => around.tail
  | _ => around

/-- The tags that the reader tells of some tokens, as far as it reads them. -/
def toldTags (position : Nat) (state : ReaderState) (around : List Declarations) :
    List Token → List ToldTag
  | [] => []
  | token :: rest =>
    match step position state token with
    | (_, .error _) => []
    | (events, .ok next) =>
      (events.filter Event.isTag).map
          (fun event => ⟨event, state.scopesAt token, token.within around⟩) ++
        toldTags (position + 1) next (token.behind around) rest

/-- The tags that the reader tells of a document. -/
def tagsOf (limits : Limits) (document : String) : List ToldTag :=
  match limits.check .size document.utf8ByteSize with
  | .error _ => []
  | .ok () => toldTags 0 .initial [] (tokens (withoutByteOrderMark document.toList)).1

/-- Taking attributes binds the declarations among them, the first ones at least, and all of them if
no value is at fault. -/
theorem BoundTag.takeAll_declares (tag : BoundTag) (members : List RawAttribute) :
    let taken := tag.takeAll members
    let all := members.filterMap RawAttribute.declaration?
    ∃ declarations, taken.1.declared = tag.declared ++ declarations ∧
      taken.1.scopes = tag.scopes.declareAll declarations ∧
        declarations <+: all ∧ (taken.2 = none → declarations = all) := by
  induction members generalizing tag with
  | nil => exact ⟨[], (List.append_nil _).symm, rfl, List.nil_prefix, fun _ => rfl⟩
  | cons member rest ofRest =>
    dsimp only
    rw [takeAll]
    cases expanded : expandReferences member.value with
    | error fault => exact ⟨[], (List.append_nil _).symm, rfl, List.nil_prefix, nofun⟩
    | ok value =>
      dsimp only
      obtain ⟨declarations, declared, scopes, first, complete⟩ :=
        ofRest (tag.take member.key value)
      cases named : declaredPrefix? member.key with
      | none =>
        have made : member.declaration? = none := by
          rw [RawAttribute.declaration?, named, Option.bind_none]
        rw [take, named] at declared scopes complete
        rw [take, named, List.filterMap_cons_none made]
        exact ⟨declarations, declared, scopes, first, complete⟩
      | some prefixName =>
        have made : member.declaration? = some (prefixName, value) := by
          rw [RawAttribute.declaration?, named, expanded]
          rfl
        rw [take, named] at declared scopes complete
        rw [take, named, List.filterMap_cons_some made]
        refine ⟨(prefixName, value) :: declarations, declared.trans (List.append_assoc ..), scopes,
          (List.prefix_cons_inj _).mpr first, fun readable => ?_⟩
        rw [complete readable]

/-- What a token leads to inside of some declarations, heard by somebody who has the bindings of the
reader. At its tags the bindings are those of the reader, and so they are behind it; and they are
those of the declarations. -/
structure IsHeard (state : ReaderState) (around : List Declarations) (token : Token)
    (events : List Event) (next : ReaderState) : Prop where
  tags : (Hearing.mk state.scopes []).tags events =
    (events.filter Event.isTag).map fun event => (event, state.scopesAt token)
  behind : (Hearing.mk state.scopes []).hearAll events = ⟨next.scopes, []⟩
  declared : events.filter Event.isTag ≠ [] →
    state.scopesAt token = .within (token.within around)
  scopes : next.scopes = .within (token.behind around)

/-- A tag whose attributes the reader has taken, as far as it can read them. -/
def ReaderState.taken (state : ReaderState) (tag : RawTag) : BoundTag :=
  (BoundTag.takeAll { scopes := state.scopes.push } tag.attributes.1).1

/-- An element that is opened: its declarations are announced, and the reader binds them. -/
theorem openTag_opens {state next : ReaderState} {tag : RawTag} {events : List Event}
    (opens : openTag state tag = (events, .ok next)) :
    ∃ name attributes, resolveTag (state.taken tag) tag.name = .ok (name, attributes) ∧
      next.opened = ⟨tag.name, name, tag.declarations.map Prod.fst⟩ :: state.opened ∧
        next.scopes = state.scopes.enter tag.declarations ∧
          state.scopesAt (.startTag tag) = next.scopes ∧
            events = announcements tag.declarations ++ [.startElement name attributes] := by
  let empty : BoundTag := { scopes := state.scopes.push }
  obtain ⟨declarations, declared, scopes, -, complete⟩ := empty.takeAll_declares tag.attributes.1
  unfold openTag at opens
  dsimp only at opens
  split at opens
  · cases opens
  · cases opens
  · rename_i readable _
    split at opens
    · cases opens
    · rename_i name attributes resolved
      obtain ⟨rfl, behind⟩ := Prod.mk.inj opens
      obtain rfl := Except.ok.inj behind
      have all : declarations = tag.declarations := complete readable
      rw [List.nil_append, all] at declared
      refine ⟨name, attributes, resolved, ?_, scopes.trans (by rw [all]; rfl), rfl, ?_⟩
      · rw [declared]
      · rw [BoundTag.declarations, declared, announcements]

/-- Hearing of an element that is opened. -/
theorem hear_opening (scopes : NamespaceScopes) (declarations : Declarations)
    (name : QualifiedName) (attributes : Attributes) :
    let events := announcements declarations ++ [.startElement name attributes]
    (Hearing.mk scopes []).hearAll events = ⟨scopes.enter declarations, []⟩ ∧
      (Hearing.mk scopes []).tags events =
        [(.startElement name attributes, scopes.enter declarations)] ∧
        events.filter Event.isTag = [.startElement name attributes] := by
  intro events
  obtain ⟨behind, none⟩ := Hearing.hear_announcements scopes [] declarations
  rw [List.nil_append] at behind
  have tags : (Hearing.mk scopes []).tags events =
      [(.startElement name attributes, scopes.enter declarations)] := by
    rw [Hearing.tags_append, none, behind]
    rfl
  refine ⟨?_, tags, ?_⟩
  · rw [Hearing.hearAll_append, behind]
    rfl
  · rw [← Hearing.tags_fst, tags]
    rfl

/-- Hearing of an element that is closed. -/
theorem hear_closing (scopes : NamespaceScopes) (name : QualifiedName) (prefixes : List String) :
    let events := Event.endElement name :: prefixes.map Event.endPrefix
    (Hearing.mk scopes []).hearAll events = ⟨scopes.pop, []⟩ ∧
      (Hearing.mk scopes []).tags events = [(.endElement name, scopes)] ∧
        events.filter Event.isTag = [.endElement name] := by
  intro events
  obtain ⟨behind, none⟩ := Hearing.hear_endings ⟨scopes.pop, []⟩ prefixes
  have tags : (Hearing.mk scopes []).tags events = [(.endElement name, scopes)] :=
    congrArg ((Event.endElement name, scopes) :: ·) none
  refine ⟨behind, tags, ?_⟩
  rw [← Hearing.tags_fst, tags]
  rfl

section tokens

variable {state next : ReaderState} {around : List Declarations} {events : List Event}

theorem openTag_heard (stands : state.scopes = .within around) {tag : RawTag}
    (opens : openTag state tag = (events, .ok next)) :
    IsHeard state around (.startTag tag) events next := by
  obtain ⟨name, attributes, -, -, scopes, here, rfl⟩ := openTag_opens opens
  obtain ⟨behind, tags, only⟩ := hear_opening state.scopes tag.declarations name attributes
  have entered : next.scopes = .within (tag.declarations :: around) := by
    rw [scopes, stands]
    rfl
  refine ⟨?_, by rw [behind, scopes], fun _ => here.trans entered, entered⟩
  rw [tags, only, here, scopes]
  rfl

/-- An element without content is heard as its start tag and its end tag. -/
theorem emptyTag_heard (stands : state.scopes = .within around) {tag : RawTag}
    (closes : emptyTag state tag = (events, .ok next)) :
    IsHeard state around (.emptyTag tag) events next := by
  unfold emptyTag at closes
  split at closes
  · rename_i opening inside opens
    have heard := openTag_heard stands opens
    obtain ⟨name, attributes, -, opened, -, here, -⟩ := openTag_opens opens
    rw [opened] at closes
    obtain ⟨rfl, behind⟩ := Prod.mk.inj closes
    obtain rfl := Except.ok.inj behind
    obtain ⟨closed, ending, last⟩ := hear_closing inside.scopes name
      (tag.declarations.map Prod.fst).reverse
    refine ⟨?_, ?_, fun _ => here.trans heard.scopes, ?_⟩
    · rw [Hearing.tags_append, heard.behind, heard.tags, ending, List.filter_append, List.map_append,
        last, ← here]
      rfl
    · rw [Hearing.hearAll_append, heard.behind]
      exact closed
    · show inside.scopes.pop = .within around
      rw [heard.scopes, NamespaceScopes.pop_within]
      rfl
  · rename_i failed
    exact absurd closes (failed events next)

theorem closeTag_heard (stands : state.scopes = .within around) {position : Nat}
    {written : String} (closes : closeTag position state written = (events, .ok next)) :
    IsHeard state around (.endTag written) events next := by
  unfold closeTag at closes
  split at closes
  · cases closes
  · rename_i element outer opened
    split at closes
    · obtain ⟨rfl, behind⟩ := Prod.mk.inj closes
      obtain rfl := Except.ok.inj behind
      obtain ⟨closed, ending, last⟩ := hear_closing state.scopes element.name
        element.prefixes.reverse
      refine ⟨?_, closed, fun _ => stands, ?_⟩
      · rw [ending, last]
        rfl
      · show state.scopes.pop = _
        rw [stands, NamespaceScopes.pop_within]
        rfl
    · cases closes

/-- Events between tags that leave the bindings alone. -/
def IsSilent (events : List Event) : Prop :=
  ∀ hearing : Hearing, hearing.tags events = [] ∧ hearing.hearAll events = hearing

theorem isHeard_of_silent (stands : state.scopes = .within around) {token : Token}
    (silent : IsSilent events) (behind : token.behind around = around) :
    IsHeard state around token events state := by
  obtain ⟨none, same⟩ := silent ⟨state.scopes, []⟩
  have tagless : events.filter Event.isTag = [] := by
    rw [← Hearing.tags_fst ⟨state.scopes, []⟩, none]
    rfl
  refine ⟨?_, same, fun tag => absurd tagless tag, by rw [behind, stands]⟩
  rw [none, tagless]
  rfl

theorem text_silent {raw : List Char} (reads : text state raw = (events, .ok next)) :
    next = state ∧ IsSilent events := by
  unfold text at reads
  split at reads
  · cases reads
  · split at reads
    · cases reads
      exact ⟨rfl, fun _ => ⟨rfl, rfl⟩⟩
    · split at reads
      · cases reads
        exact ⟨rfl, fun _ => ⟨rfl, rfl⟩⟩
      · cases reads

theorem declaration_silent {content : List Char}
    (reads : declaration state content = (events, .ok next)) :
    next = state ∧ IsSilent events := by
  unfold declaration at reads
  dsimp only at reads
  split at reads
  · cases reads
  · cases reads
    exact ⟨rfl, fun _ => ⟨rfl, rfl⟩⟩

theorem instruction_silent (content : String) : IsSilent [instruction content] := by
  unfold instruction
  split <;> exact fun _ => ⟨rfl, rfl⟩

/-- Every token that the reader gets over is heard as the reader has it. -/
theorem step_heard (stands : state.scopes = .within around) {position : Nat} {token : Token}
    (steps : step position state token = (events, .ok next)) :
    IsHeard state around token events next := by
  cases token with
  | startTag tag => exact openTag_heard stands steps
  | emptyTag tag => exact emptyTag_heard stands steps
  | endTag written => exact closeTag_heard stands steps
  | text raw =>
    obtain ⟨rfl, silent⟩ := text_silent steps
    exact isHeard_of_silent stands silent rfl
  | declaration content =>
    obtain ⟨rfl, silent⟩ := declaration_silent steps
    exact isHeard_of_silent stands silent rfl
  | instruction content =>
    cases steps
    exact isHeard_of_silent stands (instruction_silent content) rfl
  | _ =>
    cases steps
    exact isHeard_of_silent stands (fun _ => ⟨rfl, rfl⟩) rfl

theorem openTag_fails {tag : RawTag} {failure : Failure}
    (fails : openTag state tag = (events, .error failure)) :
    ∃ declarations, declarations <+: tag.declarations ∧ events = announcements declarations := by
  let empty : BoundTag := { scopes := state.scopes.push }
  obtain ⟨declarations, declared, -, first, -⟩ := empty.takeAll_declares tag.attributes.1
  rw [List.nil_append] at declared
  refine ⟨declarations, first, ?_⟩
  rw [← declared]
  unfold openTag at fails
  dsimp only at fails
  split at fails
  · cases fails
    rfl
  · cases fails
    rfl
  · split at fails
    · cases fails
      rfl
    · cases fails

/-- Where reading fails at a token, what it leads to are announcements at most, of the first
declarations of a tag. -/
theorem step_fails {position : Nat} {token : Token} {failure : Failure}
    (fails : step position state token = (events, .error failure)) :
    ∃ declarations, declarations <+: token.declarations ∧
      events = announcements declarations := by
  cases token with
  | startTag tag => exact openTag_fails fails
  | emptyTag tag =>
    change emptyTag state tag = _ at fails
    unfold emptyTag at fails
    split at fails
    · split at fails <;> cases fails
    · exact openTag_fails fails
  | endTag written =>
    change closeTag position state written = _ at fails
    unfold closeTag at fails
    split at fails
    · cases fails
      exact ⟨[], List.nil_prefix, rfl⟩
    · split at fails
      · cases fails
      · cases fails
        exact ⟨[], List.nil_prefix, rfl⟩
  | text raw =>
    change text state raw = _ at fails
    unfold text at fails
    refine ⟨[], List.nil_prefix, ?_⟩
    split at fails
    · cases fails
      rfl
    · split at fails
      · cases fails
      · split at fails <;> cases fails
        rfl
  | declaration content =>
    change declaration state content = _ at fails
    unfold declaration at fails
    dsimp only at fails
    split at fails
    · cases fails
      exact ⟨[], List.nil_prefix, rfl⟩
    · cases fails
  | _ => cases fails

end tokens

/-! ### Documents -/

/-- What is heard of the tags of some tokens is what the reader has at them, and what the
declarations around them say. -/
theorem readFrom_heard (position : Nat) (fault : Option SyntaxFault) (tokens : List Token)
    {state : ReaderState} {around : List Declarations} (stands : state.scopes = .within around) :
    let told := toldTags position state around tokens
    (Hearing.mk state.scopes []).tags (readFrom position fault state tokens).events =
        told.map (fun tag => (tag.event, tag.scopes)) ∧
      ∀ tag ∈ told, tag.scopes = .within tag.around := by
  induction tokens generalizing position state around with
  | nil =>
    refine ⟨?_, nofun⟩
    rw [readFrom]
    unfold finish
    split
    · rfl
    · rfl
    · split <;> rfl
  | cons token rest ofRest =>
    rw [readFrom, toldTags]
    cases steps : step position state token with
    | mk events result =>
      cases result with
      | error failure =>
        obtain ⟨declarations, -, rfl⟩ := step_fails steps
        exact ⟨(Hearing.hear_announcements state.scopes [] declarations).2, nofun⟩
      | ok next =>
        have heard := step_heard stands steps
        obtain ⟨same, innermost⟩ := ofRest (position + 1) heard.scopes
        refine ⟨?_, fun tag inside => ?_⟩
        · dsimp only
          rw [Hearing.tags_append, heard.behind, heard.tags, same, List.map_append, List.map_map]
          rfl
        · rcases List.mem_append.mp inside with here | later
          · obtain ⟨event, told, rfl⟩ := List.mem_map.mp here
            exact heard.declared (List.ne_nil_of_mem told)
          · exact innermost tag later

/-- What is heard of the tags of a document, whatever was heard before. -/
theorem read_heard (limits : Limits) (document : String) (hearing : Hearing) :
    let told := tagsOf limits document
    hearing.tags (read limits document).events =
        told.map (fun tag => (tag.event, tag.scopes)) ∧
      ∀ tag ∈ told, ∀ prefixName,
        tag.scopes.lookup prefixName = declaredSpace prefixName tag.around := by
  unfold read tagsOf
  cases limits.check .size document.utf8ByteSize with
  | error fault => exact ⟨rfl, nofun⟩
  | ok small =>
    let read := tokens (withoutByteOrderMark document.toList)
    have stands : ReaderState.initial.scopes = .within [] := rfl
    obtain ⟨same, innermost⟩ := readFrom_heard 0 read.2 read.1 stands
    refine ⟨same, fun tag inside prefixName => ?_⟩
    rw [innermost tag inside, NamespaceScopes.lookup_within]

end Markup

end SchemaAssessment
