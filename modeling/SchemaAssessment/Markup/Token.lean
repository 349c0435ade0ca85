/-
Documents as sequences of tokens: tags, the other pieces of markup, and the text
between them. A piece of markup begins with `<` and ends at the first `>` that its
kind lets it end at. Cutting a document into tokens knows nothing of names or
nesting.
-/

import SchemaAssessment.Markup.Fault
import SchemaAssessment.Text.Blank

namespace SchemaAssessment.Markup

/-- What stands in a tag: a name, and behind it the attributes, not yet cut. -/
structure RawTag where
  name : String
  rest : List Char
  deriving DecidableEq, Repr, Inhabited

/-- A token. References are not replaced yet. -/
inductive Token where
  | text (raw : List Char)
  | startTag (tag : RawTag)
  | emptyTag (tag : RawTag)
  | endTag (name : String)
  | characterData (text : String)
  | comment (text : String)
  | instruction (content : String)
  | declaration (rest : List Char)
  | doctype (text : String)
  deriving DecidableEq, Repr, Inhabited

/-! ### Where markup ends -/

/-- The characters before and after the first `>` at which markup may end, which the characters
before it decide, the nearest first. -/
def cutWhere (mayEnd : List Char → Bool) (before : List Char) :
    List Char → Option (List Char × List Char)
  | [] => none
  | c :: rest =>
    if c == '>' && mayEnd before then some (before.reverse, rest)
    else cutWhere mayEnd (c :: before) rest

/-- Where markup is cut, less than all is left. -/
theorem length_of_cutWhere {mayEnd : List Char → Bool} {before chars inside rest : List Char}
    (cut : cutWhere mayEnd before chars = some (inside, rest)) : rest.length < chars.length := by
  induction chars generalizing before with
  | nil => simp [cutWhere] at cut
  | cons c more inductionHypothesis =>
    unfold cutWhere at cut
    split at cut
    · obtain ⟨-, rfl⟩ := Prod.mk.inj (Option.some.inj cut)
      simp
    · have shorter := inductionHypothesis cut
      simp only [List.length_cons]
      omega

/-- A comment ends at two hyphens that are not those of its beginning. -/
def endsComment : List Char → Bool
  | '-' :: '-' :: _ :: _ :: _ :: _ => true
  | _ => false

/-- A section of character data ends at two brackets. -/
def endsSection : List Char → Bool
  | ']' :: ']' :: _ => true
  | _ => false

/-- A document type declaration ends where its angle brackets are balanced. -/
def endsDoctype (before : List Char) : Bool := before.count '<' == before.count '>'

/-- The characters before and after the first `>` of a tag that is not inside a quoted value. -/
def cutTag (quote : Option Char) (before : List Char) :
    List Char → Option (List Char × List Char)
  | [] => none
  | c :: rest =>
    match quote with
    | some mark => cutTag (if c == mark then none else quote) (c :: before) rest
    | none =>
      if c == '>' then some (before.reverse, rest)
      else cutTag (if c == '"' || c == '\'' then some c else none) (c :: before) rest

/-- Where a tag is cut, less than all is left. -/
theorem length_of_cutTag {quote : Option Char} {before chars inside rest : List Char}
    (cut : cutTag quote before chars = some (inside, rest)) : rest.length < chars.length := by
  induction chars generalizing quote before with
  | nil => simp [cutTag] at cut
  | cons c more inductionHypothesis =>
    unfold cutTag at cut
    split at cut
    · have shorter := inductionHypothesis cut
      simp only [List.length_cons]
      omega
    · split at cut
      · obtain ⟨-, rfl⟩ := Prod.mk.inj (Option.some.inj cut)
        simp
      · have shorter := inductionHypothesis cut
        simp only [List.length_cons]
        omega

/-! ### Tokens of one piece of markup -/

/-- The characters are the same apart from the case of ASCII letters. -/
def agreeUpToCase (left right : List Char) : Bool := left.map Char.toUpper == right.map Char.toUpper

/-- What follows a beginning, which may be written in either case. -/
def afterKeyword? (keyword : String) (chars : List Char) : Option (List Char) :=
  if agreeUpToCase (chars.take keyword.length) keyword.toList then some (chars.drop keyword.length)
  else none

/-- The token of a comment, given what stands between the angle brackets. -/
def ofComment (inside : List Char) : Except SyntaxFault Token :=
  match inside with
  | '!' :: '-' :: '-' :: text => .ok (.comment (.ofList (text.take (text.length - 2))))
  | _ => .error .openComment

/-- The token of a section of character data. -/
def ofSection (inside : List Char) : Except SyntaxFault Token :=
  match afterKeyword? "![CDATA[" (inside.take (inside.length - 2)) with
  | some text => .ok (.characterData (.ofList text))
  | none => .error .openSection

/-- The token of a document type declaration. -/
def ofDoctype (inside : List Char) : Except SyntaxFault Token :=
  match afterKeyword? "!DOCTYPE" inside with
  | some text =>
    if text.all Text.isMarkupBlank then .error .emptyDoctype
    else .ok (.doctype (Text.trim (.ofList text)))
  | none => .error .openDoctype

/-- The token of a processing instruction. One with the target `xml` and something behind it is the
declaration of the document. -/
def ofInstruction (inside : List Char) : Except SyntaxFault Token :=
  match inside with
  | '?' :: first :: more =>
    if more.getLast? == some '?' then
      match first :: more.dropLast with
      | 'x' :: 'm' :: 'l' :: blank :: rest =>
        if Text.isMarkupBlank blank then .ok (.declaration (blank :: rest))
        else .ok (.instruction (.ofList (first :: more.dropLast)))
      | content => .ok (.instruction (.ofList content))
    else .error .openInstruction
  | _ => .error .openInstruction

/-- What stands in a tag. -/
def RawTag.ofChars (inside : List Char) : RawTag :=
  ⟨.ofList (inside.takeWhile fun c => !Text.isMarkupBlank c),
    inside.dropWhile fun c => !Text.isMarkupBlank c⟩

/-- The token of a start tag, or of an empty element if it ends with a slash. -/
def ofStartTag (inside : List Char) : Token :=
  if inside.getLast? == some '/' then .emptyTag (RawTag.ofChars inside.dropLast)
  else .startTag (RawTag.ofChars inside)

/-- The token of an end tag. Blanks behind the name do not count unless there is nothing else. -/
def ofEndTag (inside : List Char) : Token :=
  match inside.reverse.dropWhile Text.isMarkupBlank with
  | [] => .endTag (.ofList inside)
  | name => .endTag (.ofList name.reverse)

/-! ### Cutting -/

/-- A token and the characters behind it. -/
abbrev Cut := Token × List Char

/-- The token of a piece of markup that is cut where it ends, if it does. -/
def cutMarkup (fault : SyntaxFault) (token : List Char → Except SyntaxFault Token)
    (cut : Option (List Char × List Char)) : Except SyntaxFault Cut :=
  match cut with
  | none => .error fault
  | some (inside, rest) => (token inside).map fun token => (token, rest)

/-- The piece of markup behind `<!`, which is among the characters. -/
def cutDeclaration (chars : List Char) : Except SyntaxFault Cut :=
  match chars with
  | '!' :: '-' :: _ => cutMarkup .openComment ofComment (cutWhere endsComment [] chars)
  | '!' :: '[' :: _ => cutMarkup .openSection ofSection (cutWhere endsSection [] chars)
  | '!' :: 'D' :: _ | '!' :: 'd' :: _ =>
    cutMarkup .openDoctype ofDoctype (cutWhere endsDoctype [] chars)
  | _ => .error .unknownMarkup

/-- The piece of markup behind `<`. Instructions and end tags may also end with the document. -/
def cutPiece (chars : List Char) : Except SyntaxFault Cut :=
  match chars with
  | '!' :: _ => cutDeclaration chars
  | '/' :: inside =>
    .ok (ofEndTag (inside.takeWhile (· != '>')), (inside.dropWhile (· != '>')).drop 1)
  | '?' :: _ =>
    cutMarkup .openInstruction ofInstruction
      (some (chars.takeWhile (· != '>'), (chars.dropWhile (· != '>')).drop 1))
  | _ => cutMarkup .openTag (fun inside => .ok (ofStartTag inside)) (cutTag none [] chars)

/-- The first token. There is none if nothing is left, or nothing behind a `<`. -/
def firstToken? (chars : List Char) : Option (Except SyntaxFault Cut) :=
  match chars with
  | [] => none
  | ['<'] => none
  | '<' :: piece => some (cutPiece piece)
  | text => some (.ok (.text (text.takeWhile (· != '<')), text.dropWhile (· != '<')))

/-- What is dropped from a list does not make it longer. -/
theorem length_dropWhile_le (holds : Char → Bool) (chars : List Char) :
    (chars.dropWhile holds).length ≤ chars.length :=
  (List.dropWhile_sublist holds).length_le

/-- Where a piece of markup is cut, it leaves what the cut left. -/
theorem rest_of_cutMarkup {fault : SyntaxFault} {make : List Char → Except SyntaxFault Token}
    {cut : Option (List Char × List Char)} {token : Token} {rest : List Char}
    (done : cutMarkup fault make cut = .ok (token, rest)) :
    ∃ inside, cut = some (inside, rest) := by
  unfold cutMarkup at done
  split at done
  · exact absurd done (by simp)
  · next inside more =>
    cases made : make inside with
    | error cause => simp [made, Except.map] at done
    | ok other =>
      simp only [made, Except.map, Except.ok.injEq, Prod.mk.injEq] at done
      exact ⟨inside, by rw [done.2]⟩

/-- A piece of markup leaves no more than there was. -/
theorem length_of_cutPiece {chars rest : List Char} {token : Token}
    (done : cutPiece chars = .ok (token, rest)) : rest.length ≤ chars.length := by
  unfold cutPiece at done
  split at done
  · unfold cutDeclaration at done
    split at done
    · obtain ⟨inside, cut⟩ := rest_of_cutMarkup done
      exact Nat.le_of_lt (length_of_cutWhere cut)
    · obtain ⟨inside, cut⟩ := rest_of_cutMarkup done
      exact Nat.le_of_lt (length_of_cutWhere cut)
    · obtain ⟨inside, cut⟩ := rest_of_cutMarkup done
      exact Nat.le_of_lt (length_of_cutWhere cut)
    · obtain ⟨inside, cut⟩ := rest_of_cutMarkup done
      exact Nat.le_of_lt (length_of_cutWhere cut)
    · exact absurd done (by simp)
  · next inside =>
    simp only [Except.ok.injEq, Prod.mk.injEq] at done
    obtain ⟨-, rfl⟩ := done
    have dropped := length_dropWhile_le (· != '>') inside
    simp only [List.length_drop, List.length_cons]
    omega
  · next inside =>
    obtain ⟨content, cut⟩ := rest_of_cutMarkup done
    obtain ⟨-, rfl⟩ := Prod.mk.inj (Option.some.inj cut)
    have dropped := length_dropWhile_le (· != '>') ('?' :: inside)
    simp only [List.length_drop]
    omega
  · obtain ⟨inside, cut⟩ := rest_of_cutMarkup done
    exact Nat.le_of_lt (length_of_cutTag cut)

/-- A token takes at least one character. -/
theorem length_of_firstToken? {chars rest : List Char} {token : Token}
    (found : firstToken? chars = some (.ok (token, rest))) : rest.length < chars.length := by
  unfold firstToken? at found
  split at found
  · exact absurd found (by simp)
  · exact absurd found (by simp)
  · next piece nonempty =>
    have cut := length_of_cutPiece (Option.some.inj found)
    simp only [List.length_cons]
    omega
  · next notEmpty notLone notMarkup =>
    simp only [Option.some.injEq, Except.ok.injEq, Prod.mk.injEq] at found
    obtain ⟨-, rfl⟩ := found
    cases chars with
    | nil => exact absurd rfl notEmpty
    | cons c more =>
      have differs : (c != '<') = true := by
        simp only [bne_iff_ne, ne_eq]
        intro equal
        exact notMarkup more (by rw [equal])
      have dropped := length_dropWhile_le (· != '<') more
      simp only [List.dropWhile_cons, differs, if_true, List.length_cons]
      omega

/-- The tokens of a document in order, as far as they can be cut, and what is wrong behind them. -/
def tokens (chars : List Char) : List Token × Option SyntaxFault :=
  match found : firstToken? chars with
  | none => ([], none)
  | some (.error fault) => ([], some fault)
  | some (.ok (token, rest)) =>
    have _shorter := length_of_firstToken? found
    let (more, fault) := tokens rest
    (token :: more, fault)
termination_by chars.length

end SchemaAssessment.Markup
