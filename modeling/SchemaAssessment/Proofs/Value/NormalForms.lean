/-
The normal forms of a text under the modes of white space. Collapsing leaves of a text its
words, which are its only maximal runs of characters between blanks, and nothing else. The
collapsed texts are just the tokens, and the replaced ones the texts without line breaks and
tabs. So to a type that collapses, texts with the same words are one text.
-/

import SchemaAssessment.Proofs.Text.Pieces
import SchemaAssessment.Proofs.Value.Derivation
import SchemaAssessment.Proofs.Value.WhiteSpace

namespace SchemaAssessment

/-! ### Maximal runs -/

namespace Text

variable {isSeparator : Char → Bool} {words : List (List Char)} {chars : List Char}

/-- The maximal runs of characters that are no separators, in their order. Behind a run the text
ends or has a separator, so that no two runs touch. -/
inductive AreRuns (isSeparator : Char → Bool) : List (List Char) → List Char → Prop where
  | nothing : AreRuns isSeparator [] []
  | separator {words : List (List Char)} {c : Char} {rest : List Char}
      (separates : isSeparator c = true) (ofRest : AreRuns isSeparator words rest) :
      AreRuns isSeparator words (c :: rest)
  | word {words : List (List Char)} {word rest : List Char} (isWord : IsWord isSeparator word)
      (ends : ∀ c ∈ rest.head?, isSeparator c = true) (ofRest : AreRuns isSeparator words rest) :
      AreRuns isSeparator (word :: words) (word ++ rest)

/-- A character in front that is no separator makes a word of its own, or lengthens the first. -/
theorem AreRuns.exists_cons {c : Char} (areRuns : AreRuns isSeparator words chars)
    (isNone : isSeparator c = false) : ∃ words, AreRuns isSeparator words (c :: chars) := by
  have alone : IsWord isSeparator [c] := ⟨by nofun, List.forall_mem_singleton.mpr isNone⟩
  cases areRuns with
  | nothing => exact ⟨[[c]], .word alone nofun .nothing⟩
  | separator separates ofRest =>
    refine ⟨[c] :: words, .word alone (fun d first => ?_) (.separator separates ofRest)⟩
    rwa [← Option.some.inj first]
  | word isWord ends ofRest =>
    exact ⟨_, .word ⟨by nofun, List.forall_mem_cons.mpr ⟨isNone, isWord.2⟩⟩ ends ofRest⟩

theorem exists_areRuns (isSeparator : Char → Bool) (chars : List Char) :
    ∃ words, AreRuns isSeparator words chars := by
  induction chars with
  | nil => exact ⟨[], .nothing⟩
  | cons c rest ofRest =>
    obtain ⟨words, areRuns⟩ := ofRest
    cases separates : isSeparator c with
    | true => exact ⟨words, .separator separates areRuns⟩
    | false => exact areRuns.exists_cons separates

theorem AreRuns.runs_eq (areRuns : AreRuns isSeparator words chars) :
    runs isSeparator chars = words := by
  induction areRuns with
  | nothing => rfl
  | separator separates _ cut => rw [runs_cons_separator _ separates, cut]
  | @word words word rest isWord ends _ cut =>
    -- Only a separator can come behind the word, so that it is cut off right there.
    cases rest with
    | nil =>
      rw [List.append_nil, runs_of_isWord isWord, ← cut]
      rfl
    | cons c rest =>
      have separates : isSeparator c = true := ends c rfl
      rw [runs_append_separator word rest separates, runs_of_isWord isWord,
        ← runs_cons_separator rest separates, cut, List.singleton_append]

/-- There are no other maximal runs than those that a text is cut into. -/
theorem areRuns_iff : AreRuns isSeparator words chars ↔ runs isSeparator chars = words := by
  refine ⟨AreRuns.runs_eq, ?_⟩
  rintro rfl
  obtain ⟨words, areRuns⟩ := exists_areRuns isSeparator chars
  rwa [areRuns.runs_eq]

end Text

namespace WhiteSpace

/-- The words of a text: its maximal runs of characters that are no blanks of markup. -/
def AreWords (words : List String) (text : String) : Prop :=
  Text.AreRuns Text.isMarkupBlank (words.map String.toList) text.toList

theorem areWords_iff {words : List String} {text : String} :
    AreWords words text ↔ markupWords text = words := by
  rw [AreWords, Text.areRuns_iff, markupWords]
  constructor
  · intro cut
    rw [cut, List.map_map]
    exact List.map_id'' (fun word => String.ofList_toList) _
  · rintro rfl
    rw [List.map_map]
    exact (List.map_id'' (fun word => String.toList_ofList) _).symm

/-! ### Replaced and collapsed texts -/

namespace Collapsing

/-- Collapsing does not tell one blank from another. -/
theorem push_space (state : Collapsing) (c : Char) :
    state.push (if Text.isMarkupBlank c then ' ' else c) = state.push c := by
  split
  · next blank =>
    rw [push, push, if_pos blank]
    rfl
  · rfl

/-- Where single spaces stand between words, collapsing keeps every character. -/
theorem kept_foldl {chars : List Char} (noBreak : ∀ c ∈ chars, Datatype.isBreak c = false)
    (single : Text.occursIn [' ', ' '] chars = false) (state : Collapsing)
    (begins : state.afterSpace = true → chars.head? ≠ some ' ') :
    (chars.foldl push state).kept = chars.reverse ++ state.kept := by
  induction chars generalizing state with
  | nil => rfl
  | cons c rest ofRest =>
    obtain ⟨ofFirst, ofLater⟩ := List.forall_mem_cons.mp noBreak
    obtain ⟨here, later⟩ := Bool.or_eq_false_iff.mp single
    -- Behind a space that was kept no other one comes, for the two would stand together.
    have pushed : (state.push c).kept = c :: state.kept ∧
        ((state.push c).afterSpace = true → rest.head? ≠ some ' ') := by
      by_cases isSpace : c = ' '
      · subst isSpace
        have inWord : state.afterSpace = false :=
          Bool.eq_false_iff.mpr fun afterSpace => begins afterSpace rfl
        rw [push_of_inWord rfl inWord]
        refine ⟨rfl, fun _ doubled => ?_⟩
        obtain ⟨more, rfl⟩ := List.head?_eq_some_iff.mp doubled
        cases here
      · have unblank : Text.isMarkupBlank c = false :=
          Text.isMarkupBlank_eq_false.mpr ⟨beq_eq_false_iff_ne.mpr isSpace, ofFirst⟩
        rw [push_of_unblank unblank]
        exact ⟨rfl, nofun⟩
    rw [List.foldl_cons, ofRest ofLater later _ pushed.2, pushed.1, List.reverse_cons,
      List.append_assoc, List.singleton_append]

end Collapsing

theorem collapse_replace (text : String) :
    collapse.normalize (replace.normalize text) = collapse.normalize text := by
  simp only [normalize, String.toList_map, List.foldl_map, Collapsing.push_space]

end WhiteSpace

namespace Datatype

open WhiteSpace (collapse replace)

variable {text : String} {scopes : NamespaceScopes}

/-- Replacing changes nothing else than line breaks and tabs, and leaves none of them. -/
theorem isNormalizedString_iff :
    isNormalizedString text = true ↔ ∃ source, replace.normalize source = text := by
  rw [isNormalizedString_eq_true]
  constructor
  · intro noBreak
    refine ⟨text, ?_⟩
    rw [← String.toList_inj, WhiteSpace.normalize, String.toList_map]
    refine (List.map_congr_left fun c member => ?_).trans (List.map_id _)
    rw [Text.isMarkupBlank_eq, noBreak c member, Bool.or_false]
    split
    · next same => exact (eq_of_beq same).symm
    · rfl
  · rintro ⟨source, rfl⟩
    rw [WhiteSpace.normalize, String.toList_map, List.forall_mem_map]
    intro c _
    split
    · rfl
    · next unblank =>
      exact (Text.isMarkupBlank_eq_false.mp (Bool.eq_false_iff.mpr unblank)).2

/-! ### Tokens -/

/-- Pieces between spaces none of which is empty make a token. -/
theorem isToken_of_splitOn (noBreak : isNormalizedString text = true)
    (full : [] ∉ text.toList.splitOn ' ') : isToken text = true := by
  simp only [isToken, noBreak, Bool.true_and, Bool.and_eq_true, bne_iff_ne, Bool.not_eq_true',
    ne_eq]
  refine ⟨⟨fun first => full (Text.nil_mem_splitOn_of_head? first), fun last => full ?_⟩, ?_⟩
  · obtain ⟨front, same⟩ := List.getLast?_eq_some_iff.mp last
    have cut : text.toList.splitOn ' ' = front.splitOn ' ' ++ [[]] := by
      rw [same]
      exact List.splitOnP_append_cons front [] (by rfl)
    rw [cut]
    exact List.mem_append_right _ (List.mem_singleton.mpr rfl)
  · by_contra doubled
    exact full (List.mem_of_mem_tail
      (Text.nil_mem_splitOn_of_occursIn (Bool.not_eq_false _ ▸ doubled)))

theorem isNormalizedString_collapse (text : String) :
    isNormalizedString (collapse.normalize text) = true := by
  rw [isNormalizedString_eq_true, WhiteSpace.toList_collapse]
  intro c member
  by_contra breaks
  have differs : c ≠ ' ' := by
    rintro rfl
    exact breaks rfl
  refine Text.not_mem_intercalate differs (fun word inside within => ?_) member
  have unblank := (Text.isWord_of_mem_runs inside).2 c within
  exact breaks (Text.isMarkupBlank_eq_false.mp unblank).2

/-- The words of a text stand between the spaces of the collapsed text. -/
theorem isToken_collapse (text : String) : isToken (collapse.normalize text) = true := by
  have chars := WhiteSpace.toList_collapse text
  have isWord : ∀ word ∈ Text.runs Text.isMarkupBlank text.toList,
      Text.IsWord Text.isMarkupBlank word := fun word => Text.isWord_of_mem_runs
  cases words : Text.runs Text.isMarkupBlank text.toList with
  | nil =>
    rw [words] at chars
    rw [String.toList_eq_nil_iff.mp chars]
    decide
  | cons first later =>
    rw [words] at chars isWord
    have pieces : (collapse.normalize text).toList.splitOn ' ' = first :: later := by
      rw [chars]
      refine Text.splitOnP_intercalate (by rfl) fun word member c inside => ?_
      exact (Text.isMarkupBlank_eq_false.mp ((isWord word member).2 c inside)).1
    refine isToken_of_splitOn (isNormalizedString_collapse text) ?_
    rw [pieces]
    exact fun empty => (isWord [] empty).1 rfl

/-- The tokens are the collapsed texts. -/
theorem isToken_iff : isToken text = true ↔ ∃ source, collapse.normalize source = text := by
  refine ⟨fun isToken => ⟨text, ?_⟩, fun ⟨source, same⟩ => same ▸ isToken_collapse source⟩
  simp only [Datatype.isToken, Bool.and_eq_true, bne_iff_ne, Bool.not_eq_true'] at isToken
  obtain ⟨⟨⟨noBreak, first⟩, last⟩, single⟩ := isToken
  have kept := WhiteSpace.Collapsing.kept_foldl (isNormalizedString_eq_true.mp noBreak) single {}
    fun _ => first
  rw [List.append_nil] at kept
  rw [WhiteSpace.normalize, WhiteSpace.Collapsing.chars_of_getLast?, kept, List.reverse_reverse,
    String.ofList_toList]
  rwa [kept, List.reverse_reverse]

theorem parse_token_eq_ok {value : Value} :
    Datatype.token.parse scopes text = .ok value ↔
      (∃ source, collapse.normalize source = text) ∧ value = .string text := by
  rw [← isToken_iff, eq_comm (a := value)]
  exact acceptIf_eq_ok

theorem parse_normalizedString_eq_ok {value : Value} :
    Datatype.normalizedString.parse scopes text = .ok value ↔
      (∃ source, replace.normalize source = text) ∧ value = .string text := by
  rw [← isNormalizedString_iff, eq_comm (a := value)]
  exact acceptIf_eq_ok

end Datatype

/-! ### Simple types -/

namespace SimpleType

open WhiteSpace (AreWords areWords_iff)

/-- A type that collapses reads nothing of a text but its words. -/
theorem validate_of_areWords {type : SimpleType} {text other : String} {words : List String}
    (collapses : type.whiteSpace = .collapse) (ofText : AreWords words text)
    (ofOther : AreWords words other) (scopes : NamespaceScopes) :
    type.validate scopes text = type.validate scopes other := by
  have same : type.normalize text = type.normalize other := by
    rw [normalize, normalize, collapses, WhiteSpace.normalize_collapse,
      WhiteSpace.normalize_collapse, areWords_iff.mp ofText, areWords_iff.mp ofOther]
  rw [validate, validate, same]

/-- White space has one normal form under each mode. Collapsing leaves the maximal runs of
characters that are no blanks, with single spaces between them, whether or not the blanks were
replaced before; the collapsed texts are those that are tokens, and the replaced ones those
without line breaks and tabs. A type reads a text as it reads its normal form, and if it collapses,
it reads texts with the same words alike. -/
theorem normalizes_canonically (text : String) :
    ((∃! words, AreWords words text) ∧ ∀ words, AreWords words text →
        WhiteSpace.collapse.normalize text = " ".intercalate words) ∧
      (∀ mode : WhiteSpace, mode.normalize (mode.normalize text) = mode.normalize text) ∧
      WhiteSpace.collapse.normalize (WhiteSpace.replace.normalize text) =
        WhiteSpace.collapse.normalize text ∧
      (∀ scopes value, Datatype.token.parse scopes text = .ok value ↔
        (∃ source, WhiteSpace.collapse.normalize source = text) ∧ value = .string text) ∧
      (∀ scopes value, Datatype.normalizedString.parse scopes text = .ok value ↔
        (∃ source, WhiteSpace.replace.normalize source = text) ∧ value = .string text) ∧
      ∀ (type : SimpleType) (scopes : NamespaceScopes),
        type.validate scopes (type.normalize text) = type.validate scopes text ∧
          (type.whiteSpace = .collapse → ∀ words other, AreWords words text →
            AreWords words other → type.validate scopes text = type.validate scopes other) := by
  refine ⟨⟨⟨WhiteSpace.markupWords text, areWords_iff.mpr rfl, fun words ofText => ?_⟩,
    fun words ofText => ?_⟩, fun mode => mode.normalize_normalize text,
    WhiteSpace.collapse_replace text, fun scopes value => Datatype.parse_token_eq_ok,
    fun scopes value => Datatype.parse_normalizedString_eq_ok,
    fun type scopes => ⟨type.validate_normalize scopes text, ?_⟩⟩
  · exact (areWords_iff.mp ofText).symm
  · rw [WhiteSpace.normalize_collapse, areWords_iff.mp ofText]
  · intro collapses words other ofText ofOther
    exact validate_of_areWords collapses ofText ofOther scopes

/-- A list of at most two switches, each of them a truth value or the word "auto". -/
def twoSwitches : SimpleType :=
  .mk none none (.list (unionOf none [ofDatatype .boolean,
    restriction none (ofDatatype .token) { enumeration := ["auto"] }])) { maxLength := some 2 }

theorem normalizes_canonically_twoSwitches :
    twoSwitches.whiteSpace = .collapse ∧
      AreWords ["1", "auto"] "\t1\r\n auto " ∧ AreWords ["1", "auto"] "1 auto" ∧
      WhiteSpace.collapse.normalize "\t1\r\n auto " = "1 auto" ∧
      twoSwitches.validate .initial "\t1\r\n auto " =
        .ok (.list [.boolean true, .string "auto"]) := by
  have spread : AreWords ["1", "auto"] "\t1\r\n auto " := areWords_iff.mpr (by decide +kernel)
  have plain : AreWords ["1", "auto"] "1 auto" := areWords_iff.mpr (by decide +kernel)
  have read : twoSwitches.validate .initial "1 auto" =
      .ok (.list [.boolean true, .string "auto"]) := by rfl
  obtain ⟨⟨-, collapsed⟩, -, -, -, -, ofTypes⟩ := normalizes_canonically "\t1\r\n auto "
  have alike := (ofTypes twoSwitches .initial).2 rfl _ _ spread plain
  exact ⟨rfl, spread, plain, (collapsed _ spread).trans (by decide +kernel), alike.trans read⟩

end SimpleType

end SchemaAssessment
