/-
What a type does with the blanks of a text, it does once: a text that has been brought to
a mode of white space is left as it is by that mode. So a text and its normal form are
read alike, and a type accepts both or neither. Collapsing goes through a text character by
character; at every place it has made the words before that place, with single spaces
between them, and what is left of the whole text are its words.
-/

import Mathlib.Data.List.Basic
import Mathlib.Data.List.Induction
import SchemaAssessment.Proofs.Value.Sameness
import SchemaAssessment.SimpleType.Basic

namespace SchemaAssessment

/-! ### Words -/

namespace Text

variable {isSeparator : Char → Bool} {separator : Char}

/-- No piece of a text holds a separator. -/
theorem splitOnP_apart {chars piece : List Char} (member : piece ∈ chars.splitOnP isSeparator) :
    ∀ c ∈ piece, isSeparator c = false := by
  induction chars generalizing piece with
  | nil =>
    obtain rfl := List.mem_singleton.mp member
    nofun
  | cons c rest ofRest =>
    rw [List.splitOnP_cons_eq_if_modifyHead] at member
    cases separates : isSeparator c with
    | true =>
      rw [if_pos separates] at member
      rcases List.mem_cons.mp member with rfl | later
      · nofun
      · exact ofRest later
    | false =>
      rw [if_neg (Bool.eq_false_iff.mp separates)] at member
      cases cut : rest.splitOnP isSeparator with
      | nil => exact absurd cut (List.splitOnP_ne_nil isSeparator rest)
      | cons first others =>
        rw [cut, List.modifyHead_cons] at member
        rw [cut] at ofRest
        rcases List.mem_cons.mp member with rfl | later
        · exact List.forall_mem_cons.mpr ⟨separates, ofRest List.mem_cons_self⟩
        · exact ofRest (List.mem_cons_of_mem first later)

/-- A word: it holds something, and no separator. -/
def IsWord (isSeparator : Char → Bool) (word : List Char) : Prop :=
  word ≠ [] ∧ ∀ c ∈ word, isSeparator c = false

theorem isWord_of_mem_runs {chars word : List Char} (member : word ∈ runs isSeparator chars) :
    IsWord isSeparator word := by
  obtain ⟨inside, filled⟩ := List.mem_filter.mp member
  refine ⟨fun nothing => ?_, splitOnP_apart inside⟩
  rw [nothing] at filled
  cases filled

/-- Pieces that hold no separator are found again between the separators that they are put together
with. -/
theorem splitOnP_intercalate (separates : isSeparator separator = true) {first : List Char}
    {later : List (List Char)}
    (each : ∀ piece ∈ first :: later, ∀ c ∈ piece, isSeparator c = false) :
    ([separator].intercalate (first :: later)).splitOnP isSeparator = first :: later := by
  induction later generalizing first with
  | nil =>
    rw [List.intercalate_singleton, List.splitOnP_eq_singleton (each first List.mem_cons_self)]
  | cons second later ofLater =>
    obtain ⟨here, there⟩ := List.forall_mem_cons.mp each
    rw [List.intercalate_cons_cons, List.append_assoc, List.singleton_append,
      List.splitOnP_append_cons_of_forall_mem here separator separates, ofLater there]

/-- Of pieces that are put together with separators those are found again that hold something. -/
theorem runs_intercalate_pieces (separates : isSeparator separator = true)
    {pieces : List (List Char)} (each : ∀ piece ∈ pieces, ∀ c ∈ piece, isSeparator c = false) :
    runs isSeparator ([separator].intercalate pieces) = pieces.filter (!·.isEmpty) := by
  cases pieces with
  | nil => rfl
  | cons first later => rw [runs, splitOnP_intercalate separates each]

/-- Words that are put together with separators are found again. -/
theorem runs_intercalate (separates : isSeparator separator = true) {words : List (List Char)}
    (each : ∀ word ∈ words, IsWord isSeparator word) :
    runs isSeparator ([separator].intercalate words) = words := by
  rw [runs_intercalate_pieces separates fun word member => (each word member).2,
    List.filter_eq_self]
  intro word member
  rw [List.isEmpty_eq_false_iff.mpr (each word member).1]
  rfl

/-- Across a separator no run goes on. -/
theorem runs_append_separator (before rest : List Char)
    (separates : isSeparator separator = true) :
    runs isSeparator (before ++ separator :: rest) =
      runs isSeparator before ++ runs isSeparator rest := by
  rw [runs, List.splitOnP_append_cons before rest separates, List.filter_append]
  rfl

theorem runs_cons_separator (rest : List Char) (separates : isSeparator separator = true) :
    runs isSeparator (separator :: rest) = runs isSeparator rest :=
  runs_append_separator [] rest separates

/-- What holds no separator is one run, if it holds anything. -/
theorem runs_of_apart {chars : List Char} (apart : ∀ c ∈ chars, isSeparator c = false) :
    runs isSeparator chars = if chars = [] then [] else [chars] := by
  rw [runs, List.splitOnP_eq_singleton apart]
  cases chars <;> rfl

theorem runs_of_isWord {word : List Char} (isWord : IsWord isSeparator word) :
    runs isSeparator word = [word] := by
  rw [runs_of_apart isWord.2, if_neg isWord.1]

/-- Of words that are put together each but the last has the separator behind it. -/
theorem intercalate_concat (separator : Char) (words : List (List Char)) (last : List Char) :
    [separator].intercalate (words ++ [last]) = words.flatMap (· ++ [separator]) ++ last := by
  induction words with
  | nil => exact List.intercalate_singleton
  | cons word words ofWords =>
    have filled : words ++ [last] ≠ [] := List.append_ne_nil_of_right_ne_nil words (by nofun)
    rw [List.cons_append, List.intercalate_cons_of_ne_nil filled, ofWords, List.flatMap_cons,
      List.append_assoc _ _ last]

end Text

/-! ### Collapsing -/

namespace WhiteSpace

namespace Collapsing

open Text (isMarkupBlank runs_append_separator runs_cons_separator runs_of_apart runs_of_isWord
  intercalate_concat)

variable {state : Collapsing} {read begun : List Char} {ended : List (List Char)} {c : Char}

/-- What collapsing has made of the characters read so far: the words that a blank has ended, each
with a space behind it, and the word that has begun. What follows is cut as if only that word
stood before it. -/
structure Holds (state : Collapsing) (read : List Char) (ended : List (List Char))
    (begun : List Char) : Prop where
  kept : state.kept.reverse = ended.flatMap (· ++ [' ']) ++ begun
  afterSpace : state.afterSpace = begun.isEmpty
  unblank : ∀ c ∈ begun, isMarkupBlank c = false
  runs : ∀ rest, Text.runs isMarkupBlank (read ++ rest) =
    ended ++ Text.runs isMarkupBlank (begun ++ rest)

theorem Holds.start : Holds {} [] [] [] where
  kept := rfl
  afterSpace := rfl
  unblank := nofun
  runs _ := rfl

/-- A character that is no blank goes on with the word that has begun, or begins one. -/
theorem Holds.push_of_unblank (holds : state.Holds read ended begun)
    (unblank : isMarkupBlank c = false) :
    (state.push c).Holds (read ++ [c]) ended (begun ++ [c]) := by
  rw [Collapsing.push_of_unblank unblank]
  constructor
  case kept => rw [List.reverse_cons, holds.kept, List.append_assoc]
  case afterSpace => cases begun <;> rfl
  case unblank =>
    exact List.forall_mem_append.mpr ⟨holds.unblank, List.forall_mem_singleton.mpr unblank⟩
  case runs =>
    intro rest
    rw [List.append_assoc, holds.runs, List.append_assoc]

/-- A blank behind another one, or at the beginning, changes nothing. -/
theorem Holds.push_between (holds : state.Holds read ended []) (blank : isMarkupBlank c = true) :
    (state.push c).Holds (read ++ [c]) ended [] := by
  rw [push_of_afterSpace blank holds.afterSpace]
  refine { holds with runs := fun rest => ?_ }
  rw [List.append_assoc, holds.runs]
  exact congrArg (ended ++ ·) (runs_cons_separator rest blank)

/-- A blank ends the word that has begun. -/
theorem Holds.push_behind (holds : state.Holds read ended begun) (filled : begun ≠ [])
    (blank : isMarkupBlank c = true) :
    (state.push c).Holds (read ++ [c]) (ended ++ [begun]) [] := by
  rw [push_of_inWord blank (holds.afterSpace.trans (List.isEmpty_eq_false_iff.mpr filled))]
  constructor
  case kept =>
    rw [List.reverse_cons, holds.kept, List.flatMap_append, List.flatMap_singleton,
      List.append_nil, List.append_assoc]
  case afterSpace => rfl
  case unblank => nofun
  case runs =>
    intro rest
    rw [List.append_assoc, holds.runs, List.singleton_append, runs_append_separator _ _ blank,
      runs_of_isWord ⟨filled, holds.unblank⟩, List.append_assoc, List.nil_append]

theorem Holds.push (holds : state.Holds read ended begun) (c : Char) :
    ∃ ended begun, (state.push c).Holds (read ++ [c]) ended begun := by
  cases isBlank : isMarkupBlank c with
  | false => exact ⟨ended, begun ++ [c], holds.push_of_unblank isBlank⟩
  | true =>
    by_cases filled : begun = []
    · subst filled
      exact ⟨ended, [], holds.push_between isBlank⟩
    · exact ⟨ended ++ [begun], [], holds.push_behind filled isBlank⟩

theorem exists_holds (read : List Char) :
    ∃ ended begun, (read.foldl Collapsing.push {}).Holds read ended begun := by
  -- The last character comes off first, since the characters before it made the state it meets.
  induction read using List.reverseRecOn with
  | nil => exact ⟨[], [], .start⟩
  | append_singleton read c ofRead =>
    obtain ⟨ended, begun, holds⟩ := ofRead
    rw [List.foldl_append]
    exact holds.push c

theorem chars_of_concat {front : List Char} (kept : state.kept.reverse = front ++ [' ']) :
    state.chars = front := by
  rw [Collapsing.chars, kept, List.getLast?_concat, List.dropLast_concat]
  rfl

theorem chars_of_getLast? (last : ' ' ∉ state.kept.reverse.getLast?) :
    state.chars = state.kept.reverse :=
  if_neg fun same => last (eq_of_beq same)

/-- Behind the last word that has ended a space stands, which is dropped. -/
theorem Holds.chars_between (holds : state.Holds read ended []) :
    state.chars = [' '].intercalate ended := by
  have kept := holds.kept
  rw [List.append_nil] at kept
  obtain rfl | ⟨before, last, rfl⟩ := List.eq_nil_or_concat' ended
  · rw [chars_of_getLast? (by rw [kept]; nofun), kept]
    rfl
  · rw [intercalate_concat]
    refine chars_of_concat ?_
    rw [kept, List.flatMap_append, List.flatMap_singleton, List.append_assoc]

theorem Holds.chars_inWord (holds : state.Holds read ended begun) (filled : begun ≠ []) :
    state.chars = [' '].intercalate (ended ++ [begun]) := by
  rw [intercalate_concat, ← holds.kept]
  refine chars_of_getLast? fun last => ?_
  rw [holds.kept, List.getLast?_append, List.getLast?_eq_some_getLast filled,
    Option.some_or] at last
  have inWord : ' ' ∈ begun := Option.some.inj last ▸ List.getLast_mem filled
  exact absurd (holds.unblank ' ' inWord) (by decide)

/-- What is left of a text are its words, with single spaces between them. -/
theorem Holds.chars (holds : state.Holds read ended begun) :
    state.chars = [' '].intercalate (Text.runs isMarkupBlank read) := by
  have cut := holds.runs []
  rw [List.append_nil, List.append_nil, runs_of_apart holds.unblank] at cut
  by_cases filled : begun = []
  · subst filled
    rw [cut, if_pos rfl, List.append_nil, holds.chars_between]
  · rw [cut, if_neg filled, holds.chars_inWord filled]

end Collapsing

theorem toList_intercalate_markupWords (text : String) :
    (" ".intercalate (markupWords text)).toList =
      [' '].intercalate (Text.runs Text.isMarkupBlank text.toList) := by
  rw [String.toList_intercalate, markupWords, List.map_map]
  congr 1
  exact List.map_id'' (fun word => String.toList_ofList) _

/-- Collapsing leaves the words of a text, with single spaces between them. -/
theorem normalize_collapse (text : String) :
    collapse.normalize text = " ".intercalate (markupWords text) := by
  obtain ⟨ended, begun, holds⟩ := Collapsing.exists_holds text.toList
  rw [normalize, holds.chars, ← String.toList_inj, String.toList_ofList,
    toList_intercalate_markupWords]

theorem toList_collapse (text : String) : (collapse.normalize text).toList =
    [' '].intercalate (Text.runs Text.isMarkupBlank text.toList) := by
  rw [normalize_collapse, toList_intercalate_markupWords]

/-! ### Modes -/

theorem markupWords_intercalate (text : String) :
    markupWords (" ".intercalate (markupWords text)) = markupWords text := by
  rw [markupWords, toList_intercalate_markupWords,
    Text.runs_intercalate (by decide) fun word => Text.isWord_of_mem_runs]
  rfl

/-- A mode leaves a text as it is that it has been applied to. -/
theorem normalize_normalize (mode : WhiteSpace) (text : String) :
    mode.normalize (mode.normalize text) = mode.normalize text := by
  cases mode with
  | preserve => rfl
  | replace =>
    simp only [normalize, String.map_map]
    congr 1
    funext c
    dsimp only [Function.comp]
    by_cases isBlank : Text.isMarkupBlank c = true
    · simp only [if_pos isBlank, ite_self]
    · simp only [if_neg isBlank]
  | collapse => rw [normalize_collapse, normalize_collapse, markupWords_intercalate]

end WhiteSpace

/-! ### Simple types -/

namespace SimpleType

/-- A type reads the text that it has left, once it has seen to its blanks, as the text itself. -/
theorem validate_normalize (type : SimpleType) (scopes : NamespaceScopes) (text : String) :
    type.validate scopes (type.normalize text) = type.validate scopes text :=
  congrArg (type.readNormalized scopes) (type.whiteSpace.normalize_normalize text)

/-- A value agrees with the text that it was read from. -/
theorem agrees_of_validate {type : SimpleType} {scopes : NamespaceScopes} {text : String}
    {value : Value} (valid : type.validate scopes text = .ok value) :
    type.agrees scopes value text = true := by
  rw [agrees, valid]
  exact value.same_self

end SimpleType

end SchemaAssessment
