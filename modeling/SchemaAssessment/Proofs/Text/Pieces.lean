/-
What trimming keeps of a text, and where a text is cut. Blanks at the two ends of a text
do not show in what is left of it, nor in what is left of its pieces, as long as the
separator is no blank.
-/

import Mathlib.Data.List.DropRight
import SchemaAssessment.Text.Blank

namespace SchemaAssessment.Text

/-! ### What a text begins with -/

theorem dropPrefix?_append (start rest : List Char) :
    dropPrefix? start (start ++ rest) = some rest := by
  induction start with
  | nil => cases rest <;> rfl
  | cons c start ofStart =>
    rw [List.cons_append, dropPrefix?, if_pos (beq_self_eq_true c), ofStart]

theorem dropPrefix?_eq_some_iff {start chars rest : List Char} :
    dropPrefix? start chars = some rest ↔ chars = start ++ rest := by
  refine ⟨fun found => ?_, fun same => same ▸ dropPrefix?_append start rest⟩
  induction start generalizing chars with
  | nil =>
    rw [dropPrefix?] at found
    exact Option.some.inj found
  | cons s start ofStart =>
    cases chars with
    | nil => cases found
    | cons c chars =>
      rw [dropPrefix?] at found
      split at found
      · next same => rw [← eq_of_beq same, ofStart found, List.cons_append]
      · cases found

theorem dropSuffix?_eq_some_iff {ending chars front : List Char} :
    dropSuffix? ending chars = some front ↔ chars = front ++ ending := by
  rw [dropSuffix?, Option.map_eq_some_iff]
  constructor
  · rintro ⟨reversed, found, rfl⟩
    rw [← List.reverse_inj, dropPrefix?_eq_some_iff.mp found, List.reverse_append,
      List.reverse_reverse]
  · rintro rfl
    refine ⟨front.reverse, ?_, List.reverse_reverse front⟩
    rw [List.reverse_append, dropPrefix?_append]

/-! ### Trimming -/

/-- All characters are blank. -/
def AreBlank (chars : List Char) : Prop := ∀ c ∈ chars, isBlank c = true

instance (chars : List Char) : Decidable (AreBlank chars) :=
  List.decidableBAll (fun c => isBlank c = true) chars

/-- The characters without the blanks at their two ends. -/
def trimmed (chars : List Char) : List Char := trimEnd (trimStart chars)

theorem areBlank_nil : AreBlank [] := fun _ member => nomatch member

theorem AreBlank.append {first second : List Char} (areBlank : AreBlank first)
    (later : AreBlank second) : AreBlank (first ++ second) := fun c member =>
  (List.mem_append.mp member).elim (areBlank c) (later c)

theorem AreBlank.not_mem {chars : List Char} {c : Char} (areBlank : AreBlank chars)
    (isNone : isBlank c = false) : c ∉ chars := fun member =>
  Bool.false_ne_true (isNone.symm.trans (areBlank c member))

theorem trim_eq (text : String) : trim text = String.ofList (trimmed text.toList) := rfl

theorem trim_ofList (chars : List Char) :
    trim (String.ofList chars) = String.ofList (trimmed chars) := by
  rw [trim_eq, String.toList_ofList]

section

variable {before chars after rest : List Char} {c : Char}

theorem trimStart_append (areBlank : AreBlank before) :
    trimStart (before ++ chars) = trimStart chars :=
  List.dropWhile_append_of_pos areBlank

theorem trimStart_cons (isNone : isBlank c = false) : trimStart (c :: chars) = c :: chars :=
  List.dropWhile_cons_of_neg (Bool.eq_false_iff.mp isNone)

theorem trimEnd_append (areBlank : AreBlank after) : trimEnd (chars ++ after) = trimEnd chars := by
  unfold trimEnd
  rw [List.reverse_append,
    List.dropWhile_append_of_pos fun c member => areBlank c (List.mem_reverse.mp member)]

/-- Up to the last character that is not blank, nothing is lost. -/
theorem trimEnd_append_cons (isNone : isBlank c = false) :
    trimEnd (before ++ c :: rest) = before ++ c :: trimEnd rest := by
  have keeps : ∀ late : List Char, ((late ++ c :: before.reverse).dropWhile isBlank) =
      late.dropWhile isBlank ++ c :: before.reverse := by
    intro late
    rw [List.dropWhile_append]
    split
    · next nothing =>
      rw [List.isEmpty_iff.mp nothing, List.dropWhile_cons_of_neg (Bool.eq_false_iff.mp isNone),
        List.nil_append]
    · rfl
  unfold trimEnd
  rw [List.reverse_append, List.reverse_cons, List.append_assoc, List.singleton_append, keeps,
    List.reverse_append, List.reverse_cons, List.reverse_reverse, List.append_assoc,
    List.singleton_append]

theorem exists_trimStart (chars : List Char) :
    ∃ before, AreBlank before ∧ chars = before ++ trimStart chars :=
  ⟨chars.takeWhile isBlank, fun _ member => List.mem_takeWhile_imp member,
    List.takeWhile_append_dropWhile.symm⟩

theorem exists_trimEnd (chars : List Char) :
    ∃ after, AreBlank after ∧ chars = trimEnd chars ++ after := by
  obtain ⟨before, areBlank, same⟩ := exists_trimStart chars.reverse
  refine ⟨before.reverse, fun c member => areBlank c (List.mem_reverse.mp member), ?_⟩
  rw [trimEnd, ← List.reverse_append, ← List.reverse_inj, List.reverse_reverse]
  exact same

/-- A text is its trimmed text between blanks. -/
theorem exists_trimmed (chars : List Char) : ∃ before after, AreBlank before ∧ AreBlank after ∧
    chars = before ++ trimmed chars ++ after := by
  obtain ⟨before, blankBefore, sameBefore⟩ := exists_trimStart chars
  obtain ⟨after, blankAfter, sameAfter⟩ := exists_trimEnd (trimStart chars)
  refine ⟨before, after, blankBefore, blankAfter, ?_⟩
  rw [trimmed, List.append_assoc, ← sameAfter]
  exact sameBefore

theorem trimmed_append_left (areBlank : AreBlank before) :
    trimmed (before ++ chars) = trimmed chars := by
  rw [trimmed, trimStart_append areBlank, trimmed]

theorem trimmed_of_areBlank (areBlank : AreBlank chars) : trimmed chars = [] := by
  rw [← List.append_nil chars, trimmed_append_left areBlank]
  rfl

/-- What begins with a character that is not blank loses blanks at its end only. -/
theorem trimmed_cons (isNone : isBlank c = false) : trimmed (c :: chars) = c :: trimEnd chars := by
  rw [trimmed, trimStart_cons isNone]
  exact @trimEnd_append_cons [] chars c isNone

theorem trimmed_append_right (areBlank : AreBlank after) :
    trimmed (chars ++ after) = trimmed chars := by
  obtain ⟨before, blankBefore, same⟩ := exists_trimStart chars
  cases begins : trimStart chars with
  | nil =>
    rw [begins, List.append_nil] at same
    rw [same, trimmed_of_areBlank (blankBefore.append areBlank), trimmed_of_areBlank blankBefore]
  | cons c rest =>
    have isNone : isBlank c = false := by
      have first := List.head?_dropWhile_not isBlank chars
      rw [show chars.dropWhile isBlank = c :: rest from begins] at first
      exact first
    rw [same, begins, List.append_assoc, trimmed_append_left blankBefore,
      trimmed_append_left blankBefore, List.cons_append, trimmed_cons isNone, trimmed_cons isNone,
      trimEnd_append areBlank]

/-- Between blanks, a text is trimmed to what it is trimmed to alone. -/
theorem trimmed_framed (blankBefore : AreBlank before) (blankAfter : AreBlank after) :
    trimmed (before ++ chars ++ after) = trimmed chars := by
  rw [trimmed_append_right blankAfter, trimmed_append_left blankBefore]

theorem trimmed_trimEnd : trimmed (trimEnd chars) = trimmed chars := by
  obtain ⟨after, areBlank, same⟩ := exists_trimEnd chars
  conv_rhs => rw [same, trimmed_append_right areBlank]

theorem trimmed_trimStart : trimmed (trimStart chars) = trimmed chars := by
  obtain ⟨before, areBlank, same⟩ := exists_trimStart chars
  conv_rhs => rw [same, trimmed_append_left areBlank]

theorem trimmed_idem : trimmed (trimmed chars) = trimmed chars := by
  obtain ⟨before, after, blankBefore, blankAfter, same⟩ := exists_trimmed chars
  conv_rhs => rw [same, trimmed_framed blankBefore blankAfter]

/-- What neither begins nor ends with a blank is trimmed already. -/
theorem trimmed_eq_self (begins : ∀ c ∈ chars.head?, isBlank c = false)
    (ends : ∀ c ∈ chars.getLast?, isBlank c = false) : trimmed chars = chars := by
  cases chars with
  | nil => rfl
  | cons c rest =>
    obtain ⟨front, last, same⟩ : ∃ front last, c :: rest = front ++ [last] :=
      ⟨_, _, (List.dropLast_append_getLast (List.cons_ne_nil c rest)).symm⟩
    have isNone : isBlank last = false := ends last (by rw [same]; simp)
    rw [trimmed, trimStart_cons (begins c rfl), same, trimEnd_append_cons isNone]
    rfl

theorem trimmed_isInfix (chars : List Char) : trimmed chars <:+: chars := by
  obtain ⟨before, after, -, -, same⟩ := exists_trimmed chars
  exact ⟨before, after, same.symm⟩

end

/-! ### Pieces -/

section

variable {separator : Char} {before chars after : List Char}

theorem exists_splitOn (separator : Char) (chars : List Char) :
    ∃ first later, chars.splitOn separator = first :: later :=
  List.exists_cons_of_ne_nil (List.splitOn_ne_nil separator chars)

/-- What stands before the first separator belongs to the first piece. -/
theorem splitOn_append_left (apart : separator ∉ before) {first : List Char}
    {later : List (List Char)} (cut : chars.splitOn separator = first :: later) :
    (before ++ chars).splitOn separator = (before ++ first) :: later := by
  induction before with
  | nil => exact cut
  | cons c before ofBefore =>
    obtain ⟨differs, apart⟩ := List.ne_and_not_mem_of_not_mem_cons apart
    rw [List.cons_append, List.splitOn_cons_eq_if_modifyHead,
      if_neg (fun same => differs (eq_of_beq same).symm), ofBefore apart]
    rfl

/-- What stands behind the last separator belongs to the last piece. -/
theorem splitOn_append_right (separator : Char) (chars : List Char) :
    ∃ front last, chars.splitOn separator = front ++ [last] ∧ ∀ after, separator ∉ after →
      (chars ++ after).splitOn separator = front ++ [last ++ after] := by
  induction chars with
  | nil => exact ⟨[], [], rfl, fun after apart => List.splitOn_eq_singleton apart⟩
  | cons c chars ofChars =>
    obtain ⟨front, last, cut, further⟩ := ofChars
    cases same : c == separator with
    | true =>
      refine ⟨[] :: front, last, ?_, fun after apart => ?_⟩
      · rw [List.splitOn_cons_eq_if_modifyHead, if_pos same, cut, List.cons_append]
      · rw [List.cons_append, List.splitOn_cons_eq_if_modifyHead, if_pos same, further after apart,
          List.cons_append]
    | false =>
      have differs := Bool.eq_false_iff.mp same
      cases front with
      | nil =>
        refine ⟨[], c :: last, ?_, fun after apart => ?_⟩
        · rw [List.splitOn_cons_eq_if_modifyHead, if_neg differs, cut]
          rfl
        · rw [List.cons_append, List.splitOn_cons_eq_if_modifyHead, if_neg differs,
            further after apart]
          rfl
      | cons first front =>
        refine ⟨(c :: first) :: front, last, ?_, fun after apart => ?_⟩
        · rw [List.splitOn_cons_eq_if_modifyHead, if_neg differs, cut]
          rfl
        · rw [List.cons_append, List.splitOn_cons_eq_if_modifyHead, if_neg differs,
            further after apart]
          rfl

/-- Pieces that are put together hold the separator and what each of them holds. -/
theorem not_mem_intercalate {c : Char} {pieces : List (List Char)} (differs : c ≠ separator)
    (apart : ∀ piece ∈ pieces, c ∉ piece) : c ∉ [separator].intercalate pieces := by
  induction pieces with
  | nil => exact List.not_mem_nil
  | cons first later ofLater =>
    obtain ⟨here, there⟩ := List.forall_mem_cons.mp apart
    cases later with
    | nil => rwa [List.intercalate_singleton]
    | cons second later =>
      rw [List.intercalate_cons_cons, List.mem_append, List.mem_append, List.mem_singleton]
      exact fun member => member.elim (·.elim here differs) (ofLater there)

/-- Blanks around a text do not show in its trimmed pieces. -/
theorem map_trimmed_splitOn_framed (isNone : isBlank separator = false)
    (blankBefore : AreBlank before) (blankAfter : AreBlank after) :
    ((before ++ chars ++ after).splitOn separator).map trimmed =
      (chars.splitOn separator).map trimmed := by
  obtain ⟨front, last, cut, further⟩ := splitOn_append_right separator (before ++ chars)
  obtain ⟨first, later, same⟩ := exists_splitOn separator chars
  have ofAfter : ((before ++ chars ++ after).splitOn separator).map trimmed =
      ((before ++ chars).splitOn separator).map trimmed := by
    rw [cut, further after (blankAfter.not_mem isNone), List.map_append, List.map_append,
      List.map_singleton, List.map_singleton, trimmed_append_right blankAfter]
  rw [ofAfter, splitOn_append_left (blankBefore.not_mem isNone) same, same, List.map_cons,
    List.map_cons, trimmed_append_left blankBefore]

theorem map_trimmed_splitOn_trimmed (isNone : isBlank separator = false) (chars : List Char) :
    ((trimmed chars).splitOn separator).map trimmed = (chars.splitOn separator).map trimmed := by
  obtain ⟨before, after, blankBefore, blankAfter, same⟩ := exists_trimmed chars
  conv_rhs => rw [same, map_trimmed_splitOn_framed isNone blankBefore blankAfter]

/-- A separator right at the beginning, or two of them together, have nothing before them or
between them. -/
theorem nil_mem_splitOn_of_head? (begins : chars.head? = some separator) :
    [] ∈ chars.splitOn separator := by
  obtain ⟨rest, rfl⟩ := List.head?_eq_some_iff.mp begins
  rw [List.splitOn_cons_eq_if_modifyHead, if_pos (beq_self_eq_true separator)]
  exact List.mem_cons_self

theorem nil_mem_splitOn_of_occursIn (doubled : occursIn [separator, separator] chars = true) :
    [] ∈ (chars.splitOn separator).tail := by
  induction chars with
  | nil => cases doubled
  | cons c rest ofRest =>
    rw [occursIn, Bool.or_eq_true, Option.isSome_iff_exists] at doubled
    rw [List.splitOn_cons_eq_if_modifyHead]
    rcases doubled with ⟨later, here⟩ | inside
    · obtain ⟨rfl, rfl⟩ := List.cons.inj (dropPrefix?_eq_some_iff.mp here)
      rw [if_pos (beq_self_eq_true c), List.tail_cons]
      exact nil_mem_splitOn_of_head? rfl
    · split
      · exact List.mem_of_mem_tail (ofRest inside)
      · rw [List.tail_modifyHead]
        exact ofRest inside

end

end SchemaAssessment.Text
