/-
Blanks, and how text is cut at them. Markup has four blank characters; schema
hints, flags and instance attributes are trimmed and cut at the wider class of
characters that Unicode calls white space. The functions here work on lists of
characters, so that what they keep and what they drop can be read off the list.
-/

namespace SchemaAssessment.Text

/-! ### The two classes of blanks -/

/-- The four characters that markup counts as white space. -/
def isMarkupBlank (c : Char) : Bool :=
  c == ' ' || c == '\t' || c == '\n' || c == '\r'

/-- The characters with the Unicode property White_Space. -/
def isBlank (c : Char) : Bool :=
  let code := c.toNat
  (9 ≤ code && code ≤ 13) || code == 0x20 || code == 0x85 || code == 0xA0 || code == 0x1680 ||
    (0x2000 ≤ code && code ≤ 0x200A) || code == 0x2028 || code == 0x2029 || code == 0x202F ||
    code == 0x205F || code == 0x3000

/-- A markup blank is a blank. -/
theorem isBlank_of_isMarkupBlank {c : Char} (blank : isMarkupBlank c = true) :
    isBlank c = true := by
  simp only [isMarkupBlank, Bool.or_eq_true, beq_iff_eq] at blank
  rcases blank with ((rfl | rfl) | rfl) | rfl <;> decide

/-- A class of characters that leaves the four out has no markup blank in it. -/
theorem isMarkupBlank_of_apart {P : Char → Prop} {c : Char}
    (apart : ((¬ P ' ' ∧ ¬ P '\t') ∧ ¬ P '\n') ∧ ¬ P '\r') (within : P c) :
    isMarkupBlank c = false := by
  rw [isMarkupBlank, Bool.eq_false_iff]
  intro blank
  simp only [Bool.or_eq_true, beq_iff_eq] at blank
  rcases blank with ((rfl | rfl) | rfl) | rfl
  · exact apart.1.1.1 within
  · exact apart.1.1.2 within
  · exact apart.1.2 within
  · exact apart.2 within

/-! ### Trimming -/

/-- The characters from the first one that is not blank. -/
def trimStart (chars : List Char) : List Char := chars.dropWhile isBlank

/-- The characters up to the last one that is not blank. -/
def trimEnd (chars : List Char) : List Char := (chars.reverse.dropWhile isBlank).reverse

/-- The text without the blanks at its two ends. -/
def trim (text : String) : String := String.ofList (trimEnd (trimStart text.toList))

/-! ### Cutting -/

/-- The maximal runs of characters that do not satisfy `isSeparator`, in order. -/
def runs (isSeparator : Char → Bool) (chars : List Char) : List (List Char) :=
  (chars.splitOnP isSeparator).filter fun run => !run.isEmpty

/-- The words of a text: its maximal runs of characters that are not blank. -/
def words (text : String) : List String :=
  (runs isBlank text.toList).map String.ofList

/-- The pieces of a text between the occurrences of a separator. There is always one piece
more than there are separators. -/
def pieces (separator : Char) (text : String) : List String :=
  (text.toList.splitOnP (· == separator)).map String.ofList

/-- The characters before and after the first character that satisfies `isSeparator`. -/
def splitAtFirst (isSeparator : Char → Bool) : List Char → Option (List Char × List Char)
  | [] => none
  | c :: rest =>
    if isSeparator c then some ([], rest)
    else (splitAtFirst isSeparator rest).map fun parts => (c :: parts.1, parts.2)

/-- The text before and after the first occurrence of a separator. -/
def splitOnce (separator : Char) (text : String) : Option (String × String) :=
  (splitAtFirst (· == separator) text.toList).map fun parts =>
    (String.ofList parts.1, String.ofList parts.2)

/-- What follows `start` when the characters begin with it. -/
def dropPrefix? : List Char → List Char → Option (List Char)
  | [], chars => some chars
  | _ :: _, [] => none
  | s :: start, c :: chars => if s == c then dropPrefix? start chars else none

/-- What comes before `ending` when the characters end with it. -/
def dropSuffix? (ending chars : List Char) : Option (List Char) :=
  (dropPrefix? ending.reverse chars.reverse).map List.reverse

/-- The pattern occurs somewhere in the characters. -/
def occursIn (pattern : List Char) : List Char → Bool
  | [] => pattern.isEmpty
  | c :: rest => (dropPrefix? pattern (c :: rest)).isSome || occursIn pattern rest

/-- The pieces of a list are separated by the given separators: undoing `splitAtFirst`. -/
theorem splitAtFirst_eq_some {isSeparator : Char → Bool} {chars before after : List Char}
    (found : splitAtFirst isSeparator chars = some (before, after)) :
    ∃ c, isSeparator c = true ∧ chars = before ++ c :: after ∧
      ∀ b ∈ before, isSeparator b = false := by
  induction chars generalizing before with
  | nil => simp [splitAtFirst] at found
  | cons c rest inductionHypothesis =>
    unfold splitAtFirst at found
    split at found
    · next separator =>
      obtain ⟨rfl, rfl⟩ := Prod.mk.inj (Option.some.inj found)
      exact ⟨c, separator, rfl, by simp⟩
    · next separator =>
      obtain ⟨⟨front, back⟩, inner, equal⟩ := Option.map_eq_some_iff.mp found
      obtain ⟨rfl, rfl⟩ := Prod.mk.inj equal
      obtain ⟨d, holds, rfl, none⟩ := inductionHypothesis inner
      refine ⟨d, holds, rfl, ?_⟩
      intro b member
      rcases List.mem_cons.mp member with rfl | member
      · simpa using separator
      · exact none b member

end SchemaAssessment.Text
