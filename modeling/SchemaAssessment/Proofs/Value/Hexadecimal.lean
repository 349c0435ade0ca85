/-
Bytes that are written in hexadecimal. A text is read pair by pair, and each pair has to be
two hexadecimal digits, but for one thing: a plus sign may stand where the first digit of a
pair is expected, and then counts as a zero. Apart from that, just the texts with an even
number of digits are read, the halves of the bytes are the digits in turn, and the letters of
the digits may be of either case.
-/

import SchemaAssessment.Proofs.Value.Derivation

namespace SchemaAssessment

namespace Digits

/-- The hexadecimal digits by their values. -/
def hexFigures : List Char :=
  ['0', '1', '2', '3', '4', '5', '6', '7', '8', '9', 'a', 'b', 'c', 'd', 'e', 'f']

/-- A figure, or one of the first six letters in either case. -/
def IsHexDigit (c : Char) : Prop := c.toLower ∈ hexFigures

instance (c : Char) : Decidable (IsHexDigit c) := inferInstanceAs (Decidable (_ ∈ _))

/-- The value of a hexadecimal digit: its place among the digits. -/
def hexValue (c : Char) : Nat := hexFigures.idxOf c.toLower

/-- The ASCII characters are looked at one by one; no other character is a digit, or has a smaller
letter among them. -/
theorem value?_eq (c : Char) : value? c = if IsHexDigit c then some (hexValue c) else none := by
  by_cases small : c.toNat < 128
  · have each : ∀ n < 128, value? (Char.ofNat n) =
        if IsHexDigit (Char.ofNat n) then some (hexValue (Char.ofNat n)) else none := by
      decide +kernel
    have this := each c.toNat small
    rwa [Char.ofNat_toNat] at this
  · have above : ∀ last : Char, last.toNat < 128 → ¬ c ≤ last := fun last ascii below => by
      have := UInt32.le_iff_toNat_le.mp (Char.le_def.mp below)
      simp only [Char.toNat] at *
      omega
    have lower : c.toLower = c := by
      unfold Char.toLower
      rw [dif_neg fun upper => above 'Z' (by decide) upper.2]
    have noDigit : ¬ IsHexDigit c := by
      rw [IsHexDigit, lower]
      intro member
      have ascii : hexFigures.all (fun d => d.toNat < 128) = true := by decide
      exact small (of_decide_eq_true (List.all_eq_true.mp ascii c member))
    rw [if_neg noDigit]
    unfold value?
    simp [above]

theorem hexValue_lt {c : Char} (digit : IsHexDigit c) : hexValue c < 16 :=
  List.idxOf_lt_length_of_mem digit

/-- Digits have the same values if they are the same up to the case of letters. -/
theorem map_hexValue_inj {left right : List Char} (leftDigits : ∀ c ∈ left, IsHexDigit c) :
    left.map hexValue = right.map hexValue ↔ left.map Char.toLower = right.map Char.toLower := by
  induction left generalizing right with
  | nil => simp
  | cons c rest inductionHypothesis =>
    have digit : c.toLower ∈ hexFigures := leftDigits c List.mem_cons_self
    cases right with
    | nil => simp
    | cons d others =>
      have ofRest := @inductionHypothesis others fun c member =>
        leftDigits c (List.mem_cons_of_mem _ member)
      simp only [List.map_cons, List.cons.injEq, ofRest]
      rw [hexValue, hexValue, List.idxOf_inj digit]

end Digits

namespace Bytes

open Digits (IsHexDigit hexValue)

/-! ### The texts that are read -/

/-- An even number of hexadecimal digits. -/
def IsHexText (chars : List Char) : Prop :=
  chars.length % 2 = 0 ∧ ∀ c ∈ chars, IsHexDigit c

/-- An even number of characters, each a digit or else a plus sign before one. -/
structure IsSpelled (chars : List Char) : Prop where
  even : chars.length % 2 = 0
  each : ∀ place c, chars[place]? = some c → IsHexDigit c ∨ c = '+' ∧ place % 2 = 0

/-- What a character is read as: a plus sign as a zero. -/
def figure (c : Char) : Char := if c = '+' then '0' else c

/-- The two halves of a byte, the higher one first. -/
def halves (byte : UInt8) : List Nat := [byte.toNat / 16, byte.toNat % 16]

theorem figure_of_digit {c : Char} (digit : IsHexDigit c) : figure c = c := by
  refine if_neg ?_
  rintro rfl
  exact absurd digit (by decide)

theorem isHexDigit_figure_iff {c : Char} : IsHexDigit (figure c) ↔ IsHexDigit c ∨ c = '+' := by
  by_cases plus : c = '+'
  · subst plus
    decide
  · rw [figure, if_neg plus]
    simp [plus]

/-- A text is spelled pair by pair. -/
theorem isSpelled_cons_cons_iff {first second : Char} {rest : List Char} :
    IsSpelled (first :: second :: rest) ↔
      (IsHexDigit first ∨ first = '+') ∧ IsHexDigit second ∧ IsSpelled rest := by
  constructor
  · rintro ⟨even, each⟩
    have atFirst := each 0 first rfl
    have atSecond := each 1 second rfl
    refine ⟨by simpa using atFirst, by simpa using atSecond, ?_, fun place c found => ?_⟩
    · rw [List.length_cons, List.length_cons] at even
      omega
    · simpa using each (place + 2) c found
  · rintro ⟨atFirst, atSecond, even, each⟩
    refine ⟨by rw [List.length_cons, List.length_cons]; omega, fun place c found => ?_⟩
    match place with
    | 0 =>
      obtain rfl := Option.some.inj found
      simpa using atFirst
    | 1 =>
      obtain rfl := Option.some.inj found
      exact .inl atSecond
    | place + 2 => simpa using each place c found

theorem IsHexText.isSpelled {chars : List Char} (hexText : IsHexText chars) : IsSpelled chars :=
  ⟨hexText.1, fun _ c found => .inl (hexText.2 c (List.mem_of_getElem? found))⟩

/-- Where no plus sign is, only digits are left. -/
theorem isSpelled_iff_isHexText {chars : List Char} (noPlus : '+' ∉ chars) :
    IsSpelled chars ↔ IsHexText chars := by
  refine ⟨fun spelled => ⟨spelled.even, fun c member => ?_⟩, IsHexText.isSpelled⟩
  obtain ⟨place, found⟩ := List.mem_iff_getElem?.mp member
  rcases spelled.each place c found with digit | ⟨rfl, _⟩
  · exact digit
  · exact absurd member noPlus

/-! ### The bytes of a text -/

/-- Two numbers below sixteen are the halves of one byte. -/
theorem halves_eq_iff {byte : UInt8} {high low : Nat} (highSmall : high < 16)
    (lowSmall : low < 16) : (high * 16 + low).toUInt8 = byte ↔ halves byte = [high, low] := by
  have small : high * 16 + low < 256 := by omega
  have bound : byte.toNat < 256 := byte.toNat_lt_size
  have apart : byte.toNat / 16 = high ∧ byte.toNat % 16 = low ↔
      high * 16 + low = byte.toNat := by omega
  rw [← UInt8.toNat_inj, Nat.toUInt8_eq, UInt8.toNat_ofNat', Nat.mod_eq_of_lt small, halves]
  simp [apart]

/-- A plus sign and a digit are read as a zero and the digit are. -/
theorem hexPair?_eq (first second : Char) :
    hexPair? first second = hexPair? (figure first) second := by
  by_cases plus : first = '+'
  · subst plus
    have zero : Digits.value? '0' = some 0 := by decide
    cases read : Digits.value? second <;> simp [hexPair?, figure, zero, read]
  · rw [figure, if_neg plus]

/-- Two characters stand for the byte that has their values as its halves. -/
theorem hexPair?_eq_some_iff {first second : Char} {byte : UInt8} :
    hexPair? first second = some byte ↔
      (IsHexDigit first ∨ first = '+') ∧ IsHexDigit second ∧
        halves byte = [hexValue (figure first), hexValue (figure second)] := by
  have noPlus : (figure first == '+') = false := by
    rw [beq_eq_false_iff_ne, figure]
    split
    · decide
    · assumption
  rw [hexPair?_eq, hexPair?, noPlus, Digits.value?_eq, Digits.value?_eq, ← isHexDigit_figure_iff]
  by_cases firstDigit : IsHexDigit (figure first)
  · by_cases secondDigit : IsHexDigit second
    · have whole := @halves_eq_iff byte _ _ (Digits.hexValue_lt firstDigit)
        (Digits.hexValue_lt secondDigit)
      simpa [firstDigit, secondDigit, figure_of_digit secondDigit] using whole
    · simp [firstDigit, secondDigit]
  · simp [firstDigit]

/-- The first pair and the rest are read apart. -/
theorem ofHex?_cons_cons_eq_some_iff {first second : Char} {rest : List Char}
    {bytes : List UInt8} :
    ofHex? (first :: second :: rest) = some bytes ↔
      ∃ byte tail, hexPair? first second = some byte ∧ ofHex? rest = some tail ∧
        byte :: tail = bytes := by
  rw [ofHex?]
  cases hexPair? first second <;> cases ofHex? rest <;> simp

/-- A spelled text stands for the bytes whose halves are the values of its characters in turn. -/
theorem ofHex?_eq_some_iff : ∀ {chars : List Char} {bytes : List UInt8},
    ofHex? chars = some bytes ↔
      IsSpelled chars ∧ bytes.flatMap halves = (chars.map figure).map hexValue
  | [], bytes => by
    have spelled : IsSpelled [] := ⟨rfl, fun _ _ found => by cases found⟩
    cases bytes <;> simp [ofHex?, spelled, halves]
  | [c], bytes => by
    have odd : ¬ IsSpelled [c] := fun spelled => absurd spelled.even (by simp)
    simp [ofHex?, odd]
  | first :: second :: rest, bytes => by
    rw [ofHex?_cons_cons_eq_some_iff, isSpelled_cons_cons_iff]
    constructor
    · rintro ⟨byte, tail, ofPair, ofRest, rfl⟩
      obtain ⟨firstRead, secondDigit, halvesEq⟩ := hexPair?_eq_some_iff.mp ofPair
      obtain ⟨spelled, tailEq⟩ := ofHex?_eq_some_iff.mp ofRest
      exact ⟨⟨firstRead, secondDigit, spelled⟩, by simp [halvesEq, tailEq]⟩
    · rintro ⟨⟨firstRead, secondDigit, spelled⟩, bytesEq⟩
      cases bytes with
      | nil => cases bytesEq
      | cons byte tail =>
        have apart : halves byte = [hexValue (figure first), hexValue (figure second)] ∧
            tail.flatMap halves = (rest.map figure).map hexValue := by
          simpa [halves, and_assoc] using bytesEq
        exact ⟨byte, tail, hexPair?_eq_some_iff.mpr ⟨firstRead, secondDigit, apart.1⟩,
          ofHex?_eq_some_iff.mpr ⟨spelled, apart.2⟩, rfl⟩

/-- There are bytes for each spelled text. -/
theorem exists_ofHex? : ∀ {chars : List Char}, IsSpelled chars → ∃ bytes, ofHex? chars = some bytes
  | [], _ => ⟨[], rfl⟩
  | [_], spelled => absurd spelled.even (by simp)
  | first :: second :: rest, spelled => by
    obtain ⟨firstRead, secondDigit, restSpelled⟩ := isSpelled_cons_cons_iff.mp spelled
    have firstDigit := isHexDigit_figure_iff.mpr firstRead
    have secondRead := isHexDigit_figure_iff.mpr (.inl secondDigit)
    have whole := (halves_eq_iff (Digits.hexValue_lt firstDigit)
      (Digits.hexValue_lt secondRead)).mp rfl
    have ofPair := hexPair?_eq_some_iff.mpr ⟨firstRead, secondDigit, whole⟩
    obtain ⟨tail, ofRest⟩ := exists_ofHex? restSpelled
    exact ⟨_, ofHex?_cons_cons_eq_some_iff.mpr ⟨_, tail, ofPair, ofRest, rfl⟩⟩

/-- All that is read as a digit is one. -/
theorem IsSpelled.isHexDigit_figure {chars : List Char} (spelled : IsSpelled chars) :
    ∀ c ∈ chars.map figure, IsHexDigit c := by
  intro c member
  obtain ⟨d, found, rfl⟩ := List.mem_map.mp member
  obtain ⟨place, at_⟩ := List.mem_iff_getElem?.mp found
  exact isHexDigit_figure_iff.mpr ((spelled.each place d at_).imp id And.left)

/-- Two texts stand for the same bytes if they agree up to the case of letters and the plus signs
that stand for zeros. -/
theorem ofHex?_inj {left right : List Char} {bytes others : List UInt8}
    (ofLeft : ofHex? left = some bytes) (ofRight : ofHex? right = some others) :
    bytes = others ↔
      (left.map figure).map Char.toLower = (right.map figure).map Char.toLower := by
  obtain ⟨leftSpelled, leftValues⟩ := ofHex?_eq_some_iff.mp ofLeft
  obtain ⟨_, rightValues⟩ := ofHex?_eq_some_iff.mp ofRight
  rw [← Digits.map_hexValue_inj leftSpelled.isHexDigit_figure, ← leftValues, ← rightValues]
  refine ⟨congrArg _, fun same => ?_⟩
  have alsoLeft := ofHex?_eq_some_iff.mpr ⟨leftSpelled, same ▸ leftValues⟩
  exact Option.some.inj (ofLeft.symm.trans alsoLeft)

end Bytes

/-! ### The datatype -/

namespace Datatype

open Bytes

theorem parse_hexBinary_eq_ok_iff {scopes : NamespaceScopes} {text : String} {value : Value} :
    hexBinary.parse scopes text = .ok value ↔
      ∃ bytes, ofHex? text.toList = some bytes ∧ .hexBinary bytes = value := by
  rw [parse, accept_eq_ok, Option.map_eq_some_iff]

/-- Just the spelled texts are accepted. Those without a plus sign are the even numbers of digits.
The bytes of a text have the values of its characters as their halves; two texts have equal values
if they agree up to the case of letters, once each plus sign is replaced by a zero; and what bytes
print as is read as the bytes. -/
theorem hexBinary_reads_plus_as_zero (scopes : NamespaceScopes) (text : String) :
    ((∃ value, hexBinary.parse scopes text = .ok value) ↔ IsSpelled text.toList) ∧
    (IsSpelled text.toList ∧ '+' ∉ text.toList ↔ IsHexText text.toList) ∧
    (∀ value, hexBinary.parse scopes text = .ok value → ∃ bytes, value = .hexBinary bytes ∧
      bytes.flatMap halves = (text.toList.map figure).map Digits.hexValue) ∧
    (∀ other value otherValue, hexBinary.parse scopes text = .ok value →
      hexBinary.parse scopes other = .ok otherValue →
      (value.same otherValue = true ↔
        (text.toList.map figure).map Char.toLower = (other.toList.map figure).map Char.toLower)) ∧
    ∀ bytes, hexBinary.parse scopes (Value.hexBinary bytes).text = .ok (.hexBinary bytes) := by
  refine ⟨⟨?_, fun spelled => ?_⟩, ⟨?_, fun hexText => ?_⟩, ?_, ?_, fun bytes => ?_⟩
  · rintro ⟨value, accepted⟩
    obtain ⟨bytes, read, -⟩ := parse_hexBinary_eq_ok_iff.mp accepted
    exact (ofHex?_eq_some_iff.mp read).1
  · obtain ⟨bytes, read⟩ := exists_ofHex? spelled
    exact ⟨_, parse_hexBinary_eq_ok_iff.mpr ⟨bytes, read, rfl⟩⟩
  · rintro ⟨spelled, noPlus⟩
    exact (isSpelled_iff_isHexText noPlus).mp spelled
  · exact ⟨hexText.isSpelled, fun plus => absurd (hexText.2 '+' plus) (by decide)⟩
  · intro value accepted
    obtain ⟨bytes, read, rfl⟩ := parse_hexBinary_eq_ok_iff.mp accepted
    exact ⟨bytes, rfl, (ofHex?_eq_some_iff.mp read).2⟩
  · intro other value otherValue accepted otherAccepted
    obtain ⟨bytes, read, rfl⟩ := parse_hexBinary_eq_ok_iff.mp accepted
    obtain ⟨others, otherRead, rfl⟩ := parse_hexBinary_eq_ok_iff.mp otherAccepted
    rw [Value.same, beq_iff_eq]
    exact ofHex?_inj read otherRead
  · refine parse_hexBinary_eq_ok_iff.mpr ⟨bytes, ?_, rfl⟩
    rw [Value.text, String.toList_ofList, ofHex?_toHex]

theorem hexBinary_reads_plus_as_zero_letters :
    hexBinary.parse .initial "+aFb" = .ok (.hexBinary [10, 251]) ∧
    hexBinary.parse .initial "0AFB" = .ok (.hexBinary [10, 251]) ∧
    [10, 251].flatMap halves = ("+aFb".toList.map figure).map Digits.hexValue ∧
    (Value.hexBinary [10, 251]).same (.hexBinary [10, 251]) = true := by
  have main := hexBinary_reads_plus_as_zero .initial "+aFb"
  have accepted : hexBinary.parse .initial "+aFb" = .ok (.hexBinary [10, 251]) := by rfl
  have alsoAccepted : hexBinary.parse .initial "0AFB" = .ok (.hexBinary [10, 251]) := by rfl
  refine ⟨accepted, alsoAccepted, ?_, ?_⟩
  · obtain ⟨bytes, same, halvesEq⟩ := main.2.2.1 _ accepted
    rwa [Value.hexBinary.inj same]
  · exact (main.2.2.2.1 "0AFB" _ _ accepted alsoAccepted).mpr (by decide)

/-- A plus sign and a digit are no hexadecimal text, and yet have the value of one. -/
theorem plusOne_accepted :
    hexBinary.parse .initial "+1" = .ok (.hexBinary [1]) ∧
    hexBinary.parse .initial "01" = .ok (.hexBinary [1]) ∧
    ¬ IsHexText "+1".toList ∧ "+1".toList.map Char.toLower ≠ "01".toList.map Char.toLower := by
  refine ⟨rfl, rfl, fun hexText => ?_, by decide⟩
  exact absurd (hexText.2 '+' (by decide)) (by decide)

end Datatype

end SchemaAssessment
