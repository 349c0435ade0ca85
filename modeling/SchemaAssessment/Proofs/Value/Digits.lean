/-
Facets about digits. They ask for the digits that a number needs when it is written as
shortly as it can be, so they accept a number just if it can be written within the bounds at
all, and it does not matter how a text writes it.
-/

import SchemaAssessment.Proofs.Faults
import SchemaAssessment.Proofs.Number.Numerals
import SchemaAssessment.Proofs.Value.Derivation
import SchemaAssessment.Proofs.Value.Words

namespace SchemaAssessment

/-! ### The facets -/

namespace Facets

/-- Facets about digits and no others. -/
def ofDigits (total fraction : Option Nat) : Facets :=
  { totalDigits := total, fractionDigits := fraction }

variable {total fraction : Option Nat} {most needed : Nat} {text : String} {number : Decimal}
  {parse : String → Except ValueFault Value}

theorem unless_greater_eq_ok {fault : FacetFault} :
    (if most < needed then throw fault else pure () : Except FacetFault Unit) = .ok () ↔
      needed ≤ most := by
  split
  · rename_i great
    exact iff_of_false nofun (Nat.not_le_of_lt great)
  · rename_i small
    exact iff_of_true rfl (Nat.le_of_not_lt small)

theorem checkDigits_eq_ok : (ofDigits total fraction).checkDigits number = .ok () ↔
    (∀ most ∈ total, number.totalDigits ≤ most) ∧
      ∀ most ∈ fraction, number.fractionDigits ≤ most := by
  unfold checkDigits ofDigits
  cases total with
  | none =>
    cases fraction with
    | none => exact iff_of_true rfl ⟨nofun, nofun⟩
    | some most =>
      refine unless_greater_eq_ok.trans ?_
      simp
  | some greatest =>
    dsimp only
    split
    · rename_i great
      refine iff_of_false ?_ fun all => Nat.not_le_of_lt great (all.1 greatest rfl)
      cases fraction <;> exact nofun
    · rename_i small
      cases fraction with
      | none =>
        refine iff_of_true rfl ⟨?_, nofun⟩
        simpa using small
      | some most =>
        refine unless_greater_eq_ok.trans ?_
        simp [Nat.le_of_not_lt small]

/-- Of a number, facets about digits check nothing but the digits. -/
theorem check_ofDigits_eq_ok :
    (ofDigits total fraction).check text (.decimal number) parse = .ok () ↔
      (∀ most ∈ total, number.totalDigits ≤ most) ∧
        ∀ most ∈ fraction, number.fractionDigits ≤ most := by
  rw [← checkDigits_eq_ok]
  show blame text ((ofDigits total fraction).checkDigits number) = .ok () ↔ _
  cases (ofDigits total fraction).checkDigits number with
  | ok done => exact iff_of_true rfl rfl
  | error fault => exact iff_of_false nofun nofun

end Facets

/-! ### The texts of a number -/

namespace Datatype

variable {scopes : NamespaceScopes} {left right text : String} {number : ℚ} {value : Value}

theorem parse_decimal_eq_ok : Datatype.decimal.parse scopes text = .ok value ↔
    ∃ numeral read, Decimal.numeral? text.toList = some numeral ∧
      Decimal.ofNumeral? numeral = some read ∧ .decimal read = value := by
  show (decimal? decimal.localName text).map Value.decimal = .ok value ↔ _
  simp only [map_eq_ok, decimal?_eq_ok]
  constructor
  · rintro ⟨read, ⟨numeral, found, made⟩, same⟩
    exact ⟨numeral, read, found, made, same⟩
  · rintro ⟨numeral, read, found, made, same⟩
    exact ⟨read, ⟨numeral, found, made⟩, same⟩

/-- Texts that write one number are read as the same number, or both not at all. -/
theorem parse_of_writes (ofLeft : Decimal.Writes left number)
    (ofRight : Decimal.Writes right number)
    (accepted : Datatype.decimal.parse scopes left = .ok value) :
    ∃ first second, value = .decimal first ∧
      Datatype.decimal.parse scopes right = .ok (.decimal second) ∧ first.same second = true := by
  obtain ⟨numeral, found, figured, writes⟩ := ofLeft
  obtain ⟨other, otherFound, otherFigured, otherWrites⟩ := ofRight
  obtain ⟨_, first, again, made, rfl⟩ := parse_decimal_eq_ok.mp accepted
  obtain rfl := Option.some.inj (found.symm.trans again)
  have alike := Decimal.ofNumeral?_of_toRat_eq figured otherFigured (writes.trans otherWrites.symm)
  rw [made, Option.map_some, eq_comm, Option.map_eq_some_iff] at alike
  obtain ⟨second, otherMade, same⟩ := alike
  exact ⟨first, second, rfl, parse_decimal_eq_ok.mpr ⟨other, second, otherFound, otherMade, rfl⟩,
    Decimal.same_iff_toRat_eq.mpr same.symm⟩

end Datatype

/-! ### Types with facets about digits -/

namespace Facets

variable {total fraction : Option Nat} {text otherText : String} {number other : Decimal}
  {parse otherParse : String → Except ValueFault Value}

/-- Numbers that are the same need the same digits. -/
theorem check_ofDigits_of_same (same : number.same other = true) :
    (ofDigits total fraction).check text (.decimal number) parse = .ok () ↔
      (ofDigits total fraction).check otherText (.decimal other) otherParse = .ok () := by
  rw [check_ofDigits_eq_ok, check_ofDigits_eq_ok, Decimal.totalDigits_of_same same,
    Decimal.fractionDigits_of_same same]

end Facets

namespace SimpleType

/-- A type of decimal numbers that has nothing but facets about digits. -/
def ofDigits (name base : Option ExpandedName) (total fraction : Option Nat) : SimpleType :=
  .mk name base (.atomic .decimal) (.ofDigits total fraction)

variable {name base : Option ExpandedName} {total fraction : Option Nat} {scopes : NamespaceScopes}

theorem validate_ofDigits_eq_ok {text : String} {number : ℚ} (writes : Decimal.Writes text number)
    {value : Value} :
    (ofDigits name base total fraction).validate scopes text = .ok value ↔
      Datatype.decimal.parse scopes text = .ok value ∧
        (Facets.ofDigits total fraction).check text value
          (fun limit => Datatype.decimal.parse scopes (WhiteSpace.collapse.normalize limit)) =
            .ok () := by
  obtain ⟨numeral, found, -⟩ := writes
  have word : WhiteSpace.collapse.normalize text = text :=
    WhiteSpace.collapse_of_unblank (Decimal.unblank_of_numeral? found)
  show readNormalized scopes _ (WhiteSpace.collapse.normalize text) = _ ↔ _
  rw [word, ofDigits, readNormalized, bind_eq_ok]
  constructor
  · rintro ⟨first, read, checked⟩
    obtain ⟨done, checks, same⟩ := bind_eq_ok.mp checked
    obtain rfl := Except.ok.inj same
    exact ⟨read, checks⟩
  · rintro ⟨read, checks⟩
    exact ⟨value, read, bind_eq_ok.mpr ⟨(), checks, rfl⟩⟩

/-- The facet for all digits accepts a number just if it is a whole number of at most so many digits
over ten to at most such a power; the facet for the fraction does so just if it is any whole number
over ten to at most such a power. Numbers that are the same are treated alike, whatever their
texts, and so are the texts that write one number. -/
theorem digits_asked_of_number {most : Nat} (some_ : 1 ≤ most) (places : Nat) (value : Decimal)
    (text : String) (parse : String → Except ValueFault Value) :
    ((Facets.ofDigits (some most) none).check text (.decimal value) parse = .ok () ↔
        ∃ (whole : ℤ) (power : ℕ),
          value.toRat = whole / 10 ^ power ∧ |whole| < 10 ^ most ∧ power ≤ most) ∧
      ((Facets.ofDigits none (some places)).check text (.decimal value) parse = .ok () ↔
        ∃ (whole : ℤ) (power : ℕ), value.toRat = whole / 10 ^ power ∧ power ≤ places) ∧
      (∀ other, value.same other = true → ∀ total fraction otherText otherParse,
        ((Facets.ofDigits total fraction).check text (.decimal value) parse = .ok () ↔
          (Facets.ofDigits total fraction).check otherText (.decimal other) otherParse = .ok ())) ∧
      ∀ name base total fraction scopes left right number accepted,
        Decimal.Writes left number → Decimal.Writes right number →
          (ofDigits name base total fraction).validate scopes left = .ok accepted →
            ∃ again, (ofDigits name base total fraction).validate scopes right = .ok again ∧
              accepted.same again = true := by
  refine ⟨?_, ?_, fun other same _ _ _ _ => Facets.check_ofDigits_of_same same, ?_⟩
  · rw [Facets.check_ofDigits_eq_ok, ← Decimal.totalDigits_le_iff some_]
    simp
  · rw [Facets.check_ofDigits_eq_ok, ← Decimal.fractionDigits_le_iff]
    simp
  · intro name base total fraction scopes left right number accepted ofLeft ofRight valid
    obtain ⟨read, checked⟩ := (validate_ofDigits_eq_ok ofLeft).mp valid
    obtain ⟨first, second, rfl, again, same⟩ := Datatype.parse_of_writes ofLeft ofRight read
    refine ⟨_, (validate_ofDigits_eq_ok ofRight).mpr ⟨again, ?_⟩, same⟩
    exact (Facets.check_ofDigits_of_same same).mp checked

theorem digits_asked_of_number_price :
    let price : Decimal := ⟨1250, 2⟩
    let threeDigits := ofDigits none none (some 3) (some 1)
    1 ≤ 3 ∧ price.toRat = 125 / 10 ^ 1 ∧ price.same ⟨125, 1⟩ = true ∧
      Decimal.Writes "+012.50" (25 / 2) ∧ Decimal.Writes "12.5" (25 / 2) ∧
      threeDigits.validate .initial "+012.50" = .ok (.decimal price) ∧
      (Facets.ofDigits (some 3) none).check "+012.50" (.decimal price)
        (fun _ => .ok (.decimal price)) = .ok () ∧
      ∃ again, threeDigits.validate .initial "12.5" = .ok again ∧
        (Value.decimal price).same again = true := by
  intro price threeDigits
  have number : price.toRat = 125 / 10 ^ 1 := by norm_num [Decimal.toRat, price]
  have figures {chars : List Char} (all : chars.all Text.isAsciiDigit = true) :
      Digits.AreFigures chars := List.all_eq_true.mp all
  have long : Decimal.numeral? "+012.50".toList = some ⟨false, ['0', '1', '2'], ['5', '0']⟩ := by
    decide +kernel
  have short : Decimal.numeral? "12.5".toList = some ⟨false, ['1', '2'], ['5']⟩ := by
    decide +kernel
  have left : Decimal.Writes "+012.50" (25 / 2) := by
    refine ⟨_, long, ⟨figures rfl, figures rfl⟩, ?_⟩
    show ((12 : ℕ) : ℚ) + (50 : ℕ) / 10 ^ 2 = 25 / 2
    norm_num
  have right : Decimal.Writes "12.5" (25 / 2) := by
    refine ⟨_, short, ⟨figures rfl, figures rfl⟩, ?_⟩
    show ((12 : ℕ) : ℚ) + (5 : ℕ) / 10 ^ 1 = 25 / 2
    norm_num
  have read : threeDigits.validate .initial "+012.50" = .ok (.decimal price) := by
    refine (validate_ofDigits_eq_ok left).mpr ⟨?_, ?_⟩
    · exact Datatype.parse_decimal_eq_ok.mpr ⟨_, price, long, by decide +kernel, rfl⟩
    · rw [Facets.check_ofDigits_eq_ok]
      simp only [Option.mem_some_iff, forall_eq']
      decide +kernel
  obtain ⟨total, -, -, alike⟩ := digits_asked_of_number (by decide : 1 ≤ 3) 1 price "+012.50"
    fun _ => .ok (.decimal price)
  exact ⟨by decide, number, by decide, left, right, read,
    total.mpr ⟨125, 1, number, by norm_num, by decide⟩,
    alike none none (some 3) (some 1) .initial _ _ _ _ left right read⟩

end SimpleType

end SchemaAssessment
