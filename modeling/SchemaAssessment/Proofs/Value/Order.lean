/-
The order of values. A value that compares with anything has a rank: a point on one of a few
axes, whose points are linearly ordered. Two values compare if their ranks are on one axis,
and then they compare as their points. Values that are the same have the same rank, if they
have one, so that none of them compares differently from the other.
-/

import SchemaAssessment.Proofs.Number.Rationals
import SchemaAssessment.Proofs.Value.Sameness

namespace SchemaAssessment

/-! ### Ranks -/

/-- What has to be common to values that compare. -/
inductive Axis where
  | number
  | single
  | double
  | moment (kind : MomentKind) (hasZone : Bool)
  | text
  deriving DecidableEq

/-- The height of a floating-point number: below, at or above zero by how it is infinite, and then
its units if it is finite. -/
abbrev Height := Int × Int

/-- Infinite heights are outermost. -/
def Height.compare : Height → Height → Ordering :=
  compareLex (compareOn Prod.fst) (compareOn Prod.snd)

/-- The points of an axis. -/
def Axis.Point : Axis → Type
  | .number => ℚ
  | .single | .double => Height
  | .moment _ _ => Int
  | .text => String

instance : (axis : Axis) → Ord axis.Point
  | .number => inferInstanceAs (Ord ℚ)
  | .single | .double => ⟨Height.compare⟩
  | .moment _ _ => inferInstanceAs (Ord Int)
  | .text => inferInstanceAs (Ord String)

instance : (axis : Axis) → Std.TransOrd axis.Point
  | .number => inferInstanceAs (Std.TransOrd ℚ)
  | .single | .double =>
    inferInstanceAs (Std.TransCmp (compareLex (compareOn (Prod.fst : Height → Int))
      (compareOn Prod.snd)))
  | .moment _ _ => inferInstanceAs (Std.TransOrd Int)
  | .text => inferInstanceAs (Std.TransOrd String)

/-- A point on an axis. -/
structure Rank where
  axis : Axis
  point : axis.Point

namespace Rank

/-- The order of two ranks, if they are on one axis. -/
def compare (left right : Rank) : Option Ordering :=
  if alike : left.axis = right.axis then some (Ord.compare (alike ▸ left.point) right.point)
  else none

theorem compare_mk {axis : Axis} (left right : axis.Point) :
    compare ⟨axis, left⟩ ⟨axis, right⟩ = some (Ord.compare left right) :=
  dif_pos rfl

theorem compare_of_ne {left right : Rank} (different : left.axis ≠ right.axis) :
    left.compare right = none :=
  dif_neg different

/-- Ranks that compare are on one axis. -/
theorem exists_of_compare {left right : Rank} {order : Ordering}
    (found : left.compare right = some order) :
    ∃ (axis : Axis) (first second : axis.Point), left = ⟨axis, first⟩ ∧ right = ⟨axis, second⟩ ∧
      Ord.compare first second = order := by
  obtain ⟨axis, first⟩ := left
  obtain ⟨otherAxis, second⟩ := right
  by_cases alike : axis = otherAxis
  · subst alike
    exact ⟨axis, first, second, rfl, rfl, Option.some.inj ((compare_mk _ _).symm.trans found)⟩
  · rw [compare_of_ne alike] at found
    cases found

theorem compare_swap (left right : Rank) :
    right.compare left = (left.compare right).map Ordering.swap := by
  obtain ⟨axis, first⟩ := left
  obtain ⟨otherAxis, second⟩ := right
  by_cases alike : axis = otherAxis
  · subst alike
    rw [compare_mk, compare_mk, Option.map_some]
    exact congrArg some Std.OrientedCmp.eq_swap
  · have different : otherAxis ≠ axis := fun same => alike same.symm
    rw [compare_of_ne different, compare_of_ne alike, Option.map_none]

theorem compare_lt_trans {left middle right : Rank} (first : left.compare middle = some .lt)
    (second : middle.compare right = some .lt) : left.compare right = some .lt := by
  obtain ⟨axis, low, between, rfl, rfl, below⟩ := exists_of_compare first
  obtain ⟨_, _, high, same, rfl, above⟩ := exists_of_compare second
  obtain ⟨rfl, same⟩ := Rank.mk.inj same
  obtain rfl := eq_of_heq same
  rw [compare_mk, Std.TransCmp.lt_trans below above]

end Rank

/-- The order of what may have ranks. -/
def compareRanks : Option Rank → Option Rank → Option Ordering
  | some left, some right => left.compare right
  | _, _ => none

/-- A rank on an axis, if there is a point. -/
def Axis.rank? (axis : Axis) (point : Option axis.Point) : Option Rank := point.map (⟨axis, ·⟩)

theorem compareRanks_none_right (left : Option Rank) : compareRanks left none = none := by
  cases left <;> rfl

theorem compareRanks_rank? (axis : Axis) (left right : Option axis.Point) :
    compareRanks (axis.rank? left) (axis.rank? right) =
      left.bind fun first => right.map fun second => Ord.compare first second := by
  cases left with
  | none => rfl
  | some first =>
    cases right with
    | none => rfl
    | some second => exact Rank.compare_mk first second

theorem compareRanks_of_ne {axis other : Axis} (different : axis ≠ other)
    (left : Option axis.Point) (right : Option other.Point) :
    compareRanks (axis.rank? left) (other.rank? right) = none := by
  cases left with
  | none => rfl
  | some first =>
    cases right with
    | none => rfl
    | some second => exact Rank.compare_of_ne different

theorem compareRanks_swap (left right : Option Rank) :
    compareRanks right left = (compareRanks left right).map Ordering.swap := by
  cases left with
  | none => exact compareRanks_none_right right
  | some left =>
    cases right with
    | none => rfl
    | some right => exact left.compare_swap right

theorem compareRanks_lt_trans {left middle right : Option Rank}
    (first : compareRanks left middle = some .lt)
    (second : compareRanks middle right = some .lt) : compareRanks left right = some .lt := by
  cases left with
  | none => cases first
  | some left =>
    cases middle with
    | none => cases first
    | some middle =>
      cases right with
      | none => cases second
      | some right => exact Rank.compare_lt_trans first second

/-! ### The ranks of values -/

namespace Binary

/-- The height of a floating-point number among the others. -/
def height? : Binary → Option Height
  | .nan => none
  | .infinite true => some (-1, 0)
  | .infinite false => some (1, 0)
  | .finite negative mantissa exponent => some (0, units negative mantissa exponent)

/-- Floating-point numbers are ordered by their heights. -/
theorem compare_eq (left right : Binary) :
    left.compare right =
      left.height?.bind fun low => right.height?.map fun high => low.compare high := by
  cases left with
  | nan => cases right <;> rfl
  | infinite sign =>
    cases right with
    | nan => cases sign <;> rfl
    | infinite otherSign => cases sign <;> cases otherSign <;> rfl
    | finite otherSign mantissa exponent => cases sign <;> rfl
  | finite sign mantissa exponent =>
    cases right with
    | nan => rfl
    | infinite otherSign => cases otherSign <;> rfl
    | finite otherSign otherMantissa otherExponent => rfl

theorem same_of_compare_eq {left right : Binary} (equal : left.compare right = some .eq) :
    left.same right = true := by
  cases left with
  | nan => cases equal
  | infinite => exact beq_iff_eq.mpr equal
  | finite => exact beq_iff_eq.mpr equal

/-- What is the same is at the same height. -/
theorem height?_eq_of_same {left right : Binary} (same : left.same right = true) :
    left.height? = right.height? := by
  rw [same_iff] at same
  cases left <;> cases right <;> simp_all [point, height?]

end Binary

/-- Moments are ordered by their instants, if they are of one kind and both have a zone or none. -/
theorem Moment.compare_eq (left right : Moment) :
    left.compare right =
      Rank.compare ⟨.moment left.kind left.offset.isSome, left.instant⟩
        ⟨.moment right.kind right.offset.isSome, right.instant⟩ := by
  unfold compare
  split
  · rename_i alike
    rw [Bool.and_eq_true, beq_iff_eq, beq_iff_eq] at alike
    rw [alike.1, alike.2]
    exact (@Rank.compare_mk (.moment _ _) left.instant right.instant).symm
  · rename_i different
    refine (Rank.compare_of_ne fun alike => different ?_).symm
    obtain ⟨sameKind, sameZone⟩ := Axis.moment.inj alike
    rw [Bool.and_eq_true, beq_iff_eq, beq_iff_eq]
    exact ⟨sameKind, sameZone⟩

namespace Value

/-- The rank of a value. -/
def rank? : Value → Option Rank
  | .decimal value => Axis.number.rank? (some value.toRat)
  | .float value => Axis.single.rank? value.height?
  | .double value => Axis.double.rank? value.height?
  | .moment value => (Axis.moment value.kind value.offset.isSome).rank? (some value.instant)
  | .string text => Axis.text.rank? (some text)
  | _ => none

theorem compare_eq (left right : Value) :
    left.compare right = compareRanks left.rank? right.rank? := by
  cases left with
  | decimal left =>
    cases right with
    | decimal right => exact congrArg some (Decimal.compare_eq left right)
    | float _ | double _ | moment _ | string _ =>
      exact (compareRanks_of_ne Axis.noConfusion _ _).symm
    | _ => exact (compareRanks_none_right _).symm
  | float left =>
    cases right with
    | float right =>
      exact (Binary.compare_eq left right).trans (compareRanks_rank? .single _ _).symm
    | decimal _ | double _ | moment _ | string _ =>
      exact (compareRanks_of_ne Axis.noConfusion _ _).symm
    | _ => exact (compareRanks_none_right _).symm
  | double left =>
    cases right with
    | double right =>
      exact (Binary.compare_eq left right).trans (compareRanks_rank? .double _ _).symm
    | decimal _ | float _ | moment _ | string _ =>
      exact (compareRanks_of_ne Axis.noConfusion _ _).symm
    | _ => exact (compareRanks_none_right _).symm
  | moment left =>
    cases right with
    | moment right => exact Moment.compare_eq left right
    | decimal _ | float _ | double _ | string _ =>
      exact (compareRanks_of_ne Axis.noConfusion _ _).symm
    | _ => exact (compareRanks_none_right _).symm
  | string left =>
    cases right with
    | string right => rfl
    | decimal _ | float _ | double _ | moment _ =>
      exact (compareRanks_of_ne Axis.noConfusion _ _).symm
    | _ => exact (compareRanks_none_right _).symm
  | _ => rfl

/-- Values that are the same have the same rank. -/
theorem rank?_eq_of_same {left right : Value} (same : left.same right = true) :
    left.rank? = right.rank? := by
  cases left with
  | decimal left =>
    cases right with
    | decimal right =>
      exact congrArg (fun number => Axis.number.rank? (some number))
        (Decimal.same_iff_toRat_eq.mp same)
    | _ => exact absurd same Bool.false_ne_true
  | float left =>
    cases right with
    | float right => exact congrArg Axis.single.rank? (Binary.height?_eq_of_same same)
    | _ => exact absurd same Bool.false_ne_true
  | double left =>
    cases right with
    | double right => exact congrArg Axis.double.rank? (Binary.height?_eq_of_same same)
    | _ => exact absurd same Bool.false_ne_true
  | moment left =>
    cases right with
    | moment right =>
      rw [Value.same, beq_iff_eq, Moment.compare_eq_iff] at same
      obtain ⟨sameKind, sameZone, sameInstant⟩ := same
      rw [rank?, rank?, sameKind, sameZone, sameInstant]
    | _ => exact absurd same Bool.false_ne_true
  | list left =>
    cases right with
    | list right => rfl
    | _ => exact absurd same Bool.false_ne_true
  | _ => rw [(same_iff_eq rfl).mp same]

/-! ### The laws of the order -/

/-- Values that compare as equal are the same. -/
theorem same_of_compare_eq {left right : Value} (equal : left.compare right = some .eq) :
    left.same right = true := by
  cases left with
  | decimal left =>
    cases right with
    | decimal right => exact beq_iff_eq.mpr (Option.some.inj equal)
    | _ => cases equal
  | float left =>
    cases right with
    | float right => exact Binary.same_of_compare_eq equal
    | _ => cases equal
  | double left =>
    cases right with
    | double right => exact Binary.same_of_compare_eq equal
    | _ => cases equal
  | moment left =>
    cases right with
    | moment right => exact beq_iff_eq.mpr equal
    | _ => cases equal
  | string left =>
    cases right with
    | string right =>
      exact beq_iff_eq.mpr (Std.LawfulEqCmp.compare_eq_iff_eq.mp (Option.some.inj equal))
    | _ => cases equal
  | _ => cases equal

/-- Two values compare the other way round in the other order, or in neither. -/
theorem compare_swap (left right : Value) :
    right.compare left = (left.compare right).map Ordering.swap := by
  rw [compare_eq, compare_eq left]
  exact compareRanks_swap _ _

theorem compare_lt_trans {left middle right : Value} (first : left.compare middle = some .lt)
    (second : middle.compare right = some .lt) : left.compare right = some .lt := by
  rw [compare_eq] at first second ⊢
  exact compareRanks_lt_trans first second

/-- What compares is a question about classes of values that are the same. -/
theorem compare_congr {left otherLeft right otherRight : Value}
    (sameLeft : left.same otherLeft = true) (sameRight : right.same otherRight = true) :
    left.compare right = otherLeft.compare otherRight := by
  rw [compare_eq, compare_eq otherLeft, rank?_eq_of_same sameLeft, rank?_eq_of_same sameRight]

end Value

end SchemaAssessment
