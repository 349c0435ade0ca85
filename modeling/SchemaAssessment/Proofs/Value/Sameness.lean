/-
Sameness of values is an equivalence: numbers of one kind are the same if they denote
one number, moments if they denote one instant in one way, and all other values if they
are equal. So tuples of values fall into classes, and whether a set holds the same tuple
is a question about the class.
-/

import Mathlib.Tactic.Ring
import SchemaAssessment.Value.Basic

namespace SchemaAssessment

/-! ### Numbers and moments -/

namespace Decimal

theorem same_iff {left right : Decimal} :
    left.same right = true ↔
      left.mantissa * tenTo right.scale = right.mantissa * tenTo left.scale := by
  rw [same, compare, beq_iff_eq, Std.LawfulEqCmp.compare_eq_iff_eq]

theorem same_symm {left right : Decimal} (related : left.same right = true) :
    right.same left = true :=
  same_iff.mpr (same_iff.mp related).symm

/-- The scale of the middle decimal is a common factor that can be taken out. -/
theorem same_trans {left middle right : Decimal} (first : left.same middle = true)
    (second : middle.same right = true) : left.same right = true := by
  rw [same_iff] at first second ⊢
  have positive : (tenTo middle.scale : Int) ≠ 0 := by
    exact_mod_cast (tenTo_pos middle.scale).ne'
  refine Int.eq_of_mul_eq_mul_right positive ?_
  calc left.mantissa * tenTo right.scale * tenTo middle.scale
      = left.mantissa * tenTo middle.scale * tenTo right.scale := by ring
    _ = middle.mantissa * tenTo left.scale * tenTo right.scale := by rw [first]
    _ = middle.mantissa * tenTo right.scale * tenTo left.scale := by ring
    _ = right.mantissa * tenTo middle.scale * tenTo left.scale := by rw [second]
    _ = right.mantissa * tenTo left.scale * tenTo middle.scale := by ring

end Decimal

namespace Binary

/-- What two numbers have in common when they are the same: the sign of an infinite one, the
magnitude of a finite one, and nothing for what is not a number. -/
def point : Binary → Option (Bool ⊕ Int)
  | .nan => none
  | .infinite negative => some (.inl negative)
  | .finite negative mantissa exponent => some (.inr (units negative mantissa exponent))

theorem same_iff {left right : Binary} : left.same right = true ↔ left.point = right.point := by
  cases left with
  | nan => cases right <;> simp [same, compare, point]
  | infinite leftSign =>
    cases right with
    | nan => simp [same, compare, point]
    | infinite rightSign => cases leftSign <;> cases rightSign <;> simp [same, compare, point]
    | finite sign mantissa exponent => cases leftSign <;> simp [same, compare, point]
  | finite sign mantissa exponent =>
    cases right with
    | nan => simp [same, compare, point]
    | infinite rightSign => cases rightSign <;> simp [same, compare, point]
    | finite otherSign otherMantissa otherExponent => simp [same, compare, point]

end Binary

namespace Moment

theorem compare_eq_iff {left right : Moment} :
    left.compare right = some .eq ↔
      left.kind = right.kind ∧ left.offset.isSome = right.offset.isSome ∧
        left.instant = right.instant := by
  unfold compare
  split
  · rename_i alike
    rw [Bool.and_eq_true, beq_iff_eq, beq_iff_eq] at alike
    rw [Option.some.injEq, Std.LawfulEqCmp.compare_eq_iff_eq]
    exact ⟨fun instant => ⟨alike.1, alike.2, instant⟩, fun all => all.2.2⟩
  · rename_i different
    refine iff_of_false (fun impossible => by cases impossible) fun all => different ?_
    rw [Bool.and_eq_true, beq_iff_eq, beq_iff_eq]
    exact ⟨all.1, all.2.1⟩

end Moment

/-! ### Values -/

namespace Value

/-- Values that are the same only if they are equal. -/
def isPlain : Value → Bool
  | .decimal _ | .float _ | .double _ | .moment _ | .list _ => false
  | _ => true

theorem same_iff_eq {left right : Value} (plain : left.isPlain = true) :
    left.same right = true ↔ left = right := by
  cases left with
  | decimal _ | float _ | double _ | moment _ | list _ => cases plain
  | _ => cases right <;> simp [same]

mutual

/-- A value is the same as itself. -/
theorem same_self : ∀ value : Value, value.same value = true
  | .decimal value => Decimal.same_self value
  | .float _ | .double _ => Binary.same_iff.mpr rfl
  | .moment _ => by
    rw [same, beq_iff_eq, Moment.compare_eq_iff]
    exact ⟨rfl, rfl, rfl⟩
  | .list items => sameItems_self items
  | .string _ | .boolean _ | .duration _ | .recurring _ _ | .hexBinary _ | .base64Binary _
  | .uri _ | .name _ => (same_iff_eq rfl).mpr rfl

theorem sameItems_self : ∀ items : List Value, sameItems items items = true
  | [] => by rw [sameItems]
  | item :: rest => by rw [sameItems, same_self item, sameItems_self rest, Bool.and_self]

end

mutual

/-- Sameness has no direction. -/
theorem same_symm : ∀ {left right : Value}, left.same right = true → right.same left = true
  | .decimal _, right, related => by
    cases right with
    | decimal _ => exact Decimal.same_symm related
    | _ => exact absurd related Bool.false_ne_true
  | .float _, right, related => by
    cases right with
    | float _ => exact Binary.same_iff.mpr (Binary.same_iff.mp related).symm
    | _ => exact absurd related Bool.false_ne_true
  | .double _, right, related => by
    cases right with
    | double _ => exact Binary.same_iff.mpr (Binary.same_iff.mp related).symm
    | _ => exact absurd related Bool.false_ne_true
  | .moment _, right, related => by
    cases right with
    | moment _ =>
      rw [same, beq_iff_eq, Moment.compare_eq_iff] at related ⊢
      exact ⟨related.1.symm, related.2.1.symm, related.2.2.symm⟩
    | _ => exact absurd related Bool.false_ne_true
  | .list lefts, right, related => by
    cases right with
    | list rights => exact sameItems_symm related
    | _ => exact absurd related Bool.false_ne_true
  | .string _, _, related | .boolean _, _, related | .duration _, _, related
  | .recurring _ _, _, related | .hexBinary _, _, related | .base64Binary _, _, related
  | .uri _, _, related | .name _, _, related => by
    obtain rfl := (same_iff_eq rfl).mp related
    exact related

theorem sameItems_symm : ∀ {lefts rights : List Value},
    sameItems lefts rights = true → sameItems rights lefts = true
  | [], rights, related => by
    cases rights with
    | nil => exact related
    | cons => exact absurd related Bool.false_ne_true
  | left :: lefts, rights, related => by
    cases rights with
    | nil => exact absurd related Bool.false_ne_true
    | cons right rights =>
      rw [sameItems, Bool.and_eq_true] at related ⊢
      exact ⟨same_symm related.1, sameItems_symm related.2⟩

end

mutual

/-- What is the same as one value is the same. -/
theorem same_trans : ∀ {left middle right : Value},
    left.same middle = true → middle.same right = true → left.same right = true
  | .decimal _, middle, right, first, second => by
    cases middle with
    | decimal _ =>
      cases right with
      | decimal _ => exact Decimal.same_trans first second
      | _ => exact absurd second Bool.false_ne_true
    | _ => exact absurd first Bool.false_ne_true
  | .float _, middle, right, first, second => by
    cases middle with
    | float _ =>
      cases right with
      | float _ =>
        exact Binary.same_iff.mpr ((Binary.same_iff.mp first).trans (Binary.same_iff.mp second))
      | _ => exact absurd second Bool.false_ne_true
    | _ => exact absurd first Bool.false_ne_true
  | .double _, middle, right, first, second => by
    cases middle with
    | double _ =>
      cases right with
      | double _ =>
        exact Binary.same_iff.mpr ((Binary.same_iff.mp first).trans (Binary.same_iff.mp second))
      | _ => exact absurd second Bool.false_ne_true
    | _ => exact absurd first Bool.false_ne_true
  | .moment _, middle, right, first, second => by
    cases middle with
    | moment _ =>
      cases right with
      | moment _ =>
        rw [same, beq_iff_eq, Moment.compare_eq_iff] at first second ⊢
        exact ⟨first.1.trans second.1, first.2.1.trans second.2.1, first.2.2.trans second.2.2⟩
      | _ => exact absurd second Bool.false_ne_true
    | _ => exact absurd first Bool.false_ne_true
  | .list lefts, middle, right, first, second => by
    cases middle with
    | list middles =>
      cases right with
      | list rights => exact sameItems_trans first second
      | _ => exact absurd second Bool.false_ne_true
    | _ => exact absurd first Bool.false_ne_true
  | .string _, _, _, first, second | .boolean _, _, _, first, second
  | .duration _, _, _, first, second | .recurring _ _, _, _, first, second
  | .hexBinary _, _, _, first, second | .base64Binary _, _, _, first, second
  | .uri _, _, _, first, second | .name _, _, _, first, second => by
    obtain rfl := (same_iff_eq rfl).mp first
    exact second

theorem sameItems_trans : ∀ {lefts middles rights : List Value},
    sameItems lefts middles = true → sameItems middles rights = true →
      sameItems lefts rights = true
  | [], middles, rights, first, second => by
    cases middles with
    | nil => exact second
    | cons => exact absurd first Bool.false_ne_true
  | left :: lefts, middles, rights, first, second => by
    cases middles with
    | nil => exact absurd first Bool.false_ne_true
    | cons middle middles =>
      cases rights with
      | nil => exact absurd second Bool.false_ne_true
      | cons right rights =>
        rw [sameItems, Bool.and_eq_true] at first second ⊢
        exact ⟨same_trans first.1 second.1, sameItems_trans first.2 second.2⟩

end

end Value

end SchemaAssessment
