/-
Sets of tuples. However a set comes about, by inserting tuples and by merging sets that came
about in the same way, no two of its members are the same, and it contains just what is the
same as something that was inserted on the way. So which tuples a set contains depends on
nothing but the classes of the tuples that went in.
-/

import SchemaAssessment.Proofs.Identity.Table
import SchemaAssessment.Proofs.Value.Order

namespace SchemaAssessment

namespace TupleSet

/-! ### Members -/

/-- No two members are the same. -/
def IsDistinct (set : TupleSet) : Prop :=
  set.tuples.Pairwise fun left right => Value.sameItems left right = false

theorem contains_eq_false_iff {set : TupleSet} {tuple : Tuple} :
    set.contains tuple = false ↔ ∀ member ∈ set.tuples, Value.sameItems member tuple = false := by
  rw [contains, List.any_eq_false]
  simp only [Bool.not_eq_true]

theorem isDistinct_empty : empty.IsDistinct := List.Pairwise.nil

/-- A tuple is added only if it is the same as none. -/
theorem IsDistinct.insert {set : TupleSet} (distinct : set.IsDistinct) (tuple : Tuple) :
    (set.insert tuple).IsDistinct := by
  unfold TupleSet.insert
  split
  · exact distinct
  · rename_i absent
    refine List.pairwise_append.mpr ⟨distinct, List.pairwise_singleton .., ?_⟩
    intro member inside other last
    obtain rfl := List.mem_singleton.mp last
    exact contains_eq_false_iff.mp (Bool.not_eq_true _ ▸ absent) member inside

theorem IsDistinct.merge {set : TupleSet} (distinct : set.IsDistinct) (others : TupleSet) :
    (set.merge others).IsDistinct := by
  obtain ⟨others⟩ := others
  show (others.foldl TupleSet.insert set).IsDistinct
  induction others generalizing set with
  | nil => exact distinct
  | cons first rest ofRest => exact ofRest (distinct.insert first)

/-- Which of two sets is merged into the other makes no difference to what is contained. -/
theorem contains_merge_comm (left right : TupleSet) (tuple : Tuple) :
    (left.merge right).contains tuple = (right.merge left).contains tuple := by
  rw [contains_merge, contains_merge, Bool.or_comm]

/-! ### How sets come about -/

/-- How a set comes about. -/
inductive Origin where
  | empty
  | insert (before : Origin) (tuple : Tuple)
  | merge (before others : Origin)

namespace Origin

/-- The set that comes about. -/
def set : Origin → TupleSet
  | .empty => .empty
  | .insert before tuple => before.set.insert tuple
  | .merge before others => before.set.merge others.set

/-- The tuples that are inserted on the way, into the set or into one that is merged into it. -/
def inserted : Origin → List Tuple
  | .empty => []
  | .insert before tuple => before.inserted ++ [tuple]
  | .merge before others => before.inserted ++ others.inserted

theorem isDistinct_set (origin : Origin) : origin.set.IsDistinct := by
  induction origin with
  | empty => exact isDistinct_empty
  | insert before tuple ofBefore => exact ofBefore.insert tuple
  | merge before others ofBefore _ => exact ofBefore.merge others.set

theorem contains_set (origin : Origin) (tuple : Tuple) :
    origin.set.contains tuple =
      origin.inserted.any fun earlier => Value.sameItems earlier tuple := by
  induction origin with
  | empty => rfl
  | insert before inserted ofBefore =>
    rw [set, contains_insert, ofBefore, Origin.inserted, List.any_append, List.any_cons,
      List.any_nil, Bool.or_false]
  | merge before others ofBefore ofOthers =>
    rw [set, contains_merge, ofBefore, ofOthers, Origin.inserted, List.any_append]

end Origin

end TupleSet

/-! ### Sameness and order together -/

/-- Sameness is an equivalence, and the order of values is one of its classes: values that compare
as equal are the same, the order is turned round with its sides, to be less is transitive, and what
is the same compares alike. So sets of tuples are sets of classes. -/
theorem Value.same_fits_compare :
    Equivalence (fun left right : Value => left.same right = true) ∧
    (∀ left right : Value, left.compare right = some .eq → left.same right = true) ∧
    (∀ left right : Value, right.compare left = (left.compare right).map Ordering.swap) ∧
    (∀ left middle right : Value, left.compare middle = some .lt →
      middle.compare right = some .lt → left.compare right = some .lt) ∧
    (∀ left otherLeft right otherRight : Value, left.same otherLeft = true →
      right.same otherRight = true → left.compare right = otherLeft.compare otherRight) ∧
    ∀ origin : TupleSet.Origin,
      origin.set.IsDistinct ∧
      (∀ tuple, origin.set.contains tuple = true ↔
        ∃ inserted ∈ origin.inserted, Value.sameItems inserted tuple = true) ∧
      ∀ (others : TupleSet.Origin) (tuple : Tuple),
        (TupleSet.Origin.merge origin others).set.contains tuple =
          (TupleSet.Origin.merge others origin).set.contains tuple := by
  refine ⟨⟨same_self, same_symm, same_trans⟩, fun _ _ => same_of_compare_eq, compare_swap,
    fun _ _ _ => compare_lt_trans, fun _ _ _ _ => compare_congr, fun origin => ?_⟩
  refine ⟨origin.isDistinct_set, fun tuple => ?_, fun others tuple => ?_⟩
  · rw [origin.contains_set, List.any_eq_true]
  · exact TupleSet.contains_merge_comm origin.set others.set tuple

theorem Value.same_fits_compare_prices :
    let one : Value := .decimal ⟨1, 0⟩
    let alsoOne : Value := .decimal ⟨10, 1⟩
    let two : Value := .decimal ⟨2, 0⟩
    let three : Value := .decimal ⟨3, 0⟩
    let prices : TupleSet.Origin := .merge (.insert .empty [one]) (.insert .empty [alsoOne])
    one.same alsoOne = true ∧ one.compare two = some .lt ∧ two.compare three = some .lt ∧
      alsoOne.compare three = some .lt ∧ prices.set.IsDistinct ∧ prices.set.tuples.length = 1 := by
  intro one alsoOne two three prices
  obtain ⟨-, -, -, transitive, alike, sets⟩ := Value.same_fits_compare
  have same : one.same alsoOne = true := by decide
  have low : one.compare two = some .lt := by decide
  have high : two.compare three = some .lt := by decide
  refine ⟨same, low, high, ?_, (sets prices).1, by decide⟩
  rw [← alike one alsoOne three three same (Value.same_self three)]
  exact transitive one two three low high

end SchemaAssessment
