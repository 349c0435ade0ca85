/-
Tables of keys and the activations that they stand for. An activation is a key or a
unique constraint at work on an element, with the tuples that it recorded there. A table
holds activations together by their names: it tells whether some constraint of a name was
active, and whether some of that name has recorded a tuple. Adding to a table and joining
two of them keep to this, whatever repetitions there are.
-/

import Mathlib.Data.List.Nodup
import SchemaAssessment.Proofs.Identity.Tuples

namespace SchemaAssessment

/-! ### Activations -/

/-- A key or a unique constraint on an element that has ended, with the tuples recorded there. -/
structure Activation where
  name : ExpandedName
  tuples : TupleSet

/-- A constraint with the name was active. -/
def isActive (activations : List Activation) (name : ExpandedName) : Bool :=
  activations.any fun activation => activation.name == name

/-- A constraint with the name has recorded the tuple. -/
def isRecorded (activations : List Activation) (name : ExpandedName) (tuple : Tuple) : Bool :=
  activations.any fun activation => activation.name == name && activation.tuples.contains tuple

theorem isActive_append (first second : List Activation) (name : ExpandedName) :
    isActive (first ++ second) name = (isActive first name || isActive second name) :=
  List.any_append

theorem isRecorded_append (first second : List Activation) (name : ExpandedName) (tuple : Tuple) :
    isRecorded (first ++ second) name tuple =
      (isRecorded first name tuple || isRecorded second name tuple) :=
  List.any_append

theorem TupleSet.contains_merge (set others : TupleSet) (tuple : Tuple) :
    (set.merge others).contains tuple = (set.contains tuple || others.contains tuple) := by
  obtain ⟨others⟩ := others
  show (others.foldl insert set).contains tuple = (_ || others.any _)
  induction others generalizing set with
  | nil => rw [List.foldl_nil, List.any_nil, Bool.or_false]
  | cons first rest ofRest =>
    rw [List.foldl_cons, ofRest, contains_insert, List.any_cons, Bool.or_assoc]

/-! ### Tables -/

namespace KeyTable

theorem lookup_add (table : KeyTable) (name other : ExpandedName) (tuples : TupleSet) :
    (add name tuples table).lookup other =
      if other = name then some (((table.lookup name).getD .empty).merge tuples)
      else table.lookup other := by
  induction table with
  | nil =>
    rw [add, List.lookup_cons, List.lookup_nil]
    by_cases same : other = name
    · rw [if_pos same, beq_iff_eq.mpr same]
      rfl
    · rw [if_neg same, beq_eq_false_iff_ne.mpr same]
  | cons entry rest ofRest =>
    obtain ⟨present, kept⟩ := entry
    unfold add
    by_cases here : present = name
    · subst here
      rw [if_pos (beq_self_eq_true present), List.lookup_cons, List.lookup_cons, List.lookup_cons,
        beq_self_eq_true]
      by_cases same : other = present
      · rw [if_pos same, beq_iff_eq.mpr same]
        rfl
      · rw [if_neg same, beq_eq_false_iff_ne.mpr same]
    · rw [if_neg fun equal => here (beq_iff_eq.mp equal), List.lookup_cons, List.lookup_cons,
        List.lookup_cons, ofRest, beq_eq_false_iff_ne.mpr fun equal => here equal.symm]
      by_cases first : other = present
      · subst first
        rw [beq_self_eq_true, if_neg here, if_neg here]
      · rw [beq_eq_false_iff_ne.mpr first]

theorem mem_keys_add {table : KeyTable} {name other : ExpandedName} {tuples : TupleSet} :
    other ∈ (add name tuples table).map Prod.fst ↔ other = name ∨ other ∈ table.map Prod.fst := by
  induction table with
  | nil => simp [add]
  | cons entry rest ofRest =>
    obtain ⟨present, kept⟩ := entry
    unfold add
    split
    · rename_i here
      rw [List.map_cons, List.map_cons, List.mem_cons, ← beq_iff_eq.mp here, or_self_left]
    · rw [List.map_cons, List.mem_cons, ofRest, List.map_cons, List.mem_cons, or_left_comm]

theorem nodup_add {table : KeyTable} (distinct : (table.map Prod.fst).Nodup)
    (name : ExpandedName) (tuples : TupleSet) : ((add name tuples table).map Prod.fst).Nodup := by
  induction table with
  | nil => exact List.nodup_singleton name
  | cons entry rest ofRest =>
    obtain ⟨present, kept⟩ := entry
    obtain ⟨fresh, others⟩ := List.nodup_cons.mp distinct
    unfold add
    split
    · exact distinct
    · rename_i differs
      refine List.nodup_cons.mpr ⟨fun member => ?_, ofRest others⟩
      rcases mem_keys_add.mp member with same | old
      · exact differs (beq_iff_eq.mpr same)
      · exact fresh old

/-- A table that stands for some activations. -/
structure Represents (table : KeyTable) (activations : List Activation) : Prop where
  distinct : (table.map Prod.fst).Nodup
  active : ∀ name, (table.lookup name).isSome = isActive activations name
  recorded : ∀ name tuple,
    ((table.lookup name).any fun tuples => tuples.contains tuple) =
      isRecorded activations name tuple

theorem represents_nil : Represents [] [] := ⟨List.nodup_nil, fun _ => rfl, fun _ _ => rfl⟩

theorem Represents.comm {table : KeyTable} {first second : List Activation}
    (represents : table.Represents (first ++ second)) : table.Represents (second ++ first) where
  distinct := represents.distinct
  active := fun name => by
    rw [represents.active, isActive_append, isActive_append, Bool.or_comm]
  recorded := fun name tuple => by
    rw [represents.recorded, isRecorded_append, isRecorded_append, Bool.or_comm]

/-- Adding the tuples of a constraint adds its activation. -/
theorem Represents.add {table : KeyTable} {activations : List Activation}
    (represents : table.Represents activations) (activation : Activation) :
    (KeyTable.add activation.name activation.tuples table).Represents
      (activations ++ [activation]) := by
  refine ⟨nodup_add represents.distinct _ _, fun name => ?_, fun name tuple => ?_⟩
  · rw [lookup_add, isActive_append, ← represents.active]
    by_cases same : name = activation.name
    · rw [if_pos same, isActive, List.any_cons, beq_iff_eq.mpr same.symm, Bool.true_or,
        Bool.or_true]
      rfl
    · rw [if_neg same, isActive, List.any_cons, List.any_nil, Bool.or_false,
        beq_eq_false_iff_ne.mpr (Ne.symm same), Bool.or_false]
  · rw [lookup_add, isRecorded_append, ← represents.recorded]
    by_cases same : name = activation.name
    · subst same
      rw [if_pos rfl, Option.any_some, TupleSet.contains_merge, isRecorded, List.any_cons,
        List.any_nil, Bool.or_false, beq_self_eq_true, Bool.true_and]
      cases table.lookup activation.name <;> rfl
    · rw [if_neg same, isRecorded, List.any_cons, List.any_nil, Bool.or_false,
        beq_eq_false_iff_ne.mpr (Ne.symm same), Bool.false_and, Bool.or_false]

theorem lookup_eq_none_of_not_mem {table : KeyTable} {name : ExpandedName}
    (fresh : name ∉ table.map Prod.fst) : table.lookup name = none := by
  rw [List.lookup_eq_none_iff]
  intro entry member
  refine bne_iff_ne.mpr fun same => fresh ?_
  exact same ▸ List.mem_map_of_mem member

/-- The entries of a table as activations. -/
def entries (table : KeyTable) : List Activation :=
  table.map fun entry => ⟨entry.1, entry.2⟩

/-- A table stands for its own entries. -/
theorem represents_entries {table : KeyTable} (distinct : (table.map Prod.fst).Nodup) :
    table.Represents table.entries := by
  refine ⟨distinct, fun name => ?_, fun name tuple => ?_⟩
  · clear distinct
    induction table with
    | nil => rfl
    | cons entry rest ofRest =>
      rw [List.lookup_cons, entries, List.map_cons, isActive, List.any_cons, BEq.comm]
      cases entry.1 == name with
      | false => exact ofRest
      | true => rfl
  · induction table with
    | nil => rfl
    | cons entry rest ofRest =>
      obtain ⟨fresh, others⟩ := List.nodup_cons.mp distinct
      rw [List.lookup_cons, entries, List.map_cons, isRecorded, List.any_cons, BEq.comm]
      cases here : entry.1 == name with
      | false => exact ofRest others
      | true =>
        rw [beq_iff_eq.mp here] at fresh
        have nothing := ofRest others
        rw [lookup_eq_none_of_not_mem fresh, Option.any_none] at nothing
        rw [Bool.true_and]
        exact ((congrArg (entry.2.contains tuple || ·) nothing.symm).trans (Bool.or_false _)).symm

/-- Joining two tables joins their activations. -/
theorem Represents.join {table others : KeyTable} {first second : List Activation}
    (left : table.Represents first) (right : others.Represents second) :
    (table.join others).Represents (first ++ second) := by
  have own := represents_entries right.distinct
  -- a table is joined entry by entry
  have joined : ∀ activations : List Activation, table.Represents activations →
      (table.join others).Represents (activations ++ others.entries) := by
    clear left right own
    induction others generalizing table with
    | nil =>
      intro activations represents
      rwa [entries, List.map_nil, List.append_nil]
    | cons entry rest ofRest =>
      intro activations represents
      rw [entries, List.map_cons, List.append_cons]
      exact ofRest _ (represents.add ⟨entry.1, entry.2⟩)
  obtain ⟨distinct, active, recorded⟩ := joined first left
  refine ⟨distinct, fun name => ?_, fun name tuple => ?_⟩
  · rw [active, isActive_append, isActive_append, ← own.active, right.active]
  · rw [recorded, isRecorded_append, isRecorded_append, ← own.recorded, right.recorded]

end KeyTable

end SchemaAssessment
