/-
What is to be told about a selected element, given the values that each of its fields
finds: every value beyond the first one of a field, and then that the tuple was there
before, or that some fields, or all, have no value.
-/

import Mathlib.Data.List.Perm.Basic
import SchemaAssessment.Proofs.Identity.Selected
import SchemaAssessment.Proofs.Value.Sameness

namespace SchemaAssessment

/-! ### What is said about a selected element -/

/-- The rules by which a store tells about selected elements. -/
def Rule.isOfTuple (rule : Rule) : Bool :=
  match rule with
  | .duplicateUnique | .duplicateKey | .absentKeyValue | .uniqueNotEnoughValues
  | .keyNotEnoughValues | .keyRefNotEnoughValues | .fieldMultipleMatch | .unknownField => true
  | _ => false

/-- What is told about selected elements: the rules that are broken, with the texts that belong to
them, whatever tag they are told at. -/
def gist (diagnostics : List Diagnostic) : List (Rule × List String) :=
  (diagnostics.filter fun diagnostic => diagnostic.rule.isOfTuple).map fun diagnostic =>
    (diagnostic.rule, diagnostic.arguments)

theorem gist_append (first second : List Diagnostic) :
    gist (first ++ second) = gist first ++ gist second := by
  rw [gist, List.filter_append, List.map_append]
  rfl

/-- The tuple of the first values, if every field has a value. -/
def tupleOf? (values : List (List Value)) : Option Tuple :=
  if values.all fun given => !given.isEmpty then some (values.filterMap List.head?) else none

/-- What is told about the values of fields beyond the first one. -/
def surplus (fields : List String) (values : List (List Value)) : List (Rule × List String) :=
  (fields.zip values).flatMap fun (expression, given) =>
    List.replicate (given.length - 1) (.fieldMultipleMatch, [expression])

namespace IdentityConstraint

/-- What is told about a tuple that was there before. References may be repeated. -/
def repetition (identity : IdentityConstraint) (declarer : String) (tuple : Tuple) :
    List (Rule × List String) :=
  match identity.kind with
  | .unique => [(.duplicateUnique, [tuple.text, declarer])]
  | .key => [(.duplicateKey, [tuple.text, declarer])]
  | .keyRef => []

/-- What is told about a selected element without any value. -/
def absence (identity : IdentityConstraint) (declarer : String) : List (Rule × List String) :=
  if identity.isKey then [(.absentKeyValue, [declarer])] else []

/-- What is told about a selected element when some of its fields have no value. -/
def shortage (identity : IdentityConstraint) (declarer : String) : Rule × List String :=
  match identity.kind with
  | .unique => (.uniqueNotEnoughValues, [declarer])
  | .key => (.keyNotEnoughValues, [declarer, identity.name.localName])
  | .keyRef => (.keyRefNotEnoughValues,
      [declarer, (identity.refer.map ExpandedName.localName).getD ""])

/-- What is told about a selected element whose fields have the given values, when some tuples have
been recorded before it. -/
def verdict (identity : IdentityConstraint) (declarer : String) (recorded : List Tuple)
    (values : List (List Value)) : List (Rule × List String) :=
  surplus identity.fields values ++
    match tupleOf? values with
    | some tuple =>
      if recorded.any fun earlier => Value.sameItems earlier tuple then
        identity.repetition declarer tuple
      else []
    | none =>
      if values.all List.isEmpty then identity.absence declarer
      else [identity.shortage declarer]

end IdentityConstraint

/-! ### Values field by field -/

/-- The values that some operations give to each of so many fields. -/
def valuesOfAll (count : Nat) (operations : List StoreOperation) : List (List Value) :=
  (List.range count).map fun field => valuesGiven field operations

/-- An operation between the beginning of a tuple and its end, for one of so many fields. -/
def StoreOperation.IsGift (count : Nat) : StoreOperation → Prop
  | .give field _ _ => field < count
  | .noteNillable _ => True
  | _ => False

theorem length_valuesOfAll (count : Nat) (operations : List StoreOperation) :
    (valuesOfAll count operations).length = count := by
  rw [valuesOfAll, List.length_map, List.length_range]

theorem valuesOfAll_nil (count : Nat) : valuesOfAll count [] = List.replicate count [] :=
  List.map_const' .. |>.trans (congrArg (List.replicate · []) List.length_range)

theorem valuesGiven_give_self (field : Nat) (operations : List StoreOperation) (value : Value)
    (shown : String) :
    valuesGiven field (operations ++ [.give field value shown]) =
      valuesGiven field operations ++ [value] := by
  rw [valuesGiven_append]
  simp [valuesGiven]

theorem valuesGiven_give_other {field other : Nat} (different : other ≠ field)
    (operations : List StoreOperation) (value : Value) (shown : String) :
    valuesGiven field (operations ++ [.give other value shown]) =
      valuesGiven field operations := by
  rw [valuesGiven_append]
  simp [valuesGiven, different]

/-- Only giving adds to the values. -/
theorem valuesOfAll_append_singleton {operation : StoreOperation}
    (silent : ∀ field, valuesGiven field [operation] = []) (count : Nat)
    (operations : List StoreOperation) :
    valuesOfAll count (operations ++ [operation]) = valuesOfAll count operations := by
  simp only [valuesOfAll, valuesGiven_append, silent, List.append_nil]

theorem valuesOfAll_give {count field : Nat} (operations : List StoreOperation) (value : Value)
    (shown : String) :
    valuesOfAll count (operations ++ [.give field value shown]) =
      (valuesOfAll count operations).set field (valuesGiven field operations ++ [value]) := by
  refine List.ext_getElem (by simp [length_valuesOfAll]) fun index within _ => ?_
  rw [List.getElem_set]
  simp only [valuesOfAll, List.getElem_map, List.getElem_range]
  split
  · rename_i same
    rw [← same, valuesGiven_give_self]
  · rename_i different
    rw [valuesGiven_give_other different]

/-! ### What is said, step by step -/

/-- A further value of a field adds one report. -/
theorem surplus_set_further {fields : List String} {values : List (List Value)} {field : Nat}
    {expression : String} {first : Value} {given : List Value}
    (standing : fields[field]? = some expression) (has : values[field]? = some (first :: given))
    (value : Value) :
    (surplus fields (values.set field (first :: given ++ [value]))).Perm
      (surplus fields values ++ [(.fieldMultipleMatch, [expression])]) := by
  induction fields generalizing values field with
  | nil => cases standing
  | cons other fields ofFields =>
    cases values with
    | nil => cases has
    | cons present values =>
      cases field with
      | zero =>
        obtain rfl := Option.some.inj standing
        obtain rfl := Option.some.inj has
        simp only [surplus, List.set_cons_zero, List.zip_cons_cons, List.flatMap_cons,
          List.length_append, List.length_cons, List.length_nil, Nat.add_sub_cancel,
          Nat.zero_add, List.replicate_succ', List.append_assoc]
        exact List.Perm.append_left _ List.perm_append_comm
      | succ field =>
        rw [List.getElem?_cons_succ] at standing has
        simp only [surplus, List.set_cons_succ, List.zip_cons_cons, List.flatMap_cons,
          List.append_assoc]
        exact List.Perm.append_left _ (ofFields standing has)

/-- The first value of a field adds no report. -/
theorem surplus_set_first {fields : List String} {values : List (List Value)} {field : Nat}
    (empty : values[field]? = some []) (value : Value) :
    surplus fields (values.set field [value]) = surplus fields values := by
  induction fields generalizing values field with
  | nil => rfl
  | cons other fields ofFields =>
    cases values with
    | nil => cases empty
    | cons present values =>
      cases field with
      | zero =>
        obtain rfl := Option.some.inj empty
        rfl
      | succ field =>
        rw [List.getElem?_cons_succ] at empty
        simp only [surplus, List.set_cons_succ, List.zip_cons_cons, List.flatMap_cons]
        exact congrArg _ (ofFields empty)

theorem surplus_replicate_nil (fields : List String) (count : Nat) :
    surplus fields (List.replicate count []) = [] := by
  rw [surplus, List.flatMap_eq_nil_iff]
  rintro ⟨expression, given⟩ member
  rw [List.eq_of_mem_replicate (List.of_mem_zip member).2]
  rfl

theorem tupleOf?_of_nil {values : List (List Value)} {field : Nat}
    (empty : values[field]? = some []) : tupleOf? values = none :=
  if_neg fun all => Bool.false_ne_true <|
    List.all_eq_true.mp all [] (List.mem_of_getElem? empty)

/-- The tuple of the values in progress, if every field has one. -/
def completed (held : List (Option Value)) : Option Tuple :=
  if held.all Option.isSome then some (held.filterMap id) else none

/-- Which tuple there is depends on the first values alone. -/
theorem tupleOf?_eq (values : List (List Value)) :
    tupleOf? values = completed (values.map List.head?) := by
  rw [tupleOf?, completed, List.all_map, List.filterMap_map]
  have present : (fun given : List Value => !given.isEmpty) = Option.isSome ∘ List.head? := by
    funext given
    cases given <;> rfl
  rw [present]
  rfl

theorem heads_set_further {values : List (List Value)} {field : Nat} {first : Value}
    {given : List Value} (has : values[field]? = some (first :: given)) (value : Value) :
    (values.set field (first :: given ++ [value])).map List.head? = values.map List.head? := by
  obtain ⟨inside, same⟩ := List.getElem?_eq_some_iff.mp has
  refine List.ext_getElem (by simp) fun index _ _ => ?_
  rw [List.getElem_map, List.getElem_map, List.getElem_set]
  split
  · rename_i equal
    subst equal
    rw [same]
    rfl
  · rfl

theorem heads_set_first (values : List (List Value)) (field : Nat) (value : Value) :
    (values.set field [value]).map List.head? = (values.map List.head?).set field (some value) :=
  List.map_set ..

end SchemaAssessment
