/-
Lists in which every item is told once, at the place where it came first; and chains, in
which a step leads from one thing to the next, as long as there is a next one.
-/

import Mathlib.Data.List.Nodup
import Mathlib.Data.Nat.Init

namespace SchemaAssessment

/-! ### Items told once -/

section

variable {α : Type} [BEq α] [LawfulBEq α]

theorem nodup_eraseDups (items : List α) : items.eraseDups.Nodup :=
  match items with
  | [] => List.nodup_nil
  | item :: rest => by
    rw [List.eraseDups_cons, List.nodup_cons, List.mem_eraseDups]
    exact ⟨by simp, nodup_eraseDups (rest.filter fun other => !other == item)⟩
termination_by items.length
decreasing_by exact Nat.lt_succ_of_le (List.length_filter_le ..)

/-- An item at the end is new, or it was told before. -/
theorem eraseDups_concat (items : List α) (item : α) :
    (items ++ [item]).eraseDups =
      if items.contains item then items.eraseDups else items.eraseDups ++ [item] := by
  rw [List.eraseDups_append, List.removeAll]
  by_cases told : item ∈ items <;> simp [told, List.eraseDups_cons]

end

/-! ### Chains -/

section

variable {α : Type} {next : α → Option α} {start last : α}

/-- What so many steps lead to, as long as every step leads on. -/
def chain? (next : α → Option α) (start : α) : Nat → Option α
  | 0 => some start
  | steps + 1 => (chain? next start steps).bind next

theorem chain?_add (start : α) (first second : Nat) :
    chain? next start (first + second) =
      (chain? next start first).bind fun middle => chain? next middle second := by
  induction second with
  | zero => simp [chain?]
  | succ second ofFewer =>
    rw [← Nat.add_assoc, chain?, ofFewer, Option.bind_assoc]
    rfl

theorem chain?_succ (start : α) (steps : Nat) :
    chain? next start (steps + 1) =
      (next start).bind fun following => chain? next following steps := by
  rw [Nat.add_comm, chain?_add]
  rfl

/-- Before a chain arrives, every step of it leads on. -/
theorem exists_of_chain? {earlier later : Nat} (before : earlier < later)
    (arrives : chain? next start later = some last) :
    ∃ here further, chain? next start earlier = some here ∧ next here = some further := by
  induction later, before using Nat.le_induction generalizing last with
  | base =>
    obtain ⟨here, found, step⟩ := Option.bind_eq_some_iff.mp arrives
    exact ⟨here, last, found, step⟩
  | succ later _ ofEarlier =>
    obtain ⟨middle, found, -⟩ := Option.bind_eq_some_iff.mp arrives
    exact ofEarlier found

end

end SchemaAssessment
