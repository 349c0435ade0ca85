/-
Readings that may fail. What a first reading and a further one behind it give is told by
what each of them gives, and what is read of the items of a list is read item by item.
-/

import Mathlib.Data.List.Forall2

namespace SchemaAssessment

section

variable {ε α β : Type} {read : Except ε β} {further : β → Except ε α}

theorem bind_eq_ok {value : α} :
    read >>= further = .ok value ↔ ∃ first, read = .ok first ∧ further first = .ok value := by
  cases read with
  | error fault => exact iff_of_false nofun fun ⟨_, same, _⟩ => nomatch same
  | ok first =>
    constructor
    · exact fun same => ⟨first, rfl, same⟩
    · rintro ⟨other, same, later⟩
      obtain rfl := Except.ok.inj same
      exact later

theorem map_eq_ok {make : β → α} {value : α} :
    read.map make = .ok value ↔ ∃ first, read = .ok first ∧ make first = value := by
  cases read with
  | error fault => exact iff_of_false nofun fun ⟨_, same, _⟩ => nomatch same
  | ok first =>
    constructor
    · exact fun same => ⟨first, rfl, Except.ok.inj same⟩
    · rintro ⟨other, same, made⟩
      obtain rfl := Except.ok.inj same
      exact congrArg Except.ok made

theorem bind_eq_error {fault : ε} :
    read >>= further = .error fault ↔
      read = .error fault ∨ ∃ first, read = .ok first ∧ further first = .error fault := by
  cases read with
  | error other =>
    constructor
    · intro same
      cases same
      exact .inl rfl
    · rintro (same | ⟨_, same, _⟩)
      · cases same
        rfl
      · cases same
  | ok first =>
    constructor
    · exact fun same => .inr ⟨first, rfl, same⟩
    · rintro (same | ⟨other, same, later⟩)
      · cases same
      · obtain rfl := Except.ok.inj same
        exact later

end

theorem exists_of_mem_right {α β : Type} {R : α → β → Prop} {items : List α} {values : List β}
    {value : β} (related : List.Forall₂ R items values) (member : value ∈ values) :
    ∃ item ∈ items, R item value := by
  induction related with
  | nil => cases member
  | cons here _ ofRest =>
    rcases List.mem_cons.mp member with rfl | later
    · exact ⟨_, List.mem_cons_self, here⟩
    · obtain ⟨item, inRest, holds⟩ := ofRest later
      exact ⟨item, List.mem_cons_of_mem _ inRest, holds⟩

section

variable {ε α β : Type} {read : α → Except ε β} {items : List α} {values : List β}

theorem mapM_eq_ok : items.mapM read = .ok values ↔
    List.Forall₂ (fun item value => read item = .ok value) items values := by
  induction items generalizing values with
  | nil =>
    rw [List.forall₂_nil_left_iff, List.mapM_nil]
    exact ⟨fun same => (Except.ok.inj same).symm, fun same => congrArg Except.ok same.symm⟩
  | cons item rest ofRest =>
    rw [List.mapM_cons, List.forall₂_cons_left_iff, bind_eq_ok]
    constructor
    · rintro ⟨value, here, more⟩
      obtain ⟨others, later, same⟩ := bind_eq_ok.mp more
      exact ⟨value, others, here, ofRest.mp later, (Except.ok.inj same).symm⟩
    · rintro ⟨value, others, here, later, rfl⟩
      exact ⟨value, here, bind_eq_ok.mpr ⟨others, ofRest.mpr later, rfl⟩⟩

/-- Items are read alike where each of them is. -/
theorem mapM_congr {other : α → Except ε β} (same : ∀ item ∈ items, read item = other item) :
    items.mapM read = items.mapM other := by
  induction items with
  | nil => rfl
  | cons item rest ofRest =>
    obtain ⟨here, there⟩ := List.forall_mem_cons.mp same
    rw [List.mapM_cons, List.mapM_cons, here, ofRest there]

theorem exists_of_mapM {value : β} (done : items.mapM read = .ok values)
    (member : value ∈ values) : ∃ item, read item = .ok value := by
  obtain ⟨item, -, here⟩ := exists_of_mem_right (mapM_eq_ok.mp done) member
  exact ⟨item, here⟩

end

end SchemaAssessment
