/-
Tables of places are exact. What may follow from a reach of a table is a language:
the sequences of children that lead, place by place, to where the content may end.
Of an expression that stands in a table at some place, the places that may take its
first child lead to what the expression stands for without the empty sequence, and
then to what may follow behind it. The claim is about the places of one expression
while what lies behind them is left open, so that it goes through by the structure
of the expression; a repetition without bounds leads back to itself, which Arden's
rule resolves.
-/

import SchemaAssessment.Content.Model
import SchemaAssessment.Proofs.Content.Language

namespace SchemaAssessment

open scoped Computability

variable {τ α : Type}

/-! ### What may follow -/

namespace Reach

/-- The children can be taken one after the other from some places of a table on, up to where the
content may end. -/
def Admits (matched : Leaf τ → α → Prop) (table : Array (Place τ)) : List α → Reach → Prop
  | [], reach => reach.mayEnd = true
  | child :: rest, reach => ∃ index ∈ reach.places, ∃ place, table[index]? = some place ∧
      matched place.leaf child ∧ Admits matched table rest place.next

/-- The sequences of children that may follow. -/
def language (matched : Leaf τ → α → Prop) (table : Array (Place τ)) (reach : Reach) :
    Language α :=
  {word | Admits matched table word reach}

theorem mem_merge (left right : List Nat) (index : Nat) :
    index ∈ merge left right ↔ index ∈ left ∨ index ∈ right := by
  fun_induction merge left right with
  | case1 right => simp
  | case2 left => simp
  | case3 a left b right less ofRest => simp [ofRest, or_assoc]
  | case4 a left b right notLess less ofRest =>
    simp only [List.mem_cons, ofRest]
    tauto
  | case5 a left b right notLess notGreater ofRest =>
    have same : a = b := by omega
    simp only [List.mem_cons, ofRest, same]
    tauto

variable (matched : Leaf τ → α → Prop) (table : Array (Place τ))

theorem language_union (left right : Reach) :
    (left.union right).language matched table =
      left.language matched table + right.language matched table := by
  ext word
  cases word with
  | nil => exact iff_of_eq (Bool.or_eq_true ..)
  | cons child rest =>
    show (∃ index ∈ merge left.places right.places, _) ↔
      (∃ index ∈ left.places, _) ∨ (∃ index ∈ right.places, _)
    simp only [mem_merge, or_and_right, exists_or]

theorem language_append (left right : List Nat) :
    (⟨left ++ right, false⟩ : Reach).language matched table =
      (⟨left, false⟩ : Reach).language matched table +
        (⟨right, false⟩ : Reach).language matched table := by
  ext word
  cases word with
  | nil => exact ⟨Or.inl, fun ends => ends.elim id id⟩
  | cons child rest =>
    show (∃ index ∈ left ++ right, _) ↔ (∃ index ∈ left, _) ∨ (∃ index ∈ right, _)
    simp only [List.mem_append, or_and_right, exists_or]

theorem language_nowhere : (⟨[], false⟩ : Reach).language matched table = 0 := by
  ext word
  refine iff_of_false (fun member => ?_) (Language.notMem_zero word)
  cases word with
  | nil => exact Bool.false_ne_true member
  | cons child rest =>
    obtain ⟨index, inside, -⟩ := member
    cases inside

theorem language_ending : Reach.ending.language matched table = 1 := by
  ext word
  cases word with
  | nil => exact iff_of_true rfl rfl
  | cons child rest =>
    refine iff_of_false ?_ (List.cons_ne_nil child rest)
    rintro ⟨index, inside, -⟩
    cases inside

/-- Places that stand for the same in a table lead to the same. -/
theorem language_congr {left right : List Nat}
    (toRight : ∀ index ∈ left, ∃ other ∈ right, table[index]? = table[other]?)
    (toLeft : ∀ index ∈ right, ∃ other ∈ left, table[index]? = table[other]?) :
    (⟨left, false⟩ : Reach).language matched table =
      (⟨right, false⟩ : Reach).language matched table := by
  ext word
  cases word with
  | nil => exact Iff.rfl
  | cons child rest =>
    constructor
    · rintro ⟨index, inside, place, found, follows⟩
      obtain ⟨other, insideRight, same⟩ := toRight index inside
      exact ⟨other, insideRight, place, same ▸ found, follows⟩
    · rintro ⟨index, inside, place, found, follows⟩
      obtain ⟨other, insideLeft, same⟩ := toLeft index inside
      exact ⟨other, insideLeft, place, same ▸ found, follows⟩

end Reach

/-! ### Where an expression stands -/

/-- Some places stand in a table from a number on. -/
def Occupies (table : Array (Place τ)) (start : Nat) (places : List (Place τ)) : Prop :=
  ∀ offset place, places[offset]? = some place → table[start + offset]? = some place

theorem occupies_append {table : Array (Place τ)} {start : Nat} {first second : List (Place τ)} :
    Occupies table start (first ++ second) ↔
      Occupies table start first ∧ Occupies table (start + first.length) second := by
  constructor
  · refine fun both => ⟨fun offset place found => both offset place ?_,
      fun offset place found => ?_⟩
    · obtain ⟨bound, -⟩ := List.getElem?_eq_some_iff.mp found
      rw [List.getElem?_append_left bound, found]
    · rw [Nat.add_assoc]
      refine both (first.length + offset) place ?_
      rw [List.getElem?_append_right (Nat.le_add_right ..), Nat.add_sub_cancel_left, found]
  · rintro ⟨ofFirst, ofSecond⟩ offset place found
    by_cases bound : offset < first.length
    · rw [List.getElem?_append_left bound] at found
      exact ofFirst offset place found
    · rw [List.getElem?_append_right (Nat.le_of_not_lt bound)] at found
      have reached := ofSecond (offset - first.length) place found
      rwa [Nat.add_assoc, Nat.add_sub_cancel' (Nat.le_of_not_lt bound)] at reached

namespace Expression

theorem length_leaves (expression : Expression τ) : expression.leaves.length = expression.size := by
  induction expression <;> simp_all [leaves, size]

/-- The copies of a repeated part that stand behind one another from a place on: what is reached
behind each of their places, and what is reached before the first of them. What a copy leaves
behind is passed through `pass` on the way to the copy before it. -/
def copies (body : Expression τ) (pass : Reach → Reach) (after : Reach) :
    Nat → Nat → List Reach × Reach
  | _, 0 => ([], after)
  | start, count + 1 =>
    let (later, behind) := copies body pass after (start + body.size) count
    (body.follows start behind ++ later, pass (body.before start behind))

theorem foldr_eq_copies (body : Expression τ) (pass : Reach → Reach) (after : Reach)
    (start first count : Nat) :
    (List.range' first count).foldr (fun copy (reached : List Reach × Reach) =>
        (body.follows (start + copy * body.size) reached.2 ++ reached.1,
          pass (body.before (start + copy * body.size) reached.2))) ([], after) =
      body.copies pass after (start + first * body.size) count := by
  induction count generalizing first with
  | zero => rfl
  | succ count ofRest =>
    rw [List.range'_succ, List.foldr_cons, ofRest, copies]
    have next : start + (first + 1) * body.size = start + first * body.size + body.size := by
      rw [Nat.succ_mul, Nat.add_assoc]
    rw [next]

theorem follows_exactly (body : Expression τ) (count start : Nat) (after : Reach) :
    (exactly count body).follows start after = (body.copies id after start count).1 := by
  have folded := foldr_eq_copies body id after start 0 count
  rw [Nat.zero_mul, Nat.add_zero] at folded
  rw [← folded, ← List.range_eq_range', follows, List.foldl_reverse]
  rfl

theorem follows_upTo (body : Expression τ) (count start : Nat) (after : Reach) :
    (upTo count body).follows start after =
      (body.copies (fun reach => reach.union after) after start count).1 := by
  have folded := foldr_eq_copies body (fun reach => reach.union after) after start 0 count
  rw [Nat.zero_mul, Nat.add_zero] at folded
  rw [← folded, ← List.range_eq_range', follows, List.foldl_reverse]

/-- The places that may take the first child of a copy, for copies that stand behind one another
from a place on. -/
def copyFirsts (body : Expression τ) : Nat → Nat → List Nat
  | _, 0 => []
  | start, count + 1 => body.firsts start ++ copyFirsts body (start + body.size) count

theorem flatMap_eq_copyFirsts (body : Expression τ) (start count : Nat) :
    ((List.range count).flatMap fun copy => body.firsts (start + copy * body.size)) =
      body.copyFirsts start count := by
  induction count generalizing start with
  | zero => rfl
  | succ count ofRest =>
    rw [List.range_succ_eq_map, List.flatMap_cons, List.flatMap_map, copyFirsts, ← ofRest,
      Nat.zero_mul, Nat.add_zero]
    congr 2
    funext copy
    rw [Nat.succ_mul, Nat.add_right_comm, Nat.add_assoc]

theorem length_copies (body : Expression τ)
    (ofBody : ∀ start after, (body.follows start after).length = body.size)
    (pass : Reach → Reach) (after : Reach) (start count : Nat) :
    (body.copies pass after start count).1.length = count * body.size := by
  induction count generalizing start with
  | zero => rw [Nat.zero_mul]; rfl
  | succ count ofRest =>
    rw [copies, List.length_append, ofBody, ofRest, Nat.succ_mul, Nat.add_comm]

theorem length_follows (expression : Expression τ) (start : Nat) (after : Reach) :
    (expression.follows start after).length = expression.size := by
  induction expression generalizing start after with
  | empty => rfl
  | leaf taker => rfl
  | sequence first second ofFirst ofSecond => simp [follows, size, ofFirst, ofSecond]
  | choice left right ofLeft ofRight => simp [follows, size, ofLeft, ofRight]
  | star body ofBody => exact ofBody _ _
  | exactly count body ofBody => rw [follows_exactly, length_copies body ofBody, size]
  | upTo count body ofBody => rw [follows_upTo, length_copies body ofBody, size]
  | nonEmpty body ofBody => simp [follows, size, ofBody]

/-- Leaves with what is reached behind them. -/
def pair (leaves : List (Leaf τ)) (nexts : List Reach) : List (Place τ) :=
  (leaves.zip nexts).map fun place => ⟨place.1, place.2⟩

/-- The places of an expression in order. -/
def places (expression : Expression τ) (start : Nat) (after : Reach) : List (Place τ) :=
  pair expression.leaves (expression.follows start after)

theorem pair_append {left right : List (Leaf τ)} {lefts rights : List Reach}
    (long : left.length = lefts.length) :
    pair (left ++ right) (lefts ++ rights) = pair left lefts ++ pair right rights := by
  rw [pair, List.zip_append long, List.map_append]
  rfl

theorem length_places (expression : Expression τ) (start : Nat) (after : Reach) :
    (expression.places start after).length = expression.size := by
  simp [places, pair, length_leaves, length_follows]

theorem places_sequence (first second : Expression τ) (start : Nat) (after : Reach) :
    (sequence first second).places start after =
      first.places start (second.before (start + first.size) after) ++
        second.places (start + first.size) after :=
  pair_append (by rw [length_leaves, length_follows])

theorem places_choice (left right : Expression τ) (start : Nat) (after : Reach) :
    (choice left right).places start after =
      left.places start after ++ right.places (start + left.size) after :=
  pair_append (by rw [length_leaves, length_follows])

theorem places_nonEmpty (body : Expression τ) (start : Nat) (after : Reach) :
    (nonEmpty body).places start after =
      body.places (start + body.size) after ++ body.places (start + body.size) after :=
  pair_append (by rw [length_leaves, length_follows])

/-- The places of copies that stand behind one another. -/
def copyPlaces (body : Expression τ) (pass : Reach → Reach) (after : Reach) (start count : Nat) :
    List (Place τ) :=
  pair (List.replicate count body.leaves).flatten (body.copies pass after start count).1

theorem copyPlaces_succ (body : Expression τ) (pass : Reach → Reach) (after : Reach)
    (start count : Nat) :
    body.copyPlaces pass after start (count + 1) =
      body.places start (body.copies pass after (start + body.size) count).2 ++
        body.copyPlaces pass after (start + body.size) count :=
  pair_append (by rw [length_leaves, length_follows])

theorem places_exactly (body : Expression τ) (count start : Nat) (after : Reach) :
    (exactly count body).places start after = body.copyPlaces id after start count := by
  rw [places, follows_exactly]
  rfl

theorem places_upTo (body : Expression τ) (count start : Nat) (after : Reach) :
    (upTo count body).places start after =
      body.copyPlaces (fun reach => reach.union after) after start count := by
  rw [places, follows_upTo]
  rfl

/-! ### Moving an expression -/

theorem copyFirsts_add (body : Expression τ) (shift : Nat)
    (ofBody : ∀ start, body.firsts (start + shift) = (body.firsts start).map (· + shift))
    (start count : Nat) :
    body.copyFirsts (start + shift) count = (body.copyFirsts start count).map (· + shift) := by
  induction count generalizing start with
  | zero => rfl
  | succ count ofRest =>
    rw [copyFirsts, copyFirsts, List.map_append, ofBody, Nat.add_right_comm, ofRest]

theorem firsts_exactly (body : Expression τ) (count start : Nat) :
    (exactly count body).firsts start =
      if body.isNullable then body.copyFirsts start count
      else if count = 0 then [] else body.firsts start := by
  rw [firsts, flatMap_eq_copyFirsts]

theorem firsts_upTo (body : Expression τ) (count start : Nat) :
    (upTo count body).firsts start =
      if body.isNullable then body.copyFirsts start count
      else if count = 0 then [] else body.firsts start := by
  rw [firsts, flatMap_eq_copyFirsts]

/-- The places of an expression move with it. -/
theorem firsts_add (expression : Expression τ) (start shift : Nat) :
    expression.firsts (start + shift) = (expression.firsts start).map (· + shift) := by
  induction expression generalizing start with
  | empty => rfl
  | leaf taker => rfl
  | sequence first second ofFirst ofSecond =>
    rw [firsts, firsts, ofFirst, Nat.add_right_comm, ofSecond, List.map_append]
    split <;> rfl
  | choice left right ofLeft ofRight =>
    rw [firsts, firsts, ofLeft, Nat.add_right_comm, ofRight, List.map_append]
  | star body ofBody => exact ofBody start
  | exactly count body ofBody =>
    rw [firsts_exactly, firsts_exactly, copyFirsts_add body shift ofBody, ofBody]
    split_ifs <;> rfl
  | upTo count body ofBody =>
    rw [firsts_upTo, firsts_upTo, copyFirsts_add body shift ofBody, ofBody]
    split_ifs <;> rfl
  | nonEmpty body ofBody => exact ofBody start

theorem lt_of_mem_copyFirsts {body : Expression τ} {start count index : Nat}
    (ofBody : ∀ {start}, index ∈ body.firsts start → index < start + body.size)
    (member : index ∈ body.copyFirsts start count) : index < start + count * body.size := by
  induction count generalizing start with
  | zero => cases member
  | succ count ofRest =>
    rw [Nat.succ_mul]
    rcases List.mem_append.mp member with inside | inside
    · have bound := ofBody inside
      omega
    · have bound := ofRest inside
      omega

theorem lt_of_mem_repeated {body : Expression τ} {start count index : Nat}
    (ofBody : ∀ {start}, index ∈ body.firsts start → index < start + body.size)
    (member : index ∈ if body.isNullable then body.copyFirsts start count
      else if count = 0 then [] else body.firsts start) : index < start + count * body.size := by
  split_ifs at member with nullable none
  · exact lt_of_mem_copyFirsts ofBody member
  · cases member
  · have bound := ofBody member
    have once := Nat.le_mul_of_pos_left body.size (Nat.pos_of_ne_zero none)
    omega

theorem lt_of_mem_firsts {expression : Expression τ} {start index : Nat}
    (member : index ∈ expression.firsts start) : index < start + expression.size := by
  induction expression generalizing start with
  | empty => cases member
  | leaf taker =>
    rw [List.mem_singleton.mp member]
    exact Nat.lt_succ_self start
  | sequence first second ofFirst ofSecond =>
    rw [size]
    rw [firsts] at member
    rcases List.mem_append.mp member with inside | inside
    · have bound := ofFirst inside
      omega
    · split at inside
      · have bound := ofSecond inside
        omega
      · cases inside
  | choice left right ofLeft ofRight =>
    rw [size]
    rcases List.mem_append.mp member with inside | inside
    · have bound := ofLeft inside
      omega
    · have bound := ofRight inside
      omega
  | star body ofBody => exact ofBody member
  | exactly count body ofBody =>
    exact lt_of_mem_repeated ofBody (firsts_exactly body count start ▸ member)
  | upTo count body ofBody =>
    exact lt_of_mem_repeated ofBody (firsts_upTo body count start ▸ member)
  | nonEmpty body ofBody =>
    have bound := ofBody member
    rw [size]
    omega

/-! ### Places are exact -/

section Exact

variable (matched : Leaf τ → α → Prop) (table : Array (Place τ))

/-- What may follow before an expression, when it is known what may follow its first places. -/
theorem language_before_of_firsts {expression : Expression τ} {start : Nat} {after : Reach}
    (ofFirsts : (⟨expression.firsts start, false⟩ : Reach).language matched table =
      (expression.language matched - 1) * after.language matched table) :
    (expression.before start after).language matched table =
      expression.language matched * after.language matched table := by
  unfold before
  by_cases nullable : expression.isNullable = true
  · rw [if_pos nullable, Reach.language_union, ofFirsts]
    conv_lhs => rw [← one_mul (after.language matched table), ← mul_assoc, mul_one, ← add_mul]
    rw [sub_one_add_one ((isNullable_iff matched expression).mp nullable)]
  · rw [if_neg nullable, ofFirsts,
      sub_one_of_notMem fun member => nullable ((isNullable_iff matched expression).mpr member)]

/-- What is asked of a part at every place where it stands: its first places lead to what it stands
for without the empty sequence, and then to what may follow behind it. -/
def IsExact (expression : Expression τ) : Prop :=
  ∀ start after, Occupies table start (expression.places start after) →
    (⟨expression.firsts start, false⟩ : Reach).language matched table =
      (expression.language matched - 1) * after.language matched table

section Copies

variable {matched table} {body : Expression τ} {pass : Reach → Reach} {after : Reach}
  {powers : Nat → Language α}

/-- What may follow before some copies of a part, where `powers` tells what so many copies stand
for. -/
theorem language_copies (exact : body.IsExact matched table) (none : powers 0 = 1)
    (passes : ∀ count reach, reach.language matched table =
        body.language matched * powers count * after.language matched table →
      (pass reach).language matched table = powers (count + 1) * after.language matched table)
    {start count : Nat} (occupied : Occupies table start (body.copyPlaces pass after start count)) :
    (body.copies pass after start count).2.language matched table =
      powers count * after.language matched table := by
  induction count generalizing start with
  | zero => rw [none, one_mul]; rfl
  | succ count ofRest =>
    rw [copyPlaces_succ, occupies_append, length_places] at occupied
    refine passes count _ ?_
    rw [language_before_of_firsts matched table (exact _ _ occupied.1), ofRest occupied.2,
      mul_assoc]

/-- The first places of copies of a part that may be empty. -/
theorem language_copyFirsts (exact : body.IsExact matched table) (none : powers 0 = 1)
    (passes : ∀ count reach, reach.language matched table =
        body.language matched * powers count * after.language matched table →
      (pass reach).language matched table = powers (count + 1) * after.language matched table)
    (grows : ∀ count, powers (count + 1) - 1 = body.language matched * powers count - 1)
    (nullable : [] ∈ body.language matched) {start count : Nat}
    (occupied : Occupies table start (body.copyPlaces pass after start count)) :
    (⟨body.copyFirsts start count, false⟩ : Reach).language matched table =
      (powers count - 1) * after.language matched table := by
  induction count generalizing start with
  | zero =>
    rw [none, one_sub_one, zero_mul]
    exact Reach.language_nowhere matched table
  | succ count ofRest =>
    rw [copyPlaces_succ, occupies_append, length_places] at occupied
    rw [copyFirsts, Reach.language_append, exact _ _ occupied.1, ofRest occupied.2,
      language_copies exact none passes occupied.2, grows, mul_sub_one_of_mem nullable, add_mul,
      mul_assoc]

/-- The first places of a part that is repeated. -/
theorem language_repeatedFirsts (powers : Nat → Language α)
    (exact : body.IsExact matched table) (none : powers 0 = 1)
    (passes : ∀ count reach, reach.language matched table =
        body.language matched * powers count * after.language matched table →
      (pass reach).language matched table = powers (count + 1) * after.language matched table)
    (grows : ∀ count, powers (count + 1) - 1 = body.language matched * powers count - 1)
    {start count : Nat} (occupied : Occupies table start (body.copyPlaces pass after start count)) :
    (⟨if body.isNullable then body.copyFirsts start count
        else if count = 0 then [] else body.firsts start, false⟩ : Reach).language matched table =
      (powers count - 1) * after.language matched table := by
  split_ifs with nullable empty
  · exact language_copyFirsts exact none passes grows ((isNullable_iff matched body).mp nullable)
      occupied
  · rw [empty, none, one_sub_one, zero_mul]
    exact Reach.language_nowhere matched table
  · obtain ⟨count, rfl⟩ := Nat.exists_eq_succ_of_ne_zero empty
    have solid : [] ∉ body.language matched := fun member =>
      nullable ((isNullable_iff matched body).mpr member)
    rw [copyPlaces_succ, occupies_append, length_places] at occupied
    rw [exact _ _ occupied.1, language_copies exact none passes occupied.2, grows,
      mul_sub_one_of_notMem solid, mul_assoc]

end Copies

theorem isExact_leaf (taker : Leaf τ) :
    (Expression.leaf taker).IsExact matched table := by
  intro start after occupied
  have standing : table[start]? = some ⟨taker, after⟩ := occupied 0 _ rfl
  ext word
  rw [Language.mem_mul]
  constructor
  · intro member
    cases word with
    | nil => exact absurd member Bool.false_ne_true
    | cons child rest =>
      obtain ⟨index, inside, place, found, taken, follows⟩ := member
      rw [List.mem_singleton.mp inside, standing] at found
      obtain rfl := Option.some.inj found
      exact ⟨[child], ⟨⟨child, taken, rfl⟩, List.cons_ne_nil child []⟩, rest, follows, rfl⟩
  · rintro ⟨front, ⟨⟨child, taken, rfl⟩, -⟩, rest, follows, rfl⟩
    exact ⟨start, List.mem_singleton_self start, _, standing, taken, follows⟩

theorem isExact_sequence {first second : Expression τ} (ofFirst : first.IsExact matched table)
    (ofSecond : second.IsExact matched table) :
    (Expression.sequence first second).IsExact matched table := by
  intro start after occupied
  rw [places_sequence, occupies_append, length_places] at occupied
  have behind := ofSecond _ _ occupied.2
  have before := language_before_of_firsts matched table behind
  rw [firsts, Reach.language_append, ofFirst _ _ occupied.1, before, language]
  by_cases nullable : first.isNullable = true
  · rw [if_pos nullable, behind,
      mul_sub_one_of_mem ((isNullable_iff matched first).mp nullable), add_mul, mul_assoc]
  · rw [if_neg nullable, Reach.language_nowhere, add_zero, mul_sub_one_of_notMem, mul_assoc]
    exact fun member => nullable ((isNullable_iff matched first).mpr member)

/-- A body that may not be left out stands twice, and both copies take the same words. -/
theorem isExact_nonEmpty {body : Expression τ} (ofBody : body.IsExact matched table) :
    (Expression.nonEmpty body).IsExact matched table := by
  intro start after occupied
  rw [places_nonEmpty, occupies_append, length_places] at occupied
  -- Both copies have the same leaves, and what is reached behind them is the same.
  have moved : ∀ index ∈ body.firsts start, table[index]? = table[index + body.size]? := by
    intro index inside
    rw [← Nat.zero_add start, firsts_add] at inside
    obtain ⟨offset, insideBody, rfl⟩ := List.mem_map.mp inside
    have bound : offset < body.size := Nat.zero_add body.size ▸ lt_of_mem_firsts insideBody
    have place := List.getElem?_eq_getElem
      (l := body.places (start + body.size) after) (by rwa [length_places])
    have early := occupied.1 offset _ place
    have late := occupied.2 offset _ place
    rw [Nat.add_comm offset, early, Nat.add_right_comm, late]
  have same : (⟨body.firsts start, false⟩ : Reach).language matched table =
      (⟨body.firsts (start + body.size), false⟩ : Reach).language matched table := by
    rw [firsts_add]
    refine Reach.language_congr matched table (fun index inside =>
      ⟨index + body.size, List.mem_map_of_mem inside, moved index inside⟩) fun other inside => ?_
    obtain ⟨index, insideBody, rfl⟩ := List.mem_map.mp inside
    exact ⟨index, insideBody, (moved index insideBody).symm⟩
  show (⟨body.firsts start, false⟩ : Reach).language matched table = _
  rw [same, ofBody _ _ occupied.2, language, sub_one_of_notMem nil_notMem_sub_one]

/-- Expressions are exact wherever they stand. -/
theorem isExact (expression : Expression τ) : expression.IsExact matched table := by
  induction expression with
  | empty =>
    intro start after _
    show _ = (1 - 1) * _
    rw [one_sub_one, zero_mul]
    exact Reach.language_nowhere matched table
  | leaf taker => exact isExact_leaf matched table taker
  | sequence first second ofFirst ofSecond => exact isExact_sequence matched table ofFirst ofSecond
  | choice left right ofLeft ofRight =>
    intro start after occupied
    rw [places_choice, occupies_append, length_places] at occupied
    rw [firsts, Reach.language_append, ofLeft _ _ occupied.1, ofRight _ _ occupied.2, ← add_mul,
      language, add_sub_one]
  | star body ofBody =>
    intro start after occupied
    -- What may follow before a further round leads back to itself.
    have round := ofBody start (Reach.union ⟨body.firsts start, false⟩ after) occupied
    have again : (Reach.union ⟨body.firsts start, false⟩ after).language matched table =
        (body.language matched - 1) *
            (Reach.union ⟨body.firsts start, false⟩ after).language matched table +
          after.language matched table := by
      rw [← round]
      exact Reach.language_union matched table _ _
    rw [Language.self_eq_mul_add_iff nil_notMem_sub_one] at again
    show (⟨body.firsts start, false⟩ : Reach).language matched table = _
    rw [round, again, ← mul_assoc, mul_kstar_eq_sub_one]
    rfl
  | exactly count body ofBody =>
    intro start after occupied
    rw [places_exactly] at occupied
    rw [firsts_exactly]
    refine language_repeatedFirsts (fun count => body.language matched ^ count) ofBody
      (pow_zero _) ?_ ?_ occupied
    · intro count reach before
      rw [pow_succ']
      exact before
    · intro count
      rw [pow_succ']
  | upTo count body ofBody =>
    intro start after occupied
    rw [places_upTo] at occupied
    rw [firsts_upTo]
    refine language_repeatedFirsts
      (fun count => SchemaAssessment.upTo count (body.language matched)) ofBody
      upTo_zero ?_ ?_ occupied
    · intro count reach before
      rw [Reach.language_union, before, upTo_succ, add_mul, one_mul]
    · intro count
      rw [upTo_succ, add_one_sub_one]
  | nonEmpty body ofBody => exact isExact_nonEmpty matched table ofBody

/-- What may follow before an expression is what the expression stands for, and then what may
follow behind it. -/
theorem language_before {expression : Expression τ} {start : Nat} {after : Reach}
    (occupied : Occupies table start (expression.places start after)) :
    (expression.before start after).language matched table =
      expression.language matched * after.language matched table :=
  language_before_of_firsts matched table (isExact matched table expression start after occupied)

end Exact

end Expression

end SchemaAssessment
