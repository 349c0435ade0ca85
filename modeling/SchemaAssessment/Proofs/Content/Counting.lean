/-
Counted content. An unordered group of elements alone is counted: a state says how often
each of them has been seen, and a child counts at the first that takes it and may have one
more. Where no child is taken by two of them, the counts are the occurrences among the
children, in whatever order these come. So the order says nothing: a walk comes through if
each child is taken by some element and there are not too many for any, it may end there if
there are not too few either, and what is missing can always still come.
-/

import Mathlib.Algebra.Order.BigOperators.Group.List
import Mathlib.Algebra.Order.Group.Nat
import Mathlib.Data.List.Pairwise
import SchemaAssessment.Proofs.Content.Foresight

namespace SchemaAssessment

variable {τ α δ : Type}

/-! ### Unordered groups of elements -/

/-- The unordered group of some elements with their bounds. -/
def Group.ofMembers (members : List (τ × Occurs)) (occurs : Occurs) : Group τ :=
  .mk .all (members.map fun member => .element member.1 member.2) occurs

namespace ContentModel

theorem members?_map (members : List (τ × Occurs)) :
    members? (members.map fun member => Particle.element member.1 member.2) = some members := by
  induction members with
  | nil => rfl
  | cons member rest ofRest => rw [List.map_cons, members?, ofRest, Option.map_some]

theorem decision_ofMembers (label : τ → String) {members : List (τ × Occurs)}
    (nonempty : members ≠ []) (occurs : Occurs) :
    (ofGroup label (.ofMembers members occurs)).decision =
      .counted members occurs.isEmptiable := by
  have counted : counted? (Group.ofMembers members occurs) = some members := by
    unfold counted? Group.ofMembers
    rw [if_pos (by simpa [Group.compositor, Group.particles] using nonempty)]
    exact members?_map members
  unfold ofGroup
  rw [counted]
  rfl

section Steps

variable {model : ContentModel τ} {members : List (τ × Occurs)} {mayBeLeftOut : Bool}

theorem step_counts (takes : τ → Option δ) (space : Option String)
    (counted : model.decision = .counted members mayBeLeftOut) {counts : List Nat}
    (length : counts.length = members.length) :
    model.step takes space (.counts counts) =
      (count takes members counts).map fun behind => (.counts behind.1, behind.2) := by
  unfold step
  split
  · rename_i places _
    cases counted.symm.trans places
  · rename_i decided same
    obtain ⟨rfl, -⟩ := Decision.counted.inj (counted.symm.trans decided)
    obtain rfl := ContentState.counts.inj same
    exact if_pos length
  · simp_all

end Steps

/-! ### Occurrences -/

section Occurrences

variable (matched : τ → α → Prop) [∀ term, DecidablePred (matched term)]

/-- How many of some children a term matches. -/
def occurrences (word : List α) (term : τ) : Nat := word.countP (matched term ·)

/-- No child is matched by two of the members. -/
def AreApart (matched : τ → α → Prop) (members : List (τ × Occurs)) : Prop :=
  members.Pairwise fun member other => ∀ child, ¬ (matched member.1 child ∧ matched other.1 child)

/-- Each child is matched by a member, and no member matches more of them than it may have. -/
structure Fits (members : List (τ × Occurs)) (word : List α) : Prop where
  taken : ∀ child ∈ word, ∃ member ∈ members, matched member.1 child
  bounded : ∀ member ∈ members, ∀ max ∈ member.2.max, occurrences matched word member.1 ≤ max

/-- The counts behind some children. -/
def tally (members : List (τ × Occurs)) (word : List α) : List Nat :=
  members.map fun member => occurrences matched word member.1

/-- A member may have one more than its occurrences among some children. -/
def HasRoom (word : List α) (member : τ × Occurs) : Prop :=
  member.2.isOver (occurrences matched word member.1) = false

variable {matched} {members : List (τ × Occurs)}

theorem occurrences_concat (word : List α) (child : α) (term : τ) :
    occurrences matched (word ++ [child]) term =
      occurrences matched word term + if matched term child then 1 else 0 := by
  simp [occurrences, List.countP_append, List.countP_cons]

theorem occurrences_le_concat (word : List α) (child : α) (term : τ) :
    occurrences matched word term ≤ occurrences matched (word ++ [child]) term := by
  rw [occurrences_concat]
  exact Nat.le_add_right ..

theorem tally_nil : tally matched members [] = List.replicate members.length 0 :=
  List.map_const' ..

theorem zip_tally (members : List (τ × Occurs)) (word : List α) :
    members.zip (tally matched members word) =
      members.map fun member => (member, occurrences matched word member.1) := by
  induction members with
  | nil => rfl
  | cons member rest ofRest => exact congrArg (_ :: ·) ofRest

theorem hasRoom_iff {word : List α} {member : τ × Occurs} :
    HasRoom matched word member ↔
      ∀ max ∈ member.2.max, occurrences matched word member.1 < max := by
  unfold HasRoom Occurs.isOver
  cases member.2.max <;> simp

omit [∀ term, DecidablePred (matched term)] in
theorem AreApart.eq (apart : AreApart matched members) {member other : τ × Occurs}
    (inside : member ∈ members) (insideOther : other ∈ members) {child : α}
    (takes : matched member.1 child) (takesOther : matched other.1 child) : member = other := by
  by_contra differ
  have symmetric : Std.Symm fun member other : τ × Occurs =>
      ∀ child, ¬ (matched member.1 child ∧ matched other.1 child) :=
    ⟨fun _ _ never child both => never child both.symm⟩
  exact apart.forall inside insideOther differ child ⟨takes, takesOther⟩

/-- One more child fits if a member matches it that may have one more. -/
theorem fits_concat (apart : AreApart matched members) (word : List α) (child : α) :
    Fits matched members (word ++ [child]) ↔ Fits matched members word ∧
      ∃ member ∈ members, matched member.1 child ∧ HasRoom matched word member := by
  constructor
  · rintro ⟨taken, bounded⟩
    refine ⟨⟨fun earlier member => taken earlier (List.mem_append_left _ member),
      fun member inside max bound =>
        (occurrences_le_concat word child member.1).trans (bounded member inside max bound)⟩, ?_⟩
    obtain ⟨member, inside, takes⟩ := taken child (List.mem_append_right _ (List.mem_singleton_self _))
    refine ⟨member, inside, takes, hasRoom_iff.mpr fun max bound => ?_⟩
    have below := bounded member inside max bound
    rwa [occurrences_concat, if_pos takes] at below
  · rintro ⟨⟨taken, bounded⟩, member, inside, takes, room⟩
    constructor
    · intro other standing
      rcases List.mem_append.mp standing with earlier | last
      · exact taken other earlier
      · exact ⟨member, inside, List.mem_singleton.mp last ▸ takes⟩
    · intro other insideOther max bound
      rw [occurrences_concat]
      split
      · rename_i takesOther
        obtain rfl := apart.eq inside insideOther takes takesOther
        exact hasRoom_iff.mp room max bound
      · exact bounded other insideOther max bound

theorem fits_nil : Fits matched members [] :=
  ⟨nofun, fun _ _ _ _ => Nat.zero_le _⟩

/-- Children that fit are none if they are no occurrences of any member. -/
theorem Fits.eq_nil {word : List α} (fits : Fits matched members word)
    (none : ∀ member ∈ members, occurrences matched word member.1 = 0) : word = [] := by
  rw [List.eq_nil_iff_forall_not_mem]
  intro child standing
  obtain ⟨member, inside, takes⟩ := fits.taken child standing
  have never := List.countP_eq_zero.mp (none member inside) child standing
  exact never (decide_eq_true takes)

theorem Fits.perm {word other : List α} (same : word.Perm other)
    (fits : Fits matched members word) : Fits matched members other := by
  refine ⟨fun child standing => fits.taken child (same.mem_iff.mpr standing), ?_⟩
  intro member inside max bound
  rw [occurrences, ← same.countP_eq]
  exact fits.bounded member inside max bound

/-- Children that fit can be followed by others until no member has too few, where every member
matches some child and has bounds in order. -/
theorem Fits.exists_enough (apart : AreApart matched members)
    (ordered : ∀ member ∈ members, member.2.IsOrdered)
    (matching : ∀ member ∈ members, ∃ child, matched member.1 child) {word : List α}
    (fits : Fits matched members word) :
    ∃ rest, Fits matched members (word ++ rest) ∧
      ∀ member ∈ members, member.2.min ≤ occurrences matched (word ++ rest) member.1 := by
  -- by induction on how many are missing: a child for a member that has too few is one of them
  induction missing : (members.map fun member =>
      member.2.min - occurrences matched word member.1).sum using Nat.strong_induction_on
      generalizing word with
  | h count fewer =>
    by_cases enough : ∀ member ∈ members, member.2.min ≤ occurrences matched word member.1
    · exact ⟨[], by rwa [List.append_nil], by rwa [List.append_nil]⟩
    · push Not at enough
      obtain ⟨member, inside, lacks⟩ := enough
      obtain ⟨child, takes⟩ := matching member inside
      have further : Fits matched members (word ++ [child]) := by
        refine (fits_concat apart word child).mpr ⟨fits, member, inside, takes, ?_⟩
        exact hasRoom_iff.mpr fun max bound => lacks.trans_le (ordered member inside max bound)
      have less : (members.map fun member =>
          member.2.min - occurrences matched (word ++ [child]) member.1).sum < count := by
        rw [← missing]
        refine List.sum_lt_sum _ _ (fun other _ =>
          Nat.sub_le_sub_left (occurrences_le_concat word child other.1) _) ⟨member, inside, ?_⟩
        rw [occurrences_concat, if_pos takes]
        omega
      obtain ⟨rest, fitsRest, reaches⟩ := fewer _ less further rfl
      rw [List.append_assoc] at fitsRest reaches
      exact ⟨child :: rest, fitsRest, reaches⟩

end Occurrences

/-! ### Walking -/

section Walks

variable {takes : α → τ → Option δ} {space : α → Option String} {matched : τ → α → Prop}
  {members : List (τ × Occurs)}
  (takes_iff : ∀ child term, (takes child term).isSome = true ↔ matched term child)

include takes_iff

/-- A child is counted if some member matches it that may have one more. -/
theorem count_isSome_iff {counts : List Nat} {child : α} :
    (count (takes child) members counts).isSome = true ↔
      ∃ entry ∈ members.zip counts, matched entry.1.1 child ∧ entry.1.2.isOver entry.2 = false := by
  induction members generalizing counts with
  | nil =>
    rw [count.eq_def, List.zip_nil_left]
    exact iff_of_false Bool.false_ne_true (by rintro ⟨_, ⟨⟩, _⟩)
  | cons first rest ofRest =>
    cases counts with
    | nil =>
      rw [count.eq_def, List.zip_nil_right]
      exact iff_of_false Bool.false_ne_true (by rintro ⟨_, ⟨⟩, _⟩)
    | cons seen others =>
      rw [count.eq_def, List.zip_cons_cons, List.exists_mem_cons_iff, ← ofRest, ← takes_iff]
      dsimp only
      cases first.2.isOver seen <;> cases takes child first.1 <;> simp

variable [∀ term, DecidablePred (matched term)]

/-- A child counts at the member that matches it and may have one more. -/
theorem count_of_room (apart : AreApart matched members) {word : List α} {child : α}
    {member : τ × Occurs} (inside : member ∈ members) (takesIt : matched member.1 child)
    (room : HasRoom matched word member) :
    ∃ taken, count (takes child) members (tally matched members word) =
      some (tally matched members (word ++ [child]), taken) := by
  induction members with
  | nil => cases inside
  | cons first rest ofRest =>
    obtain ⟨others, ofOthers⟩ := List.pairwise_cons.mp apart
    rw [tally, List.map_cons, count.eq_def]
    dsimp only
    by_cases here : matched first.1 child
    · -- no later member matches the child, and so their occurrences stay
      obtain rfl : member = first := apart.eq inside List.mem_cons_self takesIt here
      obtain ⟨declaration, found⟩ := Option.isSome_iff_exists.mp ((takes_iff child _).mpr here)
      rw [room, if_neg Bool.false_ne_true, found]
      refine ⟨.element declaration, congrArg some (Prod.ext ?_ rfl)⟩
      rw [tally, List.map_cons, occurrences_concat, if_pos here]
      refine congrArg (_ :: ·) (List.map_congr_left fun other later => ?_)
      have never : ¬ matched other.1 child := fun also => others other later child ⟨here, also⟩
      rw [occurrences_concat, if_neg never, Nat.add_zero]
    · have later : member ∈ rest :=
        (List.mem_cons.mp inside).resolve_left fun same => here (same ▸ takesIt)
      have none : takes child first.1 = none :=
        Option.not_isSome_iff_eq_none.mp fun found => here ((takes_iff child _).mp found)
      obtain ⟨taken, counts⟩ := ofRest ofOthers later
      refine ⟨taken, ?_⟩
      rw [none, ite_self]
      dsimp only
      rw [← tally, counts, Option.map_some, tally, tally, List.map_cons, occurrences_concat,
        if_neg here, Nat.add_zero]

variable {model : ContentModel τ} {mayBeLeftOut : Bool}
  (counted : model.decision = .counted members mayBeLeftOut)

include counted

/-- What a step does to the occurrences among some children that fit: it adds the child if they
still fit with it, and else there is no step. -/
theorem step_tally (apart : AreApart matched members) {word : List α}
    (fits : Fits matched members word) (child : α) :
    (Fits matched members (word ++ [child]) ∧
        ∃ taken, model.step (takes child) (space child) (.counts (tally matched members word)) =
          some (.counts (tally matched members (word ++ [child])), taken)) ∨
      (¬ Fits matched members (word ++ [child]) ∧
        model.step (takes child) (space child) (.counts (tally matched members word)) = none) := by
  have length : (tally matched members word).length = members.length := List.length_map _
  rw [step_counts (takes child) (space child) counted length, fits_concat apart]
  by_cases room : ∃ member ∈ members, matched member.1 child ∧ HasRoom matched word member
  · obtain ⟨member, inside, takesIt, hasRoom⟩ := room
    obtain ⟨taken, counts⟩ := count_of_room takes_iff apart inside takesIt hasRoom
    exact .inl ⟨⟨fits, member, inside, takesIt, hasRoom⟩, taken, by rw [counts, Option.map_some]⟩
  · refine .inr ⟨fun both => room both.2, ?_⟩
    rw [Option.map_eq_none_iff, ← Option.not_isSome_iff_eq_none, count_isSome_iff takes_iff,
      zip_tally]
    rintro ⟨_, standing, takesIt, hasRoom⟩
    obtain ⟨member, inside, rfl⟩ := List.mem_map.mp standing
    exact room ⟨member, inside, takesIt, hasRoom⟩

omit takes_iff in
theorem start_tally (matched : τ → α → Prop) [∀ term, DecidablePred (matched term)] :
    model.start = .counts (tally matched members []) := by
  rw [start, counted, tally_nil]

/-- Children that fit are walked to the state of their occurrences, and others are not walked. -/
theorem walk_tally (apart : AreApart matched members) (word : List α) :
    (Fits matched members word ∧ model.walk takes space word model.start =
        some (.counts (tally matched members word))) ∨
      (¬ Fits matched members word ∧ model.walk takes space word model.start = none) := by
  induction word using List.reverseRecOn with
  | nil =>
    refine .inl ⟨fits_nil, ?_⟩
    rw [walk, start_tally counted matched]
  | append_singleton before child ofBefore =>
    rw [walk_append]
    rcases ofBefore with ⟨fits, walks⟩ | ⟨unfit, stops⟩
    · rw [walks, Option.bind_some, walk]
      rcases step_tally takes_iff counted apart fits child with
        ⟨further, taken, steps⟩ | ⟨unfit, stops⟩
      · exact .inl ⟨further, by rw [steps]; rfl⟩
      · exact .inr ⟨unfit, by rw [stops]; rfl⟩
    · refine .inr ⟨fun fits => unfit ((fits_concat apart before child).mp fits).1, ?_⟩
      rw [stops, Option.bind_none]

omit takes_iff in
/-- Content may end when no member has too few, and when there is nothing at all, if it may be left
out. -/
theorem mayEnd_tally (word : List α) :
    model.mayEnd (.counts (tally matched members word)) = true ↔
      (mayBeLeftOut = true ∧ ∀ member ∈ members, occurrences matched word member.1 = 0) ∨
        ∀ member ∈ members, member.2.min ≤ occurrences matched word member.1 := by
  have length : (tally matched members word).length = members.length := List.length_map _
  unfold mayEnd
  split
  · rename_i places _
    cases counted.symm.trans places
  · rename_i decided same
    obtain ⟨rfl, rfl⟩ := Decision.counted.inj (counted.symm.trans decided)
    obtain rfl := ContentState.counts.inj same
    rw [length, zip_tally]
    simp [tally, Occurs.isMissing]
  · simp_all

end Walks

/-- Some children are walked from the start to where the content may end. -/
def Accepts (model : ContentModel τ) (takes : α → τ → Option δ) (space : α → Option String)
    (word : List α) : Prop :=
  ∃ state, model.walk takes space word model.start = some state ∧ model.mayEnd state = true

end ContentModel

/-! ### Children by name -/

namespace Registry

/-- A term matches the children that it is for. -/
def MatchesTerm (registry : Registry) (term : ElementTerm) : ExpandedName → Prop :=
  registry.Matches (.element term)

theorem takes_iff (registry : Registry) (name : ExpandedName) (term : ElementTerm) :
    (registry.takes name term).isSome = true ↔ registry.MatchesTerm term name := by
  rw [MatchesTerm, ← isMatched_iff, ContentModel.IsMatched, ContentModel.leafTakes,
    Option.isSome_map]

instance (registry : Registry) (term : ElementTerm) : DecidablePred (registry.MatchesTerm term) :=
  fun name => decidable_of_iff _ (registry.takes_iff name term)

end Registry

namespace ContentModel

/-- The model of an unordered group of elements alone, no two of which match the same name, counts.
A walk comes through if and only if each name is matched by one of the elements and none
occurs more often than it may. It ends where the content may end if and only if, further, none
occurs less often than it must, or there are no children and the group may be left out. So
names in another order are walked alike, and whatever is walked can be brought to an end. -/
theorem walk_counts (registry : Registry) {members : List (ElementTerm × Occurs)}
    (nonempty : members ≠ []) (ordered : ∀ member ∈ members, member.2.IsOrdered)
    (apart : AreApart registry.MatchesTerm members) (occurs : Occurs) (word : List ExpandedName) :
    let model := ofGroup ElementTerm.label (.ofMembers members occurs)
    let walked := fun word => model.walk registry.takes ExpandedName.space word model.start
    let accepts := model.Accepts registry.takes ExpandedName.space
    ((walked word).isSome = true ↔ Fits registry.MatchesTerm members word) ∧
      (accepts word ↔ Fits registry.MatchesTerm members word ∧
        ((∀ member ∈ members,
            member.2.min ≤ occurrences registry.MatchesTerm word member.1) ∨
          word = [] ∧ occurs.min = 0)) ∧
      (∀ other, word.Perm other →
        (walked other).isSome = (walked word).isSome ∧ (accepts other ↔ accepts word)) ∧
      ((walked word).isSome = true → ∃ rest, accepts (word ++ rest)) := by
  intro model walked accepts
  have counted : model.decision = .counted members occurs.isEmptiable :=
    decision_ofMembers ElementTerm.label nonempty occurs
  have walks (word : List ExpandedName) :
      (Fits registry.MatchesTerm members word ∧
        walked word = some (.counts (tally registry.MatchesTerm members word))) ∨
        (¬ Fits registry.MatchesTerm members word ∧ walked word = none) :=
    walk_tally registry.takes_iff counted apart word
  have comes (word : List ExpandedName) :
      (walked word).isSome = true ↔ Fits registry.MatchesTerm members word := by
    rcases walks word with ⟨fits, through⟩ | ⟨unfit, stops⟩
    · exact iff_of_true (Option.isSome_iff_exists.mpr ⟨_, through⟩) fits
    · exact iff_of_false (Option.not_isSome_iff_eq_none.mpr stops) unfit
  have ends (word : List ExpandedName) : accepts word ↔ Fits registry.MatchesTerm members word ∧
      ((∀ member ∈ members, member.2.min ≤ occurrences registry.MatchesTerm word member.1) ∨
        word = [] ∧ occurs.min = 0) := by
    rcases walks word with ⟨fits, through⟩ | ⟨unfit, stops⟩
    · have nothing : (∀ member ∈ members, occurrences registry.MatchesTerm word member.1 = 0) ↔
          word = [] := ⟨fits.eq_nil, fun empty _ _ => empty ▸ rfl⟩
      have finishes : accepts word ↔
          model.mayEnd (.counts (tally registry.MatchesTerm members word)) = true := by
        refine ⟨?_, fun ended => ⟨_, through, ended⟩⟩
        rintro ⟨state, reached, ended⟩
        rwa [Option.some.inj (through.symm.trans reached)]
      rw [finishes, mayEnd_tally counted, nothing, and_iff_right fits, or_comm,
        and_comm (a := occurs.isEmptiable = true), Occurs.isEmptiable, beq_iff_eq]
    · refine iff_of_false ?_ fun both => unfit both.1
      rintro ⟨state, through, -⟩
      cases stops.symm.trans through
  refine ⟨comes word, ends word, fun other same => ?_, fun through => ?_⟩
  · have alike : Fits registry.MatchesTerm members other ↔
        Fits registry.MatchesTerm members word := ⟨.perm same.symm, .perm same⟩
    have empty : other = [] ↔ word = [] :=
      ⟨fun nothing => (nothing ▸ same).eq_nil, fun nothing => (nothing ▸ same).symm.eq_nil⟩
    refine ⟨Bool.eq_iff_iff.mpr (by rw [comes, comes, alike]), ?_⟩
    rw [ends, ends, alike, empty]
    simp only [occurrences, same.countP_eq]
  · have matching : ∀ member ∈ members, ∃ name, registry.MatchesTerm member.1 name :=
      fun member _ => exists_matches registry (.element member.1) nofun
    obtain ⟨rest, fits, enough⟩ :=
      ((comes word).mp through).exists_enough apart ordered matching
    exact ⟨rest, (ends _).mpr ⟨fits, .inl enough⟩⟩

/-- The elements of a booklet, in any order: two or three pages, and a cover that may be left out. -/
def bookletMembers : List (ElementTerm × Occurs) :=
  [(.global (.unqualified "page"), ⟨2, some 3⟩),
    (.declared (.ofName (.unqualified "cover")), ⟨0, some 1⟩)]

/-- A grammar by which a plate may stand for a page. -/
def platesForPages : Registry :=
  .put .nothing (((Grammar.empty none).addElement (.ofName (.unqualified "page"))).addElement
    { ElementDeclaration.ofName (.unqualified "plate") with
      substitutionGroup := some (.unqualified "page") })

/-- A plate counts as a page, the order of plates, pages and the cover says nothing, and pages can
still come behind a cover. -/
theorem walk_counts_booklet :
    let model := ofGroup ElementTerm.label (.ofMembers bookletMembers ⟨0, some 1⟩)
    let accepts := model.Accepts platesForPages.takes ExpandedName.space
    AreApart platesForPages.MatchesTerm bookletMembers ∧
      accepts [.unqualified "plate", .unqualified "cover", .unqualified "page"] ∧
      accepts [.unqualified "page", .unqualified "plate", .unqualified "cover"] ∧
      ¬ accepts [.unqualified "cover"] ∧ ∃ rest, accepts (.unqualified "cover" :: rest) := by
  intro model accepts
  have ordered : ∀ member ∈ bookletMembers, member.2.IsOrdered := by
    simp [bookletMembers, Occurs.IsOrdered]
  have apart : AreApart platesForPages.MatchesTerm bookletMembers := by
    refine List.pairwise_pair.mpr fun name both => ?_
    obtain ⟨page, rfl : name = .unqualified "cover"⟩ := both
    rw [← platesForPages.takes_iff] at page
    revert page
    decide +kernel
  have nonempty : bookletMembers ≠ [] := List.cons_ne_nil _ _
  have counts := walk_counts platesForPages nonempty ordered apart ⟨0, some 1⟩
  have accepted : (model.walk platesForPages.takes ExpandedName.space
      [.unqualified "plate", .unqualified "cover", .unqualified "page"] model.start).any
        model.mayEnd = true := by
    decide +kernel
  have plateFirst := (Option.any_eq_true _ _).mp accepted
  have swapped : [ExpandedName.unqualified "plate", .unqualified "cover", .unqualified "page"].Perm
      [.unqualified "page", .unqualified "plate", .unqualified "cover"] := by
    decide +kernel
  have walked : (model.walk platesForPages.takes ExpandedName.space [.unqualified "cover"]
      model.start).isSome = true := by
    decide +kernel
  refine ⟨apart, plateFirst, ((counts _).2.2.1 _ swapped).2.mpr plateFirst, fun alone => ?_,
    (counts _).2.2.2 walked⟩
  obtain ⟨-, enough | ⟨nothing, -⟩⟩ := (counts _).2.1.mp alone
  · have missing := enough _ (List.mem_cons_self ..)
    revert missing
    decide +kernel
  · cases nothing

end ContentModel

end SchemaAssessment
