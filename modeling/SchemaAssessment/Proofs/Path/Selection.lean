/-
What a path selects, said without a matcher. An element below the context element is
known by the names on the way down to it, and a path selects it when its steps lead
along these names; a path that may begin anywhere below its context element may leave
out the first of them. A matcher that has been given the start tags on the way is in a
state that only the names decide, and it answers as the path selects.
-/

import Mathlib.Data.List.Infix
import SchemaAssessment.Path.Matcher

namespace SchemaAssessment

/-! ### Steps along names -/

/-- The steps lead along some names: a step to a child takes a name, and a step that stays takes
none. A step to an attribute leads to no element. -/
def Step.lead : List Step → List ExpandedName → Bool
  | [], names => names.isEmpty
  | ⟨.self, _⟩ :: rest, names => lead rest names
  | ⟨.child, test⟩ :: rest, name :: names => test.holds name && lead rest names
  | _ :: _, _ => false

/-- All steps stay where they are. -/
def Step.allStay (steps : List Step) : Prop := ∀ step ∈ steps, step.axis = .self

namespace Step

theorem lead_nil {names : List ExpandedName} : lead [] names = true ↔ names = [] := by
  rw [lead, List.isEmpty_iff]

theorem lead_child {step : Step} (moves : step.axis = .child) (rest : List Step)
    (name : ExpandedName) (names : List ExpandedName) :
    lead (step :: rest) (name :: names) = (step.test.holds name && lead rest names) := by
  obtain ⟨axis, test⟩ := step
  cases moves
  rw [lead]

theorem lead_append {first second : List Step} {front back : List ExpandedName}
    (leadsFront : lead first front = true) (leadsBack : lead second back = true) :
    lead (first ++ second) (front ++ back) = true := by
  induction first generalizing front with
  | nil =>
    rw [lead_nil.mp leadsFront]
    exact leadsBack
  | cons step rest ofRest =>
    obtain ⟨axis, test⟩ := step
    cases axis with
    | self => exact ofRest leadsFront
    | child =>
      cases front with
      | nil => cases leadsFront
      | cons name names =>
        rw [lead, Bool.and_eq_true] at leadsFront
        rw [List.cons_append, List.cons_append, lead, leadsFront.1, ofRest leadsFront.2]
        rfl
    | _ => cases leadsFront

/-- Without a name to take, all steps have to stay. -/
theorem lead_nowhere {steps : List Step} : lead steps [] = true ↔ allStay steps := by
  induction steps with
  | nil => exact iff_of_true rfl fun _ member => by cases member
  | cons step rest ofRest =>
    obtain ⟨axis, test⟩ := step
    cases axis with
    | self =>
      rw [lead, ofRest, allStay, allStay, List.forall_mem_cons]
      exact (and_iff_right rfl).symm
    | _ => exact iff_of_false Bool.false_ne_true fun all => by cases all _ List.mem_cons_self

/-- The last name is taken by a step to a child, and all steps behind it stay. -/
theorem exists_of_lead {steps : List Step} {names : List ExpandedName} {name : ExpandedName}
    (leads : lead steps (names ++ [name]) = true) :
    ∃ first step last, steps = first ++ step :: last ∧ lead first names = true ∧
      step.axis = .child ∧ step.test.holds name = true ∧ allStay last := by
  induction steps generalizing names with
  | nil => simp [lead] at leads
  | cons step rest ofRest =>
    obtain ⟨axis, test⟩ := step
    cases axis with
    | self =>
      obtain ⟨first, taker, last, rfl, along, others⟩ := ofRest leads
      exact ⟨⟨.self, test⟩ :: first, taker, last, rfl, along, others⟩
    | child =>
      cases names with
      | nil =>
        rw [List.nil_append, lead, Bool.and_eq_true] at leads
        exact ⟨[], _, rest, rfl, rfl, rfl, leads.1, lead_nowhere.mp leads.2⟩
      | cons other names =>
        rw [List.cons_append, lead, Bool.and_eq_true] at leads
        obtain ⟨first, taker, last, rfl, along, others⟩ := ofRest leads.2
        refine ⟨⟨.child, test⟩ :: first, taker, last, rfl, ?_, others⟩
        rw [lead, leads.1, along]
        rfl
    | _ => cases leads

end Step

/-! ### What a path selects -/

namespace LocationPath

/-- Some of the steps of a path lead along the names, or along the last of them if the path may
begin anywhere. -/
def leads (path : LocationPath) (steps : List Step) (names : List ExpandedName) : Bool :=
  if path.isDeep then names.tails.any (Step.lead steps) else Step.lead steps names

/-- The places of the attributes that the path selects on the element at the end of the names. -/
def attributesAt (path : LocationPath) (names attributes : List ExpandedName) : List Nat :=
  match path.attributeTest? with
  | some test =>
    if path.leads path.steps.dropLast names then
      (attributes.zipIdx.filter fun (name, _) => test.holds name).map Prod.snd
    else []
  | none => []

end LocationPath

namespace IdentityPath

/-- An alternative of the path selects the element at the end of the names. -/
def selects (path : IdentityPath) (names : List ExpandedName) : Bool :=
  path.alternatives.any fun alternative => alternative.leads alternative.steps names

/-- The places of the attributes that the alternatives of the path select on the element at the end
of the names, each told once. -/
def attributesAt (path : IdentityPath) (names attributes : List ExpandedName) : List Nat :=
  (path.alternatives.flatMap fun alternative =>
    alternative.attributesAt names attributes).eraseDups

end IdentityPath

/-! ### The steps taken on the way -/

namespace LocationPath

theorem leads_iff {path : LocationPath} {steps : List Step} {names : List ExpandedName} :
    path.leads steps names = true ↔
      ∃ kept, (kept = names ∨ path.isDeep = true ∧ kept <:+ names) ∧
        Step.lead steps kept = true := by
  unfold leads
  split
  · rename_i deep
    rw [List.any_eq_true]
    refine exists_congr fun kept => and_congr_left fun _ => ?_
    rw [List.mem_tails]
    constructor
    · exact fun suffix => Or.inr ⟨deep, suffix⟩
    · rintro (rfl | ⟨-, suffix⟩)
      · exact List.suffix_rfl
      · exact suffix
  · rename_i shallow
    constructor
    · exact fun leads => ⟨names, Or.inl rfl, leads⟩
    · rintro ⟨kept, rfl | ⟨deep, -⟩, leads⟩
      · exact leads
      · exact absurd deep shallow

theorem leads_nil {path : LocationPath} {steps : List Step} :
    path.leads steps [] = true ↔ Step.allStay steps := by
  rw [leads_iff, ← Step.lead_nowhere]
  constructor
  · rintro ⟨kept, rfl | ⟨-, suffix⟩, leads⟩
    · exact leads
    · rwa [List.suffix_nil.mp suffix] at leads
  · exact fun leads => ⟨[], Or.inl rfl, leads⟩

/-- Steps that lead to a child lead to its parent first, and then to the child; or they do not
begin before the child. -/
theorem leads_append_singleton {path : LocationPath} {steps : List Step}
    {names : List ExpandedName} {name : ExpandedName} :
    path.leads steps (names ++ [name]) = true ↔
      (path.isDeep = true ∧ Step.allStay steps) ∨
        ∃ first step last, steps = first ++ step :: last ∧ path.leads first names = true ∧
          step.axis = .child ∧ step.test.holds name = true ∧ Step.allStay last := by
  rw [leads_iff]
  constructor
  · rintro ⟨kept, suffix, leads⟩
    rcases List.eq_nil_or_concat' kept with rfl | ⟨front, last, rfl⟩
    · rcases suffix with impossible | ⟨deep, -⟩
      · exact absurd impossible.symm (List.append_ne_nil_of_right_ne_nil _ (List.cons_ne_nil _ _))
      · exact Or.inl ⟨deep, Step.lead_nowhere.mp leads⟩
    · have standing : last = name ∧ (front = names ∨ path.isDeep = true ∧ front <:+ names) := by
        rcases suffix with same | ⟨deep, suffix⟩
        · obtain ⟨fronts, lasts⟩ := List.append_inj' same rfl
          exact ⟨List.singleton_inj.mp lasts, Or.inl fronts⟩
        · have lengths : [last].length = [name].length := rfl
          obtain ⟨fronts, lasts⟩ := (List.suffix_append_inj_of_length_eq lengths).mp suffix
          exact ⟨List.singleton_inj.mp lasts, Or.inr ⟨deep, fronts⟩⟩
      obtain ⟨rfl, remains⟩ := standing
      obtain ⟨first, step, tail, rfl, along, others⟩ := Step.exists_of_lead leads
      exact Or.inr ⟨first, step, tail, rfl, leads_iff.mpr ⟨front, remains, along⟩, others⟩
  · rintro (⟨deep, stays⟩ | ⟨first, step, last, rfl, leads, moves, holds, stays⟩)
    · exact ⟨[], Or.inr ⟨deep, List.nil_suffix⟩, Step.lead_nowhere.mpr stays⟩
    · obtain ⟨kept, suffix, leads⟩ := leads_iff.mp leads
      refine ⟨kept ++ [name], ?_, Step.lead_append leads ?_⟩
      · rcases suffix with rfl | ⟨deep, suffix⟩
        · exact Or.inl rfl
        · exact Or.inr ⟨deep, List.suffix_append_self_iff.mpr suffix⟩
      · rw [Step.lead_child moves, holds, Step.lead_nowhere.mpr stays]
        rfl

theorem mem_stayFrom {start taken : Nat} {steps : List Step} :
    taken ∈ stayFrom start steps ↔
      ∃ count, taken = start + count ∧ count ≤ steps.length ∧ Step.allStay (steps.take count) := by
  induction steps generalizing start with
  | nil =>
    rw [stayFrom, List.mem_singleton]
    constructor
    · rintro rfl
      exact ⟨0, rfl, le_rfl, fun _ member => by cases member⟩
    · rintro ⟨count, rfl, none, -⟩
      rw [Nat.le_zero.mp none, Nat.add_zero]
  | cons step rest ofRest =>
    rw [stayFrom]
    split
    · rename_i stays
      rw [beq_iff_eq] at stays
      rw [List.mem_cons, ofRest]
      constructor
      · rintro (rfl | ⟨count, rfl, within, all⟩)
        · exact ⟨0, rfl, Nat.zero_le _, fun _ member => by cases member⟩
        · refine ⟨count + 1, by omega, Nat.succ_le_succ within, ?_⟩
          rw [List.take_succ_cons]
          exact List.forall_mem_cons.mpr ⟨stays, all⟩
      · rintro ⟨count, rfl, within, all⟩
        cases count with
        | zero => exact Or.inl rfl
        | succ count =>
          rw [List.take_succ_cons] at all
          exact Or.inr ⟨count, by omega, Nat.le_of_succ_le_succ within,
            (List.forall_mem_cons.mp all).2⟩
    · rename_i moves
      rw [beq_iff_eq] at moves
      rw [List.mem_singleton]
      constructor
      · rintro rfl
        exact ⟨0, rfl, Nat.zero_le _, fun _ member => by cases member⟩
      · rintro ⟨count, rfl, -, all⟩
        cases count with
        | zero => rfl
        | succ count => exact absurd (all step (by simp)) moves

theorem mem_settle {path : LocationPath} {reached : List Nat} {taken : Nat} :
    taken ∈ path.settle reached ↔
      ∃ start ∈ reached, ∃ count, taken = start + count ∧
        count ≤ (path.steps.drop start).length ∧
        Step.allStay ((path.steps.drop start).take count) := by
  rw [settle, List.mem_eraseDups, List.mem_flatMap]
  exact exists_congr fun start => and_congr_right fun _ => mem_stayFrom

theorem mem_advance {path : LocationPath} {name : ExpandedName} {taken next : Nat} :
    next ∈ path.advance name taken ↔
      (next = 0 ∧ taken = 0 ∧ path.isDeep = true) ∨
        ∃ step, path.steps[taken]? = some step ∧ step.axis = .child ∧
          step.test.holds name = true ∧ next = taken + 1 := by
  have waiting : next ∈ (if taken = 0 && path.isDeep then [0] else [] : List Nat) ↔
      next = 0 ∧ taken = 0 ∧ path.isDeep = true := by
    split <;> simp_all
  unfold advance
  cases found : path.steps[taken]? with
  | none => simpa using waiting
  | some step =>
    dsimp only
    split
    · rename_i takes
      rw [Bool.and_eq_true, beq_iff_eq] at takes
      rw [List.mem_append, waiting, List.mem_singleton]
      refine or_congr_right ⟨fun same => ⟨step, rfl, takes.1, takes.2, same⟩, ?_⟩
      rintro ⟨_, -, -, -, same⟩
      exact same
    · rename_i refuses
      rw [Bool.and_eq_true, beq_iff_eq] at refuses
      rw [waiting]
      refine (or_iff_left ?_).symm
      rintro ⟨other, same, moves, holds, -⟩
      obtain rfl := Option.some.inj same
      exact refuses ⟨moves, holds⟩

/-- The numbers of steps that are taken on the way along some names. -/
def reachedAt (path : LocationPath) (names : List ExpandedName) : List Nat :=
  names.foldl (fun reached name => path.atChild name reached) path.atContext

theorem reachedAt_append (path : LocationPath) (names : List ExpandedName) (name : ExpandedName) :
    path.reachedAt (names ++ [name]) = path.atChild name (path.reachedAt names) := by
  rw [reachedAt, List.foldl_append]
  rfl

/-- So many steps are taken on the way as lead along the names. -/
theorem mem_reachedAt {path : LocationPath} {names : List ExpandedName} {taken : Nat} :
    taken ∈ path.reachedAt names ↔
      taken ≤ path.steps.length ∧ path.leads (path.steps.take taken) names = true := by
  induction names using List.reverseRecOn generalizing taken with
  | nil =>
    rw [reachedAt, List.foldl_nil, atContext, mem_settle, leads_nil]
    constructor
    · rintro ⟨start, member, count, rfl, within, stays⟩
      obtain rfl := List.mem_singleton.mp member
      rw [Nat.zero_add]
      exact ⟨within, stays⟩
    · rintro ⟨within, stays⟩
      exact ⟨0, List.mem_singleton.mpr rfl, taken, (Nat.zero_add _).symm, within, stays⟩
  | append_singleton names name ofNames =>
    rw [reachedAt_append, atChild, mem_settle, leads_append_singleton]
    constructor
    · rintro ⟨start, member, count, rfl, within, stays⟩
      obtain ⟨before, memberBefore, advances⟩ := List.mem_flatMap.mp member
      rcases mem_advance.mp advances with ⟨rfl, rfl, deep⟩ | ⟨step, found, moves, holds, rfl⟩
      · rw [Nat.zero_add]
        exact ⟨within, Or.inl ⟨deep, stays⟩⟩
      · have inside := (List.getElem?_eq_some_iff.mp found).1
        rw [List.length_drop] at within
        refine ⟨by omega, Or.inr ⟨_, step, _, ?_, (ofNames.mp memberBefore).2, moves, holds, stays⟩⟩
        rw [List.take_add, List.take_add_one, found, List.append_assoc]
        rfl
    · rintro ⟨within, ⟨deep, stays⟩ | ⟨first, step, last, split, leads, moves, holds, stays⟩⟩
      · have waits : 0 ∈ path.reachedAt names :=
          ofNames.mpr ⟨Nat.zero_le _, leads_iff.mpr ⟨[], Or.inr ⟨deep, List.nil_suffix⟩, rfl⟩⟩
        exact ⟨0, List.mem_flatMap.mpr ⟨0, waits, mem_advance.mpr (Or.inl ⟨rfl, rfl, deep⟩)⟩,
          taken, (Nat.zero_add _).symm, within, stays⟩
      · have whole : path.steps = first ++ step :: (last ++ path.steps.drop taken) := by
          conv_lhs => rw [← List.take_append_drop taken path.steps, split]
          rw [List.append_assoc, List.cons_append]
        have count : taken = first.length + 1 + last.length := by
          have lengths := congrArg List.length split
          rw [List.length_take, Nat.min_eq_left within, List.length_append,
            List.length_cons] at lengths
          omega
        have taken_first : path.steps.take first.length = first := by
          rw [whole, List.take_left]
        have found : path.steps[first.length]? = some step := by
          rw [whole, List.getElem?_append_right le_rfl, Nat.sub_self]
          rfl
        have behind : path.steps.drop (first.length + 1) = last ++ path.steps.drop taken := by
          conv_lhs => rw [whole]
          rw [← List.drop_drop, List.drop_left]
          rfl
        refine ⟨first.length + 1, List.mem_flatMap.mpr ⟨first.length, ofNames.mpr ⟨by omega, ?_⟩,
          mem_advance.mpr (Or.inr ⟨step, found, moves, holds, rfl⟩)⟩, last.length, count, ?_, ?_⟩
        · rwa [taken_first]
        · rw [List.length_drop]
          omega
        · rwa [behind, List.take_left]

/-- All steps are taken where the path leads. -/
theorem selects_reachedAt (path : LocationPath) (names : List ExpandedName) :
    path.selects (path.reachedAt names) = path.leads path.steps names := by
  rw [selects, Bool.eq_iff_iff, List.contains_iff_mem, mem_reachedAt, List.take_length]
  exact and_iff_right le_rfl

theorem selectedAttributes_reachedAt (path : LocationPath) (names attributes : List ExpandedName) :
    path.selectedAttributes (path.reachedAt names) attributes =
      path.attributesAt names attributes := by
  have front : (path.reachedAt names).contains (path.steps.length - 1) =
      path.leads path.steps.dropLast names := by
    rw [Bool.eq_iff_iff, List.contains_iff_mem, mem_reachedAt, List.dropLast_eq_take]
    exact and_iff_right (Nat.sub_le _ _)
  unfold selectedAttributes attributesAt
  cases path.attributeTest? with
  | none => rfl
  | some test =>
    exact congrArg (fun led : Bool => if led then
      (attributes.zipIdx.filter fun (name, _) => test.holds name).map Prod.snd else []) front

end LocationPath

/-! ### Matchers -/

namespace IdentityPath

/-- What the path selects on the element at the end of the names. -/
def selection (path : IdentityPath) (names attributes : List ExpandedName) : Selection :=
  ⟨path.selects names, path.attributesAt names attributes⟩

theorem zip_reachedAt (path : IdentityPath) (names : List ExpandedName) :
    path.alternatives.zip (path.alternatives.map fun alternative => alternative.reachedAt names) =
      path.alternatives.map fun alternative => (alternative, alternative.reachedAt names) :=
  List.map_prod_left_eq_zip.symm

end IdentityPath

namespace Matcher

theorem nextReached_ofPath (path : IdentityPath) (name : ExpandedName) :
    (ofPath path).nextReached name =
      path.alternatives.map fun alternative => alternative.reachedAt [] := rfl

theorem nextReached_of_reached {matcher : Matcher} {selected : Bool} {outer : List MatcherLevel}
    {names : List ExpandedName}
    (levels : matcher.levels = ⟨matcher.path.alternatives.map fun alternative =>
      alternative.reachedAt names, selected⟩ :: outer) (name : ExpandedName) :
    matcher.nextReached name =
      matcher.path.alternatives.map fun alternative => alternative.reachedAt (names ++ [name]) := by
  rw [nextReached, levels]
  simp only [LocationPath.reachedAt_append, List.zipWith_map_right, List.zipWith_self]

/-- A matcher that goes on along some names answers as its path selects there. -/
theorem start_of_nextReached {matcher : Matcher} {name : ExpandedName} {names : List ExpandedName}
    (reached : matcher.nextReached name =
      matcher.path.alternatives.map fun alternative => alternative.reachedAt names)
    (attributes : List ExpandedName) :
    matcher.start name attributes =
      ({ matcher with levels := ⟨matcher.path.alternatives.map fun alternative =>
          alternative.reachedAt names, matcher.path.selects names⟩ :: matcher.levels },
        matcher.path.selection names attributes) := by
  unfold start
  dsimp only
  rw [reached, IdentityPath.zip_reachedAt, List.any_map, List.flatMap_map]
  simp only [Function.comp_def, LocationPath.selects_reachedAt,
    LocationPath.selectedAttributes_reachedAt]
  rfl

/-- A matcher behind the start tags of its context element and of the elements with the given names
on the way down. -/
def after (path : IdentityPath) (names : List ExpandedName) : Matcher :=
  names.foldl (fun matcher name => (matcher.start name []).1) ((ofPath path).start default []).1

theorem after_append (path : IdentityPath) (names : List ExpandedName) (name : ExpandedName) :
    after path (names ++ [name]) = ((after path names).start name []).1 := by
  rw [after, List.foldl_append]
  rfl

/-- The matcher knows how many steps were taken on the way. -/
theorem after_eq (path : IdentityPath) (names : List ExpandedName) :
    ∃ outer, after path names =
      ⟨path, ⟨path.alternatives.map fun alternative => alternative.reachedAt names,
        path.selects names⟩ :: outer⟩ := by
  induction names using List.reverseRecOn with
  | nil =>
    refine ⟨[], ?_⟩
    show ((ofPath path).start default []).1 = _
    rw [start_of_nextReached (nextReached_ofPath path default)]
    rfl
  | append_singleton names name ofNames =>
    obtain ⟨outer, same⟩ := ofNames
    refine ⟨(after path names).levels, ?_⟩
    rw [after_append, same, start_of_nextReached (nextReached_of_reached rfl name)]

/-- The start tag of the context element. -/
theorem start_ofPath (path : IdentityPath) (name : ExpandedName) (attributes : List ExpandedName) :
    (ofPath path).start name attributes = (after path [], path.selection [] attributes) := by
  rw [start_of_nextReached (nextReached_ofPath path name)]
  show _ = (((ofPath path).start default []).1, _)
  rw [start_of_nextReached (nextReached_ofPath path default)]
  rfl

/-- The start tag of an element further down. -/
theorem start_after (path : IdentityPath) (names : List ExpandedName) (name : ExpandedName)
    (attributes : List ExpandedName) :
    (after path names).start name attributes =
      (after path (names ++ [name]), path.selection (names ++ [name]) attributes) := by
  obtain ⟨outer, same⟩ := after_eq path names
  have next : (after path names).nextReached name =
      (after path names).path.alternatives.map
        fun alternative => alternative.reachedAt (names ++ [name]) := by
    rw [same]
    exact nextReached_of_reached rfl name
  rw [after_append, start_of_nextReached next, start_of_nextReached next, same]

/-- The end tag of the context element. -/
theorem finish_after_nil (path : IdentityPath) :
    (after path []).finish = (ofPath path, path.selects []) := by
  have tags := finish_start (ofPath path) default []
  rwa [start_ofPath] at tags

/-- The end tag of an element further down. -/
theorem finish_after (path : IdentityPath) (names : List ExpandedName) (name : ExpandedName) :
    (after path (names ++ [name])).finish = (after path names, path.selects (names ++ [name])) := by
  have tags := finish_start (after path names) name []
  rwa [start_after] at tags

end Matcher

end SchemaAssessment
