/-
Paths are read as they are written. An expression is read as some alternatives just if it
is written of parts that stand for them, the alternatives are legal for the role, and no
name test is changed by trimming. There is one blank that names may hold: a name that begins
or ends with it loses it when its step is trimmed, and is another name then.
-/

import SchemaAssessment.Proofs.Path.Notation

namespace SchemaAssessment

/-! ### Steps between slashes -/

namespace LocationPath

/-- What stands between the slashes, without the blanks around it. -/
def stepTexts (chars : List Char) : List String :=
  (chars.splitOn '/').map fun piece => .ofList (Text.trimmed piece)

variable {before chars rest : List Char} {text : String} {texts : List String}

theorem stepTexts_eq_map (chars : List Char) :
    stepTexts chars = ((chars.splitOn '/').map Text.trimmed).map String.ofList := by
  rw [stepTexts, List.map_map]
  rfl

theorem stepTexts_trimmed (chars : List Char) :
    stepTexts (Text.trimmed chars) = stepTexts chars := by
  rw [stepTexts_eq_map, stepTexts_eq_map, Text.map_trimmed_splitOn_trimmed (by decide)]

theorem stepTexts_append_left (areBlank : Text.AreBlank before) :
    stepTexts (before ++ chars) = stepTexts chars := by
  rw [← stepTexts_trimmed, Text.trimmed_append_left areBlank, stepTexts_trimmed]

theorem empty_mem_stepTexts (missing : [] ∈ chars.splitOn '/') : "" ∈ stepTexts chars :=
  List.mem_map.mpr ⟨[], missing, rfl⟩

/-- A path is cut at its slashes. A slash at its beginning or two slashes together are faults of
their own, but they also leave a step empty. -/
theorem cut_eq_ok_iff {path : String} :
    cut path chars = .ok texts ↔ texts = stepTexts chars ∧ "" ∉ stepTexts chars := by
  have cutAt : (Text.pieces '/' (.ofList chars)).map Text.trim = stepTexts chars := by
    rw [Text.pieces, List.map_map, String.toList_ofList]
    exact List.map_congr_left fun piece _ => Text.trim_ofList piece
  unfold cut
  rw [cutAt]
  split
  · next descends =>
    refine iff_of_false nofun fun ⟨_, full⟩ => full (empty_mem_stepTexts ?_)
    rcases Bool.or_eq_true_iff.mp descends with begins | doubled
    · exact Text.nil_mem_splitOn_of_head? (eq_of_beq begins)
    · exact List.mem_of_mem_tail (Text.nil_mem_splitOn_of_occursIn doubled)
  · have empties : (stepTexts chars).any String.isEmpty = true ↔ "" ∈ stepTexts chars := by
      rw [List.any_eq_true]
      exact ⟨fun ⟨_, member, same⟩ => String.isEmpty_iff.mp same ▸ member, fun member =>
        ⟨"", member, rfl⟩⟩
    dsimp only
    split
    · next missing => exact iff_of_false nofun fun ⟨_, full⟩ => full (empties.mp missing)
    · next full =>
      exact ⟨fun same => ⟨(Except.ok.inj same).symm, fun member => full (empties.mpr member)⟩,
        fun ⟨same, _⟩ => congrArg Except.ok same.symm⟩

theorem map_cut_eq_ok_iff {path : String} {isDeep : Bool} {parts : Bool × List String} :
    (cut path chars).map (fun steps => (isDeep, steps)) = .ok parts ↔
      parts = (isDeep, stepTexts chars) ∧ "" ∉ stepTexts chars := by
  simp only [map_eq_ok, cut_eq_ok_iff]
  constructor
  · rintro ⟨_, ⟨rfl, full⟩, rfl⟩
    exact ⟨rfl, full⟩
  · rintro ⟨rfl, full⟩
    exact ⟨_, ⟨rfl, full⟩, rfl⟩

/-- Of a deep path, the steps behind its mark are cut. -/
theorem split_deep_eq_ok_iff {parts : Bool × List String} (areBlank : Text.AreBlank before) :
    split (.ofList (before ++ PathForm.leading true ++ rest)) = .ok parts ↔
      parts = (true, stepTexts rest) ∧ "" ∉ stepTexts rest := by
  have whole : Text.trimmed (before ++ PathForm.leading true ++ rest) =
      '.' :: '/' :: '/' :: Text.trimEnd rest := by
    rw [List.append_assoc, Text.trimmed_append_left areBlank]
    change Text.trimmed ('.' :: ['/'] ++ '/' :: rest) = _
    rw [List.cons_append, Text.trimmed_cons (by decide), Text.trimEnd_append_cons (by decide)]
    rfl
  have same : stepTexts (Text.trimStart (Text.trimEnd rest)) = stepTexts rest := by
    rw [← stepTexts_trimmed, Text.trimmed_trimStart, Text.trimmed_trimEnd, stepTexts_trimmed]
  simp only [split, Text.trim_ofList, String.toList_ofList, whole]
  rw [map_cut_eq_ok_iff, same]

/-- A path between whose slashes nothing is missing is not deep, and all of it is cut. -/
theorem split_flat_eq_ok_iff {parts : Bool × List String} (full : [] ∉ chars.splitOn '/') :
    split (.ofList chars) = .ok parts ↔
      parts = (false, stepTexts chars) ∧ "" ∉ stepTexts chars := by
  simp only [split, Text.trim_ofList, String.toList_ofList]
  split
  · next nothing =>
    refine iff_of_false nofun fun ⟨_, filled⟩ => filled ?_
    rw [← stepTexts_trimmed, nothing]
    exact List.mem_singleton_self _
  · next rest begins =>
    -- The two slashes of the mark would have nothing between them.
    obtain ⟨before, after, blankBefore, blankAfter, same⟩ := Text.exists_trimmed chars
    rw [begins] at same
    refine absurd ?_ full
    rw [same, show before ++ '.' :: '/' :: '/' :: rest ++ after =
      (before ++ ['.']) ++ '/' :: ('/' :: (rest ++ after)) by simp, List.splitOn_append_cons_self]
    exact List.mem_append_right _ (Text.nil_mem_splitOn_of_head? rfl)
  · rw [map_cut_eq_ok_iff, stepTexts_trimmed]

/-- An alternative is split as it is written, if no step is missing. -/
theorem split_eq_ok_iff {isDeep : Bool} {parts : Bool × List String}
    (areBlank : Text.AreBlank before) (full : [] ∉ rest.splitOn '/') :
    split (.ofList (before ++ PathForm.leading isDeep ++ rest)) = .ok parts ↔
      parts = (isDeep, stepTexts rest) ∧ "" ∉ stepTexts rest := by
  cases isDeep with
  | true => exact split_deep_eq_ok_iff areBlank
  | false =>
    obtain ⟨first, later, cut⟩ := Text.exists_splitOn '/' rest
    have stillFull : [] ∉ (before ++ rest).splitOn '/' := by
      rw [cut] at full
      rw [Text.splitOn_append_left (areBlank.not_mem (by decide)) cut]
      intro missing
      rcases List.mem_cons.mp missing with same | later
      · exact full (List.mem_cons.mpr (.inl (List.append_eq_nil_iff.mp same.symm).2.symm))
      · exact full (List.mem_cons_of_mem _ later)
    rw [PathForm.leading, List.append_nil, split_flat_eq_ok_iff stillFull,
      stepTexts_append_left areBlank]

/-- What is split was written with a mark or without one. -/
theorem exists_of_split {isDeep : Bool} (done : split text = .ok (isDeep, texts)) :
    ∃ before rest, Text.AreBlank before ∧ text.toList = before ++ PathForm.leading isDeep ++ rest ∧
      texts = stepTexts rest := by
  obtain ⟨chars, rfl⟩ : ∃ chars, text = .ofList chars := ⟨text.toList, String.ofList_toList.symm⟩
  by_cases deep : ∃ before rest, Text.AreBlank before ∧
      chars = before ++ PathForm.leading true ++ rest
  · obtain ⟨before, rest, areBlank, rfl⟩ := deep
    obtain ⟨same, -⟩ := (split_deep_eq_ok_iff areBlank).mp done
    obtain ⟨rfl, rfl⟩ := Prod.mk.inj same
    exact ⟨before, rest, areBlank, String.toList_ofList, rfl⟩
  · simp only [split, Text.trim_ofList, String.toList_ofList] at done
    split at done
    · cases done
    · next rest begins =>
      obtain ⟨before, after, blankBefore, blankAfter, same⟩ := Text.exists_trimmed chars
      refine absurd ⟨before, rest ++ after, blankBefore, ?_⟩ deep
      rw [same, begins]
      simp [PathForm.leading]
    · obtain ⟨same, -⟩ := map_cut_eq_ok_iff.mp done
      obtain ⟨rfl, rfl⟩ := Prod.mk.inj same
      exact ⟨[], chars, Text.areBlank_nil, String.toList_ofList, stepTexts_trimmed chars⟩

end LocationPath

/-! ### Steps -/

namespace Step

variable {scopes : NamespaceScopes} {mark chars rest : List Char} {axis : StepAxis}

theorem mem_spellings : (mark, axis) ∈ spellings ↔ (mark = [] ∧ axis = .child) ∨
    (mark = "@".toList ∧ axis = .attribute) ∨ (mark = "attribute::".toList ∧ axis = .attribute) ∨
      (mark = "child::".toList ∧ axis = .child) := by
  simp [spellings, marks]

/-- What follows a mark is the rest. -/
theorem splitAxis_append (spelled : (mark, axis) ∈ spellings) (isMarked : mark ≠ []) :
    splitAxis (mark ++ rest) = (axis, rest) := by
  rcases mem_spellings.mp spelled with ⟨rfl, rfl⟩ | ⟨rfl, rfl⟩ | ⟨rfl, rfl⟩ | ⟨rfl, rfl⟩
  · exact absurd rfl isMarked
  · rfl
  · rfl
  · rfl

theorem exists_of_splitAxis (same : splitAxis chars = (axis, rest)) :
    ∃ mark, (mark, axis) ∈ spellings ∧ chars = mark ++ rest := by
  unfold splitAxis at same
  generalize found : marks.findSome? _ = parts? at same
  cases parts? with
  | none =>
    obtain ⟨rfl, rfl⟩ := Prod.mk.inj same
    exact ⟨[], List.mem_cons_self, rfl⟩
  | some parts =>
    obtain rfl : parts = (axis, rest) := same
    obtain ⟨⟨mark, marked⟩, member, begins⟩ := List.exists_of_findSome?_eq_some found
    obtain ⟨later, dropped, parts⟩ := Option.map_eq_some_iff.mp begins
    obtain ⟨rfl, rfl⟩ := Prod.mk.inj parts
    exact ⟨mark.toList, List.mem_cons_of_mem _ (List.mem_map_of_mem member),
      Text.dropPrefix?_eq_some_iff.mp dropped⟩

/-- Without an at sign and without two colons, no axis is marked. -/
theorem splitAxis_of_unmarked (noSign : '@' ∉ chars) (colons : chars.count ':' ≤ 1) :
    splitAxis chars = (.child, chars) := by
  cases parts : splitAxis chars with
  | mk axis rest =>
    obtain ⟨mark, spelled, rfl⟩ := exists_of_splitAxis parts
    rw [List.count_append] at colons
    rcases mem_spellings.mp spelled with ⟨rfl, rfl⟩ | ⟨rfl, rfl⟩ | ⟨rfl, rfl⟩ | ⟨rfl, rfl⟩
    · rfl
    · exact absurd List.mem_cons_self noSign
    · have two : "attribute::".toList.count ':' = 2 := by decide
      omega
    · have two : "child::".toList.count ':' = 2 := by decide
      omega

/-- No mark begins with a dot. -/
theorem append_ne_dot (spelled : (mark, axis) ∈ spellings) (isMarked : mark ≠ []) :
    mark ++ rest ≠ ['.'] := by
  rcases mem_spellings.mp spelled with ⟨rfl, rfl⟩ | ⟨rfl, rfl⟩ | ⟨rfl, rfl⟩ | ⟨rfl, rfl⟩
  · exact absurd rfl isMarked
  · exact fun same => nomatch (List.cons.inj same).1
  · exact fun same => nomatch (List.cons.inj same).1
  · exact fun same => nomatch (List.cons.inj same).1

/-- A mark begins and ends with characters that are not blank. -/
theorem trimmed_append (spelled : (mark, axis) ∈ spellings) (isMarked : mark ≠ []) :
    Text.trimmed (mark ++ rest) = mark ++ Text.trimEnd rest := by
  have framed : ∀ {first last : Char} {middle : List Char}, Text.isBlank first = false →
      Text.isBlank last = false → Text.trimmed (first :: (middle ++ last :: rest)) =
        first :: (middle ++ last :: Text.trimEnd rest) := by
    intro first last middle noneFirst noneLast
    rw [Text.trimmed_cons noneFirst, Text.trimEnd_append_cons noneLast]
  rcases mem_spellings.mp spelled with ⟨rfl, rfl⟩ | ⟨rfl, rfl⟩ | ⟨rfl, rfl⟩ | ⟨rfl, rfl⟩
  · exact absurd rfl isMarked
  · exact Text.trimmed_cons (by decide)
  · exact @framed 'a' ':' "ttribute:".toList (by decide) (by decide)
  · exact @framed 'c' ':' "hild:".toList (by decide) (by decide)

/-- A step that is no dot is read as the name test behind the mark. -/
theorem read_of_ne_dot (noDot : chars ≠ ['.']) (parts : splitAxis chars = (axis, rest)) :
    read scopes (.ofList chars) =
      (NameTest.read scopes (.ofList (Text.trimmed rest))).map fun test => ⟨axis, test⟩ := by
  have differs : (String.ofList chars == ".") = false :=
    beq_eq_false_iff_ne.mpr fun same => noDot (String.ofList_injective same)
  rw [read, differs, if_neg Bool.false_ne_true, String.toList_ofList, parts]
  dsimp only
  rw [Text.trim_ofList]

theorem read_eq_ok_iff_of_ne_dot {test : NameTest} (noDot : chars ≠ ['.'])
    (parts : splitAxis chars = (axis, rest)) : read scopes (.ofList chars) = .ok ⟨axis, test⟩ ↔
      NameTest.read scopes (.ofList (Text.trimmed rest)) = .ok test := by
  rw [read_of_ne_dot noDot parts, map_eq_ok]
  constructor
  · rintro ⟨_, done, same⟩
    exact (Step.mk.inj same).2 ▸ done
  · exact fun done => ⟨test, done, rfl⟩

/-- A step is read as it is written just if trimming does not change its name test. -/
theorem read_eq_ok_iff_survives {form : StepForm} {step : Step} (writes : form.Writes scopes step) :
    read scopes (.ofList (Text.trimmed form.chars)) = .ok step ↔ form.Survives scopes := by
  cases writes with
  | self blankBefore blankAfter =>
    refine iff_of_true ?_ rfl
    rw [StepForm.chars, Text.trimmed_framed blankBefore blankAfter]
    rfl
  | @named before mark gap chars after axis test blankBefore blankGap blankAfter spelled written =>
    rw [StepForm.Survives, NameTest.read_of_isWritten written, StepForm.chars,
      Text.trimmed_framed blankBefore blankAfter, List.append_assoc]
    by_cases isMarked : mark = []
    · subst isMarked
      obtain rfl : axis = .child := by simpa [mem_spellings] using spelled
      rw [List.nil_append, Text.trimmed_append_left blankGap]
      have within := Text.trimmed_isInfix chars
      by_cases dot : Text.trimmed chars = ['.']
      · -- An ogham space mark and a dot make a name, but the dot alone is read as one.
        rw [dot]
        exact iff_of_false nofun nofun
      · have noSign : '@' ∉ chars := written.not_mem (by decide) (by decide) (by decide)
        rw [read_eq_ok_iff_of_ne_dot dot (splitAxis_of_unmarked
          (fun member => noSign (within.subset member))
          ((within.sublist.count_le ':').trans written.count_colon)), Text.trimmed_idem]
    · rw [trimmed_append spelled isMarked,
        read_eq_ok_iff_of_ne_dot (append_ne_dot spelled isMarked)
          (splitAxis_append spelled isMarked),
        Text.trimmed_trimEnd, Text.trimmed_append_left blankGap]

/-- What is read as a step is written of parts that stand for the step. -/
theorem exists_of_read {piece : List Char} {step : Step}
    (done : read scopes (.ofList (Text.trimmed piece)) = .ok step) :
    ∃ form : StepForm, form.chars = piece ∧ form.Writes scopes step := by
  obtain ⟨before, after, blankBefore, blankAfter, framed⟩ := Text.exists_trimmed piece
  by_cases dot : Text.trimmed piece = ['.']
  · rw [dot] at done framed
    cases done
    exact ⟨⟨before, [], [], ['.'], after⟩, framed.symm, .self blankBefore blankAfter⟩
  · obtain ⟨axis, test⟩ := step
    cases parts : splitAxis (Text.trimmed piece) with
    | mk marked rest =>
      rw [read_of_ne_dot dot parts, map_eq_ok] at done
      obtain ⟨_, done, same⟩ := done
      obtain ⟨rfl, rfl⟩ := Step.mk.inj same
      obtain ⟨mark, spelled, whole⟩ := exists_of_splitAxis parts
      obtain ⟨gap, tail, blankGap, blankTail, inner⟩ := Text.exists_trimmed rest
      refine ⟨⟨before, mark, gap, Text.trimmed rest, tail ++ after⟩, ?_,
        .named blankBefore blankGap (blankTail.append blankAfter) spelled
          (NameTest.read_eq_ok_iff.mp done)⟩
      conv_rhs => rw [framed, whole, inner]
      simp only [StepForm.chars, List.append_assoc]

end Step

namespace StepForm.Writes

variable {scopes : NamespaceScopes} {form : StepForm} {step : Step}

theorem chars_ne_nil (writes : form.Writes scopes step) : form.chars ≠ [] := by
  have hasTest : form.test ≠ [] := by
    cases writes with
    | self => exact List.cons_ne_nil _ _
    | named _ _ _ _ written => exact written.ne_nil
  exact fun nothing => hasTest (by simp_all [StepForm.chars])

/-- Only blanks, marks and name tests stand in a step. -/
theorem not_mem {c : Char} (writes : form.Writes scopes step) (noBlank : Text.isBlank c = false)
    (noName : Name.isRest c = false) (noMark : ∀ mark ∈ [".", "*", "@", "attribute::", "child::"],
      c ∉ mark.toList) : c ∉ form.chars := by
  intro member
  simp only [StepForm.chars, List.mem_append] at member
  cases writes with
  | self blankBefore blankAfter =>
    rcases member with (before | (mark | gap) | test) | after
    · exact blankBefore.not_mem noBlank before
    · cases mark
    · cases gap
    · exact noMark "." (by simp) test
    · exact blankAfter.not_mem noBlank after
  | named blankBefore blankGap blankAfter spelled written =>
    rcases member with (before | (mark | gap) | test) | after
    · exact blankBefore.not_mem noBlank before
    · rcases Step.mem_spellings.mp spelled with ⟨rfl, -⟩ | ⟨rfl, -⟩ | ⟨rfl, -⟩ | ⟨rfl, -⟩
      · cases mark
      · exact noMark "@" (by simp) mark
      · exact noMark "attribute::" (by simp) mark
      · exact noMark "child::" (by simp) mark
    · exact blankGap.not_mem noBlank gap
    · refine written.not_mem (fun star => ?_) (fun colon => ?_) noName test
      · exact noMark "*" (by simp) (star ▸ List.mem_singleton_self '*')
      · exact noMark "child::" (by simp) (by rw [colon]; decide)
    · exact blankAfter.not_mem noBlank after

theorem slash_not_mem (writes : form.Writes scopes step) : '/' ∉ form.chars :=
  writes.not_mem (by decide) (by decide) (by decide)

theorem bar_not_mem (writes : form.Writes scopes step) : '|' ∉ form.chars :=
  writes.not_mem (by decide) (by decide) (by decide)

theorem staysAnywhere (writes : form.Writes scopes step) (stays : step.axis = .self) :
    step.test = .any := by
  cases writes with
  | self => rfl
  | named _ _ _ spelled =>
    rcases Step.mem_spellings.mp spelled with ⟨-, rfl⟩ | ⟨-, rfl⟩ | ⟨-, rfl⟩ | ⟨-, rfl⟩ <;>
      cases stays

end StepForm.Writes

theorem StepForm.Writes.survives {scopes : NamespaceScopes} {form : StepForm} {step : Step}
    (writes : form.Writes scopes step) (begins : form.test.head? ≠ some Name.ogham)
    (ends : form.test.getLast? ≠ some Name.ogham) : form.Survives scopes := by
  cases writes with
  | self => rfl
  | named _ _ _ _ written => rw [StepForm.Survives, written.trimmed_eq begins ends]

/-! ### Alternatives -/

section

variable {α β γ : Type} {R S : α → β → Prop}

/-- Where two lists correspond, a further relation between them may be a matter of the first
list alone. -/
theorem forall₂_iff_forall_mem {P : α → Prop} {items : List α} {values : List β}
    (related : List.Forall₂ R items values) (each : ∀ item value, R item value →
      (S item value ↔ P item)) : List.Forall₂ S items values ↔ ∀ item ∈ items, P item := by
  induction related with
  | nil => exact iff_of_true .nil fun _ member => nomatch member
  | cons here _ ofRest => rw [List.forall₂_cons, each _ _ here, ofRest, List.forall_mem_cons]

theorem exists_map_eq {make : γ → α} {T : γ → β → Prop} {items : List α} {values : List β}
    (related : List.Forall₂ R items values)
    (each : ∀ item value, R item value → ∃ form, make form = item ∧ T form value) :
    ∃ forms, forms.map make = items ∧ List.Forall₂ T forms values := by
  induction related with
  | nil => exact ⟨[], rfl, .nil⟩
  | cons here _ ofRest =>
    obtain ⟨form, rfl, first⟩ := each _ _ here
    obtain ⟨forms, rfl, later⟩ := ofRest
    exact ⟨form :: forms, rfl, .cons first later⟩

end

namespace PathForm.Writes

variable {scopes : NamespaceScopes} {form : PathForm} {path : LocationPath}

theorem bar_not_mem (writes : form.Writes scopes path) : '|' ∉ form.chars := by
  have inSteps : ∀ piece ∈ form.steps.map StepForm.chars, '|' ∉ piece := by
    intro piece member
    obtain ⟨step, inside, rfl⟩ := List.mem_map.mp member
    obtain ⟨_, _, stands⟩ := exists_of_mem_right writes.steps.flip inside
    exact stands.bar_not_mem
  intro member
  rw [chars, List.mem_append, List.mem_append] at member
  rcases member with (before | leading) | steps
  · exact writes.blankBefore.not_mem (by decide) before
  · cases deep : form.isDeep <;> simp [deep, PathForm.leading] at leading
  · exact Text.not_mem_intercalate (by decide) inSteps steps

/-- The slashes that join the steps are the only ones. -/
theorem splitOn_body (writes : form.Writes scopes path) (hasStep : path.steps ≠ []) :
    form.body.splitOn '/' = form.steps.map StepForm.chars := by
  refine List.splitOn_intercalate '/' (fun piece member => ?_) fun nothing => hasStep ?_
  · obtain ⟨step, inside, rfl⟩ := List.mem_map.mp member
    obtain ⟨_, _, stands⟩ := exists_of_mem_right writes.steps.flip inside
    exact stands.slash_not_mem
  · have steps := writes.steps
    rwa [List.map_eq_nil_iff.mp nothing, List.forall₂_nil_left_iff] at steps

theorem nil_not_mem_splitOn_body (writes : form.Writes scopes path) (hasStep : path.steps ≠ []) :
    [] ∉ form.body.splitOn '/' := by
  rw [writes.splitOn_body hasStep]
  intro missing
  obtain ⟨step, inside, nothing⟩ := List.mem_map.mp missing
  obtain ⟨_, _, stands⟩ := exists_of_mem_right writes.steps.flip inside
  exact stands.chars_ne_nil nothing

/-- The steps are read as they are written just if trimming does not change their name tests. -/
theorem read_stepTexts_iff (writes : form.Writes scopes path) (hasStep : path.steps ≠ []) :
    List.Forall₂ (fun text step => Step.read scopes text = .ok step)
      (LocationPath.stepTexts form.body) path.steps ↔ form.Survives scopes := by
  rw [LocationPath.stepTexts, writes.splitOn_body hasStep, List.forall₂_map_left_iff,
    List.forall₂_map_left_iff]
  exact forall₂_iff_forall_mem writes.steps fun _ _ => Step.read_eq_ok_iff_survives

end PathForm.Writes

namespace IdentityPath

variable {role : Role} {scopes : NamespaceScopes} {expression : String} {path : LocationPath}
  {form : PathForm}

theorem hasMisplacedAttribute_eq_false_iff {steps : List Step} :
    hasMisplacedAttribute role steps = false ↔ (∀ step ∈ steps.dropLast, step.axis ≠ .attribute) ∧
      (role = .selector → ∀ step ∈ steps, step.axis ≠ .attribute) := by
  simp only [hasMisplacedAttribute, Bool.or_eq_false_iff, List.any_eq_false, beq_iff_eq]
  refine and_congr_right fun _ => ?_
  cases role with
  | selector => simp
  | field => simp

theorem readAlternative_eq_ok_iff {alternative : String} :
    readAlternative role scopes expression alternative = .ok path ↔
      ∃ texts, LocationPath.split alternative = .ok (path.isDeep, texts) ∧
        List.Forall₂ (fun text step => Step.read scopes text = .ok step) texts path.steps ∧
          hasMisplacedAttribute role path.steps = false := by
  rw [readAlternative, bind_eq_ok]
  constructor
  · rintro ⟨⟨isDeep, texts⟩, split, more⟩
    obtain ⟨steps, done, rest⟩ := bind_eq_ok.mp more
    cases misplaced : hasMisplacedAttribute role steps with
    | true =>
      rw [misplaced] at rest
      cases rest
    | false =>
      rw [misplaced] at rest
      cases rest
      exact ⟨texts, split, mapM_eq_ok.mp done, misplaced⟩
  · rintro ⟨texts, split, each, placed⟩
    refine ⟨_, split, bind_eq_ok.mpr ⟨path.steps, mapM_eq_ok.mpr each, ?_⟩⟩
    rw [placed]
    rfl

/-- An alternative is read as it is written just if trimming does not change its name tests. -/
theorem readAlternative_iff_survives (writes : form.Writes scopes path)
    (isLegal : path.IsLegal role) :
    readAlternative role scopes expression (.ofList form.chars) = .ok path ↔
      form.Survives scopes := by
  have each := writes.read_stepTexts_iff isLegal.hasStep
  have full := writes.nil_not_mem_splitOn_body isLegal.hasStep
  rw [readAlternative_eq_ok_iff, PathForm.chars]
  simp only [LocationPath.split_eq_ok_iff writes.blankBefore full]
  constructor
  · rintro ⟨_, ⟨same, -⟩, read, -⟩
    obtain ⟨-, rfl⟩ := Prod.mk.inj same
    exact each.mp read
  · intro survives
    have read := each.mpr survives
    refine ⟨_, ⟨by rw [writes.isDeep], fun missing => ?_⟩, read,
      hasMisplacedAttribute_eq_false_iff.mpr ⟨isLegal.endsAtAttribute, isLegal.selectsElements⟩⟩
    -- An empty text is read as no step.
    obtain ⟨_, _, done⟩ := exists_of_mem_right read.flip missing
    cases done

/-- What is read as an alternative is legal, and written of parts that stand for it. -/
theorem exists_of_readAlternative {alternative : List Char}
    (done : readAlternative role scopes expression (.ofList alternative) = .ok path) :
    path.IsLegal role ∧ ∃ form : PathForm, form.chars = alternative ∧ form.Writes scopes path := by
  obtain ⟨texts, split, read, placed⟩ := readAlternative_eq_ok_iff.mp done
  obtain ⟨before, rest, blankBefore, whole, rfl⟩ := LocationPath.exists_of_split split
  rw [LocationPath.stepTexts, List.forall₂_map_left_iff] at read
  obtain ⟨forms, pieces, writes⟩ := exists_map_eq read fun _ _ => Step.exists_of_read
  obtain ⟨endsAtAttribute, selectsElements⟩ := hasMisplacedAttribute_eq_false_iff.mp placed
  refine ⟨⟨fun nothing => ?_, fun step inside => ?_, endsAtAttribute, selectsElements⟩,
    ⟨before, path.isDeep, forms⟩, ?_, blankBefore, rfl, writes⟩
  · rw [nothing, List.forall₂_nil_right_iff] at read
    exact List.splitOn_ne_nil _ _ read
  · obtain ⟨_, _, stands⟩ := exists_of_mem_right writes inside
    exact stands.staysAnywhere
  · rw [PathForm.chars, PathForm.body, pieces, List.intercalate_splitOn, ← whole,
      String.toList_ofList]

/-! ### Expressions -/

theorem read_eq_ok_iff {text : String} {expressed : IdentityPath} :
    read role scopes text = .ok expressed ↔ expressed.text = text ∧
      List.Forall₂ (fun piece path => readAlternative role scopes text (.ofList piece) = .ok path)
        (text.toList.splitOn '|') expressed.alternatives := by
  rw [read, map_eq_ok]
  simp only [mapM_eq_ok, Text.pieces, List.forall₂_map_left_iff]
  constructor
  · rintro ⟨paths, each, rfl⟩
    exact ⟨rfl, each⟩
  · rintro ⟨rfl, each⟩
    exact ⟨_, each, rfl⟩

/-- An expression is read as it is written just if trimming does not change its name tests. -/
theorem read_rendering_iff {forms : List PathForm} {paths : List LocationPath}
    (writes : List.Forall₂ (PathForm.Writes scopes) forms paths) (hasPath : paths ≠ [])
    (areLegal : ∀ path ∈ paths, path.IsLegal role) :
    read role scopes (rendering forms) = .ok ⟨rendering forms, paths⟩ ↔
      ∀ form ∈ forms, form.Survives scopes := by
  have hasForm : forms.map PathForm.chars ≠ [] := by
    intro nothing
    rw [List.map_eq_nil_iff.mp nothing, List.forall₂_nil_left_iff] at writes
    exact hasPath writes
  have noBar : ∀ piece ∈ forms.map PathForm.chars, '|' ∉ piece := by
    intro piece member
    obtain ⟨form, inside, rfl⟩ := List.mem_map.mp member
    obtain ⟨path, _, stands⟩ := exists_of_mem_right writes.flip inside
    exact stands.bar_not_mem
  have legally : List.Forall₂ (fun form path => path.IsLegal role ∧ form.Writes scopes path)
      forms paths := ((List.forall₂_and_left paths forms).mpr ⟨areLegal, writes.flip⟩).flip
  rw [read_eq_ok_iff, and_iff_right rfl]
  conv_lhs => rw [rendering, String.toList_ofList, List.splitOn_intercalate '|' noBar hasForm,
    List.forall₂_map_left_iff]
  exact forall₂_iff_forall_mem legally fun _ _ both => readAlternative_iff_survives both.2 both.1

/-- What is read as an expression is written of parts that stand for it, and legal. -/
theorem exists_of_read {text : String} {expressed : IdentityPath}
    (done : read role scopes text = .ok expressed) :
    expressed.text = text ∧ expressed.alternatives ≠ [] ∧
      (∀ path ∈ expressed.alternatives, path.IsLegal role) ∧
      ∃ forms, rendering forms = text ∧
        List.Forall₂ (PathForm.Writes scopes) forms expressed.alternatives := by
  obtain ⟨same, each⟩ := read_eq_ok_iff.mp done
  refine ⟨same, fun nothing => ?_, fun path inside => ?_, ?_⟩
  · rw [nothing, List.forall₂_nil_right_iff] at each
    exact List.splitOn_ne_nil _ _ each
  · obtain ⟨_, _, here⟩ := exists_of_mem_right each inside
    exact (exists_of_readAlternative here).1
  · obtain ⟨forms, pieces, writes⟩ :=
      exists_map_eq each fun _ _ here => (exists_of_readAlternative here).2
    refine ⟨forms, ?_, writes⟩
    rw [rendering, pieces, List.intercalate_splitOn, String.ofList_toList]

/-- **Reading undoes writing.** Alternatives that are legal for the role, written in any way that
the notation allows, are read as they are just if trimming does not change what their name tests are
read as, and it does not where no name test begins or ends with an ogham space mark. Whatever is
read has alternatives, they are legal for the role, and the text is a way to write them. -/
theorem read_undoes_rendering (role : Role) (scopes : NamespaceScopes) :
    (∀ (forms : List PathForm) (paths : List LocationPath),
      List.Forall₂ (PathForm.Writes scopes) forms paths → paths ≠ [] →
      (∀ path ∈ paths, path.IsLegal role) →
      (read role scopes (rendering forms) = .ok ⟨rendering forms, paths⟩ ↔
        ∀ form ∈ forms, form.Survives scopes) ∧
      ((∀ form ∈ forms, ∀ step ∈ form.steps, step.test.head? ≠ some Name.ogham ∧
          step.test.getLast? ≠ some Name.ogham) →
        read role scopes (rendering forms) = .ok ⟨rendering forms, paths⟩)) ∧
    ∀ (text : String) (expressed : IdentityPath), read role scopes text = .ok expressed →
      expressed.text = text ∧ expressed.alternatives ≠ [] ∧
        (∀ path ∈ expressed.alternatives, path.IsLegal role) ∧
        ∃ forms, rendering forms = text ∧
          List.Forall₂ (PathForm.Writes scopes) forms expressed.alternatives := by
  refine ⟨fun forms paths writes hasPath areLegal => ?_, fun text expressed => exists_of_read⟩
  have whole := read_rendering_iff writes hasPath areLegal
  refine ⟨whole, fun edges => whole.mpr fun form inForms step inForm => ?_⟩
  obtain ⟨path, _, stands⟩ := exists_of_mem_right writes.flip inForms
  obtain ⟨_, _, written⟩ := exists_of_mem_right stands.steps.flip inForm
  obtain ⟨begins, ends⟩ := edges form inForms step inForm
  exact written.survives begins ends

/-- An invoice has its own prefix. -/
def invoiceScopes : NamespaceScopes := .ofBindings [("i", "urn:invoice")]

/-- ` .// i:line⏎/child:: * |⇥. /@⇥line-no` -/
def lineForms : List PathForm :=
  [⟨[' '], true, [⟨[' '], [], [], "i:line".toList, ['\n']⟩,
      ⟨[], "child::".toList, [' '], ['*'], [' ']⟩]⟩,
    ⟨['\t'], false, [⟨[], [], [], ['.'], [' ']⟩, ⟨[], ['@'], ['\t'], "line-no".toList, []⟩]⟩]

def linePaths : List LocationPath :=
  [⟨true, [⟨.child, .name ⟨some "urn:invoice", "line"⟩⟩, ⟨.child, .any⟩]⟩,
    ⟨false, [⟨.self, .any⟩, ⟨.attribute, .name ⟨none, "line-no"⟩⟩]⟩]

theorem lineForms_write : List.Forall₂ (PathForm.Writes invoiceScopes) lineForms linePaths := by
  have line : NameTest.IsWritten invoiceScopes (.name ⟨some "urn:invoice", "line"⟩)
      "i:line".toList := @NameTest.IsWritten.qualified _ "i" "line" "urn:invoice" (by decide)
        (by decide) (by decide)
  have number : NameTest.IsWritten invoiceScopes (.name ⟨none, "line-no"⟩) "line-no".toList :=
    .unqualified (by decide)
  refine .cons ⟨by decide, rfl, .cons ?_ (.cons ?_ .nil)⟩
    (.cons ⟨by decide, rfl, .cons ?_ (.cons ?_ .nil)⟩ .nil)
  · exact .named (by decide) (by decide) (by decide) (by decide) line
  · exact .named (by decide) (by decide) (by decide) (by decide) .any
  · exact .self (by decide) (by decide)
  · exact .named (by decide) (by decide) (by decide) (by decide) number

theorem linePaths_areLegal : ∀ path ∈ linePaths, path.IsLegal .field := by
  simp only [linePaths, List.forall_mem_cons]
  exact ⟨⟨by decide, by decide, by decide, by decide⟩, ⟨by decide, by decide, by decide, by decide⟩,
    fun _ member => nomatch member⟩

theorem read_undoes_rendering_lines :
    read .field invoiceScopes " .// i:line\n/child:: * |\t. /@\tline-no" =
      .ok ⟨" .// i:line\n/child:: * |\t. /@\tline-no", linePaths⟩ :=
  ((read_undoes_rendering .field invoiceScopes).1 lineForms linePaths lineForms_write
    (by decide) linePaths_areLegal).2 (by decide)

/-- The name of the step ends with an ogham space mark. -/
def markedForm : PathForm := ⟨[], false, [⟨[], [], [], ['a', Name.ogham], []⟩]⟩

def markedPath : LocationPath := ⟨false, [⟨.child, .name ⟨none, .ofList ['a', Name.ogham]⟩⟩]⟩

/-- The mark is lost, and children of another name are selected. -/
theorem read_loses_mark : markedForm.Writes .initial markedPath ∧ markedPath.IsLegal .selector ∧
    read .selector .initial (rendering [markedForm]) ≠
      .ok ⟨rendering [markedForm], [markedPath]⟩ ∧
    read .selector .initial (rendering [markedForm]) =
      .ok ⟨rendering [markedForm], [⟨false, [⟨.child, .name ⟨none, "a"⟩⟩]⟩]⟩ := by
  have written : NameTest.IsWritten .initial (.name ⟨none, .ofList ['a', Name.ogham]⟩)
      ['a', Name.ogham] := @NameTest.IsWritten.unqualified _ (.ofList ['a', Name.ogham]) (by decide)
  refine ⟨⟨by decide, rfl, .cons ?_ .nil⟩, ⟨by decide, by decide, by decide, by decide⟩,
    by decide +kernel, by decide +kernel⟩
  exact .named (by decide) (by decide) (by decide) (by decide) written

end IdentityPath

end SchemaAssessment
