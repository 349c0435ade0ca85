/-
The notation of paths. A name test is a star, a prefix with a star, or a name, and it is
read as what its prefix is bound to. A step is a dot, or the mark of its axis and a name
test; steps stand between slashes and alternatives between bars, and blanks may stand
around each of them, behind the marks and behind the mark of a deep path.
-/

import SchemaAssessment.Path.Reader
import SchemaAssessment.Proofs.Faults
import SchemaAssessment.Proofs.Text.Pieces

namespace SchemaAssessment

/-! ### The characters of names -/

namespace Name

variable {text : String} {c : Char}

theorem isNCName_iff {text : String} : isNCName text = true ↔
    ∃ c rest, text.toList = c :: rest ∧ isStart c = true ∧ ∀ d ∈ rest, isRest d = true := by
  unfold isNCName
  cases text.toList with
  | nil => exact iff_of_false nofun fun ⟨_, _, same, _⟩ => nomatch same
  | cons c rest =>
    rw [Bool.and_eq_true, List.all_eq_true]
    constructor
    · exact fun ⟨starts, goesOn⟩ => ⟨c, rest, rfl, starts, goesOn⟩
    · rintro ⟨_, _, same, starts, goesOn⟩
      obtain ⟨rfl, rfl⟩ := List.cons.inj same
      exact ⟨starts, goesOn⟩

theorem isRest_of_mem (isName : isNCName text = true) (member : c ∈ text.toList) :
    isRest c = true := by
  obtain ⟨first, rest, same, starts, goesOn⟩ := isNCName_iff.mp isName
  rw [same] at member
  rcases List.mem_cons.mp member with rfl | later
  · rw [isRest, starts, Bool.true_or]
  · exact goesOn c later

theorem toList_ne_nil (isName : isNCName text = true) : text.toList ≠ [] := by
  obtain ⟨first, rest, same, -⟩ := isNCName_iff.mp isName
  exact same ▸ List.cons_ne_nil first rest

theorem not_mem_of_isNCName (isName : isNCName text = true) (isNone : isRest c = false) :
    c ∉ text.toList := fun member =>
  Bool.false_ne_true (isNone.symm.trans (isRest_of_mem isName member))

/-- The one blank that names may hold. -/
def ogham : Char := '\u1680'

/-- The ogham space mark lies in a range of letters, and it is a blank. No other blank is a
character of names. -/
theorem eq_ogham (isBlank : Text.isBlank c = true) (goesOn : isRest c = true) : c = ogham := by
  have code : c.toNat = ogham.toNat := by
    simp only [isRest, isStart, inRanges, startRanges, restRanges, List.any_cons, List.any_nil,
      Bool.or_false, Bool.or_eq_true, Bool.and_eq_true, decide_eq_true_eq] at goesOn
    simp only [Text.isBlank, Bool.or_eq_true, Bool.and_eq_true, decide_eq_true_eq,
      beq_iff_eq] at isBlank
    change c.toNat = 0x1680
    omega
  exact Char.toNat_inj.mp code

/-- A prefixed name is cut at its colon. -/
theorem splitQName_append {prefixName : String} {chars : List Char}
    (apart : ':' ∉ prefixName.toList) :
    splitQName (.ofList (prefixName.toList ++ ':' :: chars)) =
      (some prefixName, .ofList chars) := by
  have cut : ∀ before : List Char, ':' ∉ before →
      Text.splitAtFirst (· == ':') (before ++ ':' :: chars) = some (before, chars) := by
    intro before apart
    induction before with
    | nil => rfl
    | cons c before ofBefore =>
      obtain ⟨differs, apart⟩ := List.ne_and_not_mem_of_not_mem_cons apart
      rw [List.cons_append, Text.splitAtFirst, if_neg fun same => differs (eq_of_beq same).symm,
        ofBefore apart]
      rfl
  rw [splitQName, Text.splitOnce, String.toList_ofList, cut _ apart]
  exact congrArg (fun name => (some name, String.ofList chars)) String.ofList_toList

theorem splitQName_of_not_mem (apart : ':' ∉ text.toList) : splitQName text = (none, text) := by
  unfold splitQName Text.splitOnce
  cases found : Text.splitAtFirst (· == ':') text.toList with
  | none => rfl
  | some parts =>
    obtain ⟨c, colon, same, -⟩ := Text.splitAtFirst_eq_some found
    exact absurd (by rw [same, eq_of_beq colon]; simp) apart

/-- Where a name has a prefix, it consists of the prefix, a colon and its local part. -/
theorem toList_of_splitQName {prefixName localName : String}
    (cut : splitQName text = (some prefixName, localName)) :
    text.toList = prefixName.toList ++ ':' :: localName.toList := by
  unfold splitQName Text.splitOnce at cut
  cases found : Text.splitAtFirst (· == ':') text.toList with
  | none =>
    rw [found] at cut
    cases cut
  | some parts =>
    obtain ⟨c, colon, same, -⟩ := Text.splitAtFirst_eq_some found
    rw [found] at cut
    cases cut
    rw [same, eq_of_beq colon, String.toList_ofList, String.toList_ofList]

theorem eq_of_splitQName_none {localName : String}
    (cut : splitQName text = (none, localName)) : localName = text := by
  unfold splitQName at cut
  split at cut
  · cases cut
  · exact (Prod.mk.inj cut).2.symm

end Name

/-! ### Name tests -/

/-- The characters of a name test, where the scopes say what a prefix means. -/
inductive NameTest.IsWritten (scopes : NamespaceScopes) : NameTest → List Char → Prop
  | any : IsWritten scopes .any ['*']
  | space {prefixName uri : String} (isPrefix : Name.isNCName prefixName = true)
      (bound : scopes.lookup prefixName = some uri) :
      IsWritten scopes (.space uri) (prefixName.toList ++ [':', '*'])
  | qualified {prefixName localName uri : String} (isPrefix : Name.isNCName prefixName = true)
      (isLocal : Name.isNCName localName = true) (bound : scopes.lookup prefixName = some uri) :
      IsWritten scopes (.name ⟨some uri, localName⟩) (prefixName.toList ++ ':' :: localName.toList)
  | unqualified {localName : String} (isLocal : Name.isNCName localName = true) :
      IsWritten scopes (.name ⟨none, localName⟩) localName.toList

namespace NameTest

variable {scopes : NamespaceScopes} {test : NameTest} {chars : List Char}

theorem boundSpace_eq_ok {prefixName text uri : String} :
    boundSpace scopes prefixName text = .ok uri ↔ scopes.lookup prefixName = some uri := by
  unfold boundSpace
  cases scopes.lookup prefixName with
  | none => exact iff_of_false nofun nofun
  | some bound => rw [Except.ok.injEq, Option.some.injEq]

/-- A text that ends in a colon and a star is a prefix with a star, or nothing. -/
theorem read_starred {prefixName : List Char} :
    read scopes (.ofList (prefixName ++ [':', '*'])) = .ok test ↔
      Name.isNCName (.ofList prefixName) = true ∧
        ∃ uri, scopes.lookup (.ofList prefixName) = some uri ∧ .space uri = test := by
  have noStar : (String.ofList (prefixName ++ [':', '*']) == "*") = false := by
    refine beq_eq_false_iff_ne.mpr fun same => ?_
    have lengths := congrArg (fun text => text.toList.length) same
    simp at lengths
  rw [read, noStar, if_neg Bool.false_ne_true, String.toList_ofList,
    Text.dropSuffix?_eq_some_iff.mpr rfl]
  cases isName : Name.isNCName (.ofList prefixName) with
  | false => simp [isName]
  | true => simp [isName, map_eq_ok, boundSpace_eq_ok]

/-- A text that does not end so, and is no star, is a name. -/
theorem read_unstarred (noStar : chars ≠ ['*']) (ends : ∀ front, chars ≠ front ++ [':', '*']) :
    read scopes (.ofList chars) = .ok test ↔ Name.isQName (.ofList chars) = true ∧
      match Name.splitQName (.ofList chars) with
      | (some prefixName, localName) =>
        ∃ uri, scopes.lookup prefixName = some uri ∧ .name ⟨some uri, localName⟩ = test
      | (none, localName) => .name ⟨none, localName⟩ = test := by
  have differs : (String.ofList chars == "*") = false :=
    beq_eq_false_iff_ne.mpr fun same => noStar (String.ofList_injective same)
  have noSuffix : Text.dropSuffix? [':', '*'] chars = none :=
    Option.eq_none_iff_forall_ne_some.mpr fun front found =>
      ends front (Text.dropSuffix?_eq_some_iff.mp found)
  rw [read, differs, if_neg Bool.false_ne_true, String.toList_ofList, noSuffix]
  cases isName : Name.isQName (.ofList chars) with
  | false => simp
  | true =>
    obtain ⟨prefixName?, localName⟩ := Name.splitQName (.ofList chars)
    cases prefixName? with
    | none => simp
    | some prefixName => simp [map_eq_ok, boundSpace_eq_ok]

/-- Names hold no star. -/
theorem IsWritten.star_not_mem {name : ExpandedName}
    (written : IsWritten scopes (.name name) chars) : '*' ∉ chars := by
  have noStar : Name.isRest '*' = false := by decide
  intro member
  cases written with
  | qualified isPrefix isLocal bound =>
    rcases List.mem_append.mp member with inPrefix | later
    · exact Name.not_mem_of_isNCName isPrefix noStar inPrefix
    · rcases List.mem_cons.mp later with same | inLocal
      · cases same
      · exact Name.not_mem_of_isNCName isLocal noStar inLocal
  | unqualified isLocal => exact Name.not_mem_of_isNCName isLocal noStar member

theorem read_of_isWritten (written : IsWritten scopes test chars) :
    read scopes (.ofList chars) = .ok test := by
  have noColon : Name.isRest ':' = false := by decide
  cases test with
  | any =>
    cases written
    rfl
  | space uri =>
    cases written with
    | space isPrefix bound =>
      refine read_starred.mpr ?_
      rw [String.ofList_toList]
      exact ⟨isPrefix, uri, bound, rfl⟩
  | name name =>
    have noStar := written.star_not_mem
    refine (read_unstarred (fun same => noStar (by simp [same]))
      fun front same => noStar (by simp [same])).mpr ?_
    cases written with
    | @qualified prefixName localName uri isPrefix isLocal bound =>
      rw [Name.isQName, Name.splitQName_append (Name.not_mem_of_isNCName isPrefix noColon),
        String.ofList_toList]
      exact ⟨Bool.and_eq_true_iff.mpr ⟨isPrefix, isLocal⟩, uri, bound, rfl⟩
    | @unqualified localName isLocal =>
      rw [String.ofList_toList, Name.isQName,
        Name.splitQName_of_not_mem (Name.not_mem_of_isNCName isLocal noColon)]
      exact ⟨isLocal, rfl⟩

/-- A name test is read from just the texts that it is written as. -/
theorem read_eq_ok_iff : read scopes (.ofList chars) = .ok test ↔ IsWritten scopes test chars := by
  refine ⟨fun done => ?_, read_of_isWritten⟩
  by_cases star : chars = ['*']
  · subst star
    cases done
    exact .any
  by_cases ends : ∃ front, chars = front ++ [':', '*']
  · obtain ⟨front, rfl⟩ := ends
    obtain ⟨isPrefix, uri, bound, rfl⟩ := read_starred.mp done
    have written := IsWritten.space isPrefix bound
    rwa [String.toList_ofList] at written
  · obtain ⟨isName, meant⟩ :=
      (read_unstarred star fun front same => ends ⟨front, same⟩).mp done
    rw [Name.isQName] at isName
    cases cut : Name.splitQName (.ofList chars) with
    | mk prefixName? localName =>
      rw [cut] at isName meant
      cases prefixName? with
      | some prefixName =>
        obtain ⟨uri, bound, rfl⟩ := meant
        obtain ⟨isPrefix, isLocal⟩ := Bool.and_eq_true_iff.mp isName
        have written := IsWritten.qualified isPrefix isLocal bound
        rwa [← Name.toList_of_splitQName cut, String.toList_ofList] at written
      | none =>
        subst meant
        obtain rfl := Name.eq_of_splitQName_none cut
        have written : IsWritten scopes (.name ⟨none, .ofList chars⟩)
            (String.ofList chars).toList := .unqualified isName
        rwa [String.toList_ofList] at written

theorem IsWritten.ne_nil (written : IsWritten scopes test chars) : chars ≠ [] := by
  cases written with
  | any => exact List.cons_ne_nil _ _
  | space => exact List.append_ne_nil_of_right_ne_nil _ (List.cons_ne_nil _ _)
  | qualified => exact List.append_ne_nil_of_right_ne_nil _ (List.cons_ne_nil _ _)
  | unqualified isLocal => exact Name.toList_ne_nil isLocal

/-- Besides stars and colons, name tests hold characters of names only. -/
theorem IsWritten.characters (written : IsWritten scopes test chars) :
    ∀ c ∈ chars, c = '*' ∨ c = ':' ∨ Name.isRest c = true := by
  intro c member
  cases written with
  | any => exact .inl (List.mem_singleton.mp member)
  | space isPrefix =>
    rcases List.mem_append.mp member with inPrefix | later
    · exact .inr (.inr (Name.isRest_of_mem isPrefix inPrefix))
    · rcases List.mem_cons.mp later with same | last
      · exact .inr (.inl same)
      · exact .inl (List.mem_singleton.mp last)
  | qualified isPrefix isLocal =>
    rcases List.mem_append.mp member with inPrefix | later
    · exact .inr (.inr (Name.isRest_of_mem isPrefix inPrefix))
    · rcases List.mem_cons.mp later with same | inLocal
      · exact .inr (.inl same)
      · exact .inr (.inr (Name.isRest_of_mem isLocal inLocal))
  | unqualified isLocal => exact .inr (.inr (Name.isRest_of_mem isLocal member))

/-- What is neither a star, nor a colon, nor a character of names, stands in no name test. -/
theorem IsWritten.not_mem {c : Char} (written : IsWritten scopes test chars) (noStar : c ≠ '*')
    (noColon : c ≠ ':') (noName : Name.isRest c = false) : c ∉ chars := by
  intro member
  rcases written.characters c member with star | colon | goesOn
  · exact noStar star
  · exact noColon colon
  · exact Bool.false_ne_true (noName.symm.trans goesOn)

/-- A colon stands behind a prefix only. -/
theorem IsWritten.count_colon (written : IsWritten scopes test chars) : chars.count ':' ≤ 1 := by
  have none : ∀ {name : String}, Name.isNCName name = true → name.toList.count ':' = 0 :=
    fun isName => List.count_eq_zero.mpr (Name.not_mem_of_isNCName isName (by decide))
  cases written with
  | any => decide
  | space isPrefix =>
    rw [List.count_append, none isPrefix]
    decide
  | qualified isPrefix isLocal =>
    rw [List.count_append, none isPrefix, List.count_cons_self, none isLocal]
  | unqualified isLocal =>
    rw [none isLocal]
    decide

/-- The ogham space mark is the only blank in name tests. -/
theorem IsWritten.eq_ogham {c : Char} (written : IsWritten scopes test chars) (member : c ∈ chars)
    (isBlank : Text.isBlank c = true) : c = Name.ogham := by
  rcases written.characters c member with rfl | rfl | goesOn
  · cases isBlank
  · cases isBlank
  · exact Name.eq_ogham isBlank goesOn

/-- A name test that neither begins nor ends with an ogham space mark is left as it is by
trimming. -/
theorem IsWritten.trimmed_eq (written : IsWritten scopes test chars)
    (begins : chars.head? ≠ some Name.ogham) (ends : chars.getLast? ≠ some Name.ogham) :
    Text.trimmed chars = chars := by
  refine Text.trimmed_eq_self (fun c first => ?_) fun c last => ?_
  · refine Bool.eq_false_iff.mpr fun isBlank => begins ?_
    rw [← written.eq_ogham (List.mem_of_mem_head? first) isBlank]
    exact first
  · refine Bool.eq_false_iff.mpr fun isBlank => ends ?_
    rw [← written.eq_ogham (List.mem_of_mem_getLast? last) isBlank]
    exact last

end NameTest

/-! ### Steps -/

/-- How the axes may be marked: the axis of children needs no mark. -/
def Step.spellings : List (List Char × StepAxis) :=
  ([], .child) :: Step.marks.map fun (mark, axis) => (mark.toList, axis)

/-- The parts that a step is written of: a mark and a name test, or no mark and a dot, with blanks
around them and between them. -/
structure StepForm where
  before : List Char
  mark : List Char
  gap : List Char
  test : List Char
  after : List Char
  deriving DecidableEq

namespace StepForm

/-- The characters of a step. -/
def chars (form : StepForm) : List Char :=
  form.before ++ (form.mark ++ form.gap ++ form.test) ++ form.after

/-- The step that the parts stand for. -/
inductive Writes (scopes : NamespaceScopes) : StepForm → Step → Prop
  | self {before after : List Char} (blankBefore : Text.AreBlank before)
      (blankAfter : Text.AreBlank after) :
      Writes scopes ⟨before, [], [], ['.'], after⟩ ⟨.self, .any⟩
  | named {before mark gap chars after : List Char} {axis : StepAxis} {test : NameTest}
      (blankBefore : Text.AreBlank before) (blankGap : Text.AreBlank gap)
      (blankAfter : Text.AreBlank after) (spelled : (mark, axis) ∈ Step.spellings)
      (written : test.IsWritten scopes chars) :
      Writes scopes ⟨before, mark, gap, chars, after⟩ ⟨axis, test⟩

/-- Trimming does not change what the name test of the step is read as. -/
def Survives (scopes : NamespaceScopes) (form : StepForm) : Prop :=
  NameTest.read scopes (.ofList (Text.trimmed form.test)) = NameTest.read scopes (.ofList form.test)

end StepForm

/-! ### Paths -/

/-- The parts that an alternative is written of. -/
structure PathForm where
  before : List Char
  isDeep : Bool
  steps : List StepForm
  deriving DecidableEq

namespace PathForm

/-- What marks a deep path. -/
def leading : Bool → List Char
  | true => ['.', '/', '/']
  | false => []

/-- The steps between slashes. -/
def body (form : PathForm) : List Char := ['/'].intercalate (form.steps.map StepForm.chars)

/-- The characters of an alternative. -/
def chars (form : PathForm) : List Char := form.before ++ leading form.isDeep ++ form.body

/-- The alternative that the parts stand for. -/
structure Writes (scopes : NamespaceScopes) (form : PathForm) (path : LocationPath) : Prop where
  blankBefore : Text.AreBlank form.before
  isDeep : form.isDeep = path.isDeep
  steps : List.Forall₂ (StepForm.Writes scopes) form.steps path.steps

/-- Trimming does not change what the name tests are read as. -/
def Survives (scopes : NamespaceScopes) (form : PathForm) : Prop :=
  ∀ step ∈ form.steps, step.Survives scopes

end PathForm

/-- A path as its role allows it. It has a step; only its last one may lead to attributes, and
that of a selector does not; and a step that stays takes every name. -/
structure LocationPath.IsLegal (role : IdentityPath.Role) (path : LocationPath) : Prop where
  hasStep : path.steps ≠ []
  staysAnywhere : ∀ step ∈ path.steps, step.axis = .self → step.test = .any
  endsAtAttribute : ∀ step ∈ path.steps.dropLast, step.axis ≠ .attribute
  selectsElements : role = .selector → ∀ step ∈ path.steps, step.axis ≠ .attribute

namespace IdentityPath

/-- The text of an expression: its alternatives between bars. -/
def rendering (forms : List PathForm) : String :=
  .ofList (['|'].intercalate (forms.map PathForm.chars))

end IdentityPath

end SchemaAssessment
