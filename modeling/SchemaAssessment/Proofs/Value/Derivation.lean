/-
A datatype takes no text that its base does not take, and reads it as the same value. Texts
are restricted by the characters that they are made of, whole numbers by the bounds between
which they lie. One step to the base is looked at for each datatype; from there it goes up to
every datatype that another one is derived from.
-/

import SchemaAssessment.Proofs.Faults
import SchemaAssessment.Proofs.Path.Notation
import SchemaAssessment.Value.Lexical

namespace SchemaAssessment

/-! ### Characters of a text -/

namespace Text

/-- A character of a text separates its pieces or stands in one of them. -/
theorem forall_of_splitOnP {isSeparator : Char → Bool} {P : Char → Prop} {chars : List Char}
    (each : ∀ piece ∈ chars.splitOnP isSeparator, ∀ c ∈ piece, P c) :
    ∀ c ∈ chars, isSeparator c = true ∨ P c := by
  induction chars with
  | nil => nofun
  | cons first rest ofRest =>
    rw [List.splitOnP_cons_eq_if_modifyHead] at each
    cases separates : isSeparator first with
    | true =>
      rw [if_pos separates] at each
      exact List.forall_mem_cons.mpr
        ⟨.inl separates, ofRest (List.forall_mem_cons.mp each).2⟩
    | false =>
      rw [if_neg (Bool.eq_false_iff.mp separates)] at each
      cases cut : rest.splitOnP isSeparator with
      | nil => exact absurd cut (List.splitOnP_ne_nil isSeparator rest)
      | cons piece others =>
        rw [cut] at each ofRest
        obtain ⟨here, there⟩ := List.forall_mem_cons.mp each
        obtain ⟨ofFirst, later⟩ := List.forall_mem_cons.mp here
        exact List.forall_mem_cons.mpr
          ⟨.inr ofFirst, ofRest (List.forall_mem_cons.mpr ⟨later, there⟩)⟩

theorem mem_of_occursIn {pattern chars : List Char} (occurs : occursIn pattern chars = true) :
    ∀ c ∈ pattern, c ∈ chars := by
  induction chars with
  | nil =>
    rw [List.isEmpty_iff.mp occurs]
    nofun
  | cons first rest ofRest =>
    rw [occursIn, Bool.or_eq_true, Option.isSome_iff_exists] at occurs
    intro c member
    rcases occurs with ⟨later, here⟩ | inside
    · rw [dropPrefix?_eq_some_iff.mp here]
      exact List.mem_append_left later member
    · exact List.mem_cons_of_mem first (ofRest inside c member)

/-- The blanks of markup are the space, line breaks and tabs. -/
theorem isMarkupBlank_eq (c : Char) : isMarkupBlank c = (c == ' ' || Datatype.isBreak c) := by
  rw [isMarkupBlank, Datatype.isBreak]
  cases c == ' ' <;> cases c == '\t' <;> cases c == '\n' <;> cases c == '\r' <;> rfl

theorem isMarkupBlank_eq_false {c : Char} :
    isMarkupBlank c = false ↔ (c == ' ') = false ∧ Datatype.isBreak c = false := by
  rw [isMarkupBlank_eq, Bool.or_eq_false_iff]

end Text

/-! ### Names -/

namespace Name

theorem isRest_of_isStart {c : Char} (starts : isStart c = true) : isRest c = true := by
  rw [isRest, starts, Bool.true_or]

/-- A name goes on with no blank. -/
theorem isMarkupBlank_of_isRest {c : Char} (goesOn : isRest c = true) :
    Text.isMarkupBlank c = false :=
  Text.isMarkupBlank_of_apart (P := (isRest · = true)) (by decide) goesOn

section

variable {text : String}

theorem isName_iff : isName text = true ↔
    ∃ c rest, text.toList = c :: rest ∧ (c = ':' ∨ isStart c = true) ∧
      ∀ d ∈ rest, d = ':' ∨ isRest d = true := by
  unfold isName
  cases text.toList with
  | nil => simp
  | cons c rest => simp

theorem isNmtoken_iff : isNmtoken text = true ↔
    text.toList ≠ [] ∧ ∀ c ∈ text.toList, c = ':' ∨ isRest c = true := by
  simp [isNmtoken]

theorem isName_of_isNCName (given : isNCName text = true) : isName text = true := by
  obtain ⟨c, rest, chars, starts, goesOn⟩ := isNCName_iff.mp given
  exact isName_iff.mpr ⟨c, rest, chars, .inr starts, fun d member => .inr (goesOn d member)⟩

theorem isNmtoken_of_isName (given : isName text = true) : isNmtoken text = true := by
  obtain ⟨c, rest, chars, starts, goesOn⟩ := isName_iff.mp given
  rw [isNmtoken_iff, chars]
  exact ⟨List.cons_ne_nil c rest,
    List.forall_mem_cons.mpr ⟨starts.imp_right isRest_of_isStart, goesOn⟩⟩

/-- Two names around a colon are a name that holds this colon. -/
theorem isName_of_isQName (given : isQName text = true) : isName text = true := by
  unfold isQName splitQName at given
  cases cut : Text.splitOnce ':' text with
  | none =>
    rw [cut] at given
    exact isName_of_isNCName given
  | some parts =>
    rw [cut] at given
    obtain ⟨isPrefix, isLocal⟩ := Bool.and_eq_true_iff.mp given
    obtain ⟨⟨before, after⟩, found, rfl⟩ := Option.map_eq_some_iff.mp cut
    obtain ⟨colon, isColon, chars, -⟩ := Text.splitAtFirst_eq_some found
    obtain rfl := beq_iff_eq.mp isColon
    obtain ⟨first, rest, ofBefore, starts, goesOn⟩ := isNCName_iff.mp isPrefix
    obtain ⟨second, more, ofAfter, startsAgain, goesOnAgain⟩ := isNCName_iff.mp isLocal
    rw [String.toList_ofList] at ofBefore ofAfter
    obtain rfl : before = _ := ofBefore
    obtain rfl : after = _ := ofAfter
    refine isName_iff.mpr ⟨first, rest ++ ':' :: second :: more, chars, .inr starts, fun d => ?_⟩
    rw [List.mem_append, List.mem_cons, List.mem_cons]
    rintro (member | rfl | rfl | member)
    · exact .inr (goesOn d member)
    · exact .inl rfl
    · exact .inr (isRest_of_isStart startsAgain)
    · exact .inr (goesOnAgain d member)

end

end Name

namespace Datatype

/-! ### Texts -/

section

variable {text : String}

theorem isNormalizedString_eq_true :
    isNormalizedString text = true ↔ ∀ c ∈ text.toList, isBreak c = false := by
  rw [isNormalizedString, Bool.not_eq_true', List.any_eq_false]
  exact forall₂_congr fun c _ => iff_of_eq (Bool.not_eq_true (isBreak c))

/-- A text without blanks is a token. -/
theorem isToken_of_unblank (unblank : ∀ c ∈ text.toList, Text.isMarkupBlank c = false) :
    isToken text = true := by
  have noSpace : ' ' ∉ text.toList := fun member => absurd (unblank ' ' member) (by decide)
  have noBreak : isNormalizedString text = true :=
    isNormalizedString_eq_true.mpr fun c member =>
      (Text.isMarkupBlank_eq_false.mp (unblank c member)).2
  simp only [isToken, noBreak, Bool.true_and, Bool.and_eq_true, bne_iff_ne, Bool.not_eq_true',
    ne_eq]
  refine ⟨⟨fun first => noSpace (List.mem_of_head? first),
    fun last => noSpace (List.mem_of_getLast? last)⟩, ?_⟩
  by_contra doubled
  exact noSpace (Text.mem_of_occursIn (Bool.not_eq_false _ ▸ doubled) ' ' List.mem_cons_self)

theorem isMarkupBlank_of_isAlphanum {c : Char} (alphanum : c.isAlphanum = true) :
    Text.isMarkupBlank c = false :=
  Text.isMarkupBlank_of_apart (P := (Char.isAlphanum · = true)) (by decide) alphanum

theorem isToken_of_isLanguage (given : isLanguage text = true) : isToken text = true := by
  have inPieces : ∀ piece ∈ text.toList.splitOnP (· == '-'), ∀ c ∈ piece,
      Text.isMarkupBlank c = false := by
    unfold isLanguage at given
    split at given
    · rename_i first others shape
      rw [shape]
      obtain ⟨ofFirst, ofOthers⟩ := Bool.and_eq_true_iff.mp given
      simp only [isShortRun, Bool.and_eq_true, List.all_eq_true] at ofFirst ofOthers
      refine List.forall_mem_cons.mpr ⟨fun c member => ?_, fun piece inside c member => ?_⟩
      · exact isMarkupBlank_of_isAlphanum (Bool.or_eq_true_iff.mpr (.inl (ofFirst.2 c member)))
      · exact isMarkupBlank_of_isAlphanum ((ofOthers piece inside).2 c member)
    · cases given
  refine isToken_of_unblank fun c member => ?_
  rcases Text.forall_of_splitOnP inPieces c member with hyphen | unblank
  · obtain rfl := beq_iff_eq.mp hyphen
    rfl
  · exact unblank

theorem isToken_of_isNmtoken (given : Name.isNmtoken text = true) : isToken text = true := by
  refine isToken_of_unblank fun c member => ?_
  rcases (Name.isNmtoken_iff.mp given).2 c member with rfl | goesOn
  · rfl
  · exact Name.isMarkupBlank_of_isRest goesOn

theorem isNormalizedString_of_isToken (given : isToken text = true) :
    isNormalizedString text = true := by
  simp only [isToken, Bool.and_eq_true] at given
  exact given.1.1.1

end

/-! ### Whole numbers -/

/-- The bounds lie within the others. -/
def Narrows (inner outer : Option Int × Option Int) : Prop :=
  (∀ wide ∈ outer.1, ∃ least ∈ inner.1, wide ≤ least) ∧
    ∀ wide ∈ outer.2, ∃ greatest ∈ inner.2, greatest ≤ wide

instance (inner outer : Option Int × Option Int) : Decidable (Narrows inner outer) :=
  inferInstanceAs (Decidable (_ ∧ _))

theorem isWithinBounds_iff {type : Datatype} {value : Decimal} :
    type.isWithinBounds value = true ↔
      (∀ least ∈ type.integerBounds.1, least * tenTo value.scale ≤ value.mantissa) ∧
        ∀ greatest ∈ type.integerBounds.2, value.mantissa ≤ greatest * tenTo value.scale := by
  have compared : ∀ bound : Int, value.compare (.ofInt bound) =
      Ord.compare value.mantissa (bound * tenTo value.scale) := fun bound => by
    rw [Decimal.compare, Decimal.ofInt, show (tenTo 0 : Int) = 1 from rfl, Int.mul_one]
  simp only [isWithinBounds, Bool.and_eq_true, Option.all_eq_true, compared, bne_iff_ne, ne_eq,
    ← Ordering.isGE_iff_ne_lt, ← Ordering.isLE_iff_ne_gt, Std.isGE_compare, Std.isLE_compare,
    Option.mem_def]

/-- The bounds of a type lie within those of its base. -/
theorem narrows_of_base {type base : Datatype} (derives : type.base = some base) :
    Narrows type.integerBounds base.integerBounds := by
  cases type <;> first | (obtain rfl := Option.some.inj derives; decide) | cases derives

theorem isWithinBounds_of_narrows {type base : Datatype} {value : Decimal}
    (narrows : Narrows type.integerBounds base.integerBounds)
    (within : type.isWithinBounds value = true) : base.isWithinBounds value = true := by
  obtain ⟨above, below⟩ := isWithinBounds_iff.mp within
  have positive : (0 : Int) ≤ tenTo value.scale := Int.natCast_nonneg _
  refine isWithinBounds_iff.mpr ⟨fun wide given => ?_, fun wide given => ?_⟩
  · obtain ⟨least, ofType, lower⟩ := narrows.1 wide given
    exact Int.le_trans (Int.mul_le_mul_of_nonneg_right lower positive) (above least ofType)
  · obtain ⟨greatest, ofType, higher⟩ := narrows.2 wide given
    exact Int.le_trans (below greatest ofType) (Int.mul_le_mul_of_nonneg_right higher positive)

/-! ### Reading -/

section

variable {type base : Datatype} {scopes : NamespaceScopes} {text : String} {value : Value}

theorem accept_eq_ok {read : Option Value} :
    type.accept text read = .ok value ↔ read = some value := by
  cases read <;> simp [accept]

theorem acceptIf_eq_ok {form : Bool} {make : String → Value} :
    type.acceptIf text form make = .ok value ↔ form = true ∧ make text = value := by
  cases form <;> simp [acceptIf, accept]

/-- Which number a text is does not hang on the type that asks for it. -/
theorem decimal?_eq_ok {typeName : String} {number : Decimal} :
    decimal? typeName text = .ok number ↔ ∃ numeral,
      Decimal.numeral? text.toList = some numeral ∧ Decimal.ofNumeral? numeral = some number := by
  unfold decimal?
  cases Decimal.numeral? text.toList with
  | none => simp
  | some numeral => cases made : Decimal.ofNumeral? numeral <;> simp [made]

/-- A whole number is an optional sign with digits, and lies between the bounds of its type. -/
theorem parse_eq_ok_of_whole (whole : type.isDerivedFrom .integer = true) :
    type.parse scopes text = .ok value ↔ isIntegerForm text = true ∧ ∃ number,
      decimal? type.localName text = .ok number ∧ type.isWithinBounds number = true ∧
        .decimal number = value := by
  have reading : type.parse scopes text =
      if !isIntegerForm text then .error (.lexical text type.localName)
      else decimal? type.localName text >>= fun number =>
        if type.isWithinBounds number then .ok (.decimal number)
        else .error (.outOfRange text type.localName) := by
    cases type <;> first | rfl | exact absurd whole (by decide)
  rw [reading]
  cases isIntegerForm text with
  | false => simp
  | true =>
    rw [Bool.not_true, if_neg Bool.false_ne_true, bind_eq_ok]
    refine ⟨?_, ?_⟩
    · rintro ⟨number, read, made⟩
      split at made
      · rename_i within
        exact ⟨rfl, number, read, within, Except.ok.inj made⟩
      · cases made
    · rintro ⟨-, number, read, within, rfl⟩
      exact ⟨number, read, if_pos within⟩

/-- The base of a type of whole numbers reads the numbers that the type reads. -/
theorem parse_of_base_whole (whole : base.isDerivedFrom .integer = true)
    (derives : type.base = some base) (accepted : type.parse scopes text = .ok value) :
    base.parse scopes text = .ok value := by
  have alsoWhole : type.isDerivedFrom .integer = true := by
    revert whole
    cases type <;> first | (obtain rfl := Option.some.inj derives; decide) | cases derives
  obtain ⟨form, number, read, within, made⟩ := (parse_eq_ok_of_whole alsoWhole).mp accepted
  exact (parse_eq_ok_of_whole whole).mpr ⟨form, number, decimal?_eq_ok.mpr (decimal?_eq_ok.mp read),
    isWithinBounds_of_narrows (narrows_of_base derives) within, made⟩

/-- A text of a type is one of its base, as the same value. -/
theorem parse_of_base (derives : type.base = some base) (some_ : base ≠ .anySimpleType)
    (accepted : type.parse scopes text = .ok value) : base.parse scopes text = .ok value := by
  cases type with
  | anySimpleType => cases derives
  | normalizedString =>
    obtain rfl := Option.some.inj derives
    obtain ⟨-, made⟩ := acceptIf_eq_ok.mp accepted
    exact congrArg Except.ok made
  | token =>
    obtain rfl := Option.some.inj derives
    obtain ⟨form, made⟩ := acceptIf_eq_ok.mp accepted
    exact acceptIf_eq_ok.mpr ⟨isNormalizedString_of_isToken form, made⟩
  | language =>
    obtain rfl := Option.some.inj derives
    obtain ⟨form, made⟩ := acceptIf_eq_ok.mp accepted
    exact acceptIf_eq_ok.mpr ⟨isToken_of_isLanguage form, made⟩
  | name =>
    obtain rfl := Option.some.inj derives
    obtain ⟨form, made⟩ := acceptIf_eq_ok.mp accepted
    exact acceptIf_eq_ok.mpr ⟨isToken_of_isNmtoken (Name.isNmtoken_of_isName form), made⟩
  | nmToken =>
    obtain rfl := Option.some.inj derives
    obtain ⟨form, made⟩ := acceptIf_eq_ok.mp accepted
    exact acceptIf_eq_ok.mpr ⟨isToken_of_isNmtoken form, made⟩
  | ncName =>
    obtain rfl := Option.some.inj derives
    obtain ⟨form, made⟩ := acceptIf_eq_ok.mp accepted
    exact acceptIf_eq_ok.mpr ⟨Name.isName_of_isNCName form, made⟩
  | id | idRef | entity =>
    obtain rfl := Option.some.inj derives
    exact acceptIf_eq_ok.mpr (acceptIf_eq_ok.mp accepted)
  | integer =>
    obtain rfl := Option.some.inj derives
    obtain ⟨-, number, read, -, made⟩ := (parse_eq_ok_of_whole (by decide)).mp accepted
    exact map_eq_ok.mpr ⟨number, decimal?_eq_ok.mpr (decimal?_eq_ok.mp read), made⟩
  | nonPositiveInteger | negativeInteger | long | int | short | byte | nonNegativeInteger
  | unsignedLong | unsignedInt | unsignedShort | unsignedByte | positiveInteger =>
    refine parse_of_base_whole ?_ derives accepted
    obtain rfl := Option.some.inj derives
    decide
  | _ => exact absurd (Option.some.inj derives).symm some_

/-- Nothing but itself is reached from `anySimpleType`. -/
theorem eq_of_isReached_anySimpleType {steps : Nat}
    (reached : isReached base steps .anySimpleType = true) : base = .anySimpleType := by
  cases steps with
  | zero => exact (beq_iff_eq.mp reached).symm
  | succ steps =>
    rw [isReached, Bool.or_eq_true, beq_iff_eq] at reached
    exact (reached.resolve_right Bool.false_ne_true).symm

/-- A text of a type is one of every type that is reached from it, as the same value. -/
theorem parse_of_isReached {steps : Nat} (reached : isReached base steps type = true)
    (some_ : base ≠ .anySimpleType) (accepted : type.parse scopes text = .ok value) :
    base.parse scopes text = .ok value := by
  induction steps generalizing type with
  | zero =>
    obtain rfl := beq_iff_eq.mp reached
    exact accepted
  | succ steps inductionHypothesis =>
    rw [isReached, Bool.or_eq_true, beq_iff_eq] at reached
    rcases reached with rfl | further
    · exact accepted
    · cases derives : type.base with
      | none =>
        rw [derives] at further
        cases further
      | some next =>
        rw [derives] at further
        refine inductionHypothesis further (parse_of_base derives ?_ accepted)
        rintro rfl
        exact some_ (eq_of_isReached_anySimpleType further)

end

/-- Whatever a datatype reads, every datatype but `anySimpleType` that it is derived from reads as
the same value. Every NCName is a Name and an Nmtoken, and every QName is a Name. -/
theorem accepts_as_derived (scopes : NamespaceScopes) (text : String) :
    (∀ (type base : Datatype) (value : Value), type.isDerivedFrom base = true →
      base ≠ .anySimpleType → type.parse scopes text = .ok value →
        base.parse scopes text = .ok value) ∧
      (Name.isNCName text = true → Name.isName text = true ∧ Name.isNmtoken text = true) ∧
      (Name.isQName text = true → Name.isName text = true) :=
  ⟨fun _ _ _ derived some_ accepted => parse_of_isReached derived some_ accepted,
    fun given => ⟨Name.isName_of_isNCName given,
      Name.isNmtoken_of_isName (Name.isName_of_isNCName given)⟩,
    Name.isName_of_isQName⟩

theorem accepts_as_derived_unsignedByte :
    let seven : Value := .decimal ⟨7, 0⟩
    Datatype.unsignedByte.parse .initial "+7" = .ok seven ∧
      Datatype.decimal.parse .initial "+7" = .ok seven ∧ Name.isNmtoken "seven" = true ∧
        Name.isName "the:seven" = true := by
  intro seven
  have accepted : Datatype.unsignedByte.parse .initial "+7" = .ok seven := by rfl
  exact ⟨accepted,
    (accepts_as_derived .initial "+7").1 .unsignedByte .decimal seven (by decide) (by decide)
      accepted,
    ((accepts_as_derived .initial "seven").2.1 (by decide +kernel)).2,
    (accepts_as_derived .initial "the:seven").2.2 (by decide +kernel)⟩

end Datatype

end SchemaAssessment
