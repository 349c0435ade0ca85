/-
What a bound does with the value that it is. Two values may be the same and yet not compare:
durations and recurring dates are told apart by their written forms, and have no order. So a
bound refuses the very value that it is, except for an inclusive bound of numbers or moments.
-/

import SchemaAssessment.Proofs.Value.Words

namespace SchemaAssessment

/-! ### Sameness and order -/

/-- Binary numbers that are the same compare as equal, except for what is not a number. -/
theorem Binary.compare_of_same {left right : Binary} (same : left.same right = true) :
    left.compare right = if left != .nan then some .eq else none := by
  cases left with
  | nan => rfl
  | infinite _ | finite _ _ _ =>
    cases right with
    | nan => cases same
    | infinite _ | finite _ _ _ => exact beq_iff_eq.mp same

namespace Value

/-- The value compares with itself. -/
def isOrdered : Value → Bool
  | .decimal _ | .moment _ | .string _ => true
  | .float value | .double value => value != .nan
  | _ => false

/-- Values that are the same compare as equal, or not at all. -/
theorem compare_of_same {left right : Value} (same : left.same right = true) :
    left.compare right = if left.isOrdered then some .eq else none := by
  cases left with
  | decimal number =>
    cases right with
    | decimal other => exact congrArg some (beq_iff_eq.mp same)
    | _ => cases same
  | float number =>
    cases right with
    | float other => exact Binary.compare_of_same same
    | _ => cases same
  | double number =>
    cases right with
    | double other => exact Binary.compare_of_same same
    | _ => cases same
  | moment moment =>
    cases right with
    | moment other => exact beq_iff_eq.mp same
    | _ => cases same
  | string text =>
    cases right with
    | string other =>
      obtain rfl := beq_iff_eq.mp same
      exact congrArg some Std.ReflCmp.compare_self
    | _ => cases same
  | boolean _ | duration _ | recurring _ _ | hexBinary _ | base64Binary _ | uri _ | name _
  | list _ => cases right <;> rfl

end Value

/-! ### One bound -/

/-- A bound that is met by the value that it is. -/
def BoundKind.isInclusive : BoundKind → Bool
  | .minInclusive | .maxInclusive => true
  | .minExclusive | .maxExclusive => false

namespace Facets

/-- A bound and no other facet. -/
def ofBound (kind : BoundKind) (bound : String) : Facets :=
  match kind with
  | .minInclusive => { minInclusive := some bound }
  | .maxInclusive => { maxInclusive := some bound }
  | .minExclusive => { minExclusive := some bound }
  | .maxExclusive => { maxExclusive := some bound }

theorem keeps_eq (kind : BoundKind) : keeps kind .eq = kind.isInclusive := by
  cases kind <;> rfl

variable {kind : BoundKind} {bound text : String} {value limit : Value}
  {parse : String → Except ValueFault Value}

theorem check_ofBound :
    (ofBound kind bound).check text value parse = checkBound text value parse (kind, bound) := by
  have lengths : ∀ length : Nat, blame text ((ofBound kind bound).checkLength length) = .ok () :=
    fun length => by cases kind <;> rfl
  have digits : ∀ number : Decimal, blame text ((ofBound kind bound).checkDigits number) = .ok () :=
    fun number => by cases kind <;> rfl
  have bounds : (ofBound kind bound).bounds = [(kind, bound)] := by cases kind <;> rfl
  have noPattern : (ofBound kind bound).patterns = [] := by cases kind <;> rfl
  have noMember : (ofBound kind bound).enumeration = [] := by cases kind <;> rfl
  have once : [(kind, bound)].forM (checkBound text value parse) =
      checkBound text value parse (kind, bound) := by
    show (checkBound text value parse (kind, bound) >>= fun _ => pure ()) = _
    cases checkBound text value parse (kind, bound) <;> rfl
  unfold check
  rw [bounds, noPattern, noMember]
  simp only [lengths, digits, once]
  -- Whatever kind the value has, nothing but the bound is left to be checked.
  generalize checkBound text value parse (kind, bound) = done
  cases done <;> cases value <;> rfl

/-- A bound keeps a value that it is the same as just if it is inclusive and such values compare. -/
theorem check_ofBound_of_same (read : parse bound = .ok limit)
    (same : value.same limit = true) :
    (ofBound kind bound).check text value parse =
      if kind.isInclusive && value.isOrdered then .ok ()
      else .error (.facet text (.bound kind bound)) := by
  have kept : (value.compare limit).any (keeps kind) = (kind.isInclusive && value.isOrdered) := by
    rw [Value.compare_of_same same]
    cases value.isOrdered with
    | false => exact (Bool.and_false _).symm
    | true => exact (keeps_eq kind).trans (Bool.and_true _).symm
  rw [check_ofBound, checkBound, read, ← kept]
  rfl

end Facets

/-! ### Bounded types -/

namespace Datatype

/-- The values of the datatype are numbers or moments. -/
def isMeasured (type : Datatype) : Bool :=
  type.isDerivedFrom .decimal || type == .dateTime || type == .date || type == .time

/-- The values of the datatype are kept as they are written: durations and recurring dates. -/
def isLiteral : Datatype → Bool
  | .duration | .gYearMonth | .gYear | .gMonthDay | .gDay | .gMonth => true
  | _ => false

variable {type : Datatype} {scopes : NamespaceScopes} {text : String} {value : Value}

/-- A number is read from a numeral. -/
theorem numeral_of_parse (numeric : type.isDerivedFrom .decimal = true)
    (accepted : type.parse scopes text = .ok value) : ∃ numeral number,
      Decimal.numeral? text.toList = some numeral ∧ value = .decimal number := by
  by_cases whole : type.isDerivedFrom .integer = true
  · obtain ⟨-, number, read, -, rfl⟩ := (parse_eq_ok_of_whole whole).mp accepted
    obtain ⟨numeral, found, -⟩ := decimal?_eq_ok.mp read
    exact ⟨numeral, number, found, rfl⟩
  · have only : type = .decimal := by
      revert whole numeric
      cases type <;> decide
    obtain rfl := only
    obtain ⟨number, read, rfl⟩ := map_eq_ok.mp accepted
    obtain ⟨numeral, found, -⟩ := decimal?_eq_ok.mp read
    exact ⟨numeral, number, found, rfl⟩

theorem measured_cases (measured : type.isMeasured = true) :
    type.isDerivedFrom .decimal = true ∨ ∃ kind, type = ofMomentKind kind := by
  simp only [isMeasured, Bool.or_eq_true, beq_iff_eq] at measured
  rcases measured with ((numeric | rfl) | rfl) | rfl
  · exact .inl numeric
  · exact .inr ⟨.dateTime, rfl⟩
  · exact .inr ⟨.date, rfl⟩
  · exact .inr ⟨.time, rfl⟩

/-- Numbers and moments are ordered, and their texts are words. -/
theorem ordered_of_measured (measured : type.isMeasured = true)
    (accepted : type.parse scopes text = .ok value) :
    value.isOrdered = true ∧ Text.Unblank text.toList := by
  rcases measured_cases measured with numeric | ⟨kind, rfl⟩
  · obtain ⟨numeral, number, found, rfl⟩ := numeral_of_parse numeric accepted
    exact ⟨rfl, Decimal.unblank_of_numeral? found⟩
  · obtain ⟨moment, form, rfl, found, -⟩ := parse_ofMomentKind_eq_ok.mp accepted
    obtain ⟨-, written, chars⟩ := Time.momentForm?_eq_some_iff.mp found
    exact ⟨rfl, chars ▸ written.unblank⟩

/-- Durations and recurring dates have no order, and their texts are words. -/
theorem unordered_of_literal (literal : type.isLiteral = true)
    (accepted : type.parse scopes text = .ok value) :
    value.isOrdered = false ∧ Text.Unblank text.toList := by
  cases type with
  | duration =>
    obtain ⟨form, rfl⟩ := acceptIf_eq_ok.mp accepted
    exact ⟨rfl, Time.unblank_of_isDuration form⟩
  | gYearMonth =>
    obtain ⟨form, rfl⟩ := acceptIf_eq_ok.mp accepted
    exact ⟨rfl, Time.unblank_of_isYearMonth form⟩
  | gYear =>
    obtain ⟨form, rfl⟩ := acceptIf_eq_ok.mp accepted
    exact ⟨rfl, Time.unblank_of_isYear form⟩
  | gMonthDay =>
    obtain ⟨form, rfl⟩ := acceptIf_eq_ok.mp accepted
    exact ⟨rfl, Time.unblank_of_isMonthDay form⟩
  | gDay =>
    obtain ⟨form, rfl⟩ := acceptIf_eq_ok.mp accepted
    exact ⟨rfl, Time.unblank_of_isDayOnly form⟩
  | gMonth =>
    obtain ⟨form, rfl⟩ := acceptIf_eq_ok.mp accepted
    exact ⟨rfl, Time.unblank_of_isMonthOnly form⟩
  | _ => cases literal

end Datatype

namespace SimpleType

/-- An atomic type that has nothing but a bound. -/
def bounded (name base : Option ExpandedName) (type : Datatype) (kind : BoundKind)
    (bound : String) : SimpleType :=
  .mk name base (.atomic type) (.ofBound kind bound)

theorem validate_bounded {name base : Option ExpandedName} {type : Datatype} {kind : BoundKind}
    {bound text : String} {scopes : NamespaceScopes} :
    (bounded name base type kind bound).validate scopes text =
      let normal := type.whiteSpace.normalize text
      type.parse scopes normal >>= fun value =>
        (Facets.ofBound kind bound).check normal value
          (fun limit => type.parse scopes (type.whiteSpace.normalize limit)) >>= fun _ =>
            .ok value := by
  have mode : (bounded name base type kind bound).whiteSpace = type.whiteSpace := by
    cases kind <;> rfl
  rw [validate, normalize, mode, bounded, readNormalized]
  rfl

/-- A bound of numbers or moments, and of durations or recurring dates. Of the values that are the
same as the bound, an inclusive one accepts the numbers and moments and refuses all others,
which have no order; an exclusive one refuses them all. A text that the datatype reads is the
same text when its blanks have been collapsed. -/
theorem bound_meets_itself (scopes : NamespaceScopes) (name base : Option ExpandedName)
    (type : Datatype) (ofType : type.isMeasured = true ∨ type.isLiteral = true)
    (kind : BoundKind) (bound text : String) :
    (∀ limit value, type.parse scopes (type.whiteSpace.normalize bound) = .ok limit →
      type.parse scopes (type.whiteSpace.normalize text) = .ok value →
        value.same limit = true →
          (bounded name base type kind bound).validate scopes text =
            if kind.isInclusive && type.isMeasured then .ok value
            else .error (.facet (type.whiteSpace.normalize text) (.bound kind bound))) ∧
      ∀ value, type.parse scopes text = .ok value → type.whiteSpace.normalize text = text := by
  have collapses : type.whiteSpace = .collapse := by
    revert ofType
    cases type <;> decide
  have spelled : ∀ value text, type.parse scopes text = .ok value →
      value.isOrdered = type.isMeasured ∧ Text.Unblank text.toList := by
    intro value text accepted
    rcases ofType with measured | literal
    · rw [measured]
      exact Datatype.ordered_of_measured measured accepted
    · have notMeasured : type.isMeasured = false := by
        revert literal
        cases type <;> decide
      rw [notMeasured]
      exact Datatype.unordered_of_literal literal accepted
  refine ⟨fun limit value read accepted same => ?_, fun value accepted => ?_⟩
  · have checked : (Facets.ofBound kind bound).check (type.whiteSpace.normalize text) value
        (fun limit => type.parse scopes (type.whiteSpace.normalize limit)) =
          if kind.isInclusive && type.isMeasured then .ok ()
          else .error (.facet (type.whiteSpace.normalize text) (.bound kind bound)) := by
      rw [← (spelled _ _ accepted).1]
      exact Facets.check_ofBound_of_same read same
    rw [validate_bounded]
    dsimp only
    rw [accepted]
    show (Facets.check _ _ _ _ >>= _) = _
    rw [checked]
    split <;> rfl
  · rw [collapses]
    exact WhiteSpace.collapse_of_unblank (spelled _ _ accepted).2

theorem bound_meets_itself_hour :
    let early : Value := .moment ⟨.time, Moment.referenceDay, ⟨3600000000000⟩, some 60⟩
    let midnight : Value := .moment ⟨.time, Moment.referenceDay, ⟨0⟩, some 0⟩
    early.same midnight = true ∧
      (bounded none none .time .minInclusive " 00:00:00Z").validate .initial "01:00:00+01:00" =
        .ok early ∧
      (bounded none none .time .minExclusive " 00:00:00Z").validate .initial "01:00:00+01:00" =
        .error (.facet "01:00:00+01:00" (.bound .minExclusive " 00:00:00Z")) := by
  intro early midnight
  have ofText : Datatype.time.parse .initial "01:00:00+01:00" = .ok early :=
    Datatype.parse_of_moment? .time (by decide +kernel)
  have ofBound : Datatype.time.parse .initial "00:00:00Z" = .ok midnight :=
    Datatype.parse_of_moment? .time (by decide +kernel)
  have trimmed : Datatype.time.whiteSpace.normalize " 00:00:00Z" = "00:00:00Z" := by rfl
  have alike (kind : BoundKind) := (bound_meets_itself .initial none none .time (.inl rfl) kind
    " 00:00:00Z" "01:00:00+01:00")
  have word := (alike .minInclusive).2 early ofText
  have same : early.same midnight = true := by decide +kernel
  have answers (kind : BoundKind) := (alike kind).1 midnight early (trimmed ▸ ofBound)
    (word.symm ▸ ofText) same
  rw [word] at answers
  exact ⟨same, answers .minInclusive, answers .minExclusive⟩

/-- The duration of one year is refused by the bound of one year. -/
theorem yearBound_refuses_year :
    Datatype.duration.parse .initial "P1Y" = .ok (.duration "P1Y") ∧
      (Value.duration "P1Y").same (.duration "P1Y") = true ∧
      (bounded none none .duration .minInclusive "P1Y").validate .initial "P1Y" =
        .error (.facet "P1Y" (.bound .minInclusive "P1Y")) := by
  refine ⟨by rfl, Value.same_self _, ?_⟩
  rfl

end SimpleType

end SchemaAssessment
