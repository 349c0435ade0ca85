/-
Values and their texts. The text of a value is read by the type that it was read with, as the same
value: numbers without zeros at the end of their fractions, and all others unchanged. There are two
exceptions. A date with a year that four digits do not hold is shown with a plus sign and refused;
and an item of a list that is no bytes at all shows nothing, and is lost between the spaces.
-/

import SchemaAssessment.Proofs.Number.Decimals
import SchemaAssessment.Proofs.Time.Texts
import SchemaAssessment.Proofs.Value.Words

namespace SchemaAssessment

/-! ### Texts of values -/

namespace Value

/-- A date is shown whose year four digits do not hold. -/
def isLate : Value → Bool
  | .moment value => value.isLate
  | _ => false

/-- The value as it is read back: a number without zeros at the end of its fraction. -/
def normal : Value → Value
  | .decimal number => .decimal number.normalize
  | value => value

theorem same_normal (value : Value) : value.same value.normal = true := by
  cases value with
  | decimal number => exact number.same_normalize
  | _ => exact same_self _

theorem textsOf_eq_map (items : List Value) : textsOf items = items.map text := by
  induction items with
  | nil => rfl
  | cons item rest ofRest => rw [textsOf, ofRest, List.map_cons]

theorem sameItems_map_normal (items : List Value) : sameItems items (items.map normal) = true := by
  induction items with
  | nil => rfl
  | cons item rest ofRest => rw [List.map_cons, sameItems, same_normal, ofRest, Bool.and_self]

theorem length_eq_of_sameItems {lefts rights : List Value}
    (same : sameItems lefts rights = true) : lefts.length = rights.length := by
  induction lefts generalizing rights with
  | nil =>
    cases rights with
    | nil => rfl
    | cons => cases same
  | cons left lefts ofRest =>
    cases rights with
    | nil => cases same
    | cons right rights =>
      rw [sameItems, Bool.and_eq_true] at same
      rw [List.length_cons, List.length_cons, ofRest same.2]

end Value

namespace Datatype

/-! ### Numbers -/

section

variable {text : String} {value : Decimal}

/-- A whole number is a numeral without a fraction. -/
theorem numeral?_of_isIntegerForm {numeral : Decimal.Numeral} (whole : isIntegerForm text = true)
    (found : Decimal.numeral? text.toList = some numeral) : numeral.fraction = [] := by
  simp only [isIntegerForm, Bool.and_eq_true, Bool.not_eq_true', List.all_eq_true] at whole
  obtain ⟨filled, areDigits⟩ := whole
  obtain ⟨front, behind⟩ := Time.span_eq_iff.mpr
    ⟨areDigits, (nofun : Time.Breaks []), (List.append_nil _).symm⟩
  rw [Decimal.numeral?] at found
  simp only [Decimal.splitUnsigned, front, behind, filled] at found
  obtain rfl := Option.some.inj found
  rfl

theorem scale_of_fraction_nil {numeral : Decimal.Numeral} (none_ : numeral.fraction = [])
    (read : Decimal.ofNumeral? numeral = some value) : value.scale = 0 := by
  simp only [Decimal.ofNumeral?, Option.bind_eq_bind, Option.bind_eq_some_iff, none_] at read
  obtain ⟨whole, -, ⟨number, places⟩, ofFraction, made⟩ := read
  obtain ⟨-, rfl⟩ := Prod.mk.inj (Option.some.inj ofFraction)
  obtain rfl := Option.some.inj made
  rfl

theorem normalize_of_scale (whole : value.scale = 0) : value.normalize = value := by
  obtain ⟨mantissa, scale⟩ := value
  obtain rfl : scale = 0 := whole
  rfl

theorem isIntegerForm_text (whole : value.scale = 0) : isIntegerForm value.text = true := by
  have noFraction : value.shownNumeral.fraction = [] := by
    rw [Decimal.shownNumeral, normalize_of_scale whole, whole]
    exact List.drop_length
  have areFigures := (value.areFigures_shown).1
  have chars := value.toList_text
  rw [noFraction, Decimal.pointed, List.isEmpty_nil, if_pos rfl, List.append_nil] at chars
  cases digits : value.shownNumeral.whole with
  | nil => exact absurd digits value.whole_shown_ne_nil
  | cons c rest =>
    rw [digits] at chars areFigures
    rw [isIntegerForm, chars, Decimal.splitSign_of_parts _ (areFigures c List.mem_cons_self)]
    exact List.all_eq_true.mpr areFigures.areDecimal

theorem decimal?_text (typeName : String) (fits : value.Fits) :
    decimal? typeName value.text = .ok value.normalize :=
  decimal?_eq_ok.mpr ⟨_, value.numeral?_text, Decimal.ofNumeral?_shownNumeral fits⟩

/-- A decimal that a text is read as fits its bounds. -/
theorem fits_of_decimal? {typeName : String} (read : decimal? typeName text = .ok value) :
    value.Fits := by
  obtain ⟨numeral, -, made⟩ := decimal?_eq_ok.mp read
  exact Decimal.fits_of_ofNumeral? made

end

/-! ### Reading back -/

section

variable {type : Datatype} {scopes : NamespaceScopes} {text : String} {value : Value}

theorem parse_text_of_whole (whole : type.isDerivedFrom .integer = true)
    (accepted : type.parse scopes text = .ok value) :
    value.isLate = false ∧ type.parse scopes value.text = .ok value.normal := by
  obtain ⟨form, number, read, within, rfl⟩ := (parse_eq_ok_of_whole whole).mp accepted
  obtain ⟨numeral, found, made⟩ := decimal?_eq_ok.mp read
  have scale := scale_of_fraction_nil (numeral?_of_isIntegerForm form found) made
  have again := decimal?_text type.localName (fits_of_decimal? read)
  refine ⟨rfl, (parse_eq_ok_of_whole whole).mpr
    ⟨isIntegerForm_text scale, number.normalize, again, ?_, rfl⟩⟩
  rwa [normalize_of_scale scale]

theorem parse_text_of_moment {kind : MomentKind}
    (accepted : (ofMomentKind kind).parse scopes text = .ok value) :
    (ofMomentKind kind).parse scopes value.text =
      if value.isLate then .error (.lexical value.text (ofMomentKind kind).localName)
      else .ok value.normal := by
  obtain ⟨moment, form, rfl, found, tells⟩ := parse_ofMomentKind_eq_ok.mp accepted
  obtain ⟨ofKind, -⟩ := Time.momentForm?_eq_some_iff.mp found
  have kind : moment.kind = kind := by
    rw [← ofKind]
    cases tells <;> rfl
  rw [parse_ofMomentKind]
  cases late : moment.isLate with
  | true =>
    have refused := (Moment.moment?_text_of_isLate late).2
    rw [kind] at refused
    show (ofMomentKind _).accept _ ((Time.moment? _ moment.text.toList).map _) = _
    rw [refused]
    exact (if_pos late).symm
  | false =>
    have again := Moment.moment?_text tells late
    rw [kind] at again
    show (ofMomentKind _).accept _ ((Time.moment? _ moment.text.toList).map _) = _
    rw [again]
    exact (if_neg (Bool.eq_false_iff.mp late)).symm

/-- A value is read back from its text by the type that it was read with, unless it is shown with a
plus sign. -/
theorem parse_text (ofType : type ∉ [Datatype.float, .double, .qName])
    (accepted : type.parse scopes text = .ok value) :
    type.parse scopes value.text =
      if value.isLate then .error (.lexical value.text type.localName)
      else .ok value.normal := by
  have early {value : Value}
      (given : value.isLate = false ∧ type.parse scopes value.text = .ok value.normal) :
      type.parse scopes value.text =
        if value.isLate then .error (.lexical value.text type.localName)
        else .ok value.normal := by
    rw [given.1]
    exact given.2
  cases type with
  | float | double | qName => exact absurd (by decide) ofType
  | anySimpleType | string =>
    obtain rfl := Except.ok.inj accepted
    rfl
  | normalizedString | token | language | name | ncName | id | idRef | entity | nmToken | duration
  | gYearMonth | gYear | gMonthDay | gDay | gMonth | anyURI =>
    obtain ⟨form, rfl⟩ := acceptIf_eq_ok.mp accepted
    exact acceptIf_eq_ok.mpr ⟨form, rfl⟩
  | boolean =>
    have two : value = .boolean true ∨ value = .boolean false := by
      have read := accept_eq_ok.mp accepted
      split at read
      · exact .inl (Option.some.inj read).symm
      · split at read
        · exact .inr (Option.some.inj read).symm
        · cases read
    rcases two with rfl | rfl <;> rfl
  | decimal =>
    obtain ⟨number, read, rfl⟩ := map_eq_ok.mp accepted
    exact map_eq_ok.mpr ⟨_, decimal?_text _ (fits_of_decimal? read), rfl⟩
  | integer | nonPositiveInteger | negativeInteger | long | int | short | byte
  | nonNegativeInteger | unsignedLong | unsignedInt | unsignedShort | unsignedByte
  | positiveInteger => exact early (parse_text_of_whole (by decide) accepted)
  | dateTime => exact @parse_text_of_moment _ _ _ .dateTime accepted
  | date => exact @parse_text_of_moment _ _ _ .date accepted
  | time => exact @parse_text_of_moment _ _ _ .time accepted
  | hexBinary =>
    obtain ⟨bytes, read, rfl⟩ := Option.map_eq_some_iff.mp (accept_eq_ok.mp accepted)
    refine accept_eq_ok.mpr ?_
    rw [Value.text, String.toList_ofList, Bytes.ofHex?_toHex]
    rfl
  | base64Binary =>
    obtain ⟨bytes, read, rfl⟩ := Option.map_eq_some_iff.mp (accept_eq_ok.mp accepted)
    have compact : (Bytes.toBase64 bytes).filter (fun c => !Text.isBlank c) =
        Bytes.toBase64 bytes := by
      rw [List.filter_eq_self]
      intro c member
      rw [Bytes.isBlank_of_mem_toBase64 member]
      rfl
    refine accept_eq_ok.mpr ?_
    rw [Value.text, String.toList_ofList, compact, Bytes.ofBase64?_toBase64]
    rfl

end

end Datatype

/-! ### Words -/

open Text (Unblank unblank_nil unblank_cons unblank_of_areDigits)

theorem Decimal.unblank_padded (length n : Nat) : Unblank (padded length n) :=
  unblank_of_areDigits (areFigures_padded length n).areDecimal

theorem Decimal.unblank_text (value : Decimal) : Unblank value.text.toList :=
  unblank_of_numeral? value.numeral?_text

theorem Date.unblank_text (date : Date) : Unblank date.text := by
  have year : Unblank (yearText date.year) := by
    unfold yearText
    split
    · exact Decimal.unblank_padded 4 _
    · exact unblank_cons.mpr ⟨by split <;> decide, Decimal.unblank_padded 4 _⟩
  exact (year.append (unblank_cons.mpr ⟨by decide, Decimal.unblank_padded 2 _⟩)).append
    (unblank_cons.mpr ⟨by decide, Decimal.unblank_padded 2 _⟩)

theorem TimeOfDay.unblank_text (time : TimeOfDay) : Unblank time.text := by
  have pair : ∀ n, Unblank (Decimal.padded 2 n) := Decimal.unblank_padded 2
  have fraction : ∀ nanosecond, Unblank (fractionText nanosecond) := fun nanosecond => by
    unfold fractionText
    split
    · exact unblank_nil
    · repeat' split
      all_goals exact unblank_cons.mpr ⟨by decide, Decimal.unblank_padded _ _⟩
  exact (((pair _).append (unblank_cons.mpr ⟨by decide, pair _⟩)).append
    (unblank_cons.mpr ⟨by decide, pair _⟩)).append (fraction _)

theorem Moment.unblank_text (moment : Moment) : Unblank moment.text.toList := by
  have pair : ∀ n, Unblank (Decimal.padded 2 n) := Decimal.unblank_padded 2
  have zone : Unblank (offsetText moment.offset) := by
    unfold offsetText
    split
    · exact unblank_nil
    · split
      · decide
      · exact unblank_cons.mpr ⟨by split <;> decide,
          (pair _).append (unblank_cons.mpr ⟨by decide, pair _⟩)⟩
  rw [text, String.toList_ofList]
  refine Unblank.append ?_ zone
  cases moment.kind with
  | dateTime =>
    exact (Date.unblank_text _).append (unblank_cons.mpr ⟨by decide, TimeOfDay.unblank_text _⟩)
  | date => exact Date.unblank_text _
  | time => exact TimeOfDay.unblank_text _

theorem Bytes.isMarkupBlank_upperHex :
    ∀ n < 16, Text.isMarkupBlank (Digits.upperHex n) = false := by
  decide

theorem Bytes.unblank_toHex (bytes : List UInt8) : Unblank (toHex bytes) := by
  intro c member
  obtain ⟨byte, -, digit⟩ := List.mem_flatMap.mp member
  have small : byte.toNat < 256 := byte.toNat_lt_size
  rw [List.mem_cons, List.mem_singleton] at digit
  rcases digit with rfl | rfl
  · exact isMarkupBlank_upperHex _ (by omega)
  · exact isMarkupBlank_upperHex _ (by omega)

theorem Bytes.unblank_toBase64 (bytes : List UInt8) : Unblank (toBase64 bytes) := by
  intro c member
  by_contra blank
  have isBlank := Text.isBlank_of_isMarkupBlank (Bool.not_eq_false _ ▸ blank)
  rw [isBlank_of_mem_toBase64 member] at isBlank
  cases isBlank

namespace Datatype

variable {type : Datatype} {scopes : NamespaceScopes} {text : String} {value : Value}

/-- A value that was read from a text without blanks is shown without blanks. -/
theorem unblank_text (ofType : type ∉ [Datatype.float, .double, .qName])
    (unblank : Unblank text.toList) (accepted : type.parse scopes text = .ok value) :
    Unblank value.text.toList := by
  cases type with
  | float | double | qName => exact absurd (by decide) ofType
  | anySimpleType | string =>
    obtain rfl := Except.ok.inj accepted
    exact unblank
  | normalizedString | token | language | name | ncName | id | idRef | entity | nmToken | duration
  | gYearMonth | gYear | gMonthDay | gDay | gMonth | anyURI =>
    obtain ⟨-, rfl⟩ := acceptIf_eq_ok.mp accepted
    exact unblank
  | boolean =>
    have read := accept_eq_ok.mp accepted
    split at read
    · obtain rfl := Option.some.inj read
      exact (by decide : Unblank "true".toList)
    · split at read
      · obtain rfl := Option.some.inj read
        exact (by decide : Unblank "false".toList)
      · cases read
  | decimal =>
    obtain ⟨number, -, rfl⟩ := map_eq_ok.mp accepted
    exact number.unblank_text
  | integer | nonPositiveInteger | negativeInteger | long | int | short | byte
  | nonNegativeInteger | unsignedLong | unsignedInt | unsignedShort | unsignedByte
  | positiveInteger =>
    obtain ⟨-, number, -, -, rfl⟩ := (parse_eq_ok_of_whole (by decide)).mp accepted
    exact number.unblank_text
  | dateTime | date | time =>
    obtain ⟨moment, -, rfl⟩ := Option.map_eq_some_iff.mp (accept_eq_ok.mp accepted)
    exact moment.unblank_text
  | hexBinary =>
    obtain ⟨bytes, -, rfl⟩ := Option.map_eq_some_iff.mp (accept_eq_ok.mp accepted)
    rw [Value.text, String.toList_ofList]
    exact Bytes.unblank_toHex bytes
  | base64Binary =>
    obtain ⟨bytes, -, rfl⟩ := Option.map_eq_some_iff.mp (accept_eq_ok.mp accepted)
    rw [Value.text, String.toList_ofList]
    exact Bytes.unblank_toBase64 bytes

end Datatype

/-! ### Lists -/

namespace WhiteSpace

/-- No mode changes a text without blanks. -/
theorem normalize_of_unblank (mode : WhiteSpace) {text : String} (unblank : Unblank text.toList) :
    mode.normalize text = text := by
  cases mode with
  | preserve => rfl
  | replace =>
    rw [← String.toList_inj, normalize, String.toList_map]
    refine (List.map_congr_left fun c member => ?_).trans (List.map_id _)
    rw [unblank c member]
    rfl
  | collapse => exact collapse_of_unblank unblank

/-- The words between the spaces of a collapsed text are those between its blanks. -/
theorem words_collapse (text : String) :
    (Text.runs (· == ' ') (collapse.normalize text).toList).map String.ofList =
      markupWords text := by
  have each : ∀ word ∈ Text.runs Text.isMarkupBlank text.toList,
      Text.IsWord (· == ' ') word := by
    intro word member
    obtain ⟨filled, unblank⟩ := Text.isWord_of_mem_runs member
    refine ⟨filled, fun c inside => beq_eq_false_iff_ne.mpr ?_⟩
    rintro rfl
    exact absurd (unblank ' ' inside) (by decide)
  rw [toList_collapse, Text.runs_intercalate rfl each]
  rfl

theorem unblank_of_mem_markupWords {text word : String} (member : word ∈ markupWords text) :
    Unblank word.toList := by
  obtain ⟨run, inside, rfl⟩ := List.mem_map.mp member
  rw [String.toList_ofList]
  exact (Text.isWord_of_mem_runs inside).2

/-- Of words that are put together with spaces those are found again that hold something. -/
theorem markupWords_of_unblank {words : List String}
    (each : ∀ word ∈ words, Unblank word.toList) :
    markupWords (" ".intercalate words) = words.filter (· ≠ "") := by
  have pieces := Text.runs_intercalate_pieces (by decide : Text.isMarkupBlank ' ' = true)
    (List.forall_mem_map.mpr each)
  rw [markupWords, String.toList_intercalate]
  show (Text.runs Text.isMarkupBlank ([' '].intercalate (words.map String.toList))).map _ = _
  rw [pieces, List.filter_map, List.map_map]
  have same :
      ((fun chars : List Char => !chars.isEmpty) ∘ String.toList) = fun word => word ≠ "" := by
    funext word
    rw [Bool.eq_iff_iff]
    simp
  rw [same]
  exact (List.map_congr_left fun word _ => String.ofList_toList).trans (List.map_id _)

end WhiteSpace

theorem Facets.check_empty {text : String} {value : Value}
    {parse : String → Except ValueFault Value} :
    Facets.check {} text value parse = .ok () := by
  cases value <;> rfl

namespace SimpleType

/-- A list type over an atomic type, both without facets. -/
def plainList (name base itemName itemBase : Option ExpandedName) (type : Datatype) : SimpleType :=
  .mk name base (.list (.mk itemName itemBase (.atomic type) {})) {}

variable {name base itemName itemBase : Option ExpandedName} {type : Datatype}
  {scopes : NamespaceScopes} {text word : String} {value : Value}

theorem readNormalized_plain :
    (SimpleType.mk itemName itemBase (.atomic type) {}).readNormalized scopes word =
      type.parse scopes word := by
  rw [readNormalized]
  cases type.parse scopes word with
  | error fault => rfl
  | ok value =>
    show (Facets.check _ _ _ _ >>= fun _ => Except.ok value) = _
    rw [Facets.check_empty]
    rfl

/-- Such a list is read word by word. -/
theorem validate_plainList :
    (plainList name base itemName itemBase type).validate scopes text = .ok value ↔
      ∃ items, value = .list items ∧
        List.Forall₂ (fun word item => type.parse scopes word = .ok item)
          (WhiteSpace.markupWords text) items := by
  have words : ∀ word ∈ WhiteSpace.markupWords text,
      (SimpleType.mk itemName itemBase (.atomic type) {}).readNormalized scopes
        (SimpleType.normalize (.mk itemName itemBase (.atomic type) {}) word) =
          type.parse scopes word := by
    intro word member
    rw [readNormalized_plain, normalize,
      WhiteSpace.normalize_of_unblank _ (WhiteSpace.unblank_of_mem_markupWords member)]
  have mode : (plainList name base itemName itemBase type).whiteSpace = .collapse := rfl
  rw [validate, normalize, mode, plainList, readNormalized]
  simp only [readList, WhiteSpace.words_collapse, Facets.check_empty, bind_eq_ok, mapM_congr words,
    mapM_eq_ok]
  constructor
  · rintro ⟨list, ⟨items, read, made⟩, _, -, given⟩
    obtain rfl := Except.ok.inj made
    exact ⟨items, (Except.ok.inj given).symm, read⟩
  · rintro ⟨items, rfl, read⟩
    exact ⟨_, ⟨items, read, rfl⟩, (), trivial, rfl⟩

/-- The text of a list is read as the items that show something, if each of them is read back. -/
theorem validate_text_plainList {items : List Value}
    (ofType : type ∉ [Datatype.float, .double, .qName])
    (accepted : (plainList name base itemName itemBase type).validate scopes text =
      .ok (.list items)) :
    (plainList name base itemName itemBase type).validate scopes (Value.list items).text =
        .ok value ↔
      ∃ again, value = .list again ∧
        List.Forall₂ (fun word item => type.parse scopes word = .ok item)
          ((items.map Value.text).filter (· ≠ "")) again := by
  obtain ⟨_, same, read⟩ := validate_plainList.mp accepted
  obtain rfl := Value.list.inj same
  have unblank : ∀ word ∈ items.map Value.text, Unblank word.toList := by
    refine List.forall_mem_map.mpr fun item member => ?_
    obtain ⟨word, inside, ofWord⟩ := exists_of_mem_right read member
    exact Datatype.unblank_text ofType (WhiteSpace.unblank_of_mem_markupWords inside) ofWord
  rw [validate_plainList, Value.text, Value.textsOf_eq_map,
    WhiteSpace.markupWords_of_unblank unblank]

/-- A list is read back from its text just if none of its items is shown with a plus sign and each
of them shows something. -/
theorem readBack_plainList {items : List Value}
    (ofType : type ∉ [Datatype.float, .double, .qName])
    (accepted : (plainList name base itemName itemBase type).validate scopes text =
      .ok (.list items)) :
    (∃ again, (plainList name base itemName itemBase type).validate scopes
        (Value.list items).text = .ok again ∧ (Value.list items).same again = true) ↔
      ∀ item ∈ items, item.isLate = false ∧ item.text ≠ "" := by
  obtain ⟨_, same, read⟩ := validate_plainList.mp accepted
  obtain rfl := Value.list.inj same
  have parse_text : ∀ item ∈ items, type.parse scopes item.text =
      if item.isLate then .error (.lexical item.text type.localName) else .ok item.normal := by
    intro item member
    obtain ⟨word, -, ofWord⟩ := exists_of_mem_right read member
    exact Datatype.parse_text ofType ofWord
  simp only [validate_text_plainList ofType accepted]
  constructor
  · rintro ⟨_, ⟨again, rfl, reads⟩, same⟩
    have length := Value.length_eq_of_sameItems same
    rw [← reads.length_eq, ← List.length_map Value.text, eq_comm,
      List.length_filter_eq_length_iff] at length
    rw [List.filter_eq_self.mpr length] at reads
    intro item member
    have shown : item.text ∈ items.map Value.text := List.mem_map_of_mem member
    obtain ⟨found, -, ofItem⟩ := exists_of_mem_right reads.flip shown
    refine ⟨?_, of_decide_eq_true (length _ shown)⟩
    by_contra late
    rw [parse_text item member, if_pos (Bool.not_eq_false _ ▸ late)] at ofItem
    cases ofItem
  · intro each
    have all : (items.map Value.text).filter (· ≠ "") = items.map Value.text :=
      List.filter_eq_self.mpr
        (List.forall_mem_map.mpr fun item member => decide_eq_true (each item member).2)
    refine ⟨_, ⟨items.map Value.normal, rfl, ?_⟩, Value.sameItems_map_normal items⟩
    rw [all, List.forall₂_map_left_iff, List.forall₂_map_right_iff, List.forall₂_same]
    intro item member
    rw [parse_text item member, (each item member).1]
    rfl

/-! ### All datatypes and lists -/

/-- Whatever a datatype reads, but for binary fractions and names, it is the same value in normal
form, and the datatype reads this from the text that the value is shown as; unless it is a date
whose year four digits do not hold, whose text the datatype refuses. A list of such values is read
back from its text as the same list just if none of its items is such a date, and none is shown
as nothing. -/
theorem texts_read_back (scopes : NamespaceScopes) (type : Datatype)
    (ofType : type ∉ [Datatype.float, .double, .qName]) :
    (∀ text value, type.parse scopes text = .ok value → value.same value.normal = true ∧
      type.parse scopes value.text =
        if value.isLate then .error (.lexical value.text type.localName)
        else .ok value.normal) ∧
      ∀ name base itemName itemBase text value,
        (plainList name base itemName itemBase type).validate scopes text = .ok value →
          ∃ items, value = .list items ∧
            ((∃ again, (plainList name base itemName itemBase type).validate scopes value.text =
                .ok again ∧ value.same again = true) ↔
              ∀ item ∈ items, item.isLate = false ∧ item.text ≠ "") := by
  refine ⟨fun text value accepted => ⟨value.same_normal, Datatype.parse_text ofType accepted⟩, ?_⟩
  intro name base itemName itemBase text value accepted
  obtain ⟨items, rfl, -⟩ := validate_plainList.mp accepted
  exact ⟨items, rfl, readBack_plainList ofType accepted⟩

theorem texts_read_back_decimals :
    let numbers := plainList none none none none .decimal
    ∃ value again, numbers.validate .initial " -0.50 +7." = .ok value ∧ value.text = "-0.5 7" ∧
      numbers.validate .initial "-0.5 7" = .ok again ∧ value.same again = true := by
  intro numbers
  have accepted : numbers.validate .initial " -0.50 +7." =
      .ok (.list [.decimal ⟨-50, 2⟩, .decimal ⟨7, 0⟩]) := by
    have words : WhiteSpace.markupWords " -0.50 +7." = ["-0.50", "+7."] := by decide +kernel
    rw [validate_plainList, words]
    exact ⟨_, rfl, .cons (by rfl) (.cons (by rfl) .nil)⟩
  obtain ⟨items, same, reads⟩ :=
    (texts_read_back .initial .decimal (by decide)).2 none none none none _ _ accepted
  obtain rfl := Value.list.inj same
  obtain ⟨again, read, alike⟩ := reads.mpr (by decide +kernel)
  exact ⟨_, again, accepted, by decide +kernel, read, alike⟩

/-- The first day of a year of five digits is shown with a plus sign, and its text is refused. -/
theorem year_10000_not_read_back :
    let newYear : Value := .moment ⟨.dateTime, ⟨10000, 1, 1⟩, ⟨0⟩, none⟩
    Datatype.dateTime.parse .initial "10000-01-01T00:00:00" = .ok newYear ∧
      newYear.text = "+10000-01-01T00:00:00" ∧
      Datatype.dateTime.parse .initial newYear.text =
        .error (.lexical "+10000-01-01T00:00:00" "dateTime") := by
  intro newYear
  have text : newYear.text = "+10000-01-01T00:00:00" := by decide +kernel
  rw [text]
  exact ⟨Datatype.parse_of_moment? .dateTime (by decide +kernel), rfl, by rfl⟩

-- The second item is a blank, but none of markup. It stands for no bytes, and its text is lost.
example : (plainList none none none none .base64Binary).validate .initial "AQID \u00a0" =
      .ok (.list [.base64Binary [1, 2, 3], .base64Binary []]) ∧
    (plainList none none none none .base64Binary).validate .initial "AQID " =
      .ok (.list [.base64Binary [1, 2, 3]]) := by
  have words : WhiteSpace.markupWords "AQID \u00a0" = ["AQID", "\u00a0"] ∧
      WhiteSpace.markupWords "AQID " = ["AQID"] := by decide +kernel
  rw [validate_plainList, validate_plainList, words.1, words.2]
  exact ⟨⟨_, rfl, .cons (by rfl) (.cons (by rfl) .nil)⟩, ⟨_, rfl, .cons (by rfl) .nil⟩⟩

end SimpleType

end SchemaAssessment
