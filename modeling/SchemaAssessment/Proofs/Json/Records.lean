/-
Records and choices are read back. A record that gives each of its fields at most once is
read as what it gives, field by field, whatever fields it leaves out; a list is read back if
its items are; and what stands inside of a value is less deep than the value. Conversely,
what is read has every property that the readers of its parts see to.
-/

import SchemaAssessment.Json.Component
import SchemaAssessment.Proofs.Faults

namespace SchemaAssessment.Json

variable {α β ε : Type}

/-! ### Plain values -/

/-- The value is what the JSON value is read as, which does not stand for an absent value. -/
structure Reads (decode : Json → Except Fault α) (json : Json) (value : α) : Prop where
  isPresent : json ≠ .null
  reads : decode json = .ok value

theorem reads_text (text : String) : Reads toText (.string text) text := ⟨nofun, rfl⟩

theorem reads_bool (value : Bool) : Reads toBool (.bool value) value := ⟨nofun, rfl⟩

theorem reads_natBelow {bound value : Nat} (isBelow : value < bound) :
    Reads (toNatBelow bound) (.nat value) value := by
  refine ⟨nofun, ?_⟩
  show (if value < bound then Except.ok value else _) = _
  rw [if_pos isBelow]

theorem reads_named {table : List (String × α)} {name : String} {value : α}
    (named : table.lookup name = some value) : Reads (toNamed table) (.string name) value := by
  refine ⟨nofun, ?_⟩
  simp only [toNamed, toName, toVariant, bind, Except.bind, named]

/-! ### Lists and objects -/

theorem reads_list {decode : Json → Except Fault α} {items : List Json} {values : List α}
    (each : List.Forall₂ (Reads decode) items values) :
    Reads (toList decode) (.array items) values :=
  ⟨nofun, mapM_eq_ok.mpr (each.imp fun _ _ => Reads.reads)⟩

theorem reads_map {encode : α → Json} {decode : Json → Except Fault α} {values : List α}
    (each : ∀ value ∈ values, Reads decode (encode value) value) :
    List.Forall₂ (Reads decode) (values.map encode) values := by
  rw [List.forall₂_map_left_iff, List.forall₂_same]
  exact each

theorem reads_members {encode : α → Json} {decode : Json → Except Fault α}
    {entries : List (String × α)}
    (each : ∀ entry ∈ entries, Reads decode (encode entry.2) entry.2) :
    Reads (toMembers decode) (.object (entries.map fun entry => (entry.1, encode entry.2)))
      entries := by
  refine ⟨nofun, mapM_eq_ok.mpr ?_⟩
  rw [List.forall₂_map_left_iff, List.forall₂_same]
  intro entry member
  show (decode (encode entry.2)).map _ = _
  rw [(each entry member).reads]
  rfl

/-! ### Records -/

/-- The members of a record, by the names of its fields. -/
def present (fields : List (String × Option Json)) : List (String × Json) :=
  fields.filterMap fun field => field.2.map (field.1, ·)

/-- A record, of which some fields may be left out. -/
def record (fields : List (String × Option Json)) : Json := .object (present fields)

/-- The values of the fields are those of a record. -/
structure Fields.Gives (given : Fields) (fields : List (String × Option Json)) : Prop where
  isNamed : given.positional = false
  lookup : ∀ name value, (name, value) ∈ fields → given.values.lookup name = value

theorem filter_present_of_absent {fields : List (String × Option Json)} {name : String}
    (absent : name ∉ fields.map Prod.fst) : (present fields).filter (·.1 == name) = [] := by
  rw [List.filter_eq_nil_iff]
  intro member inside same
  obtain ⟨field, given, gives⟩ := List.mem_filterMap.mp inside
  obtain ⟨json, -, rfl⟩ := Option.map_eq_some_iff.mp gives
  exact absent (eq_of_beq same ▸ List.mem_map_of_mem given)

/-- A record gives a field at most once. -/
theorem filter_present {fields : List (String × Option Json)}
    (distinct : (fields.map Prod.fst).Nodup) {name : String} {value : Option Json}
    (member : (name, value) ∈ fields) :
    (present fields).filter (·.1 == name) = (value.map (name, ·)).toList := by
  induction fields with
  | nil => cases member
  | cons field rest ofRest =>
    obtain ⟨other, given⟩ := field
    obtain ⟨absent, distinctRest⟩ := List.nodup_cons.mp distinct
    have split :
        present ((other, given) :: rest) = (given.map (other, ·)).toList ++ present rest := by
      cases given <;> rfl
    rw [split, List.filter_append]
    rcases List.mem_cons.mp member with same | later
    · obtain ⟨rfl, rfl⟩ := Prod.mk.inj same
      rw [filter_present_of_absent absent, List.append_nil]
      cases value <;> simp
    · have apart : other ≠ name := by
        rintro rfl
        exact absent (List.mem_map.mpr ⟨_, later, rfl⟩)
      rw [ofRest distinctRest later]
      cases given <;> simp [apart]

theorem lookup_eq_of_filter {members : List (String × Json)} {name : String} {value : Option Json}
    (filtered : members.filter (·.1 == name) = (value.map (name, ·)).toList) :
    members.lookup name = value := by
  induction members with
  | nil => cases value <;> simp_all
  | cons member rest ofRest =>
    obtain ⟨other, json⟩ := member
    by_cases same : other = name
    · subst same
      cases value <;> simp_all
    · have apart : (name == other) = false := beq_false_of_ne (Ne.symm same)
      rw [List.lookup_cons, apart]
      refine ofRest ?_
      rwa [List.filter_cons_of_neg (by simpa using same)] at filtered

/-- A record is read as what it gives. -/
theorem toFields_record {fields : List (String × Option Json)} {names : List String}
    (named : fields.map Prod.fst = names) (distinct : names.Nodup) :
    ∃ given, toFields names (record fields) = .ok given ∧ given.Gives fields := by
  subst named
  have read : (fields.map Prod.fst).mapM (uniqueMember (present fields)) =
      .ok (fields.map fun field => field.2.map (field.1, ·)) := by
    rw [mapM_eq_ok, List.forall₂_map_left_iff, List.forall₂_map_right_iff, List.forall₂_same]
    rintro ⟨name, value⟩ member
    rw [uniqueMember, filter_present distinct member]
    cases value <;> rfl
  have same : (fields.map fun field => field.2.map (field.1, ·)).filterMap id = present fields := by
    rw [List.filterMap_map]
    rfl
  refine ⟨⟨false, present fields⟩, ?_, rfl, fun name value member =>
    lookup_eq_of_filter (filter_present distinct member)⟩
  rw [record, toFields, read]
  exact congrArg (fun values => Except.ok (Fields.mk false values)) same

theorem read_record {fields : List (String × Option Json)} {names : List String}
    {further : Fields → Except Fault α} {value : α} (named : fields.map Prod.fst = names)
    (distinct : names.Nodup) (each : ∀ given, given.Gives fields → further given = .ok value) :
    (toFields names (record fields) >>= further) = .ok value := by
  obtain ⟨given, read, gives⟩ := toFields_record named distinct
  rw [read]
  exact each given gives

/-- A record is read back by a reader that takes its fields and goes on with what they give. -/
theorem reads_record {decode : Json → Except Fault α} {fields : List (String × Option Json)}
    {names : List String} {further : Fields → Except Fault α} {value : α}
    (takes : decode (record fields) = (toFields names (record fields) >>= further))
    (named : fields.map Prod.fst = names) (distinct : names.Nodup)
    (each : ∀ given, given.Gives fields → further given = .ok value) :
    Reads decode (record fields) value :=
  ⟨nofun, takes.trans (read_record named distinct each)⟩

namespace Fields.Gives

variable {given : Fields} {fields : List (String × Option Json)} {name : String}
  {decode : Json → Except Fault α}

theorem required (gives : given.Gives fields) {json : Json} {value : α}
    (member : (name, some json) ∈ fields) (reads : Reads decode json value) :
    given.required name decode = .ok value := by
  rw [Fields.required, gives.lookup name _ member]
  exact reads.reads

theorem defaulting_of_given (gives : given.Gives fields) {json : Json} {usual value : α}
    (member : (name, some json) ∈ fields) (reads : Reads decode json value) :
    given.defaulting name usual decode = .ok value := by
  rw [Fields.defaulting, gives.lookup name _ member]
  exact reads.reads

theorem toOption_reads {json : Json} {value : α} (reads : Reads decode json value) :
    Reads (toOption decode) json (some value) := by
  obtain ⟨isPresent, reads⟩ := reads
  refine ⟨isPresent, ?_⟩
  cases json with
  | null => exact absurd rfl isPresent
  | _ =>
    show (decode _).map some = _
    rw [reads]
    rfl

theorem optional (gives : given.Gives fields) {encode : α → Json} {value? : Option α}
    (member : (name, value?.map encode) ∈ fields)
    (reads : ∀ value, value? = some value → Reads decode (encode value) value) :
    given.optional name decode = .ok value? := by
  cases value? with
  | none =>
    rw [Fields.optional, Fields.defaulting, gives.lookup name _ member]
    rfl
  | some value => exact gives.defaulting_of_given member (toOption_reads (reads value rfl))

theorem nullable (gives : given.Gives fields) {encode : α → Json} {value? : Option α}
    (member : (name, some (ofOption encode value?)) ∈ fields)
    (reads : ∀ value, value? = some value → Reads decode (encode value) value) :
    given.nullable name decode = .ok value? := by
  rw [Fields.nullable, gives.lookup name _ member]
  cases value? with
  | none => rfl
  | some value => exact (toOption_reads (reads value rfl)).reads

theorem defaulting_unless {isUsual : Bool} (gives : given.Gives fields) {json : Json}
    {usual value : α} (member : (name, if isUsual then none else some json) ∈ fields)
    (same : isUsual = true → value = usual)
    (reads : isUsual = false → Reads decode json value) :
    given.defaulting name usual decode = .ok value := by
  cases isUsual with
  | true =>
    rw [same rfl, Fields.defaulting, gives.lookup name _ member]
    rfl
  | false => exact gives.defaulting_of_given member (reads rfl)

theorem listOf (gives : given.Gives fields) {items : List Json} {values : List α}
    (member : (name, if values.isEmpty then none else some (.array items)) ∈ fields)
    (each : List.Forall₂ (Reads decode) items values) :
    given.listOf name decode = .ok values :=
  gives.defaulting_unless member List.isEmpty_iff.mp fun _ => reads_list each

end Fields.Gives

/-! ### Choices -/

/-- A choice is read back if it reads the content of the variant for what it makes of it. -/
theorem reads_variant {choose : Json → Except Fault α} {decode : Json → Except Fault β}
    {build : β → α} {name : String} {content : Json} {value : β}
    (read : Reads decode content value)
    (chooses : choose (variant name content) =
      (decode content >>= fun value => .ok (build value))) :
    Reads choose (variant name content) (build value) := by
  refine ⟨nofun, ?_⟩
  rw [chooses, read.reads]
  rfl

/-! ### Members -/

section Members

variable {key : String}

/-- A member of a record, if its field is given. -/
def slot (key : String) (value : Option Json) : Option (String × Json) := value.map (key, ·)

theorem member_eq (value : Json) : member key value = slot key (some value) := rfl

theorem memberOf_eq (encode : α → Json) (value : Option α) :
    memberOf key encode value = slot key (value.map encode) := by
  cases value <;> rfl

theorem memberOfList_eq (encode : α → Json) (values : List α) :
    memberOfList key encode values =
      slot key (if values.isEmpty then none else some (.array (values.map encode))) := by
  cases values <;> rfl

theorem ite_eq_slot (isLeftOut : Bool) (value : Json) :
    (if isLeftOut then none else slot key (some value)) =
      slot key (if isLeftOut then none else some value) := by
  cases isLeftOut <;> rfl

end Members

/-! ### Depths -/

theorem depth_lt_array {items : List Json} {item : Json} (member : item ∈ items) :
    item.depth < (Json.array items).depth := by
  rw [depth, Nat.lt_succ_iff]
  induction items with
  | nil => cases member
  | cons first rest ofRest =>
    rw [depthOfItems]
    rcases List.mem_cons.mp member with rfl | later
    · exact Nat.le_max_left _ _
    · exact Nat.le_trans (ofRest later) (Nat.le_max_right _ _)

theorem depth_lt_object {members : List (String × Json)} {name : String} {json : Json}
    (member : (name, json) ∈ members) : json.depth < (Json.object members).depth := by
  rw [depth, Nat.lt_succ_iff]
  induction members with
  | nil => cases member
  | cons first rest ofRest =>
    obtain ⟨other, value⟩ := first
    rw [depthOfMembers]
    rcases List.mem_cons.mp member with same | later
    · obtain ⟨-, rfl⟩ := Prod.mk.inj same
      exact Nat.le_max_left _ _
    · exact Nat.le_trans (ofRest later) (Nat.le_max_right _ _)

theorem depth_lt_variant (name : String) (content : Json) :
    content.depth < (variant name content).depth :=
  depth_lt_object List.mem_cons_self

theorem depth_lt_record {fields : List (String × Option Json)} (name : String) {json : Json}
    (member : (name, some json) ∈ fields) : json.depth < (record fields).depth :=
  depth_lt_object (List.mem_filterMap.mpr ⟨_, member, rfl⟩)

/-! ### What is read -/

/-- All that is read has a property. -/
def Yields (decode : Json → Except Fault α) (property : α → Prop) : Prop :=
  ∀ json value, decode json = .ok value → property value

section Yields

variable {decode : Json → Except Fault α} {property : α → Prop}

theorem yields_natBelow (bound : Nat) : Yields (toNatBelow bound) (· < bound) := by
  intro json value read
  unfold toNatBelow at read
  split at read
  · split at read
    · next isBelow => exact Except.ok.inj read ▸ isBelow
    · cases read
  · cases read
  · cases read

theorem Yields.option (yields : Yields decode property) :
    Yields (toOption decode) fun value? => ∀ value, value? = some value → property value := by
  intro json value? read value same
  subst same
  unfold toOption at read
  split at read
  · cases read
  · cases reads : decode json with
    | error fault => simp [reads, Except.map] at read
    | ok other =>
      rw [reads] at read
      obtain rfl := Option.some.inj (Except.ok.inj read)
      exact yields json other reads

theorem Yields.list (yields : Yields decode property) :
    Yields (toList decode) fun values => ∀ value ∈ values, property value := by
  intro json values read value member
  unfold toList at read
  split at read
  · obtain ⟨item, reads⟩ := exists_of_mapM read member
    exact yields item value reads
  · cases read

theorem Yields.members (yields : Yields decode property) :
    Yields (toMembers decode) fun entries => ∀ entry ∈ entries, property entry.2 := by
  intro json entries read entry member
  unfold toMembers at read
  split at read
  · obtain ⟨⟨key, item⟩, reads⟩ := exists_of_mapM read member
    cases found : decode item with
    | error fault => simp [found, Except.map] at reads
    | ok value =>
      dsimp only at reads
      rw [found] at reads
      obtain rfl := Except.ok.inj reads
      exact yields item value found
  · cases read

variable {fields : Fields} {name : String}

theorem Yields.required (yields : Yields decode property) {value : α}
    (read : fields.required name decode = .ok value) : property value := by
  unfold Fields.required at read
  split at read
  · exact yields _ value read
  · cases read

theorem Yields.defaulting (yields : Yields decode property) {usual value : α}
    (ofUsual : property usual) (read : fields.defaulting name usual decode = .ok value) :
    property value := by
  unfold Fields.defaulting at read
  split at read
  · exact yields _ value read
  · exact Except.ok.inj read ▸ ofUsual

theorem Yields.optional (yields : Yields decode property) {value? : Option α}
    (read : fields.optional name decode = .ok value?) :
    ∀ value, value? = some value → property value :=
  yields.option.defaulting (by nofun) read

theorem Yields.nullable (yields : Yields decode property) {value? : Option α}
    (read : fields.nullable name decode = .ok value?) :
    ∀ value, value? = some value → property value := by
  unfold Fields.nullable at read
  split at read
  · exact yields.option _ _ read
  · split at read
    · cases read
    · obtain rfl := Except.ok.inj read
      exact nofun

theorem Yields.listOf (yields : Yields decode property) {values : List α}
    (read : fields.listOf name decode = .ok values) : ∀ value ∈ values, property value :=
  yields.list.defaulting (by nofun) read

end Yields

end SchemaAssessment.Json
