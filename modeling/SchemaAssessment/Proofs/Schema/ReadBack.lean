/-
The parts of components are read back. Each part is written as a record or as a choice, and
what is in it is read back in its place: what is left out is what is taken where nothing is
given. A simple type is read back by any number of levels that is greater than the depth of
its JSON value, which is how deep it is read by those who hold it.
-/

import SchemaAssessment.Proofs.Schema.Regular

namespace SchemaAssessment

open Json (Reads record member_eq memberOf_eq memberOfList_eq ite_eq_slot read_record reads_record
  reads_text reads_bool reads_natBelow reads_named reads_variant toNamed depth_lt_record
  depth_lt_variant depth_lt_array)

/-! ### Named values -/

theorem ProcessContents.reads (contents : ProcessContents) :
    Reads ofJson (.string contents.name) contents :=
  reads_named (by cases contents <;> rfl)

theorem DerivationMethod.reads (method : DerivationMethod) :
    Reads (toNamed names) (.string method.name) method :=
  reads_named (by cases method <;> rfl)

theorem ContentKind.reads (kind : ContentKind) : Reads (toNamed names) (.string kind.name) kind :=
  reads_named (by cases kind <;> rfl)

theorem Compositor.reads (compositor : Compositor) :
    Reads (toNamed names) (.string compositor.name) compositor :=
  reads_named (by cases compositor <;> rfl)

theorem UseMode.reads (mode : UseMode) : Reads (toNamed names) (.string mode.name) mode :=
  reads_named (by cases mode <;> rfl)

theorem IdentityKind.reads (kind : IdentityKind) :
    Reads (toNamed names) (.string kind.name) kind :=
  reads_named (by cases kind <;> rfl)

theorem WhiteSpace.reads (mode : WhiteSpace) : Reads (toNamed names) (.string mode.name) mode :=
  reads_named (by cases mode <;> rfl)

theorem Datatype.reads (datatype : Datatype) :
    Reads ofJson (.string datatype.localName) datatype := by
  have each : ∀ type ∈ all, (all.map fun type => (type.localName, type)).lookup type.localName =
      some type := by decide +kernel
  have listed : datatype ∈ all := by cases datatype <;> decide
  exact reads_named (each datatype listed)

/-! ### Names and simple parts -/

/-- Items that are put in one by one stay in their order, if each is put behind the others. -/
theorem foldl_eq_append {α : Type} {put : List α → α → List α} (fits : List α → Prop)
    (puts : ∀ done item rest, fits (done ++ item :: rest) → put done item = done ++ [item])
    {done items : List α} (all : fits (done ++ items)) : items.foldl put done = done ++ items := by
  induction items generalizing done with
  | nil => exact (List.append_nil done).symm
  | cons item rest ofRest =>
    rw [List.foldl_cons, puts done item rest all]
    rw [List.append_cons] at all
    rw [ofRest all, List.append_assoc]
    rfl

theorem ExpandedName.toJson_eq (name : ExpandedName) : name.toJson = record [
    ("namespace", name.space.map .string), ("local_name", some (.string name.localName))] := by
  simp only [toJson, memberOf_eq, member_eq]
  rfl

theorem ExpandedName.reads (name : ExpandedName) : Reads ofJson name.toJson name := by
  rw [toJson_eq]
  refine reads_record rfl rfl (by decide) fun fields gives => ?_
  have space : fields.optional "namespace" Json.toText = .ok name.space :=
    gives.optional (by simp) fun text _ => reads_text text
  have localName : fields.required "local_name" Json.toText = .ok name.localName :=
    gives.required (by simp) (reads_text _)
  rw [space, localName]
  rfl

theorem Occurs.reads {occurs : Occurs} (regular : occurs.isRegular = true) :
    Reads ofJson occurs.toJson occurs := by
  simp only [isRegular, Bool.and_eq_true, decide_eq_true_eq, Option.all_eq_true] at regular
  have written : occurs.toJson =
      record [("min", some (.nat occurs.min)), ("max", some (.ofOption .nat occurs.max))] := rfl
  rw [written]
  refine reads_record rfl rfl (by decide) fun fields gives => ?_
  have least : fields.required "min" Json.toCount = .ok occurs.min :=
    gives.required (by simp) (reads_natBelow regular.1)
  have most : fields.nullable "max" Json.toCount = .ok occurs.max :=
    gives.nullable (by simp) fun most given => reads_natBelow (regular.2 most given)
  rw [least, most]
  rfl

theorem NamespaceConstraint.insertSorted_of_above {space : String} {sorted : List String}
    (above : ∀ other ∈ sorted, other < space) : insertSorted space sorted = sorted ++ [space] := by
  induction sorted with
  | nil => rfl
  | cons first rest ofRest =>
    obtain ⟨here, later⟩ := List.forall_mem_cons.mp above
    unfold insertSorted
    rw [if_neg (by simpa using here.ne'), if_neg here.not_gt, ofRest later]
    rfl

theorem NamespaceConstraint.reads {constraint : NamespaceConstraint}
    (regular : constraint.isRegular = true) : Reads ofJson constraint.toJson constraint := by
  cases constraint with
  | any => exact ⟨nofun, by decide⟩
  | other target =>
    refine ⟨nofun, ?_⟩
    show (Json.toFields ["target_namespace"]
      (record [("target_namespace", some (.ofOption .string target))]) >>= fun fields =>
        fields.nullable "target_namespace" Json.toText >>= fun target => .ok (other target)) = _
    refine read_record rfl (by decide) fun fields gives => ?_
    have space : fields.nullable "target_namespace" Json.toText = .ok target :=
      gives.nullable (by simp) fun text _ => reads_text text
    rw [space]
    rfl
  | among spaces =>
    have read : Json.toList Json.toText (.array (spaces.map .string)) = .ok spaces :=
      (Json.reads_list (Json.reads_map fun text _ => reads_text text)).reads
    refine ⟨nofun, ?_⟩
    show (Json.toList Json.toText (.array (spaces.map .string)) >>= fun spaces =>
      .ok (ofSpaces spaces)) = _
    rw [read]
    have ascending : ([] ++ spaces).Pairwise (· < ·) := of_decide_eq_true regular
    have kept := foldl_eq_append (List.Pairwise (· < ·))
      (fun done space rest ascending => insertSorted_of_above fun other member =>
        (List.pairwise_append.mp ascending).2.2 other member space List.mem_cons_self) ascending
    exact congrArg (fun spaces => Except.ok (among spaces)) kept

theorem Wildcard.reads {wildcard : Wildcard} (regular : wildcard.isRegular = true) :
    Reads ofJson wildcard.toJson wildcard := by
  obtain ⟨ofSpaces, ofOccurs⟩ := Bool.and_eq_true_iff.mp regular
  have written : wildcard.toJson = record [("namespace", some wildcard.spaces.toJson),
      ("process_contents", some (.string wildcard.processContents.name)),
      ("occurs", some wildcard.occurs.toJson)] := rfl
  rw [written]
  refine reads_record rfl rfl (by decide) fun fields gives => ?_
  have spaces : fields.defaulting "namespace" .any NamespaceConstraint.ofJson =
      .ok wildcard.spaces :=
    gives.defaulting_of_given (by simp) (NamespaceConstraint.reads ofSpaces)
  have contents : fields.defaulting "process_contents" .strict ProcessContents.ofJson =
      .ok wildcard.processContents :=
    gives.defaulting_of_given (by simp) (ProcessContents.reads _)
  have occurs : fields.defaulting "occurs" .once Occurs.ofJson = .ok wildcard.occurs :=
    gives.defaulting_of_given (by simp) (Occurs.reads ofOccurs)
  rw [spaces, contents, occurs]
  rfl

theorem ValueConstraint.reads (constraint : ValueConstraint) :
    Reads ofJson constraint.toJson constraint := by
  cases constraint <;> exact ⟨nofun, rfl⟩

theorem Block.reads (block : Block) : Reads ofJson block.toJson block := by
  have written : block.toJson = record [("restriction", some (.bool block.restriction)),
      ("extension", some (.bool block.extension)),
      ("substitution", some (.bool block.substitution))] := rfl
  rw [written]
  refine reads_record rfl rfl (by decide) fun fields gives => ?_
  have restriction : fields.defaulting "restriction" false Json.toBool = .ok block.restriction :=
    gives.defaulting_of_given (by simp) (reads_bool _)
  have isExtension : fields.defaulting "extension" false Json.toBool = .ok block.extension :=
    gives.defaulting_of_given (by simp) (reads_bool _)
  have substitution : fields.defaulting "substitution" false Json.toBool =
      .ok block.substitution :=
    gives.defaulting_of_given (by simp) (reads_bool _)
  rw [restriction, isExtension, substitution]
  rfl

theorem IdentityConstraint.insertBinding_of_above {prefixName space : String}
    {bindings : List (String × String)}
    (above : ∀ binding ∈ bindings, binding.1 < prefixName) :
    insertBinding prefixName space bindings = bindings ++ [(prefixName, space)] := by
  induction bindings with
  | nil => rfl
  | cons binding rest ofRest =>
    obtain ⟨other, bound⟩ := binding
    obtain ⟨here, later⟩ := List.forall_mem_cons.mp above
    unfold insertBinding
    rw [if_neg (by simpa using here.ne'), if_neg here.not_gt, ofRest later]
    rfl

theorem IdentityConstraint.toJson_eq (identity : IdentityConstraint) : identity.toJson = record [
    ("name", some identity.name.toJson),
    ("kind", some (.string identity.kind.name)),
    ("selector", some (.string identity.selector)),
    ("fields", some (.array (identity.fields.map .string))),
    ("refer", identity.refer.map ExpandedName.toJson),
    ("namespaces", if identity.bindings.isEmpty then none
      else some (bindingsToJson identity.bindings))] := by
  simp only [toJson, memberOf_eq, member_eq, ite_eq_slot]
  rfl

theorem IdentityConstraint.reads {identity : IdentityConstraint}
    (regular : identity.isRegular = true) : Reads ofJson identity.toJson identity := by
  have ascending : (([] ++ identity.bindings).map Prod.fst).Pairwise (· < ·) :=
    of_decide_eq_true regular
  rw [toJson_eq]
  refine reads_record rfl rfl (by decide) fun fields gives => ?_
  have name : fields.required "name" ExpandedName.ofJson = .ok identity.name :=
    gives.required (by simp) identity.name.reads
  have kind : fields.required "kind" (Json.toNamed IdentityKind.names) = .ok identity.kind :=
    gives.required (by simp) identity.kind.reads
  have selector : fields.required "selector" Json.toText = .ok identity.selector :=
    gives.required (by simp) (reads_text _)
  have paths : fields.required "fields" (Json.toList Json.toText) = .ok identity.fields :=
    gives.required (by simp) (Json.reads_list (Json.reads_map fun text _ => reads_text text))
  have refer : fields.optional "refer" ExpandedName.ofJson = .ok identity.refer :=
    gives.optional (by simp) fun name _ => name.reads
  have entries : Reads (Json.toMembers Json.toText) (bindingsToJson identity.bindings)
      identity.bindings :=
    Json.reads_members fun binding _ => reads_text _
  have bindings : fields.defaulting "namespaces" [] (Json.toMembers Json.toText) =
      .ok identity.bindings :=
    gives.defaulting_unless (by simp) List.isEmpty_iff.mp fun _ => entries
  rw [name, kind, selector, paths, refer, bindings]
  have kept := foldl_eq_append (fun bindings => (bindings.map Prod.fst).Pairwise (· < ·))
    (fun done binding rest ascending => insertBinding_of_above fun other member =>
      (List.pairwise_append.mp (List.pairwise_map.mp ascending)).2.2 other member binding
        List.mem_cons_self) ascending
  exact congrArg (fun bindings => Except.ok { identity with bindings }) kept

/-! ### Simple types -/

theorem Facets.toJson_eq (facets : Facets) : facets.toJson = record [
    ("white_space", facets.whiteSpace.map fun mode => .string mode.name),
    ("length", facets.length.map .nat),
    ("min_length", facets.minLength.map .nat),
    ("max_length", facets.maxLength.map .nat),
    ("patterns", if facets.patterns.isEmpty then none
      else some (.array (facets.patterns.map .string))),
    ("enumeration", if facets.enumeration.isEmpty then none
      else some (.array (facets.enumeration.map .string))),
    ("min_inclusive", facets.minInclusive.map .string),
    ("max_inclusive", facets.maxInclusive.map .string),
    ("min_exclusive", facets.minExclusive.map .string),
    ("max_exclusive", facets.maxExclusive.map .string),
    ("total_digits", facets.totalDigits.map .nat),
    ("fraction_digits", facets.fractionDigits.map .nat)] := by
  simp only [toJson, memberOf_eq, memberOfList_eq]
  rfl

theorem Facets.reads {facets : Facets} (regular : facets.isRegular = true) :
    Reads ofJson facets.toJson facets := by
  simp only [isRegular, List.all_cons, List.all_nil, Bool.and_true, Bool.and_eq_true,
    Option.all_eq_true, decide_eq_true_eq] at regular
  obtain ⟨⟨ofLength, ofLeast, ofMost⟩, ofTotal, ofFraction⟩ := regular
  rw [toJson_eq]
  refine reads_record rfl rfl (by decide) fun fields gives => ?_
  have text {name : String} {value? : Option String}
      (member : (name, value?.map Json.string) ∈ _) :
      fields.optional name Json.toText = .ok value? :=
    gives.optional member fun text _ => reads_text text
  have texts {name : String} {values : List String}
      (member : (name, if values.isEmpty then none
        else some (Json.array (values.map Json.string))) ∈ _) :
      fields.listOf name Json.toText = .ok values :=
    gives.listOf member (Json.reads_map fun text _ => reads_text text)
  have whiteSpace : fields.optional "white_space" (Json.toNamed WhiteSpace.names) =
      .ok facets.whiteSpace :=
    gives.optional (by simp) fun mode _ => mode.reads
  have length : fields.optional "length" Json.toSize = .ok facets.length :=
    gives.optional (by simp) fun length given => reads_natBelow (ofLength length given)
  have least : fields.optional "min_length" Json.toSize = .ok facets.minLength :=
    gives.optional (by simp) fun length given => reads_natBelow (ofLeast length given)
  have most : fields.optional "max_length" Json.toSize = .ok facets.maxLength :=
    gives.optional (by simp) fun length given => reads_natBelow (ofMost length given)
  have total : fields.optional "total_digits" Json.toCount = .ok facets.totalDigits :=
    gives.optional (by simp) fun digits given => reads_natBelow (ofTotal digits given)
  have fraction : fields.optional "fraction_digits" Json.toCount = .ok facets.fractionDigits :=
    gives.optional (by simp) fun digits given => reads_natBelow (ofFraction digits given)
  have patterns : fields.listOf "patterns" Json.toText = .ok facets.patterns := texts (by simp)
  have enumeration : fields.listOf "enumeration" Json.toText = .ok facets.enumeration :=
    texts (by simp)
  have minInclusive : fields.optional "min_inclusive" Json.toText = .ok facets.minInclusive :=
    text (by simp)
  have maxInclusive : fields.optional "max_inclusive" Json.toText = .ok facets.maxInclusive :=
    text (by simp)
  have minExclusive : fields.optional "min_exclusive" Json.toText = .ok facets.minExclusive :=
    text (by simp)
  have maxExclusive : fields.optional "max_exclusive" Json.toText = .ok facets.maxExclusive :=
    text (by simp)
  rw [whiteSpace, length, least, most, patterns, enumeration, minInclusive, maxInclusive,
    minExclusive, maxExclusive, total, fraction]
  rfl

theorem Facets.eq_of_isEmpty {facets : Facets} (isEmpty : facets.isEmpty = true) : facets = {} :=
  eq_of_beq isEmpty

theorem SimpleType.toJson_eq (name base : Option ExpandedName) (variety : Variety)
    (facets : Facets) : (SimpleType.mk name base variety facets).toJson = record [
      ("name", name.map ExpandedName.toJson),
      ("base", base.map ExpandedName.toJson),
      ("variety", some variety.toJson),
      ("facets", if facets.isEmpty then none else some facets.toJson)] := by
  simp only [toJson, memberOf_eq, member_eq, ite_eq_slot]
  rfl

mutual

/-- A simple type is read back by more levels than its JSON value is deep. -/
theorem SimpleType.readsWithin : ∀ {type : SimpleType}, type.isRegular = true → ∀ {levels : Nat},
    type.toJson.depth < levels → Reads (SimpleType.ofJsonWithin levels) type.toJson type
  | .mk name base variety facets, regular, levels + 1, within => by
    rw [SimpleType.isRegular, Bool.and_eq_true] at regular
    rw [SimpleType.toJson_eq] at within ⊢
    refine reads_record rfl rfl (by decide) fun fields gives => ?_
    have below : variety.toJson.depth < levels :=
      (depth_lt_record "variety" (by simp)).trans_le (Nat.le_of_lt_succ within)
    have readName : fields.optional "name" ExpandedName.ofJson = .ok name :=
      gives.optional (by simp) fun name _ => name.reads
    have readBase : fields.optional "base" ExpandedName.ofJson = .ok base :=
      gives.optional (by simp) fun base _ => base.reads
    have readVariety : fields.required "variety"
        (Variety.ofJsonWith (SimpleType.ofJsonWithin levels)) = .ok variety :=
      gives.required (by simp) (Variety.readsWithin regular.1 below)
    have readFacets : fields.defaulting "facets" {} Facets.ofJson = .ok facets :=
      gives.defaulting_unless (by simp) Facets.eq_of_isEmpty fun _ => Facets.reads regular.2
    rw [readName, readBase, readVariety, readFacets]
    rfl

theorem Variety.readsWithin : ∀ {variety : Variety}, variety.isRegular = true → ∀ {levels : Nat},
    variety.toJson.depth < levels →
      Reads (Variety.ofJsonWith (SimpleType.ofJsonWithin levels)) variety.toJson variety
  | .atomic datatype, _, levels, _ => by
    rw [Variety.toJson]
    exact reads_variant datatype.reads rfl
  | .list item, regular, levels, within => by
    rw [Variety.isRegular] at regular
    rw [Variety.toJson] at within ⊢
    have read := SimpleType.readsWithin regular ((depth_lt_variant "list" _).trans within)
    exact reads_variant read rfl
  | .union members, regular, levels, within => by
    rw [Variety.isRegular] at regular
    rw [Variety.toJson] at within ⊢
    have each := SimpleType.readsEachWithin regular fun json member =>
      (depth_lt_array member).trans ((depth_lt_variant "union" _).trans within)
    exact reads_variant (Json.reads_list each) rfl

theorem SimpleType.readsEachWithin : ∀ {types : List SimpleType},
    SimpleType.areRegular types = true → ∀ {levels : Nat},
      (∀ json ∈ SimpleType.listToJson types, json.depth < levels) →
        List.Forall₂ (Reads (SimpleType.ofJsonWithin levels)) (SimpleType.listToJson types) types
  | [], _, _, _ => .nil
  | type :: rest, regular, levels, within => by
    rw [SimpleType.areRegular, Bool.and_eq_true] at regular
    obtain ⟨here, later⟩ := List.forall_mem_cons.mp within
    exact .cons (SimpleType.readsWithin regular.1 here)
      (SimpleType.readsEachWithin regular.2 later)

end

theorem SimpleType.reads {type : SimpleType} (regular : type.isRegular = true) :
    Reads ofJson type.toJson type := by
  obtain ⟨isPresent, reads⟩ := SimpleType.readsWithin regular (Nat.lt_succ_self type.toJson.depth)
  exact ⟨isPresent, reads⟩

end SchemaAssessment
