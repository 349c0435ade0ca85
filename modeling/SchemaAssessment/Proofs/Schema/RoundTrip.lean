/-
A grammar is read back from its JSON value just if it is regular. Types hold declarations and
declarations hold types, so that each of them is read back by any number of levels that is
greater than the depth of its JSON value; a grammar gives every declaration as many.
-/

import SchemaAssessment.Proofs.Schema.ReadBack

namespace SchemaAssessment

open Json (Reads record member_eq memberOf_eq memberOfList_eq ite_eq_slot read_record reads_record
  reads_text reads_bool reads_variant toNamed depth_lt_record depth_lt_variant depth_lt_array)

/-! ### Declarations and complex types -/

theorem TypeReference.memberToJson_eq (key : String) (type? : Option TypeReference) :
    memberToJson key type? = Json.slot key (type?.map toJson) := by
  cases type? <;> rfl

theorem ComplexType.toJson_eq (type : ComplexType) : type.toJson = record [
    ("name", type.name.map ExpandedName.toJson),
    ("base", type.base.map ExpandedName.toJson),
    ("derivation", some (.string type.derivation.name)),
    ("content_type", some (.string type.content.name)),
    ("particle", type.group.map Group.toJson),
    ("simple_type", type.simpleType.map TypeReference.toJson),
    ("attributes", if type.attributes.isEmpty then none
      else some (AttributeGroup.toJson type.attributes)),
    ("abstract", some (.bool type.isAbstract)),
    ("block", some type.block.toJson)] := by
  obtain ⟨name, base, derivation, content, group, simpleType, attributes, isAbstract, block⟩ := type
  have ofGroup : Group.memberToJson group = Json.slot "particle" (group.map Group.toJson) := by
    cases group <;> rfl
  simp only [toJson, memberOf_eq, member_eq, ite_eq_slot, TypeReference.memberToJson_eq, ofGroup]
  rfl

theorem Group.toJson_eq (compositor : Compositor) (particles : List (Particle ElementTerm))
    (occurs : Occurs) : Group.toJson (.mk compositor particles occurs) = record [
      ("model", some (.string compositor.name)),
      ("particles", some (.array (Particle.listToJson particles))),
      ("occurs", some occurs.toJson)] := by
  rw [toJson]
  rfl

theorem ElementDeclaration.toJson_eq (declaration : ElementDeclaration) :
    declaration.toJson = record [
      ("name", some declaration.name.toJson),
      ("type", declaration.type.map TypeReference.toJson),
      ("nillable", some (.bool declaration.isNillable)),
      ("abstract", some (.bool declaration.isAbstract)),
      ("value_constraint", declaration.constraint.map ValueConstraint.toJson),
      ("block", some declaration.block.toJson),
      ("substitution_group", declaration.substitutionGroup.map ExpandedName.toJson),
      ("identities", if declaration.identities.isEmpty then none
        else some (.array (declaration.identities.map IdentityConstraint.toJson)))] := by
  obtain ⟨name, type, isNillable, isAbstract, constraint, block, substitutionGroup, identities⟩ :=
    declaration
  simp only [toJson, memberOf_eq, member_eq, memberOfList_eq, TypeReference.memberToJson_eq]
  rfl

theorem AttributeDeclaration.toJson_eq (declaration : AttributeDeclaration TypeReference) :
    AttributeDeclaration.toJson declaration = record [
      ("name", some declaration.name.toJson),
      ("type", declaration.type.map TypeReference.toJson),
      ("value_constraint", declaration.constraint.map ValueConstraint.toJson)] := by
  obtain ⟨name, type, constraint⟩ := declaration
  simp only [toJson, memberOf_eq, member_eq, TypeReference.memberToJson_eq]
  rfl

theorem AttributeUse.toJson_eq (use : AttributeUse TypeReference) :
    AttributeUse.toJson use = record [
      ("attribute", some (AttributeDeclaration.toJson use.declaration)),
      ("use", some (.string use.mode.name)),
      ("value_constraint", use.constraint.map ValueConstraint.toJson)] := by
  obtain ⟨declaration, mode, constraint⟩ := use
  simp only [toJson, memberOf_eq, member_eq]
  rfl

theorem AttributeGroup.toJson_eq (attributes : AttributeGroup TypeReference) :
    AttributeGroup.toJson attributes = record [
      ("uses", if attributes.uses.isEmpty then none
        else some (.array (AttributeUse.listToJson attributes.uses))),
      ("wildcard", attributes.wildcard.map Wildcard.toJson)] := by
  obtain ⟨uses, wildcard⟩ := attributes
  simp only [toJson, memberOf_eq, member_eq, ite_eq_slot]
  rfl

theorem AttributeGroup.eq_of_isEmpty {attributes : AttributeGroup TypeReference}
    (isEmpty : attributes.isEmpty = true) : attributes = {} := by
  obtain ⟨uses, wildcard⟩ := attributes
  obtain ⟨noUses, noWildcard⟩ := Bool.and_eq_true_iff.mp isEmpty
  obtain rfl : uses = [] := List.isEmpty_iff.mp noUses
  obtain rfl : wildcard = none := Option.isNone_iff_eq_none.mp noWildcard
  rfl

-- Levels of types are used up by references alone, so that the bound on the depth is handed down
-- from a type through its groups and declarations to the references that they hold.
mutual

/-- A reference to a type is read back by more levels than its JSON value is deep. -/
theorem TypeReference.readsWithin : ∀ {type : TypeReference}, type.isRegular = true →
    ∀ {levels : Nat}, type.toJson.depth < levels →
      Reads (TypeReference.ofJsonWithin levels) type.toJson type
  | .named name, _, levels + 1, _ => by
    rw [TypeReference.toJson]
    exact reads_variant name.reads rfl
  | .simple type, regular, levels + 1, _ => by
    rw [TypeReference.isRegular] at regular
    rw [TypeReference.toJson]
    exact reads_variant (SimpleType.reads regular) rfl
  | .complex type, regular, levels + 1, within => by
    rw [TypeReference.isRegular] at regular
    rw [TypeReference.toJson] at within ⊢
    have read := ComplexType.readsWithin regular
      ((depth_lt_variant "complex" _).trans_le (Nat.le_of_lt_succ within))
    exact reads_variant read rfl

theorem TypeReference.readsIfAnyWithin : ∀ {type? : Option TypeReference},
    TypeReference.isRegularIfAny type? = true → ∀ {levels : Nat},
      (∀ type, type? = some type → type.toJson.depth < levels) →
        ∀ type, type? = some type → Reads (TypeReference.ofJsonWithin levels) type.toJson type
  | none, _, _, _ => nofun
  | some type, regular, levels, within => by
    rw [TypeReference.isRegularIfAny] at regular
    rintro _ ⟨⟩
    exact TypeReference.readsWithin regular (within type rfl)

theorem ComplexType.readsWithin : ∀ {type : ComplexType}, type.isRegular = true →
    ∀ {levels : Nat}, type.toJson.depth < levels →
      Reads (ComplexType.ofJsonWith (TypeReference.ofJsonWithin levels)) type.toJson type
  | ⟨name, base, derivation, content, group, simpleType, attributes, isAbstract, block⟩, regular,
      levels, within => by
    rw [ComplexType.isRegular, Bool.and_eq_true, Bool.and_eq_true] at regular
    rw [ComplexType.toJson_eq] at within ⊢
    dsimp only at within ⊢
    refine reads_record rfl rfl (by decide) fun fields gives => ?_
    have readName : fields.optional "name" ExpandedName.ofJson = .ok name :=
      gives.optional (by simp) fun name _ => name.reads
    have readBase : fields.optional "base" ExpandedName.ofJson = .ok base :=
      gives.optional (by simp) fun base _ => base.reads
    have readDerivation : fields.defaulting "derivation" .restriction
        (toNamed DerivationMethod.names) = .ok derivation :=
      gives.defaulting_of_given (by simp) derivation.reads
    have readContent : fields.required "content_type" (toNamed ContentKind.names) = .ok content :=
      gives.required (by simp) content.reads
    have readGroup : fields.optional "particle" (Group.ofJsonWith
        (ElementTerm.ofJsonWith (TypeReference.ofJsonWithin levels))) = .ok group :=
      gives.optional (by simp) (Group.readsIfAnyWithin regular.1.1 fun group given =>
        (depth_lt_record "particle" (by simp [given])).trans within)
    have readSimpleType : fields.optional "simple_type" (TypeReference.ofJsonWithin levels) =
        .ok simpleType :=
      gives.optional (by simp) (TypeReference.readsIfAnyWithin regular.1.2 fun type given =>
        (depth_lt_record "simple_type" (by simp [given])).trans within)
    have readAttributes : fields.defaulting "attributes" {}
        (AttributeGroup.ofJsonWith (TypeReference.ofJsonWithin levels)) = .ok attributes :=
      gives.defaulting_unless (by simp) AttributeGroup.eq_of_isEmpty fun given =>
        AttributeGroup.readsWithin regular.2
          ((depth_lt_record "attributes" (by simp [given])).trans within)
    have readAbstract : fields.defaulting "abstract" false Json.toBool = .ok isAbstract :=
      gives.defaulting_of_given (by simp) (reads_bool _)
    have readBlock : fields.defaulting "block" .nothing Block.ofJson = .ok block :=
      gives.defaulting_of_given (by simp) block.reads
    rw [readName, readBase, readDerivation, readContent, readGroup, readSimpleType, readAttributes,
      readAbstract, readBlock]
    rfl

theorem Group.readsIfAnyWithin : ∀ {group? : Option (Group ElementTerm)},
    Group.isRegularIfAny group? = true → ∀ {levels : Nat},
      (∀ group, group? = some group → (Group.toJson group).depth < levels) →
        ∀ group, group? = some group → Reads (Group.ofJsonWith
          (ElementTerm.ofJsonWith (TypeReference.ofJsonWithin levels))) (Group.toJson group) group
  | none, _, _, _ => nofun
  | some group, regular, levels, within => by
    rw [Group.isRegularIfAny] at regular
    rintro _ ⟨⟩
    obtain ⟨isPresent, reads⟩ :=
      Group.readsWithin regular (within group rfl) (Nat.lt_succ_self (Group.toJson group).depth)
    exact ⟨isPresent, reads⟩

/-- A group is read back by more levels than its JSON value is deep. The levels of groups are
counted apart from those of types. -/
theorem Group.readsWithin : ∀ {group : Group ElementTerm}, Group.isRegular group = true →
    ∀ {levels bound : Nat}, (Group.toJson group).depth < levels →
      (Group.toJson group).depth < bound →
        Reads (Group.ofJsonWithin
          (ElementTerm.ofJsonWith (TypeReference.ofJsonWithin levels)) bound)
            (Group.toJson group) group
  | .mk compositor particles occurs, regular, levels, bound + 1, within, bounded => by
    rw [Group.isRegular, Bool.and_eq_true] at regular
    rw [Group.toJson_eq] at within bounded ⊢
    refine reads_record rfl rfl (by decide) fun fields gives => ?_
    have each := Particle.readsEachWithin regular.1
      (fun json member =>
        (depth_lt_array member).trans ((depth_lt_record "particles" (by simp)).trans within))
      fun json member => (depth_lt_array member).trans
        ((depth_lt_record "particles" (by simp)).trans_le (Nat.le_of_lt_succ bounded))
    have readCompositor : fields.required "model" (toNamed Compositor.names) = .ok compositor :=
      gives.required (by simp) compositor.reads
    have readParticles : fields.listOf "particles" (Particle.ofJsonWith
        (ElementTerm.ofJsonWith (TypeReference.ofJsonWithin levels))
        (Group.ofJsonWithin (ElementTerm.ofJsonWith (TypeReference.ofJsonWithin levels))
          bound)) = .ok particles :=
      gives.defaulting_of_given (by simp) (Json.reads_list each)
    have readOccurs : fields.defaulting "occurs" .once Occurs.ofJson = .ok occurs :=
      gives.defaulting_of_given (by simp) (Occurs.reads regular.2)
    rw [readCompositor, readParticles, readOccurs]
    rfl

theorem Particle.readsEachWithin : ∀ {particles : List (Particle ElementTerm)},
    Particle.areRegular particles = true → ∀ {levels bound : Nat},
      (∀ json ∈ Particle.listToJson particles, json.depth < levels) →
        (∀ json ∈ Particle.listToJson particles, json.depth < bound) →
          List.Forall₂ (Reads (Particle.ofJsonWith
              (ElementTerm.ofJsonWith (TypeReference.ofJsonWithin levels))
              (Group.ofJsonWithin
                (ElementTerm.ofJsonWith (TypeReference.ofJsonWithin levels)) bound)))
            (Particle.listToJson particles) particles
  | [], _, _, _, _, _ => .nil
  | particle :: rest, regular, levels, bound, within, bounded => by
    rw [Particle.areRegular, Bool.and_eq_true] at regular
    rw [Particle.listToJson] at within bounded ⊢
    obtain ⟨here, later⟩ := List.forall_mem_cons.mp within
    obtain ⟨boundedHere, boundedLater⟩ := List.forall_mem_cons.mp bounded
    exact .cons (Particle.readsWithin regular.1 here boundedHere)
      (Particle.readsEachWithin regular.2 later boundedLater)

theorem Particle.readsWithin : ∀ {particle : Particle ElementTerm},
    Particle.isRegular particle = true → ∀ {levels bound : Nat},
      (Particle.toJson particle).depth < levels → (Particle.toJson particle).depth < bound →
        Reads (Particle.ofJsonWith
            (ElementTerm.ofJsonWith (TypeReference.ofJsonWithin levels))
            (Group.ofJsonWithin (ElementTerm.ofJsonWith (TypeReference.ofJsonWithin levels)) bound))
          (Particle.toJson particle) particle
  | .element term occurs, regular, levels, bound, within, _ => by
    rw [Particle.isRegular, Bool.and_eq_true] at regular
    rw [Particle.toJson] at within ⊢
    have inside : term.toJson.depth <
        (record [("term", some term.toJson), ("occurs", some occurs.toJson)]).depth :=
      depth_lt_record "term" (by simp)
    have below := inside.trans ((depth_lt_variant "element" _).trans within)
    refine ⟨nofun, ?_⟩
    show (Json.toFields ["term", "occurs"]
      (record [("term", some term.toJson), ("occurs", some occurs.toJson)]) >>= fun fields =>
        fields.required "term" (ElementTerm.ofJsonWith (TypeReference.ofJsonWithin levels)) >>=
          fun term => fields.defaulting "occurs" .once Occurs.ofJson >>=
            fun occurs => Except.ok (Particle.element term occurs)) = _
    refine read_record rfl (by decide) fun fields gives => ?_
    have readTerm : fields.required "term"
        (ElementTerm.ofJsonWith (TypeReference.ofJsonWithin levels)) = .ok term :=
      gives.required (by simp) (ElementTerm.readsWithin regular.1 below)
    have readOccurs : fields.defaulting "occurs" .once Occurs.ofJson = .ok occurs :=
      gives.defaulting_of_given (by simp) (Occurs.reads regular.2)
    rw [readTerm, readOccurs]
    rfl
  | .any wildcard, regular, levels, bound, _, _ => by
    rw [Particle.isRegular] at regular
    rw [Particle.toJson]
    exact reads_variant (Wildcard.reads regular) rfl
  | .nested group, regular, levels, bound, within, bounded => by
    rw [Particle.isRegular] at regular
    rw [Particle.toJson] at within bounded ⊢
    have read := Group.readsWithin regular ((depth_lt_variant "group" _).trans within)
      ((depth_lt_variant "group" _).trans bounded)
    exact reads_variant read rfl

theorem ElementTerm.readsWithin : ∀ {term : ElementTerm}, term.isRegular = true →
    ∀ {levels : Nat}, term.toJson.depth < levels →
      Reads (ElementTerm.ofJsonWith (TypeReference.ofJsonWithin levels)) term.toJson term
  | .declared declaration, regular, levels, within => by
    rw [ElementTerm.isRegular] at regular
    rw [ElementTerm.toJson] at within ⊢
    have read := ElementDeclaration.readsWithin regular ((depth_lt_variant "local" _).trans within)
    exact reads_variant read rfl
  | .global name, _, levels, _ => by
    rw [ElementTerm.toJson]
    exact reads_variant name.reads rfl

theorem ElementDeclaration.readsWithin : ∀ {declaration : ElementDeclaration},
    declaration.isRegular = true → ∀ {levels : Nat}, declaration.toJson.depth < levels →
      Reads (ElementDeclaration.ofJsonWith (TypeReference.ofJsonWithin levels)) declaration.toJson
        declaration
  | ⟨name, type, isNillable, isAbstract, constraint, block, substitutionGroup, identities⟩,
      regular, levels, within => by
    rw [ElementDeclaration.isRegular, Bool.and_eq_true, List.all_eq_true] at regular
    rw [ElementDeclaration.toJson_eq] at within ⊢
    dsimp only at within ⊢
    refine reads_record rfl rfl (by decide) fun fields gives => ?_
    have readName : fields.required "name" ExpandedName.ofJson = .ok name :=
      gives.required (by simp) name.reads
    have readType : fields.optional "type" (TypeReference.ofJsonWithin levels) = .ok type :=
      gives.optional (by simp) (TypeReference.readsIfAnyWithin regular.1 fun type given =>
        (depth_lt_record "type" (by simp [given])).trans within)
    have readNillable : fields.defaulting "nillable" false Json.toBool = .ok isNillable :=
      gives.defaulting_of_given (by simp) (reads_bool _)
    have readAbstract : fields.defaulting "abstract" false Json.toBool = .ok isAbstract :=
      gives.defaulting_of_given (by simp) (reads_bool _)
    have readConstraint : fields.optional "value_constraint" ValueConstraint.ofJson =
        .ok constraint :=
      gives.optional (by simp) fun constraint _ => constraint.reads
    have readBlock : fields.defaulting "block" .nothing Block.ofJson = .ok block :=
      gives.defaulting_of_given (by simp) block.reads
    have readHead : fields.optional "substitution_group" ExpandedName.ofJson =
        .ok substitutionGroup :=
      gives.optional (by simp) fun head _ => head.reads
    have readIdentities : fields.listOf "identities" IdentityConstraint.ofJson = .ok identities :=
      gives.listOf (by simp) (Json.reads_map fun identity member =>
        IdentityConstraint.reads (regular.2 identity member))
    rw [readName, readType, readNillable, readAbstract, readConstraint, readBlock, readHead,
      readIdentities]
    rfl

theorem AttributeDeclaration.readsWithin : ∀ {declaration : AttributeDeclaration TypeReference},
    AttributeDeclaration.isRegular declaration = true → ∀ {levels : Nat},
      (AttributeDeclaration.toJson declaration).depth < levels →
        Reads (AttributeDeclaration.ofJsonWith (TypeReference.ofJsonWithin levels))
          (AttributeDeclaration.toJson declaration) declaration
  | ⟨name, type, constraint⟩, regular, levels, within => by
    rw [AttributeDeclaration.isRegular] at regular
    rw [AttributeDeclaration.toJson_eq] at within ⊢
    dsimp only at within ⊢
    refine reads_record rfl rfl (by decide) fun fields gives => ?_
    have readName : fields.required "name" ExpandedName.ofJson = .ok name :=
      gives.required (by simp) name.reads
    have readType : fields.optional "type" (TypeReference.ofJsonWithin levels) = .ok type :=
      gives.optional (by simp) (TypeReference.readsIfAnyWithin regular fun type given =>
        (depth_lt_record "type" (by simp [given])).trans within)
    have readConstraint : fields.optional "value_constraint" ValueConstraint.ofJson =
        .ok constraint :=
      gives.optional (by simp) fun constraint _ => constraint.reads
    rw [readName, readType, readConstraint]
    rfl

theorem AttributeUse.readsWithin : ∀ {use : AttributeUse TypeReference},
    AttributeUse.isRegular use = true → ∀ {levels : Nat},
      (AttributeUse.toJson use).depth < levels →
        Reads (AttributeUse.ofJsonWith (TypeReference.ofJsonWithin levels))
          (AttributeUse.toJson use) use
  | ⟨declaration, mode, constraint⟩, regular, levels, within => by
    rw [AttributeUse.isRegular] at regular
    rw [AttributeUse.toJson_eq] at within ⊢
    dsimp only at within ⊢
    refine reads_record rfl rfl (by decide) fun fields gives => ?_
    have readDeclaration : fields.required "attribute"
        (AttributeDeclaration.ofJsonWith (TypeReference.ofJsonWithin levels)) = .ok declaration :=
      gives.required (by simp) (AttributeDeclaration.readsWithin regular
        ((depth_lt_record "attribute" (by simp)).trans within))
    have readMode : fields.defaulting "use" .optional (toNamed UseMode.names) = .ok mode :=
      gives.defaulting_of_given (by simp) mode.reads
    have readConstraint : fields.optional "value_constraint" ValueConstraint.ofJson =
        .ok constraint :=
      gives.optional (by simp) fun constraint _ => constraint.reads
    rw [readDeclaration, readMode, readConstraint]
    rfl

theorem AttributeUse.readsEachWithin : ∀ {uses : List (AttributeUse TypeReference)},
    AttributeUse.areRegular uses = true → ∀ {levels : Nat},
      (∀ json ∈ AttributeUse.listToJson uses, json.depth < levels) →
        List.Forall₂ (Reads (AttributeUse.ofJsonWith (TypeReference.ofJsonWithin levels)))
          (AttributeUse.listToJson uses) uses
  | [], _, _, _ => .nil
  | use :: rest, regular, levels, within => by
    rw [AttributeUse.areRegular, Bool.and_eq_true] at regular
    rw [AttributeUse.listToJson] at within ⊢
    obtain ⟨here, later⟩ := List.forall_mem_cons.mp within
    exact .cons (AttributeUse.readsWithin regular.1 here)
      (AttributeUse.readsEachWithin regular.2 later)

theorem AttributeGroup.readsWithin : ∀ {attributes : AttributeGroup TypeReference},
    AttributeGroup.isRegular attributes = true → ∀ {levels : Nat},
      (AttributeGroup.toJson attributes).depth < levels →
        Reads (AttributeGroup.ofJsonWith (TypeReference.ofJsonWithin levels))
          (AttributeGroup.toJson attributes) attributes
  | ⟨uses, wildcard⟩, regular, levels, within => by
    rw [AttributeGroup.isRegular, Bool.and_eq_true, Option.all_eq_true] at regular
    rw [AttributeGroup.toJson_eq] at within ⊢
    dsimp only at within ⊢
    refine reads_record rfl rfl (by decide) fun fields gives => ?_
    have shallow : ∀ json ∈ AttributeUse.listToJson uses, json.depth < levels := by
      intro json member
      cases uses with
      | nil => cases member
      | cons use rest =>
        exact (depth_lt_array member).trans ((depth_lt_record "uses" (by simp)).trans within)
    have readUses : fields.listOf "uses"
        (AttributeUse.ofJsonWith (TypeReference.ofJsonWithin levels)) = .ok uses :=
      gives.listOf (by simp) (AttributeUse.readsEachWithin regular.1 shallow)
    have readWildcard : fields.optional "wildcard" Wildcard.ofJson = .ok wildcard :=
      gives.optional (by simp) fun wildcard given => Wildcard.reads (regular.2 wildcard given)
    rw [readUses, readWildcard]
    rfl

end

/-! ### Grammars -/

/-- What is read back by enough levels is read back from its JSON value. -/
theorem reads_readBelow {α : Type}
    {decode : (Json → Except Json.Fault TypeReference) → Json → Except Json.Fault α} {json : Json}
    {value : α} (reads : ∀ {levels : Nat}, json.depth < levels →
      Reads (decode (TypeReference.ofJsonWithin levels)) json value) :
    Reads (readBelow decode) json value := by
  obtain ⟨isPresent, reads⟩ := reads (Nat.lt_succ_self json.depth)
  exact ⟨isPresent, reads⟩

theorem TypeDefinition.reads {type : TypeDefinition} (regular : type.isRegular = true) :
    Reads ofJson type.toJson type := by
  cases type with
  | simple type =>
    exact reads_variant (SimpleType.reads regular) rfl
  | complex type =>
    have read : Reads ComplexType.ofJson type.toJson type :=
      reads_readBelow (ComplexType.readsWithin regular)
    exact reads_variant read rfl

namespace Entries

variable {α : Type}

theorem insert_of_absent {key : String} {value : α} {entries : Entries α}
    (absent : key ∉ entries.keys) : entries.insert key value = entries ++ [(key, value)] := by
  induction entries with
  | nil => rfl
  | cons entry rest ofRest =>
    obtain ⟨other, old⟩ := entry
    obtain ⟨apart, absentRest⟩ := not_or.mp (mt List.mem_cons.mpr absent)
    unfold insert
    rw [if_neg (by simpa using Ne.symm apart), ofRest absentRest]
    rfl

theorem reads {encode : α → Json} {decode : Json → Except Json.Fault α} {isRegular : α → Bool}
    {entries : Entries α} (regular : entries.isRegular isRegular = true)
    (each : ∀ value, isRegular value = true → Reads decode (encode value) value) :
    Reads (ofJson decode) (entries.toJson encode) entries := by
  refine ⟨nofun, ?_⟩
  simp only [Entries.isRegular, Bool.and_eq_true, decide_eq_true_eq, List.all_eq_true] at regular
  have members : Json.toMembers decode (entries.toJson encode) = .ok entries :=
    (Json.reads_members fun entry member => each entry.2 (regular.2 entry member)).reads
  have distinct : (keys ([] ++ entries)).Nodup := regular.1
  rw [ofJson, members]
  refine congrArg Except.ok (foldl_eq_append (fun entries => (keys entries).Nodup)
    (fun done entry rest distinct => insert_of_absent fun member => ?_) distinct)
  rw [keys, List.map_append] at distinct
  exact (List.nodup_append.mp distinct).2.2 _ member _ List.mem_cons_self rfl

end Entries

theorem Grammar.toJson_eq (grammar : Grammar) : grammar.toJson = record [
    ("target_namespace", grammar.target.map .string),
    ("elements", some (grammar.elements.toJson ElementDeclaration.toJson)),
    ("types", some (grammar.types.toJson TypeDefinition.toJson)),
    ("attributes", some (grammar.attributes.toJson AttributeDeclaration.toJson))] := by
  simp only [toJson, memberOf_eq, member_eq]
  rfl

/-- A regular grammar is read back from its JSON value. -/
theorem Grammar.reads {grammar : Grammar} (regular : grammar.isRegular = true) :
    Reads ofJson grammar.toJson grammar := by
  simp only [isRegular, Bool.and_eq_true] at regular
  obtain ⟨⟨ofElements, ofTypes⟩, ofAttributes⟩ := regular
  rw [toJson_eq]
  refine reads_record rfl rfl (by decide) fun fields gives => ?_
  have target : fields.optional "target_namespace" Json.toText = .ok grammar.target :=
    gives.optional (by simp) fun text _ => reads_text text
  have elements : fields.defaulting "elements" [] (Entries.ofJson ElementDeclaration.ofJson) =
      .ok grammar.elements :=
    gives.defaulting_of_given (by simp) (Entries.reads ofElements fun _ regular =>
      reads_readBelow (ElementDeclaration.readsWithin regular))
  have types : fields.defaulting "types" [] (Entries.ofJson TypeDefinition.ofJson) =
      .ok grammar.types :=
    gives.defaulting_of_given (by simp) (Entries.reads ofTypes fun _ => TypeDefinition.reads)
  have attributes : fields.defaulting "attributes" []
      (Entries.ofJson AttributeDeclaration.ofJson) = .ok grammar.attributes :=
    gives.defaulting_of_given (by simp) (Entries.reads ofAttributes fun _ regular =>
      reads_readBelow (AttributeDeclaration.readsWithin regular))
  rw [target, elements, types, attributes]
  rfl

end SchemaAssessment
