/-
Regular components. The numbers of a regular component fit into words of 32 or 64 bits, and
what it keeps as a set or under keys is without repetition, and in order where the order is
not told. Other components do not come up: whatever is read is regular.
-/

import Mathlib.Data.String.Basic
import SchemaAssessment.Grammar.Basic
import SchemaAssessment.Proofs.Faults
import SchemaAssessment.Proofs.Json.Records

namespace SchemaAssessment

/-! ### Regular components -/

/-- The texts are in order, and none stands twice. -/
def isAscending (texts : List String) : Bool := decide (texts.Pairwise (· < ·))

/-- The numbers are of 32 bits. -/
def Occurs.isRegular (occurs : Occurs) : Bool :=
  decide (occurs.min < twoTo 32) && occurs.max.all fun most => decide (most < twoTo 32)

/-- The namespaces that are listed are a set. -/
def NamespaceConstraint.isRegular : NamespaceConstraint → Bool
  | .among spaces => isAscending spaces
  | _ => true

/-- The namespaces and the bounds of the wildcard are regular. -/
def Wildcard.isRegular (wildcard : Wildcard) : Bool :=
  wildcard.spaces.isRegular && wildcard.occurs.isRegular

/-- The prefixes are the keys of a map. -/
def IdentityConstraint.isRegular (identity : IdentityConstraint) : Bool :=
  isAscending (identity.bindings.map Prod.fst)

/-- Lengths are of 64 bits, and numbers of digits of 32. -/
def Facets.isRegular (facets : Facets) : Bool :=
  [facets.length, facets.minLength, facets.maxLength].all
      (fun length => length.all fun length => decide (length < twoTo 64)) &&
    [facets.totalDigits, facets.fractionDigits].all
      fun digits => digits.all fun digits => decide (digits < twoTo 32)

mutual

/-- The facets of a simple type, and of the types that it is made of, are regular. -/
def SimpleType.isRegular : SimpleType → Bool
  | .mk _ _ variety facets => variety.isRegular && facets.isRegular

/-- The types that a variety is made of are regular. -/
def Variety.isRegular : Variety → Bool
  | .atomic _ => true
  | .list item => item.isRegular
  | .union members => SimpleType.areRegular members

/-- All of the simple types are regular. -/
def SimpleType.areRegular : List SimpleType → Bool
  | [] => true
  | type :: rest => type.isRegular && SimpleType.areRegular rest

end

mutual

/-- The type that a reference holds is regular. -/
def TypeReference.isRegular : TypeReference → Bool
  | .named _ => true
  | .simple type => type.isRegular
  | .complex type => type.isRegular

/-- A reference that may be missing is regular. -/
def TypeReference.isRegularIfAny : Option TypeReference → Bool
  | none => true
  | some type => type.isRegular

/-- The parts of a complex type are regular. -/
def ComplexType.isRegular : ComplexType → Bool
  | ⟨_, _, _, _, group, simpleType, attributes, _, _⟩ =>
    Group.isRegularIfAny group && TypeReference.isRegularIfAny simpleType &&
      AttributeGroup.isRegular attributes

/-- A group that may be missing is regular. -/
def Group.isRegularIfAny : Option (Group ElementTerm) → Bool
  | none => true
  | some group => Group.isRegular group

/-- The particles and the bounds of a group are regular. -/
def Group.isRegular : Group ElementTerm → Bool
  | .mk _ particles occurs => Particle.areRegular particles && occurs.isRegular

/-- All of the particles are regular. -/
def Particle.areRegular : List (Particle ElementTerm) → Bool
  | [] => true
  | particle :: rest => Particle.isRegular particle && Particle.areRegular rest

/-- What a particle takes and its bounds are regular. -/
def Particle.isRegular : Particle ElementTerm → Bool
  | .element term occurs => term.isRegular && occurs.isRegular
  | .any wildcard => wildcard.isRegular
  | .nested group => Group.isRegular group

/-- The declaration that a particle has for an element is regular. -/
def ElementTerm.isRegular : ElementTerm → Bool
  | .declared declaration => declaration.isRegular
  | .global _ => true

/-- The type and the identity constraints of an element declaration are regular. -/
def ElementDeclaration.isRegular : ElementDeclaration → Bool
  | ⟨_, type, _, _, _, _, _, identities⟩ =>
    TypeReference.isRegularIfAny type && identities.all IdentityConstraint.isRegular

/-- The type of an attribute declaration is regular. -/
def AttributeDeclaration.isRegular : AttributeDeclaration TypeReference → Bool
  | ⟨_, type, _⟩ => TypeReference.isRegularIfAny type

/-- The declaration that is used is regular. -/
def AttributeUse.isRegular : AttributeUse TypeReference → Bool
  | ⟨declaration, _, _⟩ => AttributeDeclaration.isRegular declaration

/-- All of the uses are regular. -/
def AttributeUse.areRegular : List (AttributeUse TypeReference) → Bool
  | [] => true
  | use :: rest => AttributeUse.isRegular use && AttributeUse.areRegular rest

/-- The uses and the wildcard of a type are regular. -/
def AttributeGroup.isRegular : AttributeGroup TypeReference → Bool
  | ⟨uses, wildcard⟩ => AttributeUse.areRegular uses && wildcard.all Wildcard.isRegular

end

/-- The type that is defined is regular. -/
def TypeDefinition.isRegular : TypeDefinition → Bool
  | .simple type => type.isRegular
  | .complex type => type.isRegular

/-- No key stands twice, and all of the values are regular. -/
def Entries.isRegular {α : Type} (isRegular : α → Bool) (entries : Entries α) : Bool :=
  decide entries.keys.Nodup && entries.all fun entry => isRegular entry.2

/-- The declarations of a grammar are regular, and none stands under the key of another. -/
def Grammar.isRegular (grammar : Grammar) : Bool :=
  grammar.elements.isRegular ElementDeclaration.isRegular &&
    grammar.types.isRegular TypeDefinition.isRegular &&
      grammar.attributes.isRegular AttributeDeclaration.isRegular

/-! ### Lists and parts that may be missing -/

theorem SimpleType.areRegular_iff {types : List SimpleType} :
    SimpleType.areRegular types = true ↔ ∀ type ∈ types, type.isRegular = true := by
  induction types with
  | nil => simp [SimpleType.areRegular]
  | cons type rest ofRest => simp [SimpleType.areRegular, ofRest]

theorem TypeReference.isRegularIfAny_iff {type? : Option TypeReference} :
    TypeReference.isRegularIfAny type? = true ↔
      ∀ type, type? = some type → type.isRegular = true := by
  cases type? <;> simp [TypeReference.isRegularIfAny]

theorem Group.isRegularIfAny_iff {group? : Option (Group ElementTerm)} :
    Group.isRegularIfAny group? = true ↔
      ∀ group, group? = some group → Group.isRegular group = true := by
  cases group? <;> simp [Group.isRegularIfAny]

theorem Particle.areRegular_iff {particles : List (Particle ElementTerm)} :
    Particle.areRegular particles = true ↔
      ∀ particle ∈ particles, Particle.isRegular particle = true := by
  induction particles with
  | nil => simp [Particle.areRegular]
  | cons particle rest ofRest => simp [Particle.areRegular, ofRest]

theorem AttributeUse.areRegular_iff {uses : List (AttributeUse TypeReference)} :
    AttributeUse.areRegular uses = true ↔ ∀ use ∈ uses, AttributeUse.isRegular use = true := by
  induction uses with
  | nil => simp [AttributeUse.areRegular]
  | cons use rest ofRest => simp [AttributeUse.areRegular, ofRest]

/-! ### Sets and maps -/

theorem NamespaceConstraint.mem_insertSorted {space other : String} {sorted : List String}
    (member : other ∈ insertSorted space sorted) : other = space ∨ other ∈ sorted := by
  induction sorted with
  | nil => exact .inl (List.mem_singleton.mp member)
  | cons first rest ofRest =>
    unfold insertSorted at member
    split at member
    · exact .inr member
    · split at member
      · exact List.mem_cons.mp member
      · rcases List.mem_cons.mp member with rfl | later
        · exact .inr List.mem_cons_self
        · exact (ofRest later).imp_right (List.mem_cons_of_mem first)

theorem NamespaceConstraint.ascending_insertSorted (space : String) {sorted : List String}
    (ascending : sorted.Pairwise (· < ·)) : (insertSorted space sorted).Pairwise (· < ·) := by
  induction sorted with
  | nil => exact List.pairwise_singleton _ space
  | cons first rest ofRest =>
    obtain ⟨below, ascendingRest⟩ := List.pairwise_cons.mp ascending
    unfold insertSorted
    by_cases same : space = first
    · rw [if_pos (beq_iff_eq.mpr same)]
      exact ascending
    · rw [if_neg (by simpa using same)]
      by_cases before : space < first
      · rw [if_pos before, List.pairwise_cons]
        refine ⟨fun other member => ?_, ascending⟩
        rcases List.mem_cons.mp member with rfl | later
        · exact before
        · exact before.trans (below other later)
      · rw [if_neg before, List.pairwise_cons]
        refine ⟨fun other member => ?_, ofRest ascendingRest⟩
        rcases mem_insertSorted member with rfl | later
        · exact lt_of_le_of_ne (not_lt.mp before) (Ne.symm same)
        · exact below other later

theorem NamespaceConstraint.ascending_foldl (spaces : List String) {sorted : List String}
    (ascending : sorted.Pairwise (· < ·)) :
    (spaces.foldl (fun sorted space => insertSorted space sorted) sorted).Pairwise (· < ·) := by
  induction spaces generalizing sorted with
  | nil => exact ascending
  | cons space rest ofRest => exact ofRest (ascending_insertSorted space ascending)

/-- Bindings are put in the order of their prefixes as namespaces are. -/
theorem IdentityConstraint.keys_insertBinding (prefixName space : String)
    (bindings : List (String × String)) :
    (insertBinding prefixName space bindings).map Prod.fst =
      NamespaceConstraint.insertSorted prefixName (bindings.map Prod.fst) := by
  induction bindings with
  | nil => rfl
  | cons binding rest ofRest =>
    obtain ⟨other, bound⟩ := binding
    unfold insertBinding
    rw [List.map_cons, NamespaceConstraint.insertSorted]
    split
    · rfl
    · split
      · rfl
      · rw [List.map_cons, ofRest]

theorem IdentityConstraint.keys_sortBindings (bindings : List (String × String)) :
    (sortBindings bindings).map Prod.fst =
      (bindings.map Prod.fst).foldl
        (fun sorted prefixName => NamespaceConstraint.insertSorted prefixName sorted) [] := by
  have folded (sorted : List (String × String)) :
      (bindings.foldl (fun sorted binding => insertBinding binding.1 binding.2 sorted)
          sorted).map Prod.fst =
        (bindings.map Prod.fst).foldl
          (fun sorted prefixName => NamespaceConstraint.insertSorted prefixName sorted)
          (sorted.map Prod.fst) := by
    induction bindings generalizing sorted with
    | nil => rfl
    | cons binding rest ofRest =>
      rw [List.foldl_cons, ofRest, keys_insertBinding]
      rfl
  exact folded []

namespace Entries

variable {α : Type}

theorem keys_insert (key : String) (value : α) (entries : Entries α) :
    (entries.insert key value).keys =
      if key ∈ entries.keys then entries.keys else entries.keys ++ [key] := by
  induction entries with
  | nil => rfl
  | cons entry rest ofRest =>
    obtain ⟨other, old⟩ := entry
    unfold insert
    by_cases same : other = key
    · simp [same, keys]
    · have apart : key ≠ other := Ne.symm same
      by_cases within : key ∈ keys rest <;> simp_all [keys]

theorem nodup_insert {entries : Entries α} (distinct : entries.keys.Nodup) (key : String)
    (value : α) : (entries.insert key value).keys.Nodup := by
  rw [keys_insert]
  split
  · exact distinct
  · next absent =>
    refine List.nodup_append.mpr ⟨distinct, List.pairwise_singleton _ key, ?_⟩
    rintro other inside last isLast rfl
    exact absent (List.mem_singleton.mp isLast ▸ inside)

theorem mem_insert {key : String} {value : α} {entries : Entries α} {entry : String × α}
    (member : entry ∈ entries.insert key value) :
    entry.2 = value ∨ entry ∈ entries := by
  induction entries with
  | nil => exact .inl (congrArg Prod.snd (List.mem_singleton.mp member))
  | cons first rest ofRest =>
    obtain ⟨other, old⟩ := first
    unfold insert at member
    split at member
    · rcases List.mem_cons.mp member with rfl | later
      · exact .inl rfl
      · exact .inr (List.mem_cons_of_mem _ later)
    · rcases List.mem_cons.mp member with rfl | later
      · exact .inr List.mem_cons_self
      · exact (ofRest later).imp_right (List.mem_cons_of_mem _)

/-- Keys are kept apart when values are put under them. -/
theorem isRegular_ofList {isRegular : α → Bool} {entries : List (String × α)}
    (each : ∀ entry ∈ entries, isRegular entry.2 = true) :
    (ofList entries).isRegular isRegular = true := by
  have folded (done : Entries α) (regular : done.isRegular isRegular = true) :
      Entries.isRegular isRegular (entries.foldl (fun done entry => done.insert entry.1 entry.2)
        done) = true := by
    induction entries generalizing done with
    | nil => exact regular
    | cons entry rest ofRest =>
      obtain ⟨here, later⟩ := List.forall_mem_cons.mp each
      refine ofRest later _ ?_
      simp only [Entries.isRegular, Bool.and_eq_true, decide_eq_true_eq, List.all_eq_true]
        at regular ⊢
      refine ⟨nodup_insert regular.1 _ _, fun other member => ?_⟩
      rcases mem_insert member with same | before
      · rw [same]
        exact here
      · exact regular.2 other before
  exact folded [] rfl

end Entries

/-! ### Reading parts -/

open Json (Yields)

theorem Occurs.ofJson_isRegular : Yields ofJson (isRegular · = true) := by
  intro json occurs read
  simp only [ofJson, bind_eq_ok] at read
  obtain ⟨fields, -, least, readLeast, most, readMost, same⟩ := read
  obtain rfl := Except.ok.inj same
  have ofLeast : least < twoTo 32 := (Json.yields_natBelow _).required readLeast
  have ofMost := (Json.yields_natBelow (twoTo 32)).nullable readMost
  simpa [isRegular, ofLeast, Option.all_eq_true] using ofMost

theorem NamespaceConstraint.ofJson_isRegular : Yields ofJson (isRegular · = true) := by
  intro json constraint read
  simp only [ofJson, bind_eq_ok] at read
  obtain ⟨⟨name, content⟩, -, read⟩ := read
  split at read
  · exact Except.ok.inj read ▸ rfl
  · exact Except.ok.inj read ▸ rfl
  · simp only [bind_eq_ok] at read
    obtain ⟨_, -, _, -, _, -, same⟩ := read
    exact Except.ok.inj same ▸ rfl
  · simp only [bind_eq_ok] at read
    obtain ⟨_, -, spaces, -, same⟩ := read
    obtain rfl := Except.ok.inj same
    exact decide_eq_true (ascending_foldl spaces .nil)
  · cases read

theorem Wildcard.ofJson_isRegular : Yields ofJson (isRegular · = true) := by
  intro json wildcard read
  simp only [ofJson, bind_eq_ok] at read
  obtain ⟨fields, -, spaces, readSpaces, contents, -, occurs, readOccurs, same⟩ := read
  obtain rfl := Except.ok.inj same
  have ofSpaces : spaces.isRegular = true :=
    NamespaceConstraint.ofJson_isRegular.defaulting rfl readSpaces
  have ofOccurs : occurs.isRegular = true :=
    Occurs.ofJson_isRegular.defaulting (by decide) readOccurs
  simp [isRegular, ofSpaces, ofOccurs]

theorem IdentityConstraint.ofJson_isRegular : Yields ofJson (isRegular · = true) := by
  intro json identity read
  simp only [ofJson, bind_eq_ok] at read
  obtain ⟨fields, -, name, -, kind, -, selector, -, paths, -, refer, -, bindings, -, same⟩ := read
  obtain rfl := Except.ok.inj same
  refine decide_eq_true ?_
  rw [keys_sortBindings]
  exact NamespaceConstraint.ascending_foldl _ .nil

theorem Facets.ofJson_isRegular : Yields ofJson (isRegular · = true) := by
  intro json facets read
  simp only [ofJson, bind_eq_ok] at read
  obtain ⟨fields, -, _, -, length, readLength, least, readLeast, most, readMost, _, -, _, -, _, -,
    _, -, _, -, _, -, total, readTotal, fraction, readFraction, same⟩ := read
  obtain rfl := Except.ok.inj same
  have ofSize := Json.yields_natBelow (twoTo 64)
  have ofCount := Json.yields_natBelow (twoTo 32)
  simp only [isRegular, List.all_cons, List.all_nil, Bool.and_true, Bool.and_eq_true,
    Option.all_eq_true, decide_eq_true_eq]
  exact ⟨⟨ofSize.optional readLength, ofSize.optional readLeast, ofSize.optional readMost⟩,
    ofCount.optional readTotal, ofCount.optional readFraction⟩

theorem SimpleType.ofJsonWithin_isRegular (levels : Nat) :
    Yields (ofJsonWithin levels) (isRegular · = true) := by
  induction levels with
  | zero => exact fun _ _ read => nomatch read
  | succ levels ofLevels =>
    intro json type read
    simp only [ofJsonWithin, bind_eq_ok] at read
    obtain ⟨fields, -, name, -, base, -, variety, readVariety, facets, readFacets, same⟩ := read
    obtain rfl := Except.ok.inj same
    have ofFacets : facets.isRegular = true := Facets.ofJson_isRegular.defaulting rfl readFacets
    have yieldsVariety : Yields (Variety.ofJsonWith (ofJsonWithin levels))
        (Variety.isRegular · = true) := by
      intro json variety read
      simp only [Variety.ofJsonWith, bind_eq_ok] at read
      obtain ⟨⟨name, content⟩, -, read⟩ := read
      split at read
      · simp only [bind_eq_ok] at read
        obtain ⟨_, -, _, -, same⟩ := read
        exact Except.ok.inj same ▸ rfl
      · simp only [bind_eq_ok] at read
        obtain ⟨item, -, type, readType, same⟩ := read
        obtain rfl := Except.ok.inj same
        exact ofLevels item type readType
      · simp only [bind_eq_ok] at read
        obtain ⟨items, -, types, readTypes, same⟩ := read
        obtain rfl := Except.ok.inj same
        exact areRegular_iff.mpr (ofLevels.list items types readTypes)
      · cases read
    have ofVariety : variety.isRegular = true := yieldsVariety.required readVariety
    simp [isRegular, ofVariety, ofFacets]

theorem SimpleType.ofJson_isRegular : Yields ofJson (isRegular · = true) :=
  fun json type read => SimpleType.ofJsonWithin_isRegular (json.depth + 1) json type read

/-! ### Reading declarations and types -/

section Decode

variable {decode : Json → Except Json.Fault TypeReference}
  (ofDecode : Yields decode (TypeReference.isRegular · = true))

include ofDecode

theorem AttributeDeclaration.ofJsonWith_isRegular :
    Yields (ofJsonWith decode) (isRegular · = true) := by
  intro json declaration read
  simp only [ofJsonWith, bind_eq_ok] at read
  obtain ⟨fields, -, name, -, type, readType, constraint, -, same⟩ := read
  obtain rfl := Except.ok.inj same
  rw [isRegular, TypeReference.isRegularIfAny_iff]
  exact ofDecode.optional readType

theorem AttributeUse.ofJsonWith_isRegular :
    Yields (ofJsonWith decode) (isRegular · = true) := by
  intro json use read
  simp only [ofJsonWith, bind_eq_ok] at read
  obtain ⟨fields, -, declaration, readDeclaration, mode, -, constraint, -, same⟩ := read
  obtain rfl := Except.ok.inj same
  rw [isRegular]
  exact (AttributeDeclaration.ofJsonWith_isRegular ofDecode).required readDeclaration

theorem AttributeGroup.ofJsonWith_isRegular :
    Yields (ofJsonWith decode) (isRegular · = true) := by
  intro json attributes read
  simp only [ofJsonWith, bind_eq_ok] at read
  obtain ⟨fields, -, uses, readUses, wildcard, readWildcard, same⟩ := read
  obtain rfl := Except.ok.inj same
  rw [isRegular, Bool.and_eq_true, AttributeUse.areRegular_iff, Option.all_eq_true]
  exact ⟨(AttributeUse.ofJsonWith_isRegular ofDecode).listOf readUses,
    Wildcard.ofJson_isRegular.optional readWildcard⟩

theorem ElementDeclaration.ofJsonWith_isRegular :
    Yields (ofJsonWith decode) (isRegular · = true) := by
  intro json declaration read
  simp only [ofJsonWith, bind_eq_ok] at read
  obtain ⟨fields, -, name, -, type, readType, _, -, _, -, _, -, _, -, _, -, identities,
    readIdentities, same⟩ := read
  obtain rfl := Except.ok.inj same
  rw [isRegular, Bool.and_eq_true, TypeReference.isRegularIfAny_iff, List.all_eq_true]
  exact ⟨ofDecode.optional readType, IdentityConstraint.ofJson_isRegular.listOf readIdentities⟩

theorem ElementTerm.ofJsonWith_isRegular :
    Yields (ofJsonWith decode) (isRegular · = true) := by
  intro json term read
  simp only [ofJsonWith, bind_eq_ok] at read
  obtain ⟨⟨name, content⟩, -, read⟩ := read
  split at read
  · simp only [bind_eq_ok] at read
    obtain ⟨item, -, declaration, readDeclaration, same⟩ := read
    obtain rfl := Except.ok.inj same
    rw [isRegular]
    exact ElementDeclaration.ofJsonWith_isRegular ofDecode item declaration readDeclaration
  · simp only [bind_eq_ok] at read
    obtain ⟨_, -, _, -, same⟩ := read
    obtain rfl := Except.ok.inj same
    rw [isRegular]
  · cases read

theorem Particle.ofJsonWith_isRegular {decodeGroup : Json → Except Json.Fault (Group ElementTerm)}
    (ofGroup : Yields decodeGroup (Group.isRegular · = true)) :
    Yields (ofJsonWith (ElementTerm.ofJsonWith decode) decodeGroup) (isRegular · = true) := by
  intro json particle read
  simp only [ofJsonWith, bind_eq_ok] at read
  obtain ⟨⟨name, content⟩, -, read⟩ := read
  split at read
  · simp only [bind_eq_ok] at read
    obtain ⟨_, -, fields, -, term, readTerm, occurs, readOccurs, same⟩ := read
    obtain rfl := Except.ok.inj same
    rw [isRegular, Bool.and_eq_true]
    exact ⟨(ElementTerm.ofJsonWith_isRegular ofDecode).required readTerm,
      Occurs.ofJson_isRegular.defaulting (by decide) readOccurs⟩
  · simp only [bind_eq_ok] at read
    obtain ⟨item, -, wildcard, readWildcard, same⟩ := read
    obtain rfl := Except.ok.inj same
    rw [isRegular]
    exact Wildcard.ofJson_isRegular item wildcard readWildcard
  · simp only [bind_eq_ok] at read
    obtain ⟨item, -, group, readGroup, same⟩ := read
    obtain rfl := Except.ok.inj same
    rw [isRegular]
    exact ofGroup item group readGroup
  · cases read

theorem Group.ofJsonWithin_isRegular (levels : Nat) :
    Yields (ofJsonWithin (ElementTerm.ofJsonWith decode) levels) (isRegular · = true) := by
  induction levels with
  | zero => exact fun _ _ read => nomatch read
  | succ levels ofLevels =>
    intro json group read
    simp only [ofJsonWithin, bind_eq_ok] at read
    obtain ⟨fields, -, compositor, -, particles, readParticles, occurs, readOccurs, same⟩ := read
    obtain rfl := Except.ok.inj same
    rw [isRegular, Bool.and_eq_true, Particle.areRegular_iff]
    exact ⟨(Particle.ofJsonWith_isRegular ofDecode ofLevels).listOf readParticles,
      Occurs.ofJson_isRegular.defaulting (by decide) readOccurs⟩

theorem ComplexType.ofJsonWith_isRegular :
    Yields (ofJsonWith decode) (isRegular · = true) := by
  intro json type read
  simp only [ofJsonWith, bind_eq_ok] at read
  obtain ⟨fields, -, _, -, _, -, _, -, _, -, group, readGroup, simpleType, readSimpleType,
    attributes, readAttributes, _, -, _, -, same⟩ := read
  obtain rfl := Except.ok.inj same
  have ofGroups : Yields (Group.ofJsonWith (ElementTerm.ofJsonWith decode))
      (Group.isRegular · = true) :=
    fun json group read => Group.ofJsonWithin_isRegular ofDecode (json.depth + 1) json group read
  rw [isRegular, Bool.and_eq_true, Bool.and_eq_true, Group.isRegularIfAny_iff,
    TypeReference.isRegularIfAny_iff]
  exact ⟨⟨ofGroups.optional readGroup, ofDecode.optional readSimpleType⟩,
    (AttributeGroup.ofJsonWith_isRegular ofDecode).defaulting (by rfl) readAttributes⟩

end Decode

theorem TypeReference.ofJsonWithin_isRegular (levels : Nat) :
    Yields (ofJsonWithin levels) (isRegular · = true) := by
  induction levels with
  | zero => exact fun _ _ read => nomatch read
  | succ levels ofLevels =>
    intro json type read
    simp only [ofJsonWithin, bind_eq_ok] at read
    obtain ⟨⟨name, content⟩, -, read⟩ := read
    split at read
    · simp only [bind_eq_ok] at read
      obtain ⟨_, -, _, -, same⟩ := read
      obtain rfl := Except.ok.inj same
      rw [isRegular]
    · simp only [bind_eq_ok] at read
      obtain ⟨item, -, simple, readSimple, same⟩ := read
      obtain rfl := Except.ok.inj same
      rw [isRegular]
      exact SimpleType.ofJson_isRegular item simple readSimple
    · simp only [bind_eq_ok] at read
      obtain ⟨item, -, complex, readComplex, same⟩ := read
      obtain rfl := Except.ok.inj same
      rw [isRegular]
      exact ComplexType.ofJsonWith_isRegular ofLevels item complex readComplex
    · cases read

/-- What is read from below some level is regular if the types there are. -/
theorem yields_readBelow {α : Type} {property : α → Prop}
    {decode : (Json → Except Json.Fault TypeReference) → Json → Except Json.Fault α}
    (ofDecode : ∀ decodeType, Yields decodeType (TypeReference.isRegular · = true) →
      Yields (decode decodeType) property) : Yields (readBelow decode) property :=
  fun json value read =>
    ofDecode _ (TypeReference.ofJsonWithin_isRegular (json.depth + 1)) json value read

theorem TypeDefinition.ofJson_isRegular : Yields ofJson (isRegular · = true) := by
  intro json type read
  simp only [ofJson, bind_eq_ok] at read
  obtain ⟨⟨name, content⟩, -, read⟩ := read
  split at read
  · simp only [bind_eq_ok] at read
    obtain ⟨item, -, simple, readSimple, same⟩ := read
    obtain rfl := Except.ok.inj same
    exact SimpleType.ofJson_isRegular item simple readSimple
  · simp only [bind_eq_ok] at read
    obtain ⟨item, -, complex, readComplex, same⟩ := read
    obtain rfl := Except.ok.inj same
    exact yields_readBelow (fun _ => ComplexType.ofJsonWith_isRegular) item complex readComplex
  · cases read

theorem Entries.ofJson_isRegular {α : Type} {decode : Json → Except Json.Fault α}
    {isRegular : α → Bool} (ofDecode : Yields decode (isRegular · = true)) :
    Yields (ofJson decode) (Entries.isRegular isRegular · = true) := by
  intro json entries read
  unfold ofJson at read
  cases members : Json.toMembers decode json with
  | error fault => simp [members, Except.map] at read
  | ok given =>
    rw [members] at read
    obtain rfl := Except.ok.inj read
    exact isRegular_ofList (ofDecode.members json given members)

/-- A grammar that is read is regular. -/
theorem Grammar.ofJson_isRegular : Yields ofJson (isRegular · = true) := by
  intro json grammar read
  simp only [ofJson, bind_eq_ok] at read
  obtain ⟨fields, -, target, -, elements, readElements, types, readTypes, attributes,
    readAttributes, same⟩ := read
  obtain rfl := Except.ok.inj same
  have yieldElements :=
    Entries.ofJson_isRegular (yields_readBelow fun _ => ElementDeclaration.ofJsonWith_isRegular)
  have yieldTypes := Entries.ofJson_isRegular TypeDefinition.ofJson_isRegular
  have yieldAttributes :=
    Entries.ofJson_isRegular (yields_readBelow fun _ => AttributeDeclaration.ofJsonWith_isRegular)
  rw [isRegular, Bool.and_eq_true, Bool.and_eq_true]
  exact ⟨⟨yieldElements.defaulting rfl readElements, yieldTypes.defaulting rfl readTypes⟩,
    yieldAttributes.defaulting rfl readAttributes⟩

end SchemaAssessment
