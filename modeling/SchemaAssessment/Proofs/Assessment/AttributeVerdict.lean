/-
The verdict on the attributes of an element. Nothing is found about them just if each is
admitted by a use or the wildcard, each that comes to a declaration has a value that is
valid and equal to the fixed ones, each required one is given, and identifiers behind the
wildcard are neither several nor beside an identifier among the uses. A fixed text that is
valid is compared with a value in the value space; one that is not valid stands for no
value, and is compared as text.
-/

import SchemaAssessment.Proofs.Assessment.AttributeFindings
import SchemaAssessment.Proofs.Assessment.Supplies

namespace SchemaAssessment

/-! ### What an attribute comes to -/

namespace Registry

variable (registry : Registry) (group : AttributeGroup TypeReference) (member : Attribute)

/-- A use that is not prohibited admits the attribute, or else the wildcard does by its namespace. A
strict wildcard asks for a global declaration. -/
def Admits : Prop :=
  (∃ use ∈ group.uses, use.isProhibited = false ∧ use.declaration.name = member.expanded) ∨
    ∃ wildcard, group.wildcard = some wildcard ∧ wildcard.allows member.name.space = true ∧
      (wildcard.processContents = .strict → (registry.attribute? member.expanded).isSome = true)

/-- The attribute comes to a global declaration behind the wildcard, which does not pass over it. It
is not special, and there is no use of its name. -/
structure Reaches (declaration : AttributeDeclaration TypeReference) : Prop where
  plain : member.isSpecial = false
  unused : group.use? member.expanded = none
  admitted : ∃ wildcard, group.wildcard = some wildcard ∧
    wildcard.allows member.name.space = true ∧ wildcard.processContents ≠ .skip
  declared : registry.attribute? member.expanded = some declaration

/-- The attribute comes to a declaration, and under a use to a constraint of the use besides. -/
inductive ComesTo : AttributeDeclaration TypeReference → Option ValueConstraint → Prop where
  | ofUse {use : AttributeUse TypeReference} (plain : member.isSpecial = false)
      (used : group.use? member.expanded = some use) :
      ComesTo use.declaration use.constraint
  | behindWildcard {declaration : AttributeDeclaration TypeReference}
      (reaches : registry.Reaches group member declaration) : ComesTo declaration none

end Registry

/-! ### Fixed values -/

namespace SimpleType

/-- The value is the one that a text stands for in the type. -/
def Means (type : SimpleType) (scopes : NamespaceScopes) (value : Value) (text : String) : Prop :=
  ∃ other, type.validate scopes text = .ok other ∧ value.same other = true

/-- The value is the one that a text stands for in the type; or the text stands for none, and it is
the text of the value once its blanks are as the type has them. -/
def Fits (type : SimpleType) (scopes : NamespaceScopes) (value : Value) (text : String) : Prop :=
  type.Means scopes value text ∨
    (∃ fault, type.validate scopes text = .error fault) ∧ value.text = type.normalize text

theorem agrees_iff (type : SimpleType) (scopes : NamespaceScopes) (value : Value) (text : String) :
    type.agrees scopes value text = true ↔ type.Fits scopes value text := by
  unfold agrees Fits Means
  cases type.validate scopes text <;> simp

end SimpleType

namespace AttributeContext

variable (context : AttributeContext) (group : AttributeGroup TypeReference)

/-- How a value is compared with a fixed text under a type. -/
abbrev Comparison := SimpleType → NamespaceScopes → Value → String → Prop

/-- The attribute is one of identifiers behind the wildcard. -/
def IsWildcardId (member : Attribute) : Prop :=
  ∃ declaration, context.registry.Reaches group member declaration ∧
    context.registry.idKindOf declaration = .declares

/-- The value of the attribute is valid for the type of a declaration, and equal to the fixed value
of the declaration and to that of a use, as far as there are any. -/
def HasValue (equal : Comparison) (member : Attribute)
    (declaration : AttributeDeclaration TypeReference) (ofUse : Option ValueConstraint) : Prop :=
  let type := context.registry.simpleTypeOf declaration.type
  ∃ value, type.validate context.scopes member.value = .ok value ∧
    (∀ fixed, declaration.constraint = some (.fixed fixed) →
      equal type context.scopes value fixed) ∧
    ∀ fixed, ofUse = some (.fixed fixed) → equal type context.scopes value fixed

/-- The attributes are as the type asks, under a comparison with fixed values. -/
structure AreValid (equal : Comparison) (attributes : Attributes) : Prop where
  admitted : ∀ member ∈ attributes, member.isSpecial = false →
    context.registry.Admits group member
  valued : ∀ member ∈ attributes, ∀ declaration ofUse,
    context.registry.ComesTo group member declaration ofUse →
      context.HasValue equal member declaration ofUse
  given : ∀ use ∈ group.uses, use.isRequired = true →
    ∃ member ∈ attributes, member.isSpecified = true ∧ member.expanded = use.declaration.name
  single : attributes.Pairwise fun member other =>
    ¬ (context.IsWildcardId group member ∧ context.IsWildcardId group other)
  alone : (∃ use ∈ group.uses, use.isProhibited = false ∧
      context.registry.idKindOf use.declaration = .declares) →
    ∀ member ∈ attributes, ¬ context.IsWildcardId group member

end AttributeContext

/-! ### What governs an attribute -/

section Governor

variable {registry : Registry} {group : AttributeGroup TypeReference} {member : Attribute}

theorem AttributeGroup.use?_isSome_iff {name : ExpandedName} :
    (group.use? name).isSome = true ↔
      ∃ use ∈ group.uses, use.isProhibited = false ∧ use.declaration.name = name := by
  simp [use?, List.find?_isSome]

theorem Registry.comesTo_of_use {use : AttributeUse TypeReference}
    (plain : member.isSpecial = false) (used : group.use? member.expanded = some use)
    {declaration : AttributeDeclaration TypeReference} {ofUse : Option ValueConstraint} :
    registry.ComesTo group member declaration ofUse ↔
      declaration = use.declaration ∧ ofUse = use.constraint := by
  constructor
  · rintro (⟨_, other⟩ | reaches)
    · obtain rfl := Option.some.inj (used.symm.trans other)
      exact ⟨rfl, rfl⟩
    · cases used.symm.trans reaches.unused
  · rintro ⟨rfl, rfl⟩
    exact .ofUse plain used

theorem Registry.comesTo_of_reaches {declaration other : AttributeDeclaration TypeReference}
    (reaches : registry.Reaches group member declaration) {ofUse : Option ValueConstraint} :
    registry.ComesTo group member other ofUse ↔ other = declaration ∧ ofUse = none := by
  constructor
  · rintro (⟨_, used⟩ | also)
    · cases used.symm.trans reaches.unused
    · exact ⟨Option.some.inj (also.declared.symm.trans reaches.declared), rfl⟩
  · rintro ⟨rfl, rfl⟩
    exact .behindWildcard reaches

/-- What comes to a declaration is admitted. -/
theorem Registry.ComesTo.admits {declaration : AttributeDeclaration TypeReference}
    {ofUse : Option ValueConstraint}
    (comes : registry.ComesTo group member declaration ofUse) : registry.Admits group member := by
  rcases comes with ⟨-, used⟩ | reaches
  · exact .inl (AttributeGroup.use?_isSome_iff.mp (Option.isSome_of_eq_some used))
  · obtain ⟨wildcard, held, allows, -⟩ := reaches.admitted
    exact .inr ⟨wildcard, held, allows, fun _ => Option.isSome_of_eq_some reaches.declared⟩

/-- Where no use is of the name of an attribute, the wildcard decides whether it is admitted. -/
theorem Registry.admits_iff_of_unused (unused : group.use? member.expanded = none) :
    registry.Admits group member ↔ ∃ wildcard, group.wildcard = some wildcard ∧
      wildcard.allows member.name.space = true ∧
        (wildcard.processContents = .strict →
          (registry.attribute? member.expanded).isSome = true) := by
  refine or_iff_right fun used => ?_
  rw [← AttributeGroup.use?_isSome_iff, unused] at used
  cases used

/-- What governs an attribute behind a wildcard that lets it in. -/
theorem Registry.governorBehind_tells (registry : Registry) {wildcard : Wildcard}
    (plain : member.isSpecial = false) (unused : group.use? member.expanded = none)
    (held : group.wildcard = some wildcard) (allows : wildcard.allows member.name.space = true) :
    match registry.governorBehind wildcard member.expanded with
    | .use _ => False
    | .declaration declaration => registry.Reaches group member declaration
    | .refusal => ¬ registry.Admits group member
    | .nothing => registry.Admits group member ∧
        ∀ declaration, ¬ registry.Reaches group member declaration := by
  have admits : registry.Admits group member ↔ (wildcard.processContents = .strict →
      (registry.attribute? member.expanded).isSome = true) := by
    simp [admits_iff_of_unused unused, held, allows]
  rw [admits]
  unfold governorBehind
  cases mode : wildcard.processContents with
  | skip =>
    refine ⟨nofun, fun declaration reaches => ?_⟩
    obtain ⟨other, same, -, looks⟩ := reaches.admitted
    obtain rfl := Option.some.inj (held.symm.trans same)
    exact looks mode
  | lax =>
    cases known : registry.attribute? member.expanded with
    | none =>
      exact ⟨nofun, fun declaration reaches => nomatch known.symm.trans reaches.declared⟩
    | some declaration =>
      exact ⟨plain, unused, ⟨wildcard, held, allows, by rw [mode]; decide⟩, known⟩
  | strict =>
    cases known : registry.attribute? member.expanded with
    | none => exact fun declared => nomatch declared rfl
    | some declaration =>
      exact ⟨plain, unused, ⟨wildcard, held, allows, by rw [mode]; decide⟩, known⟩

/-- What governs an attribute tells what it comes to, and whether it is admitted. -/
theorem Registry.governor_tells (registry : Registry) (group : AttributeGroup TypeReference)
    (member : Attribute) :
    match registry.governor group member with
    | .use use => member.isSpecial = false ∧ group.use? member.expanded = some use
    | .declaration declaration => registry.Reaches group member declaration
    | .refusal => member.isSpecial = false ∧ ¬ registry.Admits group member
    | .nothing => (member.isSpecial = false → registry.Admits group member) ∧
        ∀ declaration ofUse, ¬ registry.ComesTo group member declaration ofUse := by
  unfold governor
  cases plain : member.isSpecial with
  | true =>
    refine ⟨nofun, fun declaration ofUse comes => ?_⟩
    rcases comes with ⟨other, -⟩ | reaches
    · cases plain.symm.trans other
    · cases plain.symm.trans reaches.plain
  | false =>
    rw [if_neg Bool.false_ne_true]
    cases used : group.use? member.expanded with
    | some use => exact ⟨rfl, rfl⟩
    | none =>
      cases held : group.wildcard with
      | none =>
        refine ⟨rfl, fun admits => ?_⟩
        obtain ⟨wildcard, other, -⟩ := (admits_iff_of_unused used).mp admits
        cases held.symm.trans other
      | some wildcard =>
        dsimp only
        by_cases allows : wildcard.allows member.name.space = true
        · have tells := registry.governorBehind_tells plain used held allows
          rw [if_pos allows]
          revert tells
          cases registry.governorBehind wildcard member.expanded with
          | use use => exact False.elim
          | declaration declaration => exact id
          | refusal => exact fun refused => ⟨rfl, refused⟩
          | nothing =>
            rintro ⟨admitted, unreached⟩
            refine ⟨fun _ => admitted, fun declaration ofUse comes => ?_⟩
            rcases comes with ⟨-, other⟩ | reaches
            · cases used.symm.trans other
            · exact unreached declaration reaches
        · rw [if_neg allows]
          refine ⟨rfl, fun admits => ?_⟩
          obtain ⟨other, same, letIn, -⟩ := (admits_iff_of_unused used).mp admits
          obtain rfl := Option.some.inj (held.symm.trans same)
          exact allows letIn

/-- A declaration governs an attribute just where the attribute comes to it behind the wildcard. -/
theorem Registry.governor_eq_declaration_iff {declaration : AttributeDeclaration TypeReference} :
    registry.governor group member = .declaration declaration ↔
      registry.Reaches group member declaration := by
  have tells := registry.governor_tells group member
  revert tells
  cases registry.governor group member with
  | declaration other =>
    intro reaches
    rw [AttributeGovernor.declaration.injEq]
    constructor
    · rintro rfl
      exact reaches
    · exact fun also => Option.some.inj (reaches.declared.symm.trans also.declared)
  | use use =>
    rintro ⟨-, used⟩
    refine iff_of_false (by simp) fun reaches => ?_
    cases used.symm.trans reaches.unused
  | refusal =>
    rintro ⟨-, refused⟩
    exact iff_of_false (by simp) fun reaches =>
      refused (ComesTo.behindWildcard reaches).admits
  | nothing =>
    rintro ⟨-, nowhere⟩
    exact iff_of_false (by simp) fun reaches =>
      nowhere declaration none (.behindWildcard reaches)

end Governor

namespace AttributeContext

variable {context : AttributeContext} {group : AttributeGroup TypeReference}

/-! ### One attribute -/

theorem checkFixed_eq_nil_iff {rule : Rule} {type : SimpleType} {member : Attribute}
    {value : Value} {constraint : Option ValueConstraint} :
    context.checkFixed rule type member value constraint = [] ↔
      ∀ fixed, constraint = some (.fixed fixed) → type.Fits context.scopes value fixed := by
  unfold checkFixed
  rcases constraint with _ | fixed | fixed
  · exact iff_of_true rfl nofun
  · exact iff_of_true rfl nofun
  · have given (other : String) : some (ValueConstraint.fixed fixed) = some (.fixed other) ↔
        fixed = other := by
      rw [Option.some.injEq, ValueConstraint.fixed.injEq]
    simp [ValueConstraint.fixed?, SimpleType.agrees_iff, given]

/-- The value of an attribute is valid under a declaration, and fits the fixed values. -/
theorem checkValue_eq_nil_iff {member : Attribute}
    {declaration : AttributeDeclaration TypeReference} {ofUse : Option ValueConstraint} :
    (context.checkValue member declaration ofUse).2 = [] ↔
      context.HasValue SimpleType.Fits member declaration ofUse := by
  unfold checkValue HasValue
  dsimp only
  cases valid : (context.registry.simpleTypeOf declaration.type).validate context.scopes
      member.value with
  | error fault =>
    refine iff_of_false (List.cons_ne_nil _ _) ?_
    rintro ⟨value, impossible, -⟩
    cases impossible
  | ok value =>
    rw [List.append_eq_nil_iff, checkFixed_eq_nil_iff, checkFixed_eq_nil_iff]
    constructor
    · exact fun fits => ⟨value, rfl, fits⟩
    · rintro ⟨other, same, fits⟩
      obtain rfl := Except.ok.inj same
      exact fits

/-- Nothing is found about an attribute alone if it is admitted and its value is as its declaration
and its use ask. -/
theorem foundAt_eq_nil_iff {member : Attribute} :
    context.foundAt group member = [] ↔
      (member.isSpecial = false → context.registry.Admits group member) ∧
        ∀ declaration ofUse, context.registry.ComesTo group member declaration ofUse →
          context.HasValue SimpleType.Fits member declaration ofUse := by
  unfold foundAt
  have tells := context.registry.governor_tells group member
  revert tells
  cases context.registry.governor group member with
  | use use =>
    rintro ⟨plain, used⟩
    have comes : context.registry.ComesTo group member use.declaration use.constraint :=
      .ofUse plain used
    simp [checkValue_eq_nil_iff, Registry.comesTo_of_use plain used, comes.admits]
  | declaration declaration =>
    intro reaches
    have admitted := (Registry.ComesTo.behindWildcard reaches).admits
    simp [checkValue_eq_nil_iff, Registry.comesTo_of_reaches reaches, admitted]
  | refusal =>
    rintro ⟨plain, refused⟩
    exact iff_of_false (List.cons_ne_nil _ _) fun both => refused (both.1 plain)
  | nothing =>
    rintro ⟨admitted, nowhere⟩
    exact iff_of_true rfl
      ⟨admitted, fun declaration ofUse comes => absurd comes (nowhere declaration ofUse)⟩

/-- The value of an attribute is that of its text under what it comes to, where that is valid. -/
theorem typed?_eq_some_iff {member : Attribute} {typed : TypedAttribute} :
    context.typed? group member = some typed ↔
      ∃ declaration ofUse, context.registry.ComesTo group member declaration ofUse ∧
        let type := context.registry.simpleTypeOf declaration.type
        type.validate context.scopes member.value = .ok typed.value ∧
          typed.idKind = type.idKind := by
  have reads (declaration : AttributeDeclaration TypeReference) :
      (context.registry.simpleTypeOf declaration.type).typed? context.scopes member.value =
          some typed ↔
        let type := context.registry.simpleTypeOf declaration.type
        type.validate context.scopes member.value = .ok typed.value ∧
          typed.idKind = type.idKind := by
    unfold SimpleType.typed?
    dsimp only
    cases (context.registry.simpleTypeOf declaration.type).validate context.scopes
      member.value with
    | error fault =>
      refine iff_of_false (Option.some_ne_none _).symm ?_
      rintro ⟨impossible, -⟩
      cases impossible
    | ok value =>
      rw [Except.toOption, Option.map_some, Option.some.injEq, Except.ok.injEq]
      constructor
      · rintro rfl
        exact ⟨rfl, rfl⟩
      · rintro ⟨rfl, kind⟩
        rw [← kind]
  unfold typed?
  have tells := context.registry.governor_tells group member
  revert tells
  cases context.registry.governor group member with
  | use use =>
    rintro ⟨plain, used⟩
    simp [reads, Registry.comesTo_of_use plain used]
  | declaration declaration =>
    intro reaches
    simp [reads, Registry.comesTo_of_reaches reaches]
  | refusal =>
    rintro ⟨-, refused⟩
    refine iff_of_false (Option.some_ne_none _).symm ?_
    rintro ⟨declaration, ofUse, comes, -⟩
    exact refused comes.admits
  | nothing =>
    rintro ⟨-, nowhere⟩
    refine iff_of_false (Option.some_ne_none _).symm ?_
    rintro ⟨declaration, ofUse, comes, -⟩
    exact nowhere declaration ofUse comes

/-- An attribute counts as an identifier behind the wildcard just if it comes to one there. -/
theorem wildcardId?_isSome_iff {member : Attribute} :
    (context.wildcardId? group member).isSome = true ↔ context.IsWildcardId group member := by
  unfold wildcardId? IsWildcardId
  simp only [← Registry.governor_eq_declaration_iff]
  cases context.registry.governor group member <;> simp [identifierName?]

/-! ### All attributes -/

theorem foundAt_all_eq_nil_iff {attributes : Attributes} :
    attributes.flatMap (context.foundAt group) = [] ↔
      (∀ member ∈ attributes, member.isSpecial = false →
        context.registry.Admits group member) ∧
      ∀ member ∈ attributes, ∀ declaration ofUse,
        context.registry.ComesTo group member declaration ofUse →
          context.HasValue SimpleType.Fits member declaration ofUse := by
  simp only [List.flatMap_eq_nil_iff, foundAt_eq_nil_iff, forall_and]

theorem checkRequired_eq_nil_iff {attributes : Attributes} :
    context.checkRequired group attributes = [] ↔
      ∀ use ∈ group.uses, use.isRequired = true →
        ∃ member ∈ attributes,
          member.isSpecified = true ∧ member.expanded = use.declaration.name := by
  simp [checkRequired, List.filterMap_eq_nil_iff]

theorem wildcardIds_eq_nil_iff {attributes : Attributes} :
    context.wildcardIds group attributes = [] ↔
      ∀ member ∈ attributes, ¬ context.IsWildcardId group member := by
  simp [wildcardIds, List.filterMap_eq_nil_iff, ← wildcardId?_isSome_iff]

/-- No identifier behind the wildcard is told with an earlier one just if no two attributes are
such. -/
theorem repeatedIds_eq_nil_iff {attributes : Attributes} :
    context.repeatedIds (context.wildcardIds group attributes) = [] ↔
      attributes.Pairwise fun member other =>
        ¬ (context.IsWildcardId group member ∧ context.IsWildcardId group other) := by
  have lonely (ids : List String) :
      context.repeatedIds ids = [] ↔ ids.Pairwise fun _ _ => False := by
    rcases ids with _ | ⟨first, _ | ⟨second, others⟩⟩
    · exact iff_of_true rfl .nil
    · exact iff_of_true rfl (List.pairwise_singleton ..)
    · exact iff_of_false (List.cons_ne_nil _ _) fun none =>
        (List.pairwise_cons.mp none).1 second List.mem_cons_self
  have apart (member other : Attribute) :
      (∀ name, context.wildcardId? group member = some name →
          ∀ name', context.wildcardId? group other = some name' → False) ↔
        ¬ (context.IsWildcardId group member ∧ context.IsWildcardId group other) := by
    rw [← wildcardId?_isSome_iff, ← wildcardId?_isSome_iff]
    cases context.wildcardId? group member <;> cases context.wildcardId? group other <;> simp
  rw [lonely, wildcardIds, List.pairwise_filterMap]
  simp only [apart]

theorem checkBothIds_eq_nil_iff {attributes : Attributes} :
    context.checkBothIds group (context.wildcardIds group attributes).head? = [] ↔
      ((∃ use ∈ group.uses, use.isProhibited = false ∧
          context.registry.idKindOf use.declaration = .declares) →
        ∀ member ∈ attributes, ¬ context.IsWildcardId group member) := by
  have declared : (context.declaredId? group).isSome = true ↔
      ∃ use ∈ group.uses, use.isProhibited = false ∧
        context.registry.idKindOf use.declaration = .declares := by
    simp [declaredId?]
  rw [← declared, ← wildcardIds_eq_nil_iff]
  unfold checkBothIds
  cases context.declaredId? group <;> cases context.wildcardIds group attributes <;> simp

/-- Of a check of attributes: behind those of the document come the supplied ones; nothing is found
just if all of them are valid; and each has one entry, which is the value that its text stands for
under what it comes to, where that is valid, and is empty elsewhere. -/
theorem assess_verdict (context : AttributeContext) (group : AttributeGroup TypeReference)
    (attributes : Attributes) :
    let all := group.supply attributes
    let result := context.assess true (some group) attributes
    result.1 = all ∧
      (result.2.2 = [] ↔ context.AreValid group SimpleType.Fits all) ∧
      List.Forall₂ (fun member entry => ∀ typed, entry = some typed ↔
          ∃ declaration ofUse, context.registry.ComesTo group member declaration ofUse ∧
            let type := context.registry.simpleTypeOf declaration.type
            type.validate context.scopes member.value = .ok typed.value ∧
              typed.idKind = type.idKind)
        all result.2.1 := by
  intro all result
  refine ⟨rfl, ?_, ?_⟩
  · have found := (context.check_found group all).congr_left []
    rw [List.perm_nil, List.perm_nil] at found
    refine found.trans ?_
    rw [List.append_eq_nil_iff, List.append_eq_nil_iff, List.append_eq_nil_iff,
      foundAt_all_eq_nil_iff, repeatedIds_eq_nil_iff, checkRequired_eq_nil_iff,
      checkBothIds_eq_nil_iff]
    constructor
    · rintro ⟨⟨⟨⟨admitted, valued⟩, single⟩, given⟩, alone⟩
      exact ⟨admitted, valued, given, single, alone⟩
    · rintro ⟨admitted, valued, given, single, alone⟩
      exact ⟨⟨⟨⟨admitted, valued⟩, single⟩, given⟩, alone⟩
  · have typed : result.2.1 = all.map (context.typed? group) :=
      context.checkEach_typed group all none
    rw [typed, List.forall₂_map_right_iff]
    exact List.forall₂_same.mpr fun member _ typed => typed?_eq_some_iff

/-- The use of an attribute for a name, whose fixed text is not that of a name. -/
def fixedName : AttributeUse TypeReference :=
  ⟨⟨.unqualified "ref", some (.named (.ofSchema "QName")), some (.fixed "\x7bu\x7dx")⟩,
    .optional, none⟩

/-- An attribute can pass without the value that its fixed text stands for: here that text stands
for none, and the attribute passes since it is the text of its value. -/
theorem assess_passes_unequal :
    ¬ ∀ (context : AttributeContext) (group : AttributeGroup TypeReference)
      (attributes : Attributes),
      (context.assess true (some group) attributes).2.2 = [] ↔
        context.AreValid group SimpleType.Means (group.supply attributes) := by
  intro verdict
  let context : AttributeContext := ⟨.initial, .ofBindings [("p", "u")], "e"⟩
  let group : AttributeGroup TypeReference := { uses := [fixedName] }
  let ref : Attribute := .specified (.unqualified "ref") "p:x"
  have quiet : (context.assess true (some group) [ref]).2.2 = [] := by decide +kernel
  have comes : context.registry.ComesTo group ref fixedName.declaration fixedName.constraint :=
    .ofUse (by decide +kernel) rfl
  obtain ⟨value, -, equal, -⟩ :=
    ((verdict context group [ref]).mp quiet).valued ref (by decide +kernel) _ _ comes
  obtain ⟨other, stands, -⟩ := equal _ rfl
  have refused : ((context.registry.simpleTypeOf fixedName.declaration.type).validate
      context.scopes "\x7bu\x7dx").toOption.isSome = false := by decide +kernel
  rw [stands] at refused
  cases refused

end AttributeContext

end SchemaAssessment
