/-
What checking attributes one after the other comes to. Each attribute has findings of its
own, which do not depend on the others. Only identifiers behind the wildcard are compared
with an earlier attribute: the first of them is kept, and each later one is told with it.
So the findings are, in some order, those of each attribute, one for each identifier
behind the wildcard but the first, and those that speak of the attributes as a whole.
-/

import SchemaAssessment.Proofs.Assessment.Values

namespace SchemaAssessment

namespace AttributeContext

variable (context : AttributeContext) (group : AttributeGroup TypeReference)

/-! ### One attribute -/

/-- What is found about an attribute alone. -/
def foundAt (member : Attribute) : List Diagnostic :=
  match context.registry.governor group member with
  | .nothing => []
  | .refusal => [context.finding .attributeNotAllowed [member.name.raw]]
  | .use use => (context.checkValue member use.declaration use.constraint).2
  | .declaration declaration => (context.checkValue member declaration none).2

/-- The local name of a declaration, if it declares identifiers. -/
def identifierName? (declaration : AttributeDeclaration TypeReference) : Option String :=
  if context.registry.idKindOf declaration == .declares then some declaration.name.localName
  else none

/-- The local name of the declaration of identifiers that an attribute has behind the wildcard. -/
def wildcardId? (member : Attribute) : Option String :=
  match context.registry.governor group member with
  | .declaration declaration => context.identifierName? declaration
  | _ => none

/-- The identifiers behind the wildcard in order. -/
def wildcardIds (attributes : Attributes) : List String :=
  attributes.filterMap (context.wildcardId? group)

/-- What is found when several attributes are identifiers: each is told but the first, with the
first. -/
def repeatedIds : List String → List Diagnostic
  | [] => []
  | first :: others => others.map fun other => context.finding .multipleWildcardIds [other, first]

/-! ### All attributes -/

/-- A declaration behind the wildcard counts as the next identifier, if it declares any. -/
theorem checkWildcardId_ids (earlier : Option String)
    (declaration : AttributeDeclaration TypeReference) (later : List String) :
    let ids := earlier.toList ++ ((context.identifierName? declaration).toList ++ later)
    let checked := context.checkWildcardId earlier declaration
    ids.head? = (checked.1.toList ++ later).head? ∧
      context.repeatedIds ids = checked.2 ++ context.repeatedIds (checked.1.toList ++ later) := by
  unfold checkWildcardId identifierName?
  cases kind : context.registry.idKindOf declaration == .declares with
  | false =>
    rw [bne, kind]
    exact ⟨rfl, rfl⟩
  | true =>
    rw [bne, kind]
    cases earlier <;> exact ⟨rfl, rfl⟩

/-- What the check of one attribute adds: what is found about it alone, and that it is one more
identifier behind the wildcard, if it is. -/
theorem checkEach_cons (earlier : Option String) (member : Attribute) (rest : Attributes) :
    ∃ kept found,
      (context.checkEach group earlier (member :: rest)).2 =
        ((context.checkEach group kept rest).2.1,
          found ++ (context.checkEach group kept rest).2.2) ∧
      ∀ later,
        let ids := earlier.toList ++ ((context.wildcardId? group member).toList ++ later)
        ids.head? = (kept.toList ++ later).head? ∧
          (found ++ context.repeatedIds (kept.toList ++ later)).Perm
            (context.foundAt group member ++ context.repeatedIds ids) := by
  rw [checkEach, foundAt, wildcardId?]
  cases context.registry.governor group member with
  | declaration declaration =>
    refine ⟨_, _, rfl, fun later => ?_⟩
    obtain ⟨head, repeated⟩ :=
      context.checkWildcardId_ids earlier declaration later
    refine ⟨head, ?_⟩
    rw [repeated, List.append_assoc]
    exact List.perm_append_comm_assoc ..
  | use use => exact ⟨earlier, _, rfl, fun later => ⟨rfl, .refl _⟩⟩
  | nothing => exact ⟨earlier, _, rfl, fun later => ⟨rfl, .refl _⟩⟩
  | refusal => exact ⟨earlier, _, rfl, fun later => ⟨rfl, .refl _⟩⟩

theorem checkEach_found (earlier : Option String) (attributes : Attributes) :
    let ids := earlier.toList ++ context.wildcardIds group attributes
    let checked := context.checkEach group earlier attributes
    checked.2.1 = ids.head? ∧
      checked.2.2.Perm
        (attributes.flatMap (context.foundAt group) ++ context.repeatedIds ids) := by
  induction attributes generalizing earlier with
  | nil => cases earlier <;> exact ⟨rfl, .refl _⟩
  | cons member rest ofRest =>
    obtain ⟨kept, found, checked, adds⟩ :=
      context.checkEach_cons group earlier member rest
    obtain ⟨head, here⟩ := adds (context.wildcardIds group rest)
    obtain ⟨last, others⟩ := ofRest kept
    have ids : context.wildcardIds group (member :: rest) =
        (context.wildcardId? group member).toList ++ context.wildcardIds group rest := by
      unfold wildcardIds
      cases named : context.wildcardId? group member <;> simp [named]
    dsimp only
    rw [checked, ids]
    refine ⟨last.trans head.symm, ?_⟩
    -- the findings about the other attributes are carried across those about this one
    have moved := (others.append_left found).trans (List.perm_append_comm_assoc ..)
    rw [List.flatMap_cons, List.append_assoc]
    exact moved.trans ((here.append_left _).trans (List.perm_append_comm_assoc ..))

/-- What is found about the attributes of an element whose type has attributes: about each of them,
about identifiers behind the wildcard, and about what is missing. -/
theorem check_found (attributes : Attributes) :
    let ids := context.wildcardIds group attributes
    (context.check group attributes).2.Perm
      (attributes.flatMap (context.foundAt group) ++ context.repeatedIds ids ++
        context.checkRequired group attributes ++ context.checkBothIds group ids.head?) := by
  obtain ⟨kept, found⟩ :=
    context.checkEach_found group none attributes
  unfold check
  dsimp only
  rw [kept]
  exact (found.append_right _).append_right _

end AttributeContext

end SchemaAssessment
