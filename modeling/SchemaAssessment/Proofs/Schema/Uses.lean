/-
The uses of attributes that a grammar holds. Types hold uses, and are held by element
declarations, which are held by groups and so by types again. Whatever a registry is asked
for, a declaration by its name, the type of an element, what takes a child of an element,
it holds uses of its grammars, or of what it was asked about, and no others.
-/

import SchemaAssessment.Proofs.Content.Exactness

namespace SchemaAssessment

/-! ### Components -/

mutual

/-- The uses of attributes in the type that a reference holds. -/
def TypeReference.uses : TypeReference → List (AttributeUse TypeReference)
  | .named _ | .simple _ => []
  | .complex type => type.uses

/-- The uses of attributes in a type and in its element declarations. Those that its attributes or
its text might hold by their own types are never asked for. -/
def ComplexType.uses : ComplexType → List (AttributeUse TypeReference)
  | ⟨_, _, _, _, group, _, attributes, _, _⟩ => attributes.uses ++ Group.optionalUses group

/-- The uses of attributes in a group that may be missing. -/
def Group.optionalUses : Option (Group ElementTerm) → List (AttributeUse TypeReference)
  | none => []
  | some group => Group.uses group

/-- The uses of attributes in the element declarations of a group. -/
def Group.uses : Group ElementTerm → List (AttributeUse TypeReference)
  | .mk _ particles _ => Particle.usesOf particles

/-- The uses of attributes in some particles. -/
def Particle.usesOf : List (Particle ElementTerm) → List (AttributeUse TypeReference)
  | [] => []
  | particle :: rest => Particle.uses particle ++ Particle.usesOf rest

/-- The uses of attributes in a particle. -/
def Particle.uses : Particle ElementTerm → List (AttributeUse TypeReference)
  | .element term _ => term.uses
  | .any _ => []
  | .nested group => Group.uses group

/-- The uses of attributes in the declaration that a particle has for an element. -/
def ElementTerm.uses : ElementTerm → List (AttributeUse TypeReference)
  | .declared declaration => declaration.uses
  | .global _ => []

/-- The uses of attributes in the type that an element declaration holds. -/
def ElementDeclaration.uses : ElementDeclaration → List (AttributeUse TypeReference)
  | ⟨_, type, _, _, _, _, _, _⟩ => TypeReference.optionalUses type

/-- The uses of attributes behind a reference that may be missing. -/
def TypeReference.optionalUses : Option TypeReference → List (AttributeUse TypeReference)
  | none => []
  | some reference => reference.uses

end

/-- The uses of attributes in a type definition. -/
def TypeDefinition.uses : TypeDefinition → List (AttributeUse TypeReference)
  | .simple _ => []
  | .complex type => type.uses

/-- The uses of attributes that a grammar holds. -/
def Grammar.uses (grammar : Grammar) : List (AttributeUse TypeReference) :=
  (grammar.elements.flatMap fun entry => entry.2.uses) ++
    grammar.types.flatMap fun entry => entry.2.uses

/-- The uses of attributes in the grammars of a registry. -/
def Registry.uses (registry : Registry) : List (AttributeUse TypeReference) :=
  registry.registrations.flatMap fun registration => registration.grammar.uses

mutual

theorem Group.uses_of_leaf {term : ElementTerm} :
    ∀ {group : Group ElementTerm}, .element term ∈ group.leaves → term.uses ⊆ group.uses
  | .mk _ _ _, inside => by
    rw [Group.leaves] at inside
    rw [Group.uses]
    exact Particle.uses_of_leafOf inside

theorem Particle.uses_of_leaf {term : ElementTerm} :
    ∀ {particle : Particle ElementTerm}, .element term ∈ particle.leaves →
      term.uses ⊆ particle.uses
  | .element _ _, inside => by
    obtain rfl : term = _ := by simpa [Particle.leaves] using inside
    exact fun _ member => by simpa [Particle.uses] using member
  | .any _, inside => by simp [Particle.leaves] at inside
  | .nested _, inside => by
    rw [Particle.leaves] at inside
    rw [Particle.uses]
    exact Group.uses_of_leaf inside

theorem Particle.uses_of_leafOf {term : ElementTerm} :
    ∀ {particles : List (Particle ElementTerm)}, .element term ∈ Particle.leavesOf particles →
      term.uses ⊆ Particle.usesOf particles
  | [], inside => by simp [Particle.leavesOf] at inside
  | _ :: _, inside => by
    rw [Particle.leavesOf] at inside
    rw [Particle.usesOf]
    rcases List.mem_append.mp inside with here | later
    · exact List.subset_append_of_subset_left _ (Particle.uses_of_leaf here)
    · exact List.subset_append_of_subset_right _ (Particle.uses_of_leafOf later)

end

/-- The children of a complex type hold uses of it. -/
theorem ComplexType.uses_of_contentGroup {type : ComplexType} {children : Group ElementTerm}
    (contains : type.contentGroup? = some children) : children.uses ⊆ type.uses := by
  obtain ⟨name, base, derivation, content, group, simpleType, attributes, isAbstract, block⟩ := type
  have given : children = group.getD .empty := by
    cases content <;> cases contains <;> rfl
  rw [given, ComplexType.uses]
  cases group with
  | none => exact fun use member => by simp [Group.empty, Group.uses, Particle.usesOf] at member
  | some group =>
    rw [Group.optionalUses]
    exact List.subset_append_right _ _

/-! ### Asking a registry -/

namespace Registry

variable {registry : Registry}

theorem uses_of_grammar {registration : Registration}
    (registered : registration ∈ registry.registrations) :
    registration.grammar.uses ⊆ registry.uses :=
  fun _ member => List.mem_flatMap.mpr ⟨registration, registered, member⟩

theorem mem_of_lookup {α : Type} {entries : Entries α} {key : String} {value : α}
    (found : entries.lookup key = some value) : (key, value) ∈ entries := by
  obtain ⟨before, behind, rfl, -⟩ := List.lookup_eq_some_iff.mp found
  exact List.mem_append_right _ List.mem_cons_self

theorem uses_of_element? {name : ExpandedName} {found : KnownElement}
    (known : registry.element? name = some found) : found.declaration.uses ⊆ registry.uses := by
  obtain ⟨registration, registered, rest⟩ := Option.bind_eq_some_iff.mp known
  obtain ⟨declaration, entry, same⟩ := Option.bind_eq_some_iff.mp rest
  obtain rfl := Option.some.inj same
  refine List.Subset.trans (fun use member => ?_)
    (uses_of_grammar (List.mem_of_find?_eq_some registered))
  exact List.mem_append_left _ (List.mem_flatMap.mpr ⟨_, mem_of_lookup entry, member⟩)

theorem uses_of_type? {name : ExpandedName} {found : KnownType}
    (known : registry.type? name = some found) : found.definition.uses ⊆ registry.uses := by
  obtain ⟨registration, registered, rest⟩ := Option.bind_eq_some_iff.mp known
  obtain ⟨definition, entry, same⟩ := Option.bind_eq_some_iff.mp rest
  obtain rfl := Option.some.inj same
  refine List.Subset.trans (fun use member => ?_)
    (uses_of_grammar (List.mem_of_find?_eq_some registered))
  exact List.mem_append_right _ (List.mem_flatMap.mpr ⟨_, mem_of_lookup entry, member⟩)

theorem uses_of_resolve? {origin : TypeOrigin} {reference : TypeReference} {found : KnownType}
    (known : registry.resolve? origin reference = some found) :
    found.definition.uses ⊆ reference.uses ++ registry.uses := by
  cases reference with
  | named name => exact List.subset_append_of_subset_right _ (uses_of_type? known)
  | simple type =>
    obtain rfl := Option.some.inj known
    exact List.nil_subset _
  | complex type =>
    obtain rfl := Option.some.inj known
    exact List.subset_append_left _ _

/-- The type of an element holds uses of its declaration or of the registry. -/
theorem uses_elementTypeWithin (declarations : Nat) (element : KnownElement) :
    (registry.elementTypeWithin declarations element).definition.uses ⊆
      element.declaration.uses ++ registry.uses := by
  induction declarations generalizing element with
  | zero => exact List.nil_subset _
  | succ declarations ofFewer =>
    obtain ⟨⟨name, type, isNillable, isAbstract, constraint, block, head, identities⟩, place⟩ :=
      element
    rw [elementTypeWithin]
    cases type with
    | some reference =>
      dsimp only
      cases known : registry.resolve? _ reference with
      | none => exact List.nil_subset _
      | some type => exact uses_of_resolve? known
    | none =>
      dsimp only
      cases known : head.bind registry.element? with
      | none => exact List.nil_subset _
      | some headElement =>
        obtain ⟨headName, -, found⟩ := Option.bind_eq_some_iff.mp known
        refine List.Subset.trans (ofFewer headElement) ?_
        exact List.append_subset.mpr ⟨List.subset_append_of_subset_right _ (uses_of_element? found),
          List.subset_append_right _ _⟩

theorem uses_elementType (element : KnownElement) :
    (registry.elementType element).definition.uses ⊆
      element.declaration.uses ++ registry.uses :=
  uses_elementTypeWithin longestChain element

theorem uses_of_substitute? {name head : ExpandedName} {found : KnownElement}
    (stands : registry.substitute? name head = some found) :
    found.declaration.uses ⊆ registry.uses := by
  obtain ⟨headElement, -, stands⟩ := Option.bind_eq_some_iff.mp stands
  have member : registry.element? name = some found := by
    simp only [Option.bind_eq_bind] at stands
    split at stands
    · cases stands
    · obtain ⟨member, known, stands⟩ := Option.bind_eq_some_iff.mp stands
      split at stands
      · cases stands
      · split at stands
        · exact known.trans stands
        · cases stands
  exact uses_of_element? member

/-- What takes a child holds uses of what the particle has for it, or of the registry. -/
theorem uses_of_takes {name : ExpandedName} {term : ElementTerm} {found : KnownElement}
    (taken : registry.takes name term = some found) :
    found.declaration.uses ⊆ term.uses ++ registry.uses := by
  cases term with
  | declared declaration =>
    rw [takes] at taken
    split at taken
    · obtain rfl := Option.some.inj taken
      exact List.subset_append_left _ _
    · cases taken
  | global head =>
    refine List.subset_append_of_subset_right _ ?_
    rw [takes] at taken
    split at taken
    · obtain rfl := Option.some.inj taken
      cases known : registry.element? head with
      | none => exact List.nil_subset _
      | some element => exact uses_of_element? known
    · exact uses_of_substitute? taken

end Registry

/-! ### Content models -/

namespace ContentModel

variable {τ δ : Type}

theorem mem_leavesOf_of_members {particles : List (Particle τ)} {members : List (τ × Occurs)}
    (counted : members? particles = some members) {term : τ} {occurs : Occurs}
    (member : (term, occurs) ∈ members) : .element term ∈ Particle.leavesOf particles := by
  induction particles generalizing members with
  | nil =>
    obtain rfl := Option.some.inj counted
    cases member
  | cons particle rest ofRest =>
    cases particle with
    | element first bounds =>
      obtain ⟨others, countedRest, rfl⟩ := Option.map_eq_some_iff.mp counted
      rcases List.mem_cons.mp member with same | later
      · obtain ⟨rfl, rfl⟩ := Prod.mk.inj same
        exact List.mem_append_left _ (List.mem_singleton_self _)
      · exact List.mem_append_right _ (ofRest countedRest later)
    | any wildcard => cases counted
    | nested group => cases counted

theorem mem_leaves_of_counted {group : Group τ} {members : List (τ × Occurs)}
    (counted : counted? group = some members) {term : τ} {occurs : Occurs}
    (member : (term, occurs) ∈ members) : .element term ∈ group.leaves := by
  obtain ⟨compositor, particles, bounds⟩ := group
  unfold counted? at counted
  split at counted
  · rw [Group.leaves]
    exact mem_leavesOf_of_members counted member
  · cases counted

theorem exists_member_of_count {takes : τ → Option δ} {members : List (τ × Occurs)}
    {counts behind : List Nat} {declaration : δ}
    (counted : count takes members counts = some (behind, .element declaration)) :
    ∃ term occurs, (term, occurs) ∈ members ∧ takes term = some declaration := by
  induction members generalizing counts behind with
  | nil => cases counted
  | cons member others ofOthers =>
    obtain ⟨term, occurs⟩ := member
    cases counts with
    | nil => cases counted
    | cons seen counts =>
      rw [count] at counted
      split at counted
      · rename_i first taken
        obtain ⟨-, same⟩ := Prod.mk.inj (Option.some.inj counted)
        obtain rfl := Taken.element.inj same
        split at taken
        · cases taken
        · exact ⟨term, occurs, List.mem_cons_self, taken⟩
      · obtain ⟨⟨later, takenLater⟩, countedLater, same⟩ := Option.map_eq_some_iff.mp counted
        obtain ⟨-, rfl⟩ := Prod.mk.inj same
        obtain ⟨other, bounds, inside, takes⟩ := ofOthers countedLater
        exact ⟨other, bounds, List.mem_cons_of_mem _ inside, takes⟩

theorem mem_of_combine {found : List (Taken δ × Reach)} {reach : Reach} {taken : Taken δ}
    (combined : combine found = some (reach, taken)) : ∃ next, (taken, next) ∈ found := by
  cases found with
  | nil => cases combined
  | cons first others =>
    obtain ⟨-, rfl⟩ := Prod.mk.inj (Option.some.inj combined)
    exact ⟨first.2, List.mem_cons_self⟩

/-- An element of the group takes a child that is an element for the content model. -/
theorem exists_leaf_of_step {label : τ → String} {group : Group τ} {takes : τ → Option δ}
    {space : Option String} {state next : ContentState} {declaration : δ}
    (steps : (ofGroup label group).step takes space state = some (next, .element declaration)) :
    ∃ term, .element term ∈ group.leaves ∧ takes term = some declaration := by
  unfold step ofGroup at steps
  cases counted : counted? group with
  | some members =>
    rw [counted] at steps
    cases state with
    | reached reach => cases steps
    | counts counts =>
      dsimp only at steps
      split at steps
      · obtain ⟨⟨behind, taken⟩, counting, same⟩ := Option.map_eq_some_iff.mp steps
        obtain ⟨-, rfl⟩ := Prod.mk.inj same
        obtain ⟨term, occurs, member, takes⟩ := exists_member_of_count counting
        exact ⟨term, mem_leaves_of_counted counted member, takes⟩
      · cases steps
  | none =>
    rw [counted] at steps
    cases state with
    | counts counts => cases steps
    | reached reach =>
      dsimp only [ofExpression] at steps
      obtain ⟨⟨next, taken⟩, combined, same⟩ := Option.map_eq_some_iff.mp steps
      obtain ⟨-, rfl⟩ := Prod.mk.inj same
      have found : ∃ next, (Taken.element declaration, next) ∈
          matchesAt takes space (table group.expression) reach.places := by
        rcases Option.or_eq_some_iff.mp combined with elements | ⟨-, all⟩
        · obtain ⟨next, member⟩ := mem_of_combine elements
          exact ⟨next, (List.mem_filter.mp member).1⟩
        · exact mem_of_combine all
      obtain ⟨behind, member⟩ := found
      obtain ⟨index, -, matching⟩ := List.mem_filterMap.mp member
      obtain ⟨place, standing, matching⟩ := Option.bind_eq_some_iff.mp matching
      obtain ⟨taken, takesIt, same⟩ := Option.bind_eq_some_iff.mp matching
      obtain ⟨rfl, -⟩ := Prod.mk.inj (Option.some.inj same)
      have leaf := group.leaves_of_expression (leaf_mem_of_table standing)
      obtain ⟨leafOf, nextOf⟩ := place
      cases leafOf with
      | element term =>
        obtain ⟨taken, takes, same⟩ := Option.map_eq_some_iff.mp takesIt
        obtain rfl := Taken.element.inj same
        exact ⟨term, leaf, takes⟩
      | wildcard wildcard =>
        rw [leafTakes] at takesIt
        split at takesIt <;> cases takesIt

end ContentModel

end SchemaAssessment
