/-
When a type is derived from another one. From a type its base leads to a further type, the
base of that to another, and so on, as long as bases are global types; the way may run in a
circle. A type is derived from every type that it comes to by less than sixty-four bases,
if none of the derivations up to there is blocked; and else only from the most general type
and from unions that list it. So a type is derived from itself whatever is blocked, and
where more is blocked less is derived. Where global types have the names that they are
registered under, two ways that are short enough make one.
-/

import SchemaAssessment.Proofs.Sequences
import SchemaAssessment.Proofs.Grammar.Registered

namespace SchemaAssessment

/-! ### Members of unions -/

/-- A union lists a type of this name, or lists a union that does. -/
inductive SimpleType.Lists (name : ExpandedName) : SimpleType → Prop where
  | member {own base : Option ExpandedName} {members : List SimpleType} {facets : Facets}
      {member : SimpleType} (listed : member ∈ members) (named : member.name = some name) :
      Lists name (.mk own base (.union members) facets)
  | within {own base : Option ExpandedName} {members : List SimpleType} {facets : Facets}
      {member : SimpleType} (listed : member ∈ members) (lists : member.Lists name) :
      Lists name (.mk own base (.union members) facets)

namespace SimpleType

theorem lists_union_iff {name : ExpandedName} {own base : Option ExpandedName}
    {members : List SimpleType} {facets : Facets} :
    Lists name (.mk own base (.union members) facets) ↔
      ∃ member ∈ members, member.name = some name ∨ member.Lists name := by
  constructor
  · rintro (⟨listed, named⟩ | ⟨listed, lists⟩)
    · exact ⟨_, listed, .inl named⟩
    · exact ⟨_, listed, .inr lists⟩
  · rintro ⟨member, listed, named | lists⟩
    · exact .member listed named
    · exact .within listed lists

mutual

theorem hasMember_iff (name : ExpandedName) :
    ∀ type : SimpleType, type.hasMember name = true ↔ type.Lists name
  | .mk _ _ (.atomic _) _ => iff_of_false (by simp [hasMember]) nofun
  | .mk _ _ (.list _) _ => iff_of_false (by simp [hasMember]) nofun
  | .mk _ _ (.union members) _ => by
    rw [hasMember, anyMember_iff name members, lists_union_iff]

theorem anyMember_iff (name : ExpandedName) : ∀ types : List SimpleType,
    anyMember name types = true ↔ ∃ member ∈ types, member.name = some name ∨ member.Lists name
  | [] => by simp [anyMember]
  | type :: rest => by
    rw [anyMember, Bool.or_eq_true, Bool.or_eq_true, hasMember_iff name type,
      anyMember_iff name rest]
    simp

end

end SimpleType

/-! ### Sameness -/

/-- Both are one type: of the same kind, and found at the same place or of the same name. -/
def KnownType.AreSame (left right : KnownType) : Prop :=
  left.definition.isSimple = right.definition.isSimple ∧
    (left.origin = right.origin ∨
      ∃ name, left.definition.name? = some name ∧ right.definition.name? = some name)

theorem KnownType.isSame_iff (left right : KnownType) :
    left.isSame right = true ↔ left.AreSame right := by
  simp only [isSame, AreSame, Bool.and_eq_true, Bool.or_eq_true, beq_iff_eq,
    Option.isSome_iff_exists]
  refine and_congr_right' (or_congr_right ⟨?_, ?_⟩)
  · rintro ⟨⟨name, named⟩, same⟩
    exact ⟨name, named, same ▸ named⟩
  · rintro ⟨name, named, alsoNamed⟩
    exact ⟨⟨name, named⟩, named.trans alsoNamed.symm⟩

namespace Registry

variable {registry : Registry} {block : Block} {type base next : KnownType}

/-! ### The way of the bases -/

/-- So many bases lead from a type to another one, as long as bases are global types, and no
derivation up to there is blocked. -/
structure Leads (registry : Registry) (block : Block) (type base : KnownType) (steps : Nat) :
    Prop where
  arrives : ∃ last, chain? registry.base? type steps = some last ∧ last.AreSame base
  free : ∀ step < steps, ∀ passed, chain? registry.base? type step = some passed →
    block.blocks passed.definition.derivation = false

theorem leads_zero_iff : registry.Leads block type base 0 ↔ type.AreSame base := by
  refine ⟨fun leads => ?_, fun same => ⟨⟨type, rfl, same⟩, nofun⟩⟩
  obtain ⟨last, found, same⟩ := leads.arrives
  obtain rfl := Option.some.inj found
  exact same

/-- The first derivation of a way is not blocked, and the rest is the way of the base. -/
theorem leads_succ_iff {steps : Nat} :
    registry.Leads block type base (steps + 1) ↔
      block.blocks type.definition.derivation = false ∧
        ∃ next, registry.base? type = some next ∧ registry.Leads block next base steps := by
  constructor
  · rintro ⟨⟨last, found, same⟩, free⟩
    rw [chain?_succ] at found
    obtain ⟨next, known, found⟩ := Option.bind_eq_some_iff.mp found
    refine ⟨free 0 (Nat.succ_pos _) type rfl, next, known, ⟨last, found, same⟩, ?_⟩
    intro step before passed reached
    refine free (step + 1) (Nat.succ_lt_succ before) passed ?_
    rw [chain?_succ, known]
    exact reached
  · rintro ⟨first, next, known, ⟨last, found, same⟩, free⟩
    refine ⟨⟨last, by rw [chain?_succ, known]; exact found, same⟩, ?_⟩
    intro step before passed reached
    cases step with
    | zero =>
      obtain rfl := Option.some.inj reached
      exact first
    | succ step =>
      rw [chain?_succ, known] at reached
      exact free step (Nat.lt_of_succ_lt_succ before) passed reached

theorem leadsTo_iff {steps : Nat} :
    registry.leadsTo base block steps type = true ↔
      ∃ step < steps, registry.Leads block type base step := by
  induction steps generalizing type with
  | zero => simp [leadsTo]
  | succ steps ofFewer =>
    simp only [Nat.exists_lt_succ_left, leads_zero_iff, leads_succ_iff]
    rw [leadsTo, ← KnownType.isSame_iff]
    split
    · rename_i same
      exact iff_of_true rfl (.inl same)
    · rename_i apart
      split
      · rename_i blocked
        simp [apart, blocked]
      · rename_i free
        cases known : registry.base? type with
        | none => simp [apart]
        | some next => simp [apart, free, ofFewer]

/-- Where less is blocked more ways are free. -/
theorem Leads.mono {less more : Block} {steps : Nat}
    (blocks : ∀ method, less.blocks method = true → more.blocks method = true)
    (leads : registry.Leads more type base steps) : registry.Leads less type base steps := by
  refine ⟨leads.arrives, fun step before passed reached => ?_⟩
  have free := leads.free step before passed reached
  by_contra blocked
  rw [Bool.not_eq_false] at blocked
  exact Bool.false_ne_true (free.symm.trans (blocks _ blocked))

/-! ### Global types -/

/-- Where they have their own names, global types that are the same are one. -/
theorem IsBuilt.eq_of_same (built : registry.IsBuilt) (own : registry.HasOwnNames)
    (known : registry.IsGlobal type) (alsoKnown : registry.IsGlobal base)
    (same : type.AreSame base) : type = base := by
  obtain ⟨left, known⟩ := known
  obtain ⟨right, alsoKnown⟩ := alsoKnown
  have named : left = right := by
    rcases same.2 with place | ⟨name, named, alsoNamed⟩
    · exact built.name_eq_of_origin known alsoKnown place
    · have first := (own left type known).symm.trans named
      have second := (own right base alsoKnown).symm.trans alsoNamed
      exact Option.some.inj (first.trans second.symm)
  rw [named] at known
  exact Option.some.inj (known.symm.trans alsoKnown)

theorem IsGlobal.ancestor (isGlobal : registry.IsGlobal type) {steps : Nat}
    (found : chain? registry.base? type steps = some next) : registry.IsGlobal next := by
  cases steps with
  | zero =>
    obtain rfl := Option.some.inj found
    exact isGlobal
  | succ steps =>
    obtain ⟨last, -, found⟩ := Option.bind_eq_some_iff.mp found
    obtain ⟨name, -, known⟩ := Option.bind_eq_some_iff.mp found
    exact ⟨name, known⟩

/-- The way to a type and the way from there make one way. -/
theorem Leads.trans (built : registry.IsBuilt) (own : registry.HasOwnNames)
    {lower middle upper : KnownType} {first second : Nat} (ofLower : registry.IsGlobal lower)
    (ofMiddle : registry.IsGlobal middle) (below : registry.Leads block lower middle first)
    (above : registry.Leads block middle upper second) :
    registry.Leads block lower upper (first + second) := by
  obtain ⟨last, found, same⟩ := below.arrives
  obtain rfl := built.eq_of_same own (ofLower.ancestor found) ofMiddle same
  have onward (steps : Nat) : chain? registry.base? lower (first + steps) =
      chain? registry.base? last steps := by
    rw [chain?_add, found]
    rfl
  refine ⟨by rw [onward]; exact above.arrives, fun step before passed reached => ?_⟩
  rcases Nat.lt_or_ge step first with early | late
  · exact below.free step early passed reached
  · obtain ⟨steps, rfl⟩ := Nat.exists_eq_add_of_le late
    rw [onward] at reached
    exact above.free steps (Nat.lt_of_add_lt_add_left before) passed reached

/-! ### Derivation -/

theorem isAnyType_iff (type : TypeDefinition) :
    isAnyType type = true ↔
      ∃ complex, type = .complex complex ∧ complex.name = some ComplexType.anyTypeName := by
  cases type <;> simp [isAnyType, ComplexType.isAnyType]

theorem isUnionMember_iff (type base : TypeDefinition) :
    isUnionMember type base = true ↔
      ∃ member union name, type = .simple member ∧ base = .simple union ∧
        member.name = some name ∧ union.Lists name := by
  cases type <;> cases base <;> simp [isUnionMember, Option.any_eq_true, SimpleType.hasMember_iff]

theorem isDerivedFrom_iff :
    registry.isDerivedFrom type base block = true ↔
      isAnyType base.definition = true ∨ isUnionMember type.definition base.definition = true ∨
        ∃ steps < 64, registry.Leads block type base steps := by
  rw [isDerivedFrom, Bool.or_eq_true, Bool.or_eq_true, leadsTo_iff, or_assoc]
  rfl

/-- The way of a type to itself has no derivation that could be blocked. -/
theorem isDerivedFrom_refl (type : KnownType) (block : Block) :
    registry.isDerivedFrom type type block = true := by
  have same : type.AreSame type := (type.isSame_iff type).mp type.isSame_self
  exact isDerivedFrom_iff.mpr (.inr (.inr ⟨0, by decide, leads_zero_iff.mpr same⟩))

/-- A type is derived from another one if and only if this is the most general type, or a union that
lists the name of the type, or what less than sixty-four bases lead to without a derivation that is
blocked. So a type is derived from itself; what is derived where more is blocked is derived where
less is; and ways of bases between global types, which have their own names, can be put together as
long as they are short enough. -/
theorem isDerivedFrom_exact (registry : Registry) :
    (∀ type base block, registry.isDerivedFrom type base block = true ↔
      (∃ complex, base.definition = .complex complex ∧
        complex.name = some ComplexType.anyTypeName) ∨
      (∃ member union name, type.definition = .simple member ∧ base.definition = .simple union ∧
        member.name = some name ∧ union.Lists name) ∨
      ∃ steps < 64, registry.Leads block type base steps) ∧
    (∀ type block, registry.isDerivedFrom type type block = true) ∧
    (∀ type base less more, (∀ method, less.blocks method = true → more.blocks method = true) →
      registry.isDerivedFrom type base more = true →
        registry.isDerivedFrom type base less = true) ∧
    (registry.IsBuilt → registry.HasOwnNames → ∀ lower middle upper block first second,
      registry.IsGlobal lower → registry.IsGlobal middle →
        registry.Leads block lower middle first → registry.Leads block middle upper second →
          first + second < 64 → registry.isDerivedFrom lower upper block = true) := by
  refine ⟨fun type base block => ?_, isDerivedFrom_refl, fun type base less more blocks => ?_,
    fun built own lower middle upper block first second ofLower ofMiddle below above short => ?_⟩
  · rw [isDerivedFrom_iff, isAnyType_iff, isUnionMember_iff]
  · rw [isDerivedFrom_iff, isDerivedFrom_iff]
    exact Or.imp_right (Or.imp_right fun ⟨steps, before, leads⟩ =>
      ⟨steps, before, leads.mono blocks⟩)
  · exact isDerivedFrom_iff.mpr
      (.inr (.inr ⟨first + second, short, below.trans built own ofLower ofMiddle above⟩))

/-- A type for shapes, which have a centre. -/
def shape : ComplexType :=
  let centre : Particle ElementTerm := .element (.declared (.ofName (.unqualified "centre"))) .once
  .ofContent (some (.unqualified "Shape")) .elementOnly (some (.mk .sequence [centre] .once))

/-- A type for closed shapes, by extension of the one for shapes. -/
def closedShape : ComplexType :=
  { shape with name := some (.unqualified "Closed"), base := shape.name, derivation := .extension }

/-- A type for circles, by restriction of the one for closed shapes. -/
def circle : ComplexType :=
  { shape with name := some (.unqualified "Circle"), base := closedShape.name }

/-- A grammar of shapes. -/
def shapes : Grammar :=
  [shape, closedShape, circle].foldl (fun grammar type => grammar.addType (.complex type))
    (.empty none)

/-- Where substitution is blocked a circle is derived from a shape, by way of the closed ones, and
so it is where nothing is blocked. -/
theorem isDerivedFrom_exact_shapes :
    let registry := Registry.initial.put shapes
    let lower : KnownType := ⟨.complex circle, .global ⟨1, "Circle"⟩⟩
    let middle : KnownType := ⟨.complex closedShape, .global ⟨1, "Closed"⟩⟩
    let upper : KnownType := ⟨.complex shape, .global ⟨1, "Shape"⟩⟩
    registry.IsGlobal lower ∧ registry.IsGlobal middle ∧
      registry.Leads { substitution := true } lower middle 1 ∧
      registry.Leads { substitution := true } middle upper 1 ∧
      registry.isDerivedFrom lower upper { substitution := true } = true ∧
      registry.isDerivedFrom lower upper .nothing = true := by
  intro registry lower middle upper
  have built : registry.IsBuilt := .put .initial shapes
  have own : registry.HasOwnNames := hasOwnNames_of_entries (by decide +kernel)
  have ofLower : registry.IsGlobal lower := ⟨.unqualified "Circle", rfl⟩
  have ofMiddle : registry.IsGlobal middle := ⟨.unqualified "Closed", rfl⟩
  have below : registry.Leads { substitution := true } lower middle 1 :=
    leads_succ_iff.mpr ⟨rfl, middle, rfl, leads_zero_iff.mpr ⟨rfl, .inl rfl⟩⟩
  have above : registry.Leads { substitution := true } middle upper 1 :=
    leads_succ_iff.mpr ⟨rfl, upper, rfl, leads_zero_iff.mpr ⟨rfl, .inl rfl⟩⟩
  obtain ⟨-, -, antitone, transitive⟩ := isDerivedFrom_exact registry
  have derived : registry.isDerivedFrom lower upper { substitution := true } = true :=
    transitive built own lower middle upper _ 1 1 ofLower ofMiddle below above (by decide)
  exact ⟨ofLower, ofMiddle, below, above, derived,
    antitone lower upper .nothing { substitution := true } nofun derived⟩

end Registry

end SchemaAssessment
