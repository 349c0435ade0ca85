/-
Namespace bindings in scope. Every open element has a scope of its own, the scopes
are kept innermost first, and below them lies a scope that is never closed and
binds the prefix `xml`. The empty prefix stands for the default namespace, and a
binding to nothing hides the bindings of the same prefix further out.
-/

import SchemaAssessment.Name.Expanded
import SchemaAssessment.Text.Blank

namespace SchemaAssessment

/-- The bindings of one scope, in the order in which they were declared. -/
abbrev Bindings := List (String × Option String)

namespace Bindings

/-- Binds a prefix; a binding of the same prefix is replaced where it stands. -/
def declare (prefixName : String) (space : Option String) : Bindings → Bindings
  | [] => [(prefixName, space)]
  | (other, bound) :: rest =>
    if other == prefixName then (other, space) :: rest
    else (other, bound) :: declare prefixName space rest

/-- A declared prefix is bound to what was declared last. -/
theorem lookup_declare_self (prefixName : String) (space : Option String) (bindings : Bindings) :
    (bindings.declare prefixName space).lookup prefixName = some space := by
  induction bindings with
  | nil => simp [declare]
  | cons binding rest inductionHypothesis =>
    obtain ⟨other, bound⟩ := binding
    unfold declare
    split
    · next same => simp [eq_of_beq same]
    · next differs =>
      have apart : (prefixName == other) = false := by
        rw [beq_eq_false_iff_ne]
        intro equal
        exact differs (by rw [equal]; exact beq_self_eq_true other)
      simpa [List.lookup_cons, apart] using inductionHypothesis

/-- Declaring one prefix leaves the others as they are. -/
theorem lookup_declare_of_ne {prefixName other : String} (space : Option String)
    (bindings : Bindings) (apart : other ≠ prefixName) :
    (bindings.declare prefixName space).lookup other = bindings.lookup other := by
  induction bindings with
  | nil =>
    have differs : (other == prefixName) = false := by simpa using apart
    simp [declare, List.lookup_cons, differs]
  | cons binding rest inductionHypothesis =>
    obtain ⟨name, bound⟩ := binding
    unfold declare
    split
    · next same =>
      have differs : (other == name) = false := by
        have := eq_of_beq same
        simpa [this] using apart
      simp [List.lookup_cons, differs]
    · cases found : (other == name) <;> simp [List.lookup_cons, found, inductionHypothesis]

end Bindings

/-- The open scopes, innermost first, above the scope that is always there. -/
structure NamespaceScopes where
  /-- The scopes of the open elements, innermost first. -/
  opened : List Bindings
  /-- The scope below them. -/
  outermost : Bindings
  deriving DecidableEq, Repr, Inhabited

/-- Why a prefixed name has no meaning. -/
structure UnboundPrefix where
  prefixName : String
  deriving DecidableEq, Repr, Inhabited

namespace NamespaceScopes

/-- No open element; only `xml` is bound. -/
def initial : NamespaceScopes := ⟨[], [("xml", some xmlNamespace)]⟩

/-- Opens a scope. -/
def push (scopes : NamespaceScopes) : NamespaceScopes :=
  { scopes with opened := [] :: scopes.opened }

/-- Closes the innermost scope and forgets its bindings. The outermost scope stays. -/
def pop (scopes : NamespaceScopes) : NamespaceScopes :=
  { scopes with opened := scopes.opened.tail }

/-- Binds a prefix in the innermost scope. -/
def declare (scopes : NamespaceScopes) (prefixName : String) (space : Option String) :
    NamespaceScopes :=
  match scopes.opened with
  | [] => { scopes with outermost := scopes.outermost.declare prefixName space }
  | innermost :: rest =>
    { scopes with opened := innermost.declare prefixName space :: rest }

/-- The scopes without an open element in which the given prefixes are bound. -/
def ofBindings (bindings : List (String × String)) : NamespaceScopes :=
  bindings.foldl (fun scopes binding => scopes.declare binding.1 (some binding.2)) initial

/-- The namespace of a prefix: that of its innermost binding. -/
def lookup (scopes : NamespaceScopes) (prefixName : String) : Option String :=
  ((scopes.opened ++ [scopes.outermost]).findSome? (·.lookup prefixName)).join

/-- The namespace of names without a prefix. -/
def default (scopes : NamespaceScopes) : Option String := scopes.lookup ""

/-- The number of scopes, the outermost one included. -/
def depth (scopes : NamespaceScopes) : Nat := scopes.opened.length + 1

/-- What a written name means; the default namespace applies to names without a prefix. -/
def resolve (scopes : NamespaceScopes) (name : String) : Except UnboundPrefix ExpandedName :=
  match Text.splitOnce ':' name with
  | some (prefixName, localName) =>
    match scopes.lookup prefixName with
    | some space => .ok ⟨some space, localName⟩
    | none => .error ⟨prefixName⟩
  | none => .ok ⟨scopes.default, name⟩

/-- Closing the scope that was just opened gives back the scopes as they were. -/
@[simp] theorem pop_push (scopes : NamespaceScopes) : scopes.push.pop = scopes := rfl

/-- Declarations in a scope that was just opened vanish when it is closed. -/
theorem pop_declare (scopes : NamespaceScopes) (prefixName : String) (space : Option String)
    (inside : scopes.opened ≠ []) : (scopes.declare prefixName space).pop = scopes.pop := by
  obtain ⟨opened, outermost⟩ := scopes
  cases opened with
  | nil => exact absurd rfl inside
  | cons innermost rest => rfl

/-- A prefix declared in the innermost scope means what was declared. -/
theorem lookup_declare_self (scopes : NamespaceScopes) (prefixName : String)
    (space : Option String) : (scopes.declare prefixName space).lookup prefixName = space := by
  obtain ⟨opened, outermost⟩ := scopes
  cases opened with
  | nil => simp [declare, lookup, Bindings.lookup_declare_self]
  | cons innermost rest => simp [declare, lookup, Bindings.lookup_declare_self]

/-- A declaration leaves the meaning of the other prefixes as it is. -/
theorem lookup_declare_of_ne (scopes : NamespaceScopes) {prefixName other : String}
    (space : Option String) (apart : other ≠ prefixName) :
    (scopes.declare prefixName space).lookup other = scopes.lookup other := by
  obtain ⟨opened, outermost⟩ := scopes
  cases opened with
  | nil => simp [declare, lookup, Bindings.lookup_declare_of_ne, apart]
  | cons innermost rest =>
    simp only [declare, lookup, List.cons_append, List.findSome?_cons,
      Bindings.lookup_declare_of_ne space innermost apart]

end NamespaceScopes

end SchemaAssessment
