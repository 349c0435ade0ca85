/-
Limits on documents: how deep elements may be nested, how many attributes an element
may have, and how many bytes a document or grammar may take. A limit is exceeded
only beyond its number.
-/

import SchemaAssessment.Json.Component

namespace SchemaAssessment

/-- What is limited. -/
inductive LimitKind where
  | depth
  | attributes
  | size
  deriving DecidableEq, Repr, Inhabited

/-- A limit that was exceeded: what was found, and what is allowed. -/
structure LimitFault where
  kind : LimitKind
  found : Nat
  allowed : Nat
  deriving DecidableEq, Repr, Inhabited

/-- The message about an exceeded limit. -/
def LimitFault.message (fault : LimitFault) : String :=
  match fault.kind with
  | .depth => s!"XML depth {fault.found} exceeds maximum {fault.allowed}"
  | .attributes => s!"Attribute count {fault.found} exceeds maximum {fault.allowed}"
  | .size => s!"XML size {fault.found} bytes exceeds maximum {fault.allowed} bytes"

/-- The limits of a run. -/
structure Limits where
  depth : Nat
  attributes : Nat
  size : Nat
  deriving DecidableEq, Repr, Inhabited

namespace Limits

/-- The bytes of a mebibyte. -/
def mebibyte : Nat := 1024 * 1024

/-- The usual limits. -/
def usual : Limits := ⟨1024, 1000, 100 * mebibyte⟩

/-- Limits for documents that are not trusted. -/
def strict : Limits := ⟨100, 100, 10 * mebibyte⟩

/-- Limits for very large documents. -/
def permissive : Limits := ⟨10000, 10000, 1024 * mebibyte⟩

/-- What is allowed of a kind. -/
def allowed (limits : Limits) : LimitKind → Nat
  | .depth => limits.depth
  | .attributes => limits.attributes
  | .size => limits.size

/-- Checks a number against the limit of its kind. -/
def check (limits : Limits) (kind : LimitKind) (found : Nat) : Except LimitFault Unit :=
  if limits.allowed kind < found then .error ⟨kind, found, limits.allowed kind⟩ else .ok ()

/-- Limits as a record. -/
def toJson (limits : Limits) : Json :=
  .object [("max_xml_depth", .nat limits.depth), ("max_attributes", .nat limits.attributes),
    ("max_xml_size", .nat limits.size)]

/-- Reads limits. -/
def ofJson (json : Json) : Except Json.Fault Limits := do
  let fields ← Json.toFields ["max_xml_depth", "max_attributes", "max_xml_size"] json
  return ⟨← fields.required "max_xml_depth" Json.toSize,
    ← fields.required "max_attributes" Json.toSize, ← fields.required "max_xml_size" Json.toSize⟩

end Limits

end SchemaAssessment
