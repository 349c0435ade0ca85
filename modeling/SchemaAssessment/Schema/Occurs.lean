/-
How often a part of a content model may stand: at least a number of times, and at
most another number or without end.
-/

import SchemaAssessment.Text.Blank

namespace SchemaAssessment

/-- Occurrence bounds. Without a greatest number there is no upper bound. -/
structure Occurs where
  min : Nat
  max : Option Nat
  deriving DecidableEq, Repr, Inhabited

namespace Occurs

/-- Exactly once. -/
def once : Occurs := ⟨1, some 1⟩

/-- Any number of times. -/
def anyNumber : Occurs := ⟨0, none⟩

/-- The part may be left out. -/
def isEmptiable (occurs : Occurs) : Bool := occurs.min == 0

/-- The part may not stand at all. -/
def isEmpty (occurs : Occurs) : Bool := occurs.max == some 0

/-- So many are fewer than required. -/
def isMissing (occurs : Occurs) (count : Nat) : Bool := count < occurs.min

/-- With so many no further one is allowed. -/
def isOver (occurs : Occurs) (count : Nat) : Bool := occurs.max.any (· ≤ count)

/-- The mark behind a part of a content model: none for once, `?`, `*` and `+` as usual, and
otherwise the numbers between braces. -/
def mark (occurs : Occurs) : String :=
  let braces (content : String) : String := "\x7b" ++ content ++ "\x7d"
  match occurs.min, occurs.max with
  | 1, some 1 => ""
  | 0, some 1 => "?"
  | 0, none => "*"
  | 1, none => "+"
  | min, none => braces (toString min ++ ",")
  | min, some max =>
    if min = max then braces (toString min) else braces (toString min ++ "," ++ toString max)

/-- The bounds that a mark stands for, or two numbers with a comma between them. -/
def ofMark? : String → Option Occurs
  | "?" => some ⟨0, some 1⟩
  | "*" => some anyNumber
  | "+" => some ⟨1, none⟩
  | mark => do
    let (least, most) ← Text.splitOnce ',' mark
    return ⟨← least.toNat?, most.toNat?⟩

/-- The bounds between brackets. -/
def text (occurs : Occurs) : String :=
  match occurs.max with
  | some max => s!"[{occurs.min}, {max}]"
  | none => s!"[{occurs.min}, unbounded]"

end Occurs

end SchemaAssessment
