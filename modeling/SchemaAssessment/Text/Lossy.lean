/-
Text from bytes that need not be text. Bytes that begin a character but do not complete
it are shown together as one replacement character, and any other byte that is no
part of a character as one of its own.
-/

namespace SchemaAssessment.Text

/-- A character that has begun: how many bytes it still lacks, between which bounds the next of
them lies, and the number read so far. -/
structure Unfinished where
  lacking : Nat
  low : Nat
  high : Nat
  number : Nat
  deriving DecidableEq, Repr, Inhabited

/-- The replacement character. -/
def replacement : Char := Char.ofNat 0xFFFD

/-- The character that a byte begins, if it begins one of several bytes. The bounds leave out
longer forms than needed, surrogates, and numbers that are too large. -/
def begun? (byte : Nat) : Option Unfinished :=
  if byte < 0xC2 then none
  else if byte < 0xE0 then some ⟨1, 0x80, 0xBF, byte - 0xC0⟩
  else if byte == 0xE0 then some ⟨2, 0xA0, 0xBF, 0⟩
  else if byte == 0xED then some ⟨2, 0x80, 0x9F, 13⟩
  else if byte < 0xF0 then some ⟨2, 0x80, 0xBF, byte - 0xE0⟩
  else if byte == 0xF0 then some ⟨3, 0x90, 0xBF, 0⟩
  else if byte < 0xF4 then some ⟨3, 0x80, 0xBF, byte - 0xF0⟩
  else if byte == 0xF4 then some ⟨3, 0x80, 0x8F, 4⟩
  else none

/-- Takes a byte that does not go on with a character: what it shows, and what it begins. -/
def startByte (byte : Nat) : List Char × Option Unfinished :=
  if byte < 0x80 then ([Char.ofNat byte], none)
  else
    match begun? byte with
    | some character => ([], some character)
    | none => ([replacement], none)

/-- Takes a byte after a character that may have begun. -/
def takeByte (state : Option Unfinished) (byte : Nat) : List Char × Option Unfinished :=
  match state with
  | none => startByte byte
  | some character =>
    if character.low ≤ byte && byte ≤ character.high then
      let number := character.number * 64 + (byte - 0x80)
      if character.lacking ≤ 1 then ([Char.ofNat number], none)
      else ([], some ⟨character.lacking - 1, 0x80, 0xBF, number⟩)
    else
      let (shown, next) := startByte byte
      (replacement :: shown, next)

/-- The characters of bytes after a character that may have begun. -/
def lossyFrom (state : Option Unfinished) : List UInt8 → List Char
  | [] => if state.isSome then [replacement] else []
  | byte :: rest =>
    let (shown, next) := takeByte state byte.toNat
    shown ++ lossyFrom next rest

/-- The text of bytes. -/
def lossy (bytes : List UInt8) : String := String.ofList (lossyFrom none bytes)

/-- Bytes of the basic alphabet are shown as they are. -/
theorem lossyFrom_basic (bytes : List UInt8) (basic : ∀ byte ∈ bytes, byte.toNat < 0x80) :
    lossyFrom none bytes = bytes.map fun byte => Char.ofNat byte.toNat := by
  induction bytes with
  | nil => rfl
  | cons byte rest inductionHypothesis =>
    have first := basic byte List.mem_cons_self
    simp [lossyFrom, takeByte, startByte, first,
      inductionHypothesis fun other inside => basic other (List.mem_cons_of_mem _ inside)]

end SchemaAssessment.Text
