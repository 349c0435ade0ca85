/-
Bytes as text: two hexadecimal digits for each byte, or four characters of the base
64 alphabet for each three bytes. A pair of hexadecimal characters may also be a
plus sign and one digit. Base 64 text is padded to groups of four, and the bits
that the padding leaves unused are zero. Either way bytes are read back from their
characters.
-/

import SchemaAssessment.Number.Digits
import SchemaAssessment.Text.Blank

namespace SchemaAssessment.Bytes

/-! ### Hexadecimal -/

/-- The byte that two characters stand for. -/
def hexPair? (first second : Char) : Option UInt8 :=
  if first == '+' then (Digits.value? second).map Nat.toUInt8
  else match Digits.value? first, Digits.value? second with
    | some high, some low => some (high * 16 + low).toUInt8
    | _, _ => none

/-- The bytes that pairs of characters stand for. -/
def ofHex? : List Char → Option (List UInt8)
  | [] => some []
  | [_] => none
  | first :: second :: rest =>
    match hexPair? first second, ofHex? rest with
    | some byte, some bytes => some (byte :: bytes)
    | _, _ => none

/-- Two upper-case hexadecimal digits for each byte. -/
def toHex (bytes : List UInt8) : List Char :=
  bytes.flatMap fun byte => [Digits.upperHex (byte.toNat / 16), Digits.upperHex (byte.toNat % 16)]

/-- No hexadecimal digit is a plus sign. -/
theorem upperHex_ne_plus : ∀ n < 16, (Digits.upperHex n == '+') = false := by decide

/-- The two digits of a byte stand for the byte. -/
theorem hexPair?_upperHex (byte : UInt8) :
    hexPair? (Digits.upperHex (byte.toNat / 16)) (Digits.upperHex (byte.toNat % 16)) =
      some byte := by
  have bound : byte.toNat < 256 := byte.toNat_lt_size
  have high : byte.toNat / 16 < 16 := by omega
  have low : byte.toNat % 16 < 16 := by omega
  have whole : byte.toNat / 16 * 16 + byte.toNat % 16 = byte.toNat := by omega
  unfold hexPair?
  rw [upperHex_ne_plus _ high, Digits.value?_upperHex _ high, Digits.value?_upperHex _ low]
  simp only [Bool.false_eq_true, if_false, whole, Nat.toUInt8_eq, UInt8.ofNat_toNat]

/-- Bytes are read back from their digits. -/
theorem ofHex?_toHex (bytes : List UInt8) : ofHex? (toHex bytes) = some bytes := by
  induction bytes with
  | nil => rfl
  | cons byte rest inductionHypothesis =>
    have step : toHex (byte :: rest) = Digits.upperHex (byte.toNat / 16)
        :: Digits.upperHex (byte.toNat % 16) :: toHex rest := rfl
    rw [step, ofHex?, hexPair?_upperHex, inductionHypothesis]

/-! ### Base 64 -/

/-- The value of a character of the base 64 alphabet. -/
def sextet? (c : Char) : Option Nat :=
  if 'A' ≤ c && c ≤ 'Z' then some (c.toNat - 'A'.toNat)
  else if 'a' ≤ c && c ≤ 'z' then some (c.toNat - 'a'.toNat + 26)
  else if '0' ≤ c && c ≤ '9' then some (c.toNat - '0'.toNat + 52)
  else if c == '+' then some 62
  else if c == '/' then some 63
  else none

/-- The character of the base 64 alphabet for a number below 64. -/
def sextetChar (n : Nat) : Char :=
  if n < 26 then Char.ofNat ('A'.toNat + n)
  else if n < 52 then Char.ofNat ('a'.toNat + (n - 26))
  else if n < 62 then Char.ofNat ('0'.toNat + (n - 52))
  else if n = 62 then '+'
  else '/'

/-- The bytes that groups of four characters stand for. Only the last group may be padded. -/
def ofBase64? : List Char → Option (List UInt8)
  | [] => some []
  | [a, b, '=', '='] =>
    match sextet? a, sextet? b with
    | some a, some b => if b % 16 = 0 then some [(a * 4 + b / 16).toUInt8] else none
    | _, _ => none
  | [a, b, c, '='] =>
    match sextet? a, sextet? b, sextet? c with
    | some a, some b, some c =>
      if c % 4 = 0 then some [(a * 4 + b / 16).toUInt8, (b % 16 * 16 + c / 4).toUInt8] else none
    | _, _, _ => none
  | a :: b :: c :: d :: rest =>
    match sextet? a, sextet? b, sextet? c, sextet? d, ofBase64? rest with
    | some a, some b, some c, some d, some bytes =>
      some ((a * 4 + b / 16).toUInt8 :: (b % 16 * 16 + c / 4).toUInt8
        :: (c % 4 * 64 + d).toUInt8 :: bytes)
    | _, _, _, _, _ => none
  | _ => none

/-- Groups of four characters for each three bytes, the last one padded. -/
def toBase64 : List UInt8 → List Char
  | [] => []
  | [x] => [sextetChar (x.toNat / 4), sextetChar (x.toNat % 4 * 16), '=', '=']
  | [x, y] =>
    [sextetChar (x.toNat / 4), sextetChar (x.toNat % 4 * 16 + y.toNat / 16),
      sextetChar (y.toNat % 16 * 4), '=']
  | x :: y :: z :: rest =>
    sextetChar (x.toNat / 4) :: sextetChar (x.toNat % 4 * 16 + y.toNat / 16)
      :: sextetChar (y.toNat % 16 * 4 + z.toNat / 64) :: sextetChar (z.toNat % 64)
      :: toBase64 rest

/-- The character of a number is read as the number. -/
theorem sextet?_sextetChar : ∀ n < 64, sextet? (sextetChar n) = some n := by decide

theorem sextetChar_ne_padding : ∀ n < 64, sextetChar n ≠ '=' := by decide

theorem isBlank_sextetChar : ∀ n < 64, Text.isBlank (sextetChar n) = false := by decide

/-- A group that does not end with padding is full. -/
theorem ofBase64?_group {a b c d : Char} {rest : List Char} {bytes : List UInt8} {i j k l : Nat}
    (filled : d ≠ '=') (first : sextet? a = some i) (second : sextet? b = some j)
    (third : sextet? c = some k) (fourth : sextet? d = some l)
    (ofRest : ofBase64? rest = some bytes) :
    ofBase64? (a :: b :: c :: d :: rest) =
      some ((i * 4 + j / 16).toUInt8 :: (j % 16 * 16 + k / 4).toUInt8
        :: (k % 4 * 64 + l).toUInt8 :: bytes) := by
  rw [ofBase64?, first, second, third, fourth, ofRest]
  -- the groups that end with padding come before the full one
  all_goals
    intros
    contradiction

theorem toUInt8_eq_of_eq (byte : UInt8) {n : Nat} (same : n = byte.toNat) : n.toUInt8 = byte := by
  rw [same, Nat.toUInt8_eq, UInt8.ofNat_toNat]

/-- Bytes are read back from their characters. -/
theorem ofBase64?_toBase64 (bytes : List UInt8) : ofBase64? (toBase64 bytes) = some bytes := by
  induction bytes using toBase64.induct with
  | case1 => rfl
  | case2 x =>
    have small : x.toNat < 256 := x.toNat_lt_size
    rw [toBase64, ofBase64?, sextet?_sextetChar _ (by omega), sextet?_sextetChar _ (by omega)]
    dsimp only
    rw [if_pos (by omega), toUInt8_eq_of_eq x (by omega)]
  | case3 x y =>
    have small : x.toNat < 256 := x.toNat_lt_size
    have alsoSmall : y.toNat < 256 := y.toNat_lt_size
    rw [toBase64, ofBase64?, sextet?_sextetChar _ (by omega), sextet?_sextetChar _ (by omega),
      sextet?_sextetChar _ (by omega)]
    · dsimp only
      rw [if_pos (by omega), toUInt8_eq_of_eq x (by omega), toUInt8_eq_of_eq y (by omega)]
    · exact sextetChar_ne_padding _ (by omega)
  | case4 x y z rest ofRest =>
    have small : x.toNat < 256 := x.toNat_lt_size
    have alsoSmall : y.toNat < 256 := y.toNat_lt_size
    have thirdSmall : z.toNat < 256 := z.toNat_lt_size
    rw [toBase64, ofBase64?_group (sextetChar_ne_padding _ (by omega))
      (sextet?_sextetChar _ (by omega)) (sextet?_sextetChar _ (by omega))
      (sextet?_sextetChar _ (by omega)) (sextet?_sextetChar _ (by omega)) ofRest,
      toUInt8_eq_of_eq x (by omega), toUInt8_eq_of_eq y (by omega), toUInt8_eq_of_eq z (by omega)]

/-- None of the characters is a blank. -/
theorem isBlank_of_mem_toBase64 {bytes : List UInt8} {c : Char} (member : c ∈ toBase64 bytes) :
    Text.isBlank c = false := by
  have padding : Text.isBlank '=' = false := by decide
  induction bytes using toBase64.induct with
  | case1 => cases member
  | case2 x =>
    have small : x.toNat < 256 := x.toNat_lt_size
    simp only [toBase64, List.mem_cons, List.not_mem_nil, or_false] at member
    rcases member with rfl | rfl | rfl | rfl
    · exact isBlank_sextetChar _ (by omega)
    · exact isBlank_sextetChar _ (by omega)
    · exact padding
    · exact padding
  | case3 x y =>
    have small : x.toNat < 256 := x.toNat_lt_size
    have alsoSmall : y.toNat < 256 := y.toNat_lt_size
    simp only [toBase64, List.mem_cons, List.not_mem_nil, or_false] at member
    rcases member with rfl | rfl | rfl | rfl
    · exact isBlank_sextetChar _ (by omega)
    · exact isBlank_sextetChar _ (by omega)
    · exact isBlank_sextetChar _ (by omega)
    · exact padding
  | case4 x y z rest ofRest =>
    have small : x.toNat < 256 := x.toNat_lt_size
    have alsoSmall : y.toNat < 256 := y.toNat_lt_size
    have thirdSmall : z.toNat < 256 := z.toNat_lt_size
    simp only [toBase64, List.mem_cons] at member
    rcases member with rfl | rfl | rfl | rfl | later
    · exact isBlank_sextetChar _ (by omega)
    · exact isBlank_sextetChar _ (by omega)
    · exact isBlank_sextetChar _ (by omega)
    · exact isBlank_sextetChar _ (by omega)
    · exact ofRest later

end SchemaAssessment.Bytes
