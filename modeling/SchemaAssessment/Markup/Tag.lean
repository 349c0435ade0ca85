/-
The attributes of a tag as they are written. A key goes on up to an equals sign or a
blank, blanks may stand around the equals sign, and a value stands between two quotes
of one kind. Attributes are read one after the other, so that those before a fault
are known.
-/

import SchemaAssessment.Markup.Token

namespace SchemaAssessment.Markup

/-- An attribute as it is written. References in the value are not replaced yet. -/
structure RawAttribute where
  key : String
  value : List Char
  deriving DecidableEq, Repr, Inhabited

/-- The characters from the first one that is not a blank of markup. -/
def skipBlanks (chars : List Char) : List Char := chars.dropWhile Text.isMarkupBlank

/-- The value between the quotes that come first, and what follows it. -/
def readValue (chars : List Char) : Except TagFault (List Char × List Char) :=
  match chars with
  | [] => .error .noValue
  | quote :: rest =>
    if quote == '"' || quote == '\'' then
      match rest.dropWhile (· != quote) with
      | [] => .error .openValue
      | _ :: behind => .ok (rest.takeWhile (· != quote), behind)
    else .error .noQuote

/-- The key that comes first, and what follows its equals sign. Its first character may be any. -/
def readKey (first : Char) (chars : List Char) : Except TagFault (String × List Char) :=
  let goesOn (c : Char) : Bool := c != '=' && !Text.isMarkupBlank c
  match skipBlanks (chars.dropWhile goesOn) with
  | '=' :: behind => .ok (.ofList (first :: chars.takeWhile goesOn), behind)
  | _ => .error .noEquals

/-- The attribute that comes first, and what follows it. -/
def readAttribute (first : Char) (chars : List Char) :
    Except TagFault (RawAttribute × List Char) := do
  let (key, behind) ← readKey first chars
  let (value, rest) ← readValue (skipBlanks behind)
  return (⟨key, value⟩, rest)

/-- A value leaves less than there was. -/
theorem length_of_readValue {chars value rest : List Char}
    (done : readValue chars = .ok (value, rest)) : rest.length < chars.length := by
  unfold readValue at done
  split at done
  · exact absurd done (by simp)
  · next quote more =>
    split at done
    · split at done
      · exact absurd done (by simp)
      · next ending behind found =>
        simp only [Except.ok.injEq, Prod.mk.injEq] at done
        obtain ⟨-, rfl⟩ := done
        have dropped := length_dropWhile_le (· != quote) more
        rw [found] at dropped
        simp only [List.length_cons] at dropped ⊢
        omega
    · exact absurd done (by simp)

/-- A key leaves less than there was. -/
theorem length_of_readKey {first : Char} {chars rest : List Char} {key : String}
    (done : readKey first chars = .ok (key, rest)) : rest.length < chars.length := by
  unfold readKey at done
  simp only at done
  split at done
  · next behind found =>
    simp only [Except.ok.injEq, Prod.mk.injEq] at done
    obtain ⟨-, rfl⟩ := done
    have blanks := length_dropWhile_le Text.isMarkupBlank
      (chars.dropWhile fun c => c != '=' && !Text.isMarkupBlank c)
    have dropped := length_dropWhile_le (fun c => c != '=' && !Text.isMarkupBlank c) chars
    rw [skipBlanks] at found
    rw [found] at blanks
    simp only [List.length_cons] at blanks
    omega
  · exact absurd done (by simp)

/-- An attribute leaves less than there was. -/
theorem length_of_readAttribute {first : Char} {chars rest : List Char} {member : RawAttribute}
    (done : readAttribute first chars = .ok (member, rest)) : rest.length < chars.length := by
  unfold readAttribute at done
  cases foundKey : readKey first chars with
  | error fault => simp [foundKey, bind, Except.bind] at done
  | ok pair =>
    obtain ⟨key, behind⟩ := pair
    cases foundValue : readValue (skipBlanks behind) with
    | error fault => simp [foundKey, foundValue, bind, Except.bind] at done
    | ok pair =>
      obtain ⟨value, more⟩ := pair
      simp only [foundKey, foundValue, bind, Except.bind, pure, Except.pure, Except.ok.injEq,
        Prod.mk.injEq] at done
      obtain ⟨-, rfl⟩ := done
      have keyShorter := length_of_readKey foundKey
      have blanks : (skipBlanks behind).length ≤ behind.length := length_dropWhile_le _ _
      have valueShorter := length_of_readValue foundValue
      omega

/-- The attributes in order, as far as they can be read, and what is wrong behind them. -/
def readAttributes (chars : List Char) : List RawAttribute × Option TagFault :=
  match start : skipBlanks chars with
  | [] => ([], none)
  | first :: more =>
    match found : readAttribute first more with
    | .error fault => ([], some fault)
    | .ok (member, rest) =>
      have _shorter : rest.length < chars.length := by
        have attributeShorter := length_of_readAttribute found
        have blanks : (skipBlanks chars).length ≤ chars.length := length_dropWhile_le _ _
        rw [start] at blanks
        simp only [List.length_cons] at blanks
        omega
      let (others, fault) := readAttributes rest
      (member :: others, fault)
termination_by chars.length

/-- Cuts attributes off where a key comes for the second time. -/
def untilRepeated (seen : List String) :
    List RawAttribute → Option TagFault → List RawAttribute × Option TagFault
  | [], fault => ([], fault)
  | member :: rest, fault =>
    if seen.contains member.key then ([], some (.repeated member.key))
    else
      let (others, fault) := untilRepeated (member.key :: seen) rest fault
      (member :: others, fault)

/-- The attributes of a tag, where no key may be repeated. -/
def RawTag.attributes (tag : RawTag) : List RawAttribute × Option TagFault :=
  let (attributes, fault) := readAttributes tag.rest
  untilRepeated [] attributes fault

/-! ### The declaration of a document -/

/-- The first of some attributes with a key, as far as they can be read. -/
def declared (key : String) (attributes : List RawAttribute) : Option String :=
  (attributes.find? fun member => member.key == key).map fun member =>
    .ofList member.value

/-- The version that a declaration gives. It has to come first. -/
def versionOf : List RawAttribute × Option TagFault → Except DeclarationFault String
  | (member :: _, _) =>
    if member.key == "version" then .ok (.ofList member.value)
    else .error (.versionNotFirst member.key)
  | ([], some fault) => .error (.tag fault)
  | ([], none) => .error .noVersion

end SchemaAssessment.Markup
