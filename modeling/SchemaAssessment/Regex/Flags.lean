/-
The flags of a regular expression. They change what the pieces after them mean, up to
the end of the group that sets them.
-/

namespace SchemaAssessment.Regex

/-- What changes the meaning of the pieces: case is ignored, `^` and `$` hold at every line, the
point takes line ends too, lines may end at a carriage return, repetitions are short unless asked
to be long, classes and words know the basic alphabet alone, and blanks and comments are passed
over. -/
structure Flags where
  ignoreCase : Bool := false
  multiLine : Bool := false
  dotTakesAll : Bool := false
  returns : Bool := false
  short : Bool := false
  basic : Bool := false
  verbose : Bool := false
  deriving DecidableEq, Repr, Inhabited

namespace Flags

/-- Sets the flag with the given letter, or unsets it. -/
def set? (on : Bool) (flags : Flags) : Char → Option Flags
  | 'i' => some { flags with ignoreCase := on }
  | 'm' => some { flags with multiLine := on }
  | 's' => some { flags with dotTakesAll := on }
  | 'R' => some { flags with returns := on }
  | 'U' => some { flags with short := on }
  | 'u' => some { flags with basic := !on }
  | 'x' => some { flags with verbose := on }
  | _ => none

/-- The flags that a group sets, up to the colon or parenthesis that ends them. Those after a
hyphen are unset. Each letter stands once, a hyphen is not the last, and a parenthesis is not the
first. -/
def read? (on : Bool) (seen : List Char) (flags : Flags) :
    List Char → Option (Flags × Char × List Char)
  | [] => none
  | c :: rest =>
    if c == ':' || c == ')' then
      if seen.head? == some '-' || (c == ')' && seen.isEmpty) then none else some (flags, c, rest)
    else if seen.contains c then none
    else if c == '-' then read? false (c :: seen) flags rest
    else (set? on flags c).bind fun flags => read? on (c :: seen) flags rest

end Flags

end SchemaAssessment.Regex
