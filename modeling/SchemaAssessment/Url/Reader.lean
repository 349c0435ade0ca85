/-
Reading locators. A text is a locator when it begins with a scheme; as a reference
to a resource near a web page it may also leave the scheme out. Beyond the scheme only
the authority can be wrong. Tabs and line breaks are passed over, and so are blanks at
both ends.
-/

import SchemaAssessment.Text.Lossy
import SchemaAssessment.Url.Authority
import SchemaAssessment.Url.Path

namespace SchemaAssessment.Url

/-- The characters of a text that count. -/
def characters (text : String) : List Char :=
  let isPadding (c : Char) : Bool := c.toNat ≤ 32
  let trimmed := ((text.toList.dropWhile isPadding).reverse.dropWhile isPadding).reverse
  trimmed.filter fun c => c != '\t' && c != '\n' && c != '\r'

/-- A scheme in front, in lower case, and what follows its colon. -/
def splitScheme (chars : List Char) : Option (String × List Char) := do
  let (scheme, rest) ← Text.splitAtFirst (· == ':') chars
  let isSchemeCharacter (c : Char) : Bool := c.isAlphanum || c == '+' || c == '-' || c == '.'
  match scheme with
  | c :: _ =>
    if c.isAlpha && scheme.all isSchemeCharacter then
      some (String.ofList (scheme.map Char.toLower), rest)
    else none
  | [] => none

/-! ### Query and fragment -/

/-- Cuts off the query and the fragment. -/
def splitTail (special : Bool) (chars : List Char) :
    List Char × Option String × Option String :=
  let (front, fragment) := match Text.splitAtFirst (· == '#') chars with
    | some (front, fragment) =>
      (front, some (String.ofList (percentEncode inFragmentSet fragment)))
    | none => (chars, none)
  match Text.splitAtFirst (· == '?') front with
  | some (path, query) =>
    (path, some (String.ofList (percentEncode (inQuerySet special) query)), fragment)
  | none => (front, none, fragment)

/-! ### Locators -/

/-- What stands after one slash in front, if any stands there. -/
def dropSlash (special : Bool) : List Char → List Char
  | c :: rest => if isSlash special c then rest else c :: rest
  | [] => []

/-- Completes a locator with what follows its authority. Only a scheme without rules of its own may
do without a path. -/
def finish (scheme : String) (authority : Authority) (chars : List Char) : Url :=
  let special := isSpecial scheme
  let (path, query, fragment) := splitTail special chars
  let path :=
    if path.isEmpty && !special then ""
    else (readPath false special (dropSlash special path)).1
  ⟨scheme, some authority, path, query, fragment⟩

/-- The host of a file that follows two slashes, and the path after the slash in front of it. The
name of the local machine counts as no host, and so does the letter of a drive. Where no host is
given the path keeps its own first slash. -/
def fileHost? (chars : List Char) : Option (Option Host × List Char) :=
  let name := chars.takeWhile fun c => !isSlash true c
  let rest := chars.dropWhile fun c => !isSlash true c
  if isDrive name then some (none, chars)
  else if name.isEmpty then some (none, rest)
  else (specialHost? name).map fun host =>
    if host == .domain "localhost" then (none, rest) else (some host, dropSlash true rest)

/-- A locator of a file. A drive takes the place of the host. -/
def readFile (chars : List Char) : Option Url := do
  let (path, query, fragment) := splitTail true chars
  let (host, path) ← match path with
    | a :: b :: rest =>
      if isSlash true a && isSlash true b then fileHost? rest else some (none, dropSlash true path)
    | path => some (none, dropSlash true path)
  let (path, namesDrive) := readPath true true path
  some ⟨"file", some ⟨none, if namesDrive then none else host, none⟩, path, query, fragment⟩

/-- A locator of a scheme without rules of its own. Its path is any text if it begins with no
slash. -/
def readPlain (scheme : String) (chars : List Char) : Option Url :=
  match chars with
  | '/' :: '/' :: rest =>
    (readAuthority scheme rest).map fun (authority, rest) => finish scheme authority rest
  | _ =>
    let (path, query, fragment) := splitTail false chars
    let path := match path with
      | '/' :: rest => (readPath false false rest).1
      | path => String.ofList (percentEncode isControl path)
    some ⟨scheme, none, path, query, fragment⟩

/-- What follows a scheme. -/
def readRest (scheme : String) (chars : List Char) : Option Url :=
  if scheme == "file" then readFile chars
  else if isSpecial scheme then
    (readAuthority scheme (chars.dropWhile (isSlash true))).map fun (authority, rest) =>
      finish scheme authority rest
  else readPlain scheme chars

/-- The locator that a text stands for. -/
def read? (text : String) : Option Url := do
  let (scheme, rest) ← splitScheme (characters text)
  readRest scheme rest

/-! ### References -/

/-- A reference without a scheme, seen from a web page. Two slashes begin an authority. -/
def isRelative (chars : List Char) : Bool :=
  match chars with
  | '/' :: '/' :: rest => (readAuthority "http" rest).isSome
  | a :: b :: _ =>
    if isSlash true a && isSlash true b then
      (readAuthority "http" (chars.dropWhile (isSlash true))).isSome
    else true
  | _ => true

/-- A text refers to a resource: it is a locator, or it is one when seen from a web page. -/
def isReference (text : String) : Bool :=
  let chars := characters text
  match splitScheme chars with
  | some ("http", rest) =>
    let slashes := rest.takeWhile (isSlash true)
    if slashes.length < 2 then isRelative rest else (readRest "http" rest).isSome
  | some (scheme, rest) => (readRest scheme rest).isSome
  | none => isRelative chars

/-! ### Files -/

/-- The path of the file that a locator names, if it lies on this machine. A drive that ends the
path is taken for a directory. -/
def filePath? (url : Url) : Option String :=
  match url.authority with
  | some ⟨_, none, _⟩ =>
    let bytes := percentDecode url.path.toList
    let isDriveAtEnd := match bytes.reverse with
      | mark :: letter :: _ :: _ => (mark == 58 || mark == 124) && (Char.ofNat letter.toNat).isAlpha
      | _ => false
    some (Text.lossy (if isDriveAtEnd then bytes ++ [47] else bytes))
  | _ => none

end SchemaAssessment.Url
