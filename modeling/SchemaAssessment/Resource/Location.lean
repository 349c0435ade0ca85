/-
Where documents and grammars lie: in a file, under a locator, or in the text that was
given. A hint is a locator if it reads as one; else it is a path if it looks like
one or names a file that is there; else it is the text itself.
-/

import SchemaAssessment.Url.Reader

namespace SchemaAssessment

/-- A place where a resource lies. -/
inductive Location where
  | path (file : String)
  | url (locator : Url)
  | text (content : String)
  deriving DecidableEq, Repr, Inhabited

namespace Location

/-- Why a hint leads nowhere. -/
inductive HintFault where
  | empty
  | fileUrl (hint : String)
  deriving DecidableEq, Repr, Inhabited

/-- The message about a hint that leads nowhere. -/
def HintFault.message : HintFault → String
  | .empty => "empty schema location"
  | .fileUrl hint => "invalid file URL: " ++ hint

/-- The location as text. -/
def shown : Location → String
  | .path file => file
  | .url locator => locator.text
  | .text content => content

/-- The resource is not on this machine. -/
def isRemote : Location → Bool
  | .url _ => true
  | _ => false

/-- The resource is a file. -/
def isFile : Location → Bool
  | .path _ => true
  | _ => false

/-- A path that begins at the root. -/
def isAbsolute (file : String) : Bool := file.toList.head? == some '/'

/-- The text looks like a path: it begins with a slash or a point, holds a slash or backslash, or
ends like the name of a schema. -/
def looksLikePath (text : String) : Bool :=
  let chars := text.toList
  chars.head? == some '.' || chars.contains '/' || chars.contains '\\' ||
    (Text.dropSuffix? ".json".toList chars).isSome || (Text.dropSuffix? ".xsd".toList chars).isSome

/-- The location that a text names. A scheme of one letter is the letter of a drive. -/
def ofText (fileExists : String → Bool) (hint : String) : Except HintFault Location :=
  let pathOrText : Location :=
    if fileExists hint || looksLikePath hint then .path hint else .text hint
  match Url.read? hint with
  | some locator =>
    if locator.scheme == "file" then
      match locator.filePath? with
      | some file => .ok (.path file)
      | none => .error (.fileUrl hint)
    else if 1 < locator.scheme.length then .ok (.url locator)
    else .ok pathOrText
  | none => .ok pathOrText

/-- A path seen from a directory. -/
def join (directory file : String) : String :=
  if isAbsolute file then file
  else if directory.isEmpty || directory.toList.getLast? == some '/' then directory ++ file
  else directory ++ "/" ++ file

/-- A path read backwards without the slashes and lone points at its end. The root stays. -/
def dropIdleEnd : List Char → List Char
  | ['/'] => ['/']
  | '/' :: rest => dropIdleEnd rest
  | '.' :: '/' :: rest => dropIdleEnd ('/' :: rest)
  | chars => chars
termination_by chars => chars.length

/-- The directory in which a path lies: the path without its last part. A path of one part lies in
the directory without a name, and the root lies nowhere. -/
def directoryOf (file : String) : Option String :=
  match dropIdleEnd file.toList.reverse with
  | [] => none
  | ['/'] => none
  | chars => some (String.ofList (dropIdleEnd (chars.dropWhile (· != '/'))).reverse)

/-- The location that a hint names, seen from a directory if one is given. -/
def resolve (fileExists : String → Bool) (hint : String) (directory : Option String) :
    Except HintFault Location := do
  let hint := Text.trim hint
  if hint.isEmpty then throw .empty
  match ← ofText fileExists hint, directory with
  | .path file, some directory => return .path (join directory file)
  | location, _ => return location

end Location

end SchemaAssessment
