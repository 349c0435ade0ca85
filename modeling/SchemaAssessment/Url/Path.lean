/-
Paths of locators. A path is read one segment at a time, and a segment of one or two
points leads to the directory itself or to the one above. The path of a file may begin
with the letter of a drive, which stays where it is.
-/

import SchemaAssessment.Url.Basic

namespace SchemaAssessment.Url

/-! ### Segments -/

/-- A segment that stands for the directory itself. -/
def isDot (segment : List Char) : Bool :=
  [".", "%2e"].contains (String.ofList (segment.map Char.toLower))

/-- A segment that stands for the directory above. -/
def isDotDot (segment : List Char) : Bool :=
  ["..", ".%2e", "%2e.", "%2e%2e"].contains (String.ofList (segment.map Char.toLower))

/-- The letter of a drive and a colon, or a bar in place of the colon. -/
def isDrive : List Char → Bool
  | [letter, mark] => letter.isAlpha && (mark == ':' || mark == '|')
  | _ => false

/-- A segment that begins like a drive, up to its end or a backslash. -/
def leadsIntoDrive : List Char → Bool
  | letter :: mark :: '\\' :: _ => isDrive [letter, mark]
  | segment => isDrive segment

/-! ### Directories -/

/-- A directory in progress: the segments that a slash ends, the latest first, and whether a drive
has taken the place of the host. The slash that a path begins with ends an empty segment. -/
structure Directory where
  segments : List (List Char)
  namesDrive : Bool
  deriving DecidableEq, Repr, Inhabited

namespace Directory

/-- The directory that holds all others. -/
def root : Directory := ⟨[[]], false⟩

/-- The directory as written. -/
def text (directory : Directory) : List Char :=
  directory.segments.reverse.flatMap fun segment => segment ++ ['/']

/-- The directory above. The root and a drive are not left. -/
def above (directory : Directory) : Directory :=
  match directory.segments with
  | last :: next :: rest =>
    if leadsIntoDrive last then directory else { directory with segments := next :: rest }
  | _ => directory

/-- Goes into a segment of this name. -/
def enter (directory : Directory) (segment : List Char) : Directory :=
  { directory with segments := segment :: directory.segments }

/-- Where a segment leads, and the segment as written unless it only leads elsewhere. The first
segment of a file path may be a drive, with a colon in place of a bar, and text that follows its
colon is a segment of its own. -/
def follow (isFile : Bool) (directory : Directory) (segment : List Char) :
    Directory × Option (List Char) :=
  if isDotDot segment then (directory.above, none)
  else if isDot segment then (directory, none)
  else if isFile && directory.segments == [[]] then
    match segment with
    | [letter, _] =>
      if isDrive segment then ({ directory with namesDrive := true }, some [letter, ':'])
      else (directory, some segment)
    | letter :: ':' :: rest =>
      if letter.isAlpha then (directory.enter [letter, ':'], some rest)
      else (directory, some segment)
    | segment => (directory, some segment)
  else (directory, some segment)

/-- The directory after some segments, and the last of them. -/
def walk (isFile : Bool) (directory : Directory) : List (List Char) → Directory × List Char
  | [] => (directory, [])
  | segment :: rest =>
    match directory.follow isFile segment, rest with
    | (directory, last), [] => (directory, last.getD [])
    | (directory, some last), rest => (directory.enter last).walk isFile rest
    | (directory, none), rest => directory.walk isFile rest

/-- No segment leads out of the root. -/
theorem above_root : root.above = root := rfl

/-- Going into a directory and out of it again leads nowhere else, drives excepted. -/
theorem above_enter {directory : Directory} {segment : List Char}
    (isPlain : leadsIntoDrive segment = false) (nonempty : directory.segments ≠ []) :
    (directory.enter segment).above = directory := by
  obtain ⟨segments, namesDrive⟩ := directory
  cases segments with
  | nil => exact absurd rfl nonempty
  | cons next rest => simp [enter, above, isPlain]

end Directory

/-! ### Paths -/

/-- The path of a text without the slash in front, and whether it names a drive. A file path has
one slash in front however many were given. -/
def readPath (isFile isSpecial : Bool) (chars : List Char) : String × Bool :=
  let isSlash (c : Char) : Bool := c == '/' || (isSpecial && c == '\\')
  let segments := (chars.splitOnP isSlash).map (percentEncode inPathSet)
  let (directory, last) := Directory.root.walk isFile segments
  let path := directory.text ++ last
  let path := if isFile then '/' :: path.dropWhile (· == '/') else path
  (String.ofList path, directory.namesDrive)

end SchemaAssessment.Url
