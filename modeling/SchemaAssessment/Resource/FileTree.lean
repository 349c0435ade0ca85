/-
Files as far as a run can see them: the files that are there under their paths, with
their text or with the reason why they cannot be read. Directories are there as far
as a file lies in them. Paths are seen from a working directory that is not named,
and a part of a path that goes up takes back the part before it.
-/

import SchemaAssessment.Text.Blank

namespace SchemaAssessment

/-- Why a file cannot be read. -/
inductive FileFault where
  | missing
  | isDirectory
  | notDirectory
  | notText
  | nameTooLong
  | zeroInName
  | other (reason : String)
  deriving DecidableEq, Repr, Inhabited

/-- The reason as messages give it. -/
def FileFault.message : FileFault → String
  | .missing => "No such file or directory (os error 2)"
  | .isDirectory => "Is a directory (os error 21)"
  | .notDirectory => "Not a directory (os error 20)"
  | .notText => "stream did not contain valid UTF-8"
  | .nameTooLong => "File name too long (os error 36)"
  | .zeroInName => "file name contained an unexpected NUL byte"
  | .other reason => reason

/-- The place that a path leads to: from the root or from the working directory, by names. -/
structure FilePlace where
  fromRoot : Bool
  names : List String
  deriving DecidableEq, Repr, Inhabited

namespace FilePlace

/-- Goes one part of a path further. -/
def enter (place : FilePlace) (part : String) : FilePlace :=
  if part.isEmpty || part == "." then place
  else if part == ".." then
    match place.names.getLast? with
    | some ".." => { place with names := place.names ++ [".."] }
    | some _ => { place with names := place.names.dropLast }
    | none => if place.fromRoot then place else { place with names := [".."] }
  else { place with names := place.names ++ [part] }

/-- The place that a path leads to. -/
def ofPath (path : String) : FilePlace :=
  (Text.pieces '/' path).foldl enter ⟨path.toList.head? == some '/', []⟩

/-- The place is a directory on the way to the other one, or the other one itself. -/
def leadsTo (place other : FilePlace) : Bool :=
  place.fromRoot == other.fromRoot && place.names.isPrefixOf other.names

/-- No name is left: the place is the root or the working directory, or lies above it. -/
def isKnownDirectory (place : FilePlace) : Bool := place.names.all (· == "..")

end FilePlace

/-- The files that are there. -/
structure FileTree where
  files : List (FilePlace × Except FileFault String)
  deriving Inhabited

namespace FileTree

/-- No file is there. -/
def empty : FileTree := ⟨[]⟩

/-- A tree with one more file under a path. -/
def insert (tree : FileTree) (path : String) (content : Except FileFault String) : FileTree :=
  ⟨(FilePlace.ofPath path, content) :: tree.files⟩

/-- The tree of the files with the given paths and texts. -/
def ofTexts (texts : List (String × String)) : FileTree :=
  texts.foldl (fun tree file => tree.insert file.1 (.ok file.2)) empty

/-- The longest name that a part of a path may have, in bytes. -/
def longestName : Nat := 255

/-- The longest path, in bytes. -/
def longestPath : Nat := 4095

/-- A directory lies at the place. -/
def isDirectory (tree : FileTree) (place : FilePlace) : Bool :=
  place.isKnownDirectory ||
    tree.files.any fun file =>
      if file.1 == place then file.2 matches .error .isDirectory else place.leadsTo file.1

/-- Goes one part of a path further, which only a directory allows. -/
def enter (tree : FileTree) (place : FilePlace) (part : String) : Except FileFault FilePlace :=
  if tree.isDirectory place then .ok (place.enter part)
  else if (tree.files.lookup place).isSome then .error .notDirectory
  else .error .missing

/-- What is wrong with a path before any file is looked for. -/
def pathFault? (path : String) : Option FileFault :=
  if path.isEmpty then some .missing
  else if path.toList.any (·.toNat == 0) then some .zeroInName
  else if longestPath < path.utf8ByteSize ||
      (Text.pieces '/' path).any (fun part => longestName < part.utf8ByteSize) then
    some .nameTooLong
  else none

/-- The place that a path leads to. -/
def place (tree : FileTree) (path : String) : Except FileFault FilePlace :=
  match pathFault? path with
  | some fault => .error fault
  | none => (Text.pieces '/' path).foldlM tree.enter ⟨path.toList.head? == some '/', []⟩

/-- The text of the file under a path. -/
def read (tree : FileTree) (path : String) : Except FileFault String := do
  let place ← tree.place path
  match tree.files.lookup place with
  | some content => content
  | none => throw (if tree.isDirectory place then .isDirectory else .missing)

/-- A file or a directory lies under the path. -/
def holds (tree : FileTree) (path : String) : Bool :=
  match tree.place path with
  | .ok place => (tree.files.lookup place).isSome || tree.isDirectory place
  | .error _ => false

end FileTree

end SchemaAssessment
