/-
The program on a command line. It looks at the files that the command may need, as
they are when it begins, and prints what the command reports.
-/

import SchemaAssessment.Command.Survey

namespace SchemaAssessment.Command

/-- The number of a system error, which may be given with its sign turned. -/
def systemNumber (code : UInt32) : Nat :=
  if code.toNat < twoTo 31 then code.toNat else twoTo 32 - code.toNat

/-- Why a file could not be read. -/
def faultOf : IO.Error → FileFault
  | .noFileOrDirectory _ _ _ => .missing
  | .inappropriateType _ code _ => if systemNumber code == 20 then .notDirectory else .isDirectory
  | .permissionDenied _ code _ => .other s!"Permission denied (os error {systemNumber code})"
  | error => .other (toString error)

/-- Looks at one file. -/
def lookAt (path : String) : IO (Except FileFault String) := do
  try
    match String.fromUTF8? (← IO.FS.readBinFile path) with
    | some text => return .ok text
    | none => return .error .notText
  catch error => return .error (faultOf error)

/-- Looks at files and at what lies on the way to them. What is not there is left out. -/
def lookAtAll (files : FileTree) (paths : List String) : IO FileTree :=
  (paths.flatMap wayTo).foldlM (fun files path => do
    match ← lookAt path with
    | .error .missing => return files
    | .error .notDirectory => return files
    | content => return files.insert path content) files

/-- The whole program. -/
def perform (words : List String) : IO UInt32 := do
  let command := ofWords words
  let files ← lookAtAll .empty command.namedFiles
  let files ← lookAtAll files (command.furtherFiles files)
  let report := command.run files
  for line in report.lines do
    IO.println line
  for problem in report.problem do
    IO.eprintln problem
  return report.status.toUInt32

end SchemaAssessment.Command

/-- Carries out the command that the words of the command line ask for. -/
def main (words : List String) : IO UInt32 := SchemaAssessment.Command.perform words
