/-
Which files a command may look at. The files that the command line names come first;
then, from the documents among them, the files that hints in their start tags name,
seen from the working directory and from the directory of the document. More files
than are needed may be named here, but never fewer.
-/

import SchemaAssessment.Command.Report

namespace SchemaAssessment.Command

/-- The files that a command names. -/
def namedFiles : Command → List String
  | .inspect inspection => [inspection.grammar]
  | .validate validation => validation.grammars ++ validation.documents
  | .tell _ => []
  | .misuse => []

/-- The files that a hint may lead to. -/
def hintedFiles (directory : Option String) (hint : String) : List String :=
  match Location.resolve (fun _ => true) hint directory with
  | .ok (.path file) => [Text.trim hint, file]
  | _ => []

/-- The files that the hints of a document may lead to. -/
def filesOfDocument (files : FileTree) (path : String) : List String :=
  match files.read path with
  | .error _ => []
  | .ok document =>
    let tags := (Markup.read .usual document).events.filterMap Event.attributes?
    let hints := tags.flatMap Validator.hints
    hints.flatMap fun hint => hintedFiles (Location.directoryOf path) hint.2

/-- The files that the documents of a command lead to. -/
def furtherFiles (files : FileTree) : Command → List String
  | .validate validation => validation.documents.flatMap (filesOfDocument files)
  | _ => []

/-- A path with all the paths on the way to it. -/
def wayTo (path : String) : List String :=
  let parts := Text.pieces '/' path
  (List.range parts.length).filterMap fun count =>
    let front := "/".intercalate (parts.take (count + 1))
    if front.isEmpty then none else some front

end SchemaAssessment.Command
