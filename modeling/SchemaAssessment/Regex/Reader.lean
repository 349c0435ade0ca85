/-
From the pieces of a regular expression to its pattern. The pieces are taken one
after the other; a stack holds the groups that are still open, each with the
branches that were read before its last bar and the items of the branch being read.
An expression may not be nested too deeply, and its pattern may not grow too large.
-/

import SchemaAssessment.Regex.Lexer
import SchemaAssessment.Regex.Match
import SchemaAssessment.Regex.Size

namespace SchemaAssessment.Regex

/-- An item of a branch: its pattern, how deep it is nested, and whether it just sets flags. -/
structure Item where
  pattern : Pattern
  depth : Nat
  isFlags : Bool := false
  deriving Repr, Inhabited

/-- How deep some items are nested together: one level more if there is more than one. -/
def jointDepth (items : List Item) : Nat :=
  let deepest := items.foldl (fun deepest item => max deepest item.depth) 0
  if 1 < items.length then deepest + 1 else deepest

/-- A group that is being read, both lists latest first. -/
structure OpenGroup where
  kind : GroupKind
  number : Nat
  branches : List Item
  items : List Item
  deriving Repr, Inhabited

namespace OpenGroup

/-- A group of which nothing was read yet. -/
def start (kind : GroupKind) (number : Nat) : OpenGroup := ⟨kind, number, [], []⟩

/-- The branch being read. -/
def branch (group : OpenGroup) : Item :=
  { pattern := .inSequence (group.items.reverse.map Item.pattern), depth := jointDepth group.items }

/-- The branches of a group that is closed here. -/
def content (group : OpenGroup) : Item :=
  let branches := (group.branch :: group.branches).reverse
  { pattern := .inChoice (branches.map Item.pattern), depth := jointDepth branches }

/-- The group as an item of the one around it. -/
def close (group : OpenGroup) : Item :=
  let content := group.content
  let pattern := match group.kind with
    | .plain => content.pattern
    | .numbered _ => .group group.number content.pattern
  { pattern, depth := content.depth + 1 }

/-- A group with one more item. -/
def add (group : OpenGroup) (item : Item) : OpenGroup :=
  { group with items := item :: group.items }

/-- A group with one more branch. -/
def addBranch (group : OpenGroup) : OpenGroup :=
  { group with branches := group.branch :: group.branches, items := [] }

/-- The last item is repeated; there has to be one. -/
def repeatLast? (group : OpenGroup) (least : Nat) (most : Option Nat) (greedy : Bool) :
    Option OpenGroup :=
  match group.items with
  | item :: items =>
    if item.isFlags then none
    else
      let pattern := item.pattern.repeated least most greedy
      some { group with items := { pattern, depth := item.depth + 1 } :: items }
  | [] => none

end OpenGroup

/-- Takes the pieces in turn, with the number of the next group. In the end just the outermost
group is open. -/
def build? (next : Nat) (group : OpenGroup) (outer : List OpenGroup) :
    List Token → Option Item
  | [] => if outer.isEmpty then some group.content else none
  | .item pattern depth :: rest => build? next (group.add { pattern, depth }) outer rest
  | .repeated least most greedy :: rest =>
    match group.repeatLast? least most greedy with
    | some group => build? next group outer rest
    | none => none
  | .bar :: rest => build? next group.addBranch outer rest
  | .opening _ .plain :: rest => build? next (.start .plain 0) (group :: outer) rest
  | .opening _ (.numbered name) :: rest =>
    build? (next + 1) (.start (.numbered name) next) (group :: outer) rest
  | .closing :: rest =>
    match outer with
    | parent :: outer => build? next (parent.add group.close) outer rest
    | [] => none
  | .flags _ :: rest =>
    build? next (group.add { pattern := .empty, depth := 0, isFlags := true }) outer rest

/-- The names of the groups that have one. -/
def groupNames (tokens : List Token) : List String :=
  tokens.filterMap fun
    | .opening _ (.numbered name) => name
    | _ => none

/-- How deep an expression may be nested. -/
def deepestNesting : Nat := 250

/-- The pattern of a regular expression, if it can be read. -/
def Pattern.read? (text : String) : Option Pattern := do
  let tokens ← tokens? {} [] text.toList
  if (groupNames tokens).Nodup then
    let item ← build? 1 (.start .plain 0) [] tokens
    if item.depth ≤ deepestNesting then some item.pattern else none
  else none

end SchemaAssessment.Regex
