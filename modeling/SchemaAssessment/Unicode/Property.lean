/-
Looking up properties by name. A name is compared without case, blanks, hyphens and
low lines, and without a leading `is`. A property that stands alone is one that a
character has or has not, a general category or a script; a property with a value is
one of those that cut the characters into classes.
-/

import SchemaAssessment.Unicode.Age
import SchemaAssessment.Unicode.Binary
import SchemaAssessment.Unicode.Break
import SchemaAssessment.Unicode.Script

namespace SchemaAssessment.Unicode

/-- The characters of a name that count: ASCII only, in lower case. -/
def plainCharacters (name : List Char) : List Char :=
  (name.filter fun c => c.toNat < 128 && c != ' ' && c != '_' && c != '-').map Char.toLower

/-- A name in the form in which names are compared. The name `isc`, which is short for the
comments of a standard, is no other name for `c`. -/
def plainName (name : List Char) : String :=
  match name with
  | i :: s :: rest =>
    if i.toLower == 'i' && s.toLower == 's' then
      let plain := String.ofList (plainCharacters rest)
      if plain == "c" then "isc" else plain
    else String.ofList (plainCharacters name)
  | _ => String.ofList (plainCharacters name)

/-- The entry that has the name among its names, which stand between blanks. -/
def withName? {α : Type} (names : α → String) (entries : List α) (name : String) : Option α :=
  entries.find? fun entry => ((names entry).splitOn " ").contains name

/-- The entry of a table under a name. -/
def named? {α : Type} (table : List (String × α)) (name : String) : Option α :=
  (withName? Prod.fst table name).map Prod.snd

/-- The characters of a general category, or of one of the classes that count as such. -/
def categorySet? (name : String) : Option CodeSet :=
  match name with
  | "any" => some CodeSet.characters
  | "assigned" => some (Category.setOf [.unassigned]).complement
  | "ascii" => some (.range 0 0x7F)
  | _ => (named? Category.named name).map Category.setOf

/-- The code points that had a meaning in a version. -/
def ageSet? (name : String) : Option CodeSet :=
  let isVersion (version : String × CodeSet) : Bool := (version.1.splitOn " ").contains name
  if versions.any isVersion then
    let earlier := versions.takeWhile fun version => !isVersion version
    some (.unions ((earlier ++ (versions.find? isVersion).toList).map Prod.snd))
  else none

/-- Names that stand for a general category although a property without a table bears them. -/
def categoryFirst : List String := ["cf", "sc", "lc"]

/-- The characters that have a property. -/
def property? (name : List Char) : Option CodeSet :=
  let plain := plainName name
  let binary := if categoryFirst.contains plain then none else named? binaryProperties plain
  binary <|> categorySet? plain <|> (withName? Script.names scripts plain).map Script.own

/-- The characters for which a property has a value. -/
def propertyValue? (property value : List Char) : Option CodeSet :=
  let plain := plainName value
  match plainName property with
  | "gc" | "generalcategory" => categorySet? plain
  | "sc" | "script" => (withName? Script.names scripts plain).map Script.own
  | "scx" | "scriptextensions" => (withName? Script.names scripts plain).map Script.used
  | "age" => ageSet? plain
  | "gcb" | "graphemeclusterbreak" => named? clusterParts plain
  | "wb" | "wordbreak" => named? wordParts plain
  | "sb" | "sentencebreak" => named? sentenceParts plain
  | _ => none

end SchemaAssessment.Unicode
