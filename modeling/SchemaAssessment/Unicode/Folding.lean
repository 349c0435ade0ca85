/-
Simple case folding (Unicode 16.0). Characters that differ in case alone fold to the
same character, the least of them. A set is folded by taking in every character that
folds like one of its members.
-/

import SchemaAssessment.Unicode.CodeSet

namespace SchemaAssessment.Unicode

/-- Characters at equal distances that fold to characters as far below them. -/
structure FoldRun where
  first : Nat
  more : Nat
  stride : Nat
  distance : Nat
  deriving DecidableEq, Repr, Inhabited

/-- Reads the entries of the table. An entry gives how far its first character lies above that
of the entry before, how many others there are, their stride less one, and the distance. -/
def foldRunsFrom (start : Nat) : List Nat → List FoldRun
  | skipped :: more :: stride :: distance :: rest =>
    ⟨start + skipped, more, stride + 1, distance⟩ :: foldRunsFrom (start + skipped) rest
  | _ => []

/-- The characters that do not fold to themselves. -/
def foldRuns : List FoldRun := foldRunsFrom 0 (CodeSet.numbers [
  "DtzaBgExwaBgygaBgjxbbBycbbhhbbrwbbBtaaErccbbfaaLoebbbfaabeaabgaabhaabicbbhaabfaabdaabebbbfaabe",
  "aabiaabbaaccaabbaaccaabbaacchbbpaaDbcibbtaabbaaccaabbaaDtbaaCectbbBnaaFadibbzaabbaaGhfaabbaaHn",
  "eebbmaaIcbaaHycbaHxdaaHucaaHvfaaHxdaaHzfaaIbbaaIdgaaIddaaIfdaaIglaaIkdaaIkfaaIkbaaCrbbaIjcaaCt",
  "gaaIlIpbbbgaabBiaaDgdaaBCpqaaBmbcaBlehaBgiaaEmbbaBgcaaBDvbhbBgbbbBgeaaBfcdbBgiaaCmbbaCldaaCkba",
  "aCfeaaBvbaaCcbaaiclbbxaaDibaaDccaaEmbaaDobaaDsdaabbaahcaabccaFaBzBfaBgBgpaDcrqbbBqBabbCdgbbnaa",
  "pcBvbbFoBlaBwFNrfaiDGaaaJGobaaJGnbaaJGebbaJGccaaJGdbaaJFwbaaJDtdaabgBqaELsBtcaELsMmCwbbFyaaChd",
  "aaLGxdBvbbDzhaiqfaiqhaiqhaiqfairdbiphaiBghaiqhaiqhaiqbaicbaCwcaajcaaKUjkdaDieaajhaaKShfbaicbaD",
  "wjaaKRrfbaicbaEicaahmbaEycbaEwcaajLmaaLEjeaaMLrbaaMHaBjaaBcBipaquaabBGmzaBaCUqBvaBwBxaabbaaPXf",
  "baaFQsbaaPWpbaaPZfbaaPZcccbbfaaPYqbaaPXlbaaPYtbaaPYsdaabdaabibaPZzdBxbbEdbbbhaabnBlaKTkBnaaKTk",
  "gaaKTkBTWeebbjaaCAEkbaaCAElcqbbCanbbGggbbqBebbCtbbbdaaCAGycebbnaabbaaCKOeebbbgjbbtaaCKPgbaaCKP",
  "rbaaCKPnbaaCKPdbaaCKPgcaaCKNibaaCKOgbaaCKNldhbbpaaBwbaaCKPfbaaCAIycbbbdaaCKQpcaabeaabgcbbfaaCK",
  "YzBaaabBHdaaBJsBdDbaCFMuBEDqaabBPrzaBgBWhBnaBoGuBjaBoHjsbBnbebBnmgbBnqcbBniaaBnCRcByaCmGuvaBgE",
  "HkBfaBgBGLcBfaBgBUMsBhaBi"])

/-- The characters of a run, each with the one it folds to. -/
def FoldRun.pairs (run : FoldRun) : List (Nat × Nat) :=
  (List.range (run.more + 1)).map fun place =>
    let code := run.first + place * run.stride
    (code, code - run.distance)

/-- The characters that do not fold to themselves, each with the one it folds to. -/
def foldPairs : List (Nat × Nat) := foldRuns.flatMap FoldRun.pairs

/-- The set with all characters that differ from a member in case alone. -/
def CodeSet.fold (set : CodeSet) : CodeSet :=
  let folded := foldPairs.filterMap fun (code, least) =>
    if set.contains code then some least else none
  let leasts := set.union (.ofCodes folded)
  let unfolded := foldPairs.filterMap fun (code, least) =>
    if leasts.contains least then some code else none
  leasts.union (.ofCodes unfolded)

end SchemaAssessment.Unicode
