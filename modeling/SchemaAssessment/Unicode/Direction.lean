/-
The direction in which characters are written, and scripts whose letters join, as far as
names of hosts need them (Unicode 17.0). A letter may join the one before it, the one
after it, or both; transparent characters between two letters do not keep them apart.
-/

import SchemaAssessment.Unicode.Addition

namespace SchemaAssessment.Unicode

/-! ### Direction -/

/-- How a character takes part in a line that runs in both directions. Marks follow the character
they stand on, and neutral characters follow their surroundings. -/
inductive Direction where
  | leftToRight | rightToLeft | arabicNumber | europeanNumber | mark | neutral
  deriving DecidableEq, Repr, Inhabited

/-- Letters that are written from right to left. -/
def rightToLeft : CodeSet := .ofTable [
  "CEoabacacajBaeftacabanabBtBicbdeDopbhbktcabBdBdDklaoBqjbeadxeajadahobyfabkfBfqBpDNZsqBAmaDQafc",
  "abBrbbdacwbCtiiBwsbbfBgezfBaBmCdetcBupdbcbBckihihClBgBkgljCbkvcBafzhdmgDcCuEpByhBpBmfBfwibJgBp",
  "dacbqfCeBnivliwredBmBbuwDDVdHociDeBhhaejebBEfCpCyCi"]

/-- Digits that are written in the manner of Arabic. -/
def arabicNumbers : CodeSet := .ofTable ["CKujbbDVNfjgjKsBe"]

/-- Digits that are written in the manner of Europe. -/
def europeanNumbers : CodeSet := .ofTable ["BwjCOcjDRKhBa"]

/-- Characters without a direction of their own. -/
def neutral : CodeSet := .ofTable [
  "aifnfokgBafBaeBhgbabbbabbebdadaxaBfaRhbhncfgbfibqEnaEyaPnaccEobbbbabbDmaElakaKidTkbhaJlaJxhEvg",
  "RgaJqdBQojDyaZqbMgaujgkLxadbFwBhCHobcabebldaiccacdbabhdmbgCnhbyCoadalacbfbdabababaealagdfdCibe",
  "FzcacJnckCrzbFrwkGeRgbNaJwKhbDydDwbFucFhIvfogJwDpBizbdbDeKkabbdypagafcDsaDmaHoBlKOgClBGUiCcMoc",
  "DvakbEyBhDyaGddmbCgdBDabBELbpNzrCmbCchBtcCrbQwaJzaCkCydmdaCVuaUrgVmaNpiOntCGwmDOqBcBEHcaBIWzIf",
  "BkcdQtgwpqBDgbvCndaHeDiFYeaENobKkBreDvmocobobBkveBfaCjcCjaGwfFyBLwdqdmdIjgleapleCdijgBniBdcleb",
  "oiBnNfincmdkdCebaepclejhFqbDnka"]

/-- Marks that stand on the character before them. A few are written like letters. -/
def overlaidMarks : CodeSet :=
  ((Category.setOf [.nonspacingMark, .enclosingMark]).union addedNonspacing).difference
    (.ofCodes [0xCBF, 0xCC6, 0x11A07, 0x11A08, 0x11C3F])

/-- The direction of a character. -/
def direction (c : Char) : Direction :=
  if rightToLeft.has c then .rightToLeft
  else if arabicNumbers.has c then .arabicNumber
  else if europeanNumbers.has c then .europeanNumber
  else if overlaidMarks.has c then .mark
  else if neutral.has c then .neutral
  else .leftToRight

/-! ### Joining -/

/-- Letters that join on both sides. -/
def dualJoining : CodeSet := .ofTable [
  "CIiafababeembgbbBjbjosBlbbjababbBoccascfdbibababbBfkdocdbacccfCwBgDiecabjbakabdcaBdacebaqjfbcf",
  "boFUcayDkoBhbaCCJtBxBLFyeodbebckdFpabadcbbbacaBcbNaBgbaPzbbbEacbqmcBcdclBuabbeacbbbbacafaDEHzB",
  "h"]

/-- Letters that join the one before them alone. -/
def rightJoining : CodeSet := .ofTable [
  "CIkdbabafdvaBocurBmacibabacbbaybBgaeeeajababacaBdalcpbeabbdbHqafbbakabcoabbfslaBbcbacbgaDTStab",
  "abbdekadacakaFpabcdacabbbaxdOjaPzaEiaBgaBfbCkccbcaebfa"]

/-- Letters that join the one after them alone. -/
def leftJoining : CodeSet := .ofTable ["CLUoaBLGkajaVgaBBma"]

/-- Characters that joining passes over. -/
def transparent : CodeSet :=
  (CodeSet.unions [
    Category.setOf [.nonspacingMark, .enclosingMark, .format], addedNonspacing,
    .ofCodes [0x1E94B]]).difference joinControl

/-- The character joins the one after it. -/
def joinsNext (c : Char) : Bool := dualJoining.has c || leftJoining.has c

/-- The character joins the one before it. -/
def joinsPrevious (c : Char) : Bool := dualJoining.has c || rightJoining.has c

/-- Two letters join across what stands between them: the one that ends a text read backwards, and
the one that begins another. -/
def joinAcross (before after : List Char) : Bool :=
  ((before.dropWhile transparent.has).head?.any joinsNext) &&
    ((after.dropWhile transparent.has).head?.any joinsPrevious)

end SchemaAssessment.Unicode
