/-
What version 17.0 of Unicode added to the tables, which are those of version 16.0. The
additions count where text is shown, where names are chosen freely, and in the names of
hosts.
-/

import SchemaAssessment.Unicode.Binary

namespace SchemaAssessment.Unicode

/-- The characters that were added. -/
def added : CodeSet := .ofTable [
  "DGhaBLkaExaFHioclCFlaECqaBVBbbcabaBcaBFThpRdbCcgEIrzCBjciiBhbESahWmBrejBEOsycyLaeJCjhBXpvDtEkX",
  "WpcRdwpqJAlBebvibGAaaGcdNdiOpdByadaCfaeaBcaeaKgaCSXrfIWglBGFaGJh"]

/-- The alphabetic characters among them. -/
def addedAlphabetic : CodeSet := .ofTable [
  "DGhaBLkaExaCGRpbcabaBcaBKWczCBjcBybESahWmBrBEPgycyLaeJCjhBXpvDtEkBHQjBebvibDAWgfIWglBGFaGJh"]

/-- The numbers among them. -/
def addedNumbers : CodeSet := .ofTable ["EEGujBFBuc"]

/-- The nonspacing marks among them. -/
def addedNonspacing : CodeSet := .ofTable ["KDzoclDOLabESaabcbaCZBoacahbfa"]

/-- The spacing marks among them. -/
def addedSpacing : CodeSet := .ofTable ["EDIfadaba"]

/-- All alphabetic characters. -/
def latestAlphabetic : CodeSet := alphabetic.union addedAlphabetic

/-- All numbers. -/
def latestNumbers : CodeSet := (Category.setOf Category.numbers).union addedNumbers

/-- All marks. -/
def latestMarks : CodeSet :=
  .unions [Category.setOf Category.marks, addedNonspacing, addedSpacing]

/-- All code points that no version has given a meaning. -/
def latestUnassigned : CodeSet := (Category.setOf [.unassigned]).difference added

/-- All characters that extend the one before them. -/
def latestExtend : CodeSet := graphemeExtend.union addedNonspacing

end SchemaAssessment.Unicode
