/-
Normal form C. In this form the marks on a character stand in the order of their
classes, and a character that can be written as one with what follows it is written
so. A text is brought to the form by taking all characters apart, ordering the marks,
and putting together again what belongs together (Unicode 17.0). Characters that are
only other spellings of one character are no part of the tables: where texts are
normalized they have been replaced before.
-/

import SchemaAssessment.Unicode.CodeMap

namespace SchemaAssessment.Unicode

/-! ### Tables -/

/-- A character that is written for two. -/
structure Composite where
  whole : Nat
  first : Nat
  second : Nat
  deriving DecidableEq, Repr, Inhabited

/-- Reads composites. An entry gives how far the composite lies above the one before, and its
parts. -/
def compositesFrom (start : Nat) : List Nat → List Composite
  | skipped :: first :: second :: rest =>
    ⟨start + skipped, first, second⟩ :: compositesFrom (start + skipped) rest
  | _ => []

/-- All composites, in the order of their code points. -/
def composites : List Composite := compositesFrom 0 (CodeSet.numbers [
  "HkCnBDobCnBDpbCnBDqbCnBDrbCnBDwbCnBDycCpBFbbCrBDobCrBDpbCrBDqbCrBDwbCvBDobCvBDpbCvBDqbCvBDwcDa",
  "BDrbDbBDobDbBDpbDbBDqbDbBDrbDbBDwdDhBDobDhBDpbDhBDqbDhBDwbDlBDpdDtBDobDtBDpbDtBDqbDtBDrbDtBDwb",
  "DtBDycDvBFbbDxBDobDxBDpbDxBDqbDxBDwbEbBDobEbBDpbEbBDqbEbBDwcEgBDrbEhBDobEhBDpbEhBDqbEhBDrbEhBD",
  "wdEnBDobEnBDpbEnBDqbEnBDwbErBDpcErBDwbCnBDsbDtBDsbCnBDubDtBDubCnBFcbDtBFcbCpBDpbDvBDpbCpBDqbDv",
  "BDqbCpBDvbDvBDvbCpBEabDvBEabCqBEabDwBEadCrBDsbDxBDsbCrBDubDxBDubCrBDvbDxBDvbCrBFcbDxBFcbCrBEab",
  "DxBEabCtBDqbDzBDqbCtBDubDzBDubCtBDvbDzBDvbCtBFbbDzBFbbCuBDqbEaBDqdCvBDrbEbBDrbCvBDsbEbBDsbCvBD",
  "ubEbBDubCvBFcbEbBFcbCvBDveCwBDqbEcBDqbCxBFbbEdBFbcCyBDpbEeBDpbCyBFbbEeBFbbCyBEabEeBEafDaBDpbEg",
  "BDpbDaBFbbEgBFbbDaBEabEgBEaeDbBDsbEhBDsbDbBDubEhBDubDbBDzbEhBDzdDeBDpbEkBDpbDeBFbbEkBFbbDeBEab",
  "EkBEabDfBDpbElBDpbDfBDqbElBDqbDfBFbbElBFbbDfBEabElBEabDgBFbbEmBFbbDgBEabEmBEadDhBDrbEnBDrbDhBD",
  "sbEnBDsbDhBDubEnBDubDhBDybEnBDybDhBDzbEnBDzbDhBFcbEnBFcbDjBDqbEpBDqbDlBDqbErBDqbDlBDwbDmBDpbEs",
  "BDpbDmBDvbEsBDvbDmBEabEsBEaBiDbBEpbEhBEpoDhBEpbEnBEpBdCnBEabDtBEabCvBEabEbBEabDbBEabEhBEabDhBE",
  "abEnBEabImBDsbJsBDsbImBDpbJsBDpbImBEabJsBEabImBDobJsBDocHoBDsbIuBDsbVeBDsbVfBDsbHqBDsbIwBDsdCt",
  "BEabDzBEabCxBEabEdBEabDbBFcbEhBFcbSwBDsbSxBDsbQxBEabZiBEabEcBEaeCtBDpbDzBDpdDaBDobEgBDobHpBDpb",
  "IvBDpbHqBDpbIwBDpbIiBDpbJoBDpbCnBEdbDtBEdbCnBEfbDtBEfbCrBEdbDxBEdbCrBEfbDxBEfbCvBEdbEbBEdbCvBE",
  "fbEbBEfbDbBEdbEhBEdbDbBEfbEhBEfbDeBEdbEkBEdbDeBEfbEkBEfbDhBEdbEnBEdbDhBEfbEnBEfbDfBFabElBFabDg",
  "BFabEmBFadCuBEabEaBEahCnBDvbDtBDvbCrBFbbDxBFbbIgBDsbJmBDsbIfBDsbJlBDsbDbBDvbEhBDvbVmBDsbVnBDsb",
  "DlBDsbErBDsNaGmBDpbBJdBDpcBJhBDpbBJjBDpbBJlBDpcBJrBDpcBJxBDpbBKbBDpbBLiBDpBaBJlBDwbBJxBDwbBKjB",
  "DpbBKnBDpbBKpBDpbBKrBDpbBLjBDpBaBKrBDwbBLdBDwbBKxBDpbBLdBDpbBLhBDpfBLqBDpbBLqBDwBsBOfBDobBOfBD",
  "wcBOdBDpeBNqBDwfBOkBDpbBOiBDobBOtBDulBOiBDuBgBPoBDuxBPlBDobBPlBDwcBPjBDpeBQsBDwfBPqBDpbBPoBDob",
  "BPzBDuyBRwBEdbBRxBEdCwBOgBDubBPmBDuoBOaBDubBPgBDubBOaBDwbBPgBDwdBOfBDubBPlBDudBVsBDwbBVtBDwbBO",
  "gBDwbBPmBDwbBOhBDwbBPnBDwdBOiBDsbBPoBDsbBOiBDwbBPoBDwbBOoBDwbBPuBDwdBWiBDwbBWjBDwbBPdBDwbBQjBD",
  "wbBOtBDsbBPzBDsbBOtBDwbBPzBDwbBOtBDzbBPzBDzbBOxBDwbBQdBDwdBPbBDwbBQhBDwLlCIpCKhbCIpCKibCJwCKib",
  "CIpCKjbCJyCKiFyCPhCKicCOnCKirCPeCKiXaDMeDMyiDMmDMydDMpDMyFvDShDRybDShDSxOqEHbEHqdEHbEGsbEHbEHr",
  "CuEJyEMpCcELyELqbELzELqbELyEMpEuEQwERmEqEVnEWjhEVuEWjbEVuEWkcEVuEVqbEVyEWjExFAsFAkbFAtFAkbFAsF",
  "BjFmFGjFFucFGjFFzbFGmFFubFGjFGpWmGCzGDiEDcKGbKHxcKGdKHxcKGfKHxcKGhKHxcKGjKHxeKGnKHxBpKIcKHxcKI",
  "eKHxdKIgKHxbKIhKHxcKIkKHxBAzCnBEzbDtBEzbCoBDvbDuBDvbCoBExbDuBExbCoBFlbDuBFlbHrBDpbIxBDpbCqBDvb",
  "DwBDvbCqBExbDwBExbCqBFlbDwBFlbCqBFbbDwBFbbCqBFhbDwBFhbKoBDobKpBDobKoBDpbKpBDpbCrBFhbDxBFhbCrBF",
  "kbDxBFkbVgBDubVhBDubCsBDvbDyBDvbCtBDsbDzBDsbCuBDvbEaBDvbCuBExbEaBExbCuBDwbEaBDwbCuBFbbEaBFbbCu",
  "BFibEaBFibCvBFkbEbBFkbHzBDpbJfBDpbCxBDpbEdBDpbCxBExbEdBExbCxBFlbEdBFlbCyBExbEeBExbLLmBDsbLLnBD",
  "sbCyBFlbEeBFlbCyBFhbEeBFhbCzBDpbEfBDpbCzBDvbEfBDvbCzBExbEfBExbDaBDvbEgBDvbDaBExbEgBExbDaBFlbEg",
  "BFlbDaBFhbEgBFhbIfBDpbJlBDpbIfBDwbJlBDwbMuBDobMvBDobMuBDpbMvBDpbDcBDpbEiBDpbDcBDvbEiBDvbDeBDvb",
  "EkBDvbDeBExbEkBExbLMwBDsbLMxBDsbDeBFlbEkBFlbDfBDvbElBDvbDfBExbElBExbNiBDvbNjBDvbNoBDvbNpBDvbLN",
  "eBDvbLNfBDvbDgBDvbEmBDvbDgBExbEmBExbDgBFlbEmBFlbDgBFhbEmBFhbDhBEybEnBEybDhBFkbEnBFkbDhBFhbEnBF",
  "hbNwBDpbNxBDpbNyBDwbNzBDwbDiBDrbEoBDrbDiBExbEoBExbDjBDobEpBDobDjBDpbEpBDpbDjBDwbEpBDwbDjBDvbEp",
  "BDvbDjBExbEpBExbDkBDvbEqBDvbDkBDwbEqBDwbDlBDvbErBDvbDmBDqbEsBDqbDmBExbEsBExbDmBFlbEsBFlbEaBFlb",
  "EmBDwbEpBDybErBDycOtBDvfCnBExbDtBExbCnBDxbDtBDxbHmBDpbIsBDpbHmBDobIsBDobHmBDxbIsBDxbHmBDrbIsBD",
  "rbLPoBDqbLPpBDqbJyBDpbJzBDpbJyBDobJzBDobJyBDxbJzBDxbJyBDrbJzBDrbLPoBDubLPpBDubCrBExbDxBExbCrBD",
  "xbDxBDxbCrBDrbDxBDrbHuBDpbJaBDpbHuBDobJaBDobHuBDxbJaBDxbHuBDrbJaBDrbLQmBDqbLQnBDqbCvBDxbEbBDxb",
  "CvBExbEbBExbDbBExbEhBExbDbBDxbEhBDxbIeBDpbJkBDpbIeBDobJkBDobIeBDxbJkBDxbIeBDrbJkBDrbLRgBDqbLRh",
  "BDqbQaBDpbQbBDpbQaBDobQbBDobQaBDxbQbBDxbQaBDrbQbBDrbQaBExbQbBExbDhBExbEnBExbDhBDxbEnBDxbQpBDpb",
  "QqBDpbQpBDobQqBDobQpBDxbQqBDxbQpBDrbQqBDrbQpBExbQqBExbDlBDobErBDobDlBExbErBExbDlBDxbErBDxbDlBD",
  "rbErBDrhBKjBEhbBKjBEibLTgBDobLThBDobLTgBDpbLThBDpbLTgBGcbLThBGcbBJdBEhbBJdBEibLToBDobLTpBDobLT",
  "oBDpbLTpBDpbLToBGcbLTpBGcbBKnBEhbBKnBEibLTwBDobLTxBDobLTwBDpbLTxBDpdBJhBEhbBJhBEibLUeBDobLUfBD",
  "obLUeBDpbLUfBDpdBKpBEhbBKpBEibLUmBDobLUnBDobLUmBDpbLUnBDpbLUmBGcbLUnBGcbBJjBEhbBJjBEibLUuBDobL",
  "UvBDobLUuBDpbLUvBDpbLUuBGcbLUvBGcbBKrBEhbBKrBEibLVcBDobLVdBDobLVcBDpbLVdBDpbLVcBGcbLVdBGcbBJlB",
  "EhbBJlBEibLVkBDobLVlBDobLVkBDpbLVlBDpbLVkBGcbLVlBGcbBKxBEhbBKxBEibLVsBDobLVtBDobLVsBDpbLVtBDpd",
  "BJrBEhbBJrBEibLWaBDobLWbBDobLWaBDpbLWbBDpdBLdBEhbBLdBEibLWiBDobLWjBDobLWiBDpbLWjBDpbLWiBGcbLWj",
  "BGccBJxBEicLWrBDocLWrBDpcLWrBGcbBLhBEhbBLhBEibLWyBDobLWzBDobLWyBDpbLWzBDpbLWyBGcbLWzBGcbBKbBEh",
  "bBKbBEibLXgBDobLXhBDobLXgBDpbLXhBDpbLXgBGcbLXhBGcbBKjBDocBKnBDocBKpBDocBKrBDocBKxBDocBLdBDocBL",
  "hBDoeLTgBGfbLThBGfbLTiBGfbLTjBGfbLTkBGfbLTlBGfbLTmBGfbLTnBGfbLToBGfbLTpBGfbLTqBGfbLTrBGfbLTsBG",
  "fbLTtBGfbLTuBGfbLTvBGfbLUmBGfbLUnBGfbLUoBGfbLUpBGfbLUqBGfbLUrBGfbLUsBGfbLUtBGfbLUuBGfbLUvBGfbL",
  "UwBGfbLUxBGfbLUyBGfbLUzBGfbLVaBGfbLVbBGfbLWyBGfbLWzBGfbLXaBGfbLXbBGfbLXcBGfbLXdBGfbLXeBGfbLXfB",
  "GfbLXgBGfbLXhBGfbLXiBGfbLXjBGfbLXkBGfbLXlBGfbLXmBGfbLXnBGfbBKjBDubBKjBDsbLXoBGfbBKjBGfbBKeBGfc",
  "BKjBGcbMAgBGfbBJdBDubBJdBDsbBJdBDocBJdBGffGmBGcbLXsBGfbBKpBGfbBKgBGfcBKpBGcbMAwBGfbBJhBDocBJjB",
  "DocBJjBGfbMApBDobMApBDpbMApBGcbBKrBDubBKrBDsbBLiBDoeBKrBGcbBLiBGcbBJlBDubBJlBDsbBJlBDodMDaBDob",
  "MDaBDpbMDaBGcbBLdBDubBLdBDsbBLjBDocBKzBEhbBKzBEibBLdBGcbBLjBGcbBJxBDubBJxBDsbBJxBDocBJtBEibGmB",
  "DofLYaBGfbBLhBGfbBLmBGfcBLhBGcbMCsBGfbBJrBDocBKbBDocBKbBGfPyMSmBFsbMSoBFstMSqBFsBfMUyBFsbMVcBF",
  "sbMVaBFsCbMWxBFsfMXcBFsdMXfBFsyMYdBFscMYfBFsBbMZcBFsdMZjBFsdMZlBFscMZoBFsxCjBFscNAnBFslMZtBFsb",
  "CiBFsbCkBFsbNAqBFsbNArBFsdNBeBFsbNBfBFsdNBiBFsbNBjBFshNBmBFsbNBnBFsdNBuBFsbNBvBFsdNByBFsbNBzBF",
  "sBjNDaBFsbNDgBFsbNDhBFsbNDjBFsBxNBoBFsbNBpBFsbNCjBFsbNCkBFshNDqBFsbNDrBFsbNDsBFsbNDtBFsFBrSHnS",
  "KncSHpSKncSHrSKncSHtSKncSHvSKncSHxSKncSHzSKncSIbSKncSIdSKncSIfSKncSIhSKncSIjSKndSImSKncSIoSKnc",
  "SIqSKnhSIxSKnbSIxSKocSJaSKnbSJaSKocSJdSKnbSJdSKocSJgSKnbSJgSKocSJjSKnbSJjSKoxSHiSKnkSKrSKnoSLf",
  "SKncSLhSKncSLjSKncSLlSKncSLnSKncSLpSKncSLrSKncSLtSKncSLvSKncSLxSKncSLzSKncSMbSKndSMeSKncSMgSKn",
  "cSMiSKnhSMpSKnbSMpSKocSMsSKnbSMsSKocSMvSKnbSMvSKocSMySKnbSMySKocSNbSKnbSNbSKoxSLaSKndSNvSKnbSN",
  "wSKnbSNxSKnbSNySKneSOjSKnDCPfDVDyBDvBbDVEgBDvEBmDZGbDZHicDZGdDZHipDZGnDZHiFbDZLxDZLnbDZLyDZLnU",
  "uEAGlEAGcbEAGlEAHbCdEAIsEALlcEAIuEAKxjEAJbEALedEAJgEALlCaEALeEALecEALeEAKubEALeEALlJjEAUrEAUsb",
  "EAUrEAUicEAUrEAUvJsEBEmEBEdbEBEnEBEdBIjECMvECMqBBGbFDSwFDSwbFDSwFDThbFDSwFDSxbFDThFDSxbFDSwFDS",
  "ybFDSzFDSxbFDTaFDSxbFDSzFDSyEQqFIJvFIJvbFIJrFIJvbFIJxFIJv"])

/-- Reads the classes of marks. An entry gives how many code points are left out before its run,
how many the run has besides its first, and their class. -/
def classesFrom (next : Nat) : List Nat → List (Run × Nat)
  | skipped :: more :: number :: rest =>
    (⟨next + skipped, next + skipped + more⟩, number) ::
      classesFrom (next + skipped + more + 1) rest
  | _ => []

/-- The classes of marks. -/
def orderClasses : CodeMap Nat := ⟨(classesFrom 0 (CodeSet.numbers [
  "BDouIwaaIyadImaaIyaaIiaeImabHuadImabHuakImaebadImacIwcaIwdaIwacImacIwabImbcIwadImaaIwaaIyabIma",
  "aIwaaIzabJaaaIzabJaaaIzamIwKpeIwKfaImadIwaaImacIwaaIoaaImafIwafImabIwaaImabIwaaIoaaIuaaIwaakaa",
  "laamaanaaoaapaaqaaraasabtaauaavaawbaxbayaazbaIwaaImbasCuhIwaaBeaaBfaaBgBwaBbaaBcaaBdaaBeaaBfaa",
  "BgaaBhaaBiabIwabImaeIwaaImabIwaaImqaBjDxgIwcdIwaaImaaIwcbIwbaImabIwaaImBjaBkBeaIwaaImabIwaaIma",
  "bIwacImaaIwabImaaIwaaImacIwaaImaaIwaaImaaIwaaImaaIwaaImabIwGegIwaaImaaIwjaImydIwbiIwbcIwbeIwBr",
  "cImChbIwacImadIwBqeIwaeImanIwbaImabIwaaImabIwaaImacIwacImaaBbaaBcaaBdacIwaaImabIwabImaeIwCiahq",
  "ajdaIwaaImabIwDzahqajBwaIwCjahqajEgahqajEgahqajExajEgahqajhaDgaaDnDxahqajEfbjqajEuajEfbDzaajnd",
  "EdEebEoaajndEsCybImBbaImbaImbaIiCdaEzaaFabaFcfdFacaFabbIwaajbbIwCkaImEiahbbjDeaImBBrcIwBKmbjBe",
  "ajGbajkaIwHvaIuFnaIoaaIwaaImIlaIwaaImCtajuhIwcaImBweIwafImabIwaaImbbImabIwabImaeIwaaImarIwaaIm",
  "cfIwaaImadIwaaJaCuahpajBmaIwaaImagIwCcbjCgahlbjCpahFwcIwbabaeImabIwadImaaIwbgbeaImgaIwdbIwHqbI",
  "waaImagIwaaImabIwaaJaaaIgaaImaaHuaBkIwaaIyabIuaaImaaIkaaIwaaIzaaImaaIwaaImBBsbIwabbadIwacbabIw",
  "eaIwdbbaaIwaaImaaIwabbadImaaIwEOccIwFlajDsBfIwViaIkaaIuaaIyaaIoabIqEbbiBSQeaIwejIwBgbIwDcbIwKq",
  "ajBlajFvajBbrIwCfcImBlajDrahmajJfaIwbbIwaaImcbIwfbIwbaIwCaajJmajBDZsaBaBDpgIwagImabIwBLlaImIsa",
  "ImFteIwCMsaImbaIwBoaIwaabaaImeajGjaIwaaImWbdIwCneIwMfbIwCzbImbcImCsbImacIwaaImaaIwadImBxaIwaaI",
  "maaIwaaImHkajBpajoajCfajaahCrcIwBwbjCkahCyajjahEcajaahGwahaajDcbhqajygIwdeIwDlcjEjajdahxaIwDva",
  "jaahJrajaahEwajEoajaahElajKjajaahJybjeahGaajDfajsajDdajQfajJyahbbjDdajQjbjYZcajDSaebChgIwBUnbg",
  "BDAyabHWobIiacbdaIsaeIiihImceIwabImBedIwFscIwFFfgIwbqIwcgIwbbIwbeIwDwaIwGegIwOlaIwCjdIwTobIyaa",
  "ImaaIwJuaIwaaImJjaIwcaIwhbIwfaIwSggImEffIwaah"])).toArray⟩

/-- The class of a mark. Characters of class zero are no marks that move. -/
def orderClass (code : Nat) : Nat :=
  if code < 0x300 then 0 else (orderClasses.value? code).getD 0

/-! ### Korean syllables -/

/-- A syllable is written for a leading consonant, a vowel, and perhaps a trailing consonant. -/
def syllableParts? (code : Nat) : Option (List Nat) :=
  if 0xAC00 ≤ code && code ≤ 0xD7A3 then
    let place := code - 0xAC00
    let opened := [0x1100 + place / 588, 0x1161 + place % 588 / 28]
    some (if place % 28 == 0 then opened else opened ++ [0x11A7 + place % 28])
  else none

/-- The syllable of a leading consonant and a vowel, or of an open syllable and a trailing
consonant. -/
def syllable? (first second : Nat) : Option Nat :=
  if 0x1100 ≤ first && first ≤ 0x1112 && 0x1161 ≤ second && second ≤ 0x1175 then
    some (0xAC00 + (first - 0x1100) * 588 + (second - 0x1161) * 28)
  else if 0xAC00 ≤ first && first ≤ 0xD7A3 && (first - 0xAC00) % 28 == 0 &&
      0x11A8 ≤ second && second ≤ 0x11C2 then
    some (first + (second - 0x11A7))
  else none

/-! ### Taking apart -/

/-- Takes a code point apart, so many times at most. -/
def takeApart : Nat → Nat → List Nat
  | 0, code => [code]
  | depth + 1, code =>
    match composites.find? (·.whole == code) with
    | some composite => takeApart depth composite.first ++ [composite.second]
    | none => [code]

/-- The code points that a code point is written for. No composite is nested deeper than three
times. -/
def decompose (code : Nat) : List Nat :=
  if code < 0xC0 then [code] else (syllableParts? code).getD (takeApart 3 code)

/-- Puts a code point behind a text that is read backwards, in front of marks of a higher class. -/
def insertMark (code : Nat) : List Nat → List Nat
  | [] => [code]
  | before :: rest =>
    if 0 < orderClass code && orderClass code < orderClass before then
      before :: insertMark code rest
    else code :: before :: rest

/-- Ordering moves code points and loses none. -/
theorem insertMark_perm (code : Nat) (text : List Nat) :
    (insertMark code text).Perm (code :: text) := by
  induction text with
  | nil => exact List.Perm.refl _
  | cons before rest inductionHypothesis =>
    rw [insertMark]
    split
    · exact (inductionHypothesis.cons before).trans (List.Perm.swap code before rest)
    · exact List.Perm.refl _

/-- The code points with the marks in order. -/
def orderMarks (codes : List Nat) : List Nat :=
  (codes.foldl (fun done code => insertMark code done) []).reverse

/-! ### Putting together -/

/-- The code point that is written for two. -/
def compose? (first second : Nat) : Option Nat :=
  syllable? first second <|>
    (composites.find? fun composite => composite.first == first && composite.second == second).map
      (·.whole)

/-- A text in progress, read backwards: what is settled, the last character of class zero, and
the marks on it that stay apart from it. -/
structure Composing where
  settled : List Nat
  base : Option Nat
  marks : List Nat
  deriving Repr, Inhabited

/-- All that is in progress, read backwards. -/
def Composing.all (state : Composing) : List Nat :=
  state.marks ++ state.base.toList ++ state.settled

/-- Adds one code point. It joins the character that it belongs to if no mark of its class or of a
higher one stands between, and no other character. -/
def Composing.add (state : Composing) (code : Nat) : Composing :=
  let number := orderClass code
  let isReached := match state.marks with
    | [] => true
    | mark :: _ => orderClass mark < number
  match state.base.bind fun base => if isReached then compose? base code else none with
  | some whole => { state with base := some whole }
  | none =>
    if number == 0 then ⟨state.all, some code, []⟩
    else { state with marks := code :: state.marks }

/-- The text in normal form C. -/
def normalize (text : List Char) : List Char :=
  if text.all (·.toNat < 0x300) then text
  else
    let codes := orderMarks (text.flatMap fun c => decompose c.toNat)
    ((codes.foldl Composing.add ⟨[], none, []⟩).all.reverse).map Char.ofNat

end SchemaAssessment.Unicode
