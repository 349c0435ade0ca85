/-
Ages: the version of Unicode in which a code point was first given a meaning, up to
version 16.0.
-/

import SchemaAssessment.Unicode.CodeSet

namespace SchemaAssessment.Unicode

/-- The versions in order, each with the code points that came with it. -/
def versions : List (String × CodeSet) := [
  ("1.1 v11", .ofTable [
    "aTheBdCeDkhBubjwCrBabsbeadafgbabtbBrbgdababababrnlbCnblbBojCacbcbdBbchcbCdBlcgbBmbaBmjbimBaf",
    "exaoadabzfsnncCtcebobBdcjTzcbCacrcedyqcbhcbcvbgbaddcabgcbccjaebbecuhacfebcvbgbbbbbbcabeebccl",
    "dbahomcbgbabcbvbgbbbecjbcbccapafjrcbhcbcvbgbbcdchdbccibebbcekrbbfdcbddbbabbdbdcdhbceedcbdjap",
    "locbhbcbwbjbeegbcbdhbjbejsbbhbcbwbjbeegbcbdhbhabbejsbbhbcbwbpefccbdjaibejFpCfeBcBlbbacbbacag",
    "dbgbcbabacbbmbccebabfcjcbRiBlkBmeaeDlfCpfDdEOkFyfDlgvcfcBlcfchbabababBecCabobncfbsccbibBubwB",
    "jgdBarkBlrBeCeBaBvnDmvJhoabEqFdBkBbkvFivFtkDbqtgDhFpdbdcBbbBibabddabgcgoBedxbnDDhCdhabDfefcD",
    "pgBneDpbpDsBcdBjBcBbdBxpleBubEoeDucBeJWbBEXxYJqJXtIcgmegybebabbbbbEdBhOaqClcCbBolBkdmuejbsbd",
    "ecbabFecabDpcDpdfcfcfccdgbgoc"]),
  ("2.0 v20", .ofTable [
    "CCvqbmuaDMxCtbBghBaefbabudgbaFQnaUhaCATwQNrEIFybDSYobDSYobDSYobDSYobDSYobDSYobDSYobDSYobDSYo",
    "bDSYobDSYobDSYobDSYoHLXh"]),
  ("2.1 v21", .ofTable ["MJsaDGOta"]),
  ("3.0 v30", .ofTable [
    "TidBehcrEneBxakeDjitaEmadabababaBeamaCoamaBqbcdDobGaaHscDubfapaBqebnbBddBaCbBwCFhbbrdxbibacg",
    "daefbabhscOjaBraxchabcbocaBwBhbebbbgddgzQggbCkbabdcgbabdcBmbabdcBebabdcgbabdcgbgbwbBebabdcgb",
    "BmbsgBbBjDgmYfjBcdDcFnDodjwobjgDjiBpCWbayfDrcBybDhbCuaDziKjaErabBdFibRphBhaDibPiJvCCezbDkmIf",
    "BalCicdaNpxWmJTdBFEgBSudrcpblbcbaBGScaBVvc"]),
  ("3.1 v31", .ofTable [
    "BMybDQQcBfBXwBebdmBaGzBlcBlCZDqJlkBmdGxVaDgbCsbbcacbcdblbabdbbbCmbdchbgbBbbdbebadgbMzeLdeBxP",
    "DwCLEsBETdUvBPCQtaBeDr"]),
  ("3.2 v32", .ofTable [
    "UyaLqatmEabBcaFrbCfbcbcbBxpNmbMjaDNhbCHjmbglwjtmmbcbbDIxageeahenaCkbBygDeoGmlJinEuaBeBzKytFv",
    "jDkhwbDmlcjIonDmBbepJwTrBZncDjbibDqaJgpDdoDdoBRDibqamadaBGJaCgBJdadpCbbBsaJbb"]),
  ("4.0 v40", .ofTable [
    "UzascEpbClqDchfcFveTwdjiCmcFtbpaBtcBdcQuaHcaCpabaFgaDgcnaCpaChaEzhHlbEFnasjKcBcdleleadBpceEd",
    "BfBDoEdBCpbIwaZjbLqaKqbEmhobBRanCRnbBxaBrbDadGldDvbBfaJToClCOQvaCvbQxlbzbsbbbocnBiEsfceBsdiW",
    "eBdbaFebBmDbcjBGwfcabBrbbdacaCYUiDiNyaBTKDaJf"]),
  ("4.1 v41", .ofTable [
    "VvkKseGddJmbGoaBicCpasaCgfJhBdUhaDcaStaBvaBMnbLjbbaKgaClaClaBnaBfaBfaBfapaBnaxbBfzCGcBpgzgje",
    "bBgBbcbBGmDjZhbbgBxeBddCbaDcapaYukWaaDxbskfpKkgBGhfJcBubBuBhEcoBskCbjaqwjgbgbgbgbgbgbgbgBhxe",
    "bBJupGsaBPItvCTowIzBrBFEaEbBFqjBFaCwUnBjenCIsdbbfhbcbBaeceiiiCXPvCrBRab"]),
  ("5.0 v50", .ofTable [
    "WgnLncMzaBqfqdGkaTxCgOubbbBHibnbFIjCxeBsWlgBzbBCudDpbCbaXblBBmaKqdBGjgfdMemhdBULjdfbLaCdBKOm",
    "zfaIRgBHuFpDundCOGirBQub"]),
  ("5.1 v51", .ofTable [
    "BHwdcbDjaHbaFkpIseleBgeLqrTdbIoaBjaHyaBdbEeaEeaBabibuhHhagaBdbmfdgSxbDtadcCzafacahcefBaClebD",
    "BeaBBxBqdlCsCddodByMtBbGzdDmfNsaFjaDqaCbdBYaavjddKeaBfdBFfeeBodeKucbcefNqBfydcsBDkaGgtBPPohB",
    "ZoLnuBfcriBbFbecEcEgeEyCqjlBmDflaGeCcjncjcdBFSucBHplCaBtFaBcdBwCKdzfaCXSjaLRqBreDv"]),
  ("5.2 v52", .ofTable [
    "BYqbBCcBtcoHlaCzagaBjbEyaCFpdHldHgeCqeDefTsaYgiVoCrGybBuaCrCkbBcckgjgnVaBiKgaBAucFvcCcaXiaBA",
    "rbBdcejbsbaexDjaBNheKsanbEdgMhaBOclBPLshBXkBvQaDjMajGkBbDwBcdCzbkebEyBbeCoyeIqBtcjQOkweBwNBb",
    "cFGcvbiHebMmBfEyCbdBccBafhEyCuUpBeTtCnLVqBPeCTNdkfBecalabacadadeiahazabbcakdcaEhapBhoiCQLjGD",
    "o"]),
  ("6.0 v60", .ofTable [
    "BYsbJoaCkaSmBbcaIlbtagbBbeTmfQraqataWbdCvbBIobDEnBzidToaZohBcaBFjkBCcatabdBdaebBcaBjabaecjbC",
    "acyaoaobCDkaoaBPocBSEnbLnbbbojDcaBDufcfcfjgbgBEMtpHRiCzeBdBHEeVwBALbbYMgocncoboDcabkbabbbcbc",
    "fhbgbjgibacbbjebbjCxzbbBvivbGsBgpfbCrdtmBkbevqpCkbabGzbddCjsxFrebpbcbabababcbfcdbacdblekBwCr",
    "CgElCUQmIn"]),
  ("6.1 v61", .ofTable [
    "CCtaEmaZrabkCdBaTdaBMrbStafaBvcEBbcmfJwhBrdECqabaBYqbBzafaCebHujBRAeaCNnhBjaJibwaCzbBCowBDZz",
    "bFUuCdgbCRoyhjgCabnCiCuhjBTuCdijBHKoCqlBuqqBVWidbBabbbacabjbdbabagaeabababcbbbacabababababbb",
    "acdbgbdbdbabjbqfcbebqCabYibBLsdHgaqadabababadagbeabbea"]),
  ("6.2 v62", .ofTable ["MKga"]),
  ("6.3 v63", .ofTable ["CIeaJYvd"]),
  ("7.0 v70", .ofTable [
    "BIlaQihDpbEoaZralfCyaEqahaYpaBzaCyaExaIujDKrhVcbPloVxbJdoBBhcBFqgBDtaBQickzcBfcBhdlbhXugBTOv",
    "fJmllccbCraSuBeEvdGuBvebBFIvgBHdbtaMhBbBjaBwBqOzBniBzlaFoLyjvkhJoCkiiRwBfBgBmelFhrhdmgBVjaIa",
    "BmDiamagtlrbBqEkCgfjhcbhcbcvbgbbbecicbccjafgcgdeKhCtijGkCbcrCcCqljWkDemaRgCeDFiBpHulfaBALfBe",
    "bjebDsBdcfkCrkjbgbufsBEMaEcfmdihjchQKyHocpCZwaBgvvbUmljaCsawlBlafdflrgCtabaHaaebClbegBdrbBob",
    "DhCsbnBvCsjqmddFkDgBrleCdijgBniBd"]),
  ("8.0 v80", .ofTable [
    "DHrbBuaUnaNoaKaaCMvacfEVoaHvbDYedBRWviCOuaJgaBifMmbXmdmDbBFFqbEBgsbbfeHgbcpcBtYqBynByhfBVddo",
    "eGegbabdbobkDiaDbaYjtLezdoepERpaIwHnLQqWkCAWlkCHzZbpeboJHdcDabDbeBkhJvaCxeJjbFjaWdiDzeChaCUC",
    "lINp"]),
  ("9.0 v90", .ofTable [
    "DHuhwoBJpaHyaecbgxcFRziOgaCHbdDXcbBTZlaKsaBHQdbBEvBjeBjFAoaRhDlbabaTumCCxibBsbnkBcdBfcvbnBFM",
    "vaBfJBotBDaBGFlgbqcgbbbeDIzCwfjebDDbrFmaBFyaBpaLobBhcVafbhiaclbleoBmm"]),
  ("10.0 v100", .ofTable [
    "DEmkPlbJsfTsaCgbFYwaJudBBhaBFzaCZaaYceBCmaBPXnuBLPicIQqCtiBzcwbeXhgbbbBrdabbbiijBFGpaYHkKyDd",
    "PfYAefBRpbBibTzltaihbbzasmBmfCewDCPdLBk"]),
  ("11.0 v110", .ofTable [
    "CAyaBnaDyaUfcIdaLmaEpaPhaExaENraBOhBqccFRmcwyeoWpeBCiaBPYheCYhaibMmbBKVcbsaBAtBnijRmBniBpOha",
    "EocTgaLeaBAxaIvChXlaBBefbbbBkbbbfhjLyyBEApDmJPieBCJutEwgJLwCpBScaCEzaIldOicBcecddabdyknjhbBk",
    "yDsn"]),
  ("12.0 v120", .ofTable [
    "EStaUgacacabfeahahbcanaFKhaFPuaCbaWtaBTZmfceBJrbBMBgwBRkaXcaBCphcBtckGdbBZmBxnaHQuiWJkfeaBvi",
    "DmbJCwfPRccrdSAqBsdncjebOeCffaCJzaBKnCiBPeaCBgaBkaIvlLdcBvaBxajaBpfdbkfdhccBwDfBcdecfcnf"]),
  ("12.1 v121", .ofTable ["TIda"]),
  ("13.0 v130", .ofTable [
    "DIcjZdaQoaEuaFAjbGJuaBAucBHoeKPijBFDgmCYsdBqbCbaBFvdBGQqaEWxBpbccbJuBbOpaFebZaafbBTmgcachbbb",
    "BdbbcljjCKkaBEJralbKFxSoBqiBLWucDpcCjaBYubBjbQtbDmaDxaebBqbgcBdaGmaodpshgjcngBpFqbCcBljCMSjg",
    "BHTqHHy"]),
  ("14.0 v140", .ofTable [
    "CIfaWwBebbghvaskBHpaBgaExaDWhahajaJfaBAnnEvaBwbYlaBBhaEIoaBvaTfkBRAtcCYibobbabeycBFTdaOrpExa",
    "BubCVgkbobgbbbkbobgbbRjfbBpbiCXxzIwfCyaCGsaFegBHppHWyDuWDxDabjBAEwdbgbbLcdLIbBtcwjElVdbEYvBe",
    "BHxBeBZdgbdbbboFQkcKmaPcaDeaGsbBsdkdicrcghigCNCpbGEvd"]),
  ("15.0 v150", .ofTable [
    "EXnaSgaDTAkcBFzcDIcjBNaqbBodBbHXdajBcBVHkaBiaMRatERhfKbCjBhaBPwBpGUcaFvceeDlaZrcpbBkclcbaobk",
    "bmaobCTHoaBIWsGFf"]),
  ("15.1 v151", .ofTable ["SEmdTbaKEIqXx"]),
  ("16.0 v160", .ofTable [
    "DGpaHCgbBvaKfbCWycFFebBSQvcmcBJOlBzCTwBldBcibLucCdaBSljbacabBlbjbacabdbjbbibBCvtBVwBhojBHgaH",
    "YzFXqKZtCfEOkCfLYjaXWiJpgQtIToBqeaHCcjebRnafaBuahavacajaIrBk"])]

end SchemaAssessment.Unicode
