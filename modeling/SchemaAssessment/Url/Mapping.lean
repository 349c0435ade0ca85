/-
What the characters of a host name are taken for. Most stand for themselves; letters
are taken in lower case, other spellings of a character as the plain one, some
characters as nothing, and some may not occur at all (Unicode 17.0).
-/

import SchemaAssessment.Unicode.Addition

namespace SchemaAssessment.Url

open Unicode (CodeMap CodeSet Run)

/-! ### Tables -/

/-- What each member of a run at equal distances is replaced by: a text that is the same for all,
then a code point that rises with the member. -/
structure Replacement where
  stride : Nat
  front : List Nat
  last : Nat
  deriving DecidableEq, Repr, Inhabited

/-- Reads replacements. An entry gives how far its first member lies above that of the entry
before, how many others there are, twice the length of the text in front with one more if every
other code point is left out, and the text of the first member. -/
def replacementsFrom (start : Nat) : List Nat → List (Run × Replacement)
  | skipped :: more :: shape :: rest =>
    let length := shape / 2
    let stride := shape % 2 + 1
    (⟨start + skipped, start + skipped + more * stride⟩,
      ⟨stride, rest.take length, (rest.drop length).headD 0⟩) ::
      replacementsFrom (start + skipped) (rest.drop (length + 1))
  | _ => []
termination_by numbers => numbers.length

/-- The characters that are replaced. -/
def replacements : CodeMap Replacement := ⟨(replacementsFrom 0 (CodeSet.numbers [
  "CnzaDtDraaBgiacBgBDwcaaDtfacBgBDsdbaBycacBgBDpbaaBKudacBgBFbbaaBxbaaEhcaeBxMFsCabaeBxMFsBybaeB",
  "zMFsCacwaIqygaJoBoxbJxBwacEbBDvcacEbEcbacEbEcbbbLxfcbMcgacEeHbbacEeHbbdbMkiacBAyEgbwbMtBuaaJvb",
  "cbOogaaElcaaWxbbbOxeaaWybaaPccbaXacaaPgdaaSjbaaXdbaaXfbaaPmcaaXkbaaXncaaXtbaaXsbaaPteaaXzbaaYc",
  "caaYfbcbQbgaaYqbaaQicaaYtdaaQncaaYybaaQqcbaZacbbQueaaZibaaQzeaaRdiacDwOsbacDwOsbacDwOsbacEeEcb",
  "acEeEcbacEeEcbacEgEcbacEgEcbacEgEcbhbRuribSltacDwEsbacDwEsbacDwEsbaaThcaaPpbaaRfbtbTlBoaaPycib",
  "VbyaaQVdbaaWacaaPubaaQVedaaWgcaaOubaaYzbaaZcbebWlEcaaEabaaXqbaaEcbaaEkbaaYjbaaYlbaaYrbaaEpbaaE",
  "rBgbcBgBDucacBgBDybacBgBFcbacBgBDrbacBgBDzdaaXnbaaEebaaElbaaEqbaaZlDobaBDodaaBEhbacBDwBDpbaaBK",
  "rBrbbBHxeaaBAvcaaBIdeacBgBKreaaChbaaBMxfacBgBDpbaeBgBDwBDpbaaBKebaaHbbcaBKfeaaBLkcbaBLldqaBKjs",
  "iaBLbBsaaBLvbaaBKkbaaBKqbaaBLdbaaBLlbaaBLjbaaBLebaaBKyclbBLxyaaBKsbaaBKzbaaBLbcaaBKqbaaBKncaaB",
  "NccaaBLbbaaBNfdcaBIhdpaBQmqBfaBPgDcqbBRdBqBabBStCcaaBVjbgbBUwpBvbBVlDtBlaCAzDiacCBdCCgJeacCIpC",
  "LobacCJwCLobacCOtCLobacCJyCLoBCiacDLlDMybacDLmDMybacDLnDMybacDLsDMybacDLxDMybacDLyDMybacDMhDMy",
  "bacDMlDMyEvacDQvDRwbacDQwDRwcacDRjDRwDgacDWkDWudacDWqDWuBjacDViDWubacDVjDWubacDVoDWudacDWdDWuJ",
  "uacEFpEGqbacEFqEGqBByacFKvFJuEyacFPtFOsBpacFOlFNtbacFOlFObBvaaFSdCdacFUgFYtkacFUqFYtfacFUvFYtf",
  "acFVaFYtfacFVfFYtnacFUeFYrkbdFWbFWcdacFYoFWqbaeFYoFWbFWqbacFYpFWqbaeFYpFWbFWqiacFWbFWqsacFXiFY",
  "tkacFXsFYtfacFXxFYtfacFYcFYtfacFYhFYtnacFXgFYrIxBlaRBcBnaaRCpgaaRCvBvaaGKaBDkfaHOiDGaaaBPibaaB",
  "PkbaaBPubbaBPxcaaBPybaaBQgbaaBRfbaaCKZjbaaKVahBqaGJoBtcaGLhEhaaDtbaaIwbbbDudaaDxbaaSjbhaDzjaaE",
  "hbaaVbbaaEibaaEkbbaEmcaaEpbaaDtbbaWucaaKZqbaaDubbaDwcaaXdbbaXfcaaDzcaaEdbaaEfbaaMtbaaEhbaaWybb",
  "aLAkcaaEibbaEmcaaLArbaaXzbaaEobaaLAzbcaBKkdbaBLecaaEbbaaEkbbaEncbaBKkcaaBKzbbaBLepaaBPtBjaaWwb",
  "aaDvbaaWzbaaJgbaaXgbaaDybaaXjbaaXlbaaXpbcaXsdaaLEhbaaZtbaaXxbaaLErbaaZvbaaYbbaaYabdaYceaaYibba",
  "YscaaQlbbaYzcaaLAqbbaZbcaaEsbcaZgdaaBKqCnCwbLJlFyacDtBBabaaLNddaaIpcBvbLPpEahaLTgqfaLTwqhaLUmq",
  "haLVcqfaLVsrdbLWjphaLWyjaaBKecaaBKfcaaBKgcaaBKhcaaBLkcaaBLlcaaBLmdacLTgBKrbacLThBKrbacLTiBKrba",
  "cLTjBKrbacLTkBKrbacLTlBKrbacLTmBKrbacLTnBKrbacLTgBKrbacLThBKrbacLTiBKrbacLTjBKrbacLTkBKrbacLTl",
  "BKrbacLTmBKrbacLTnBKrbacLUmBKrbacLUnBKrbacLUoBKrbacLUpBKrbacLUqBKrbacLUrBKrbacLUsBKrbacLUtBKrb",
  "acLUmBKrbacLUnBKrbacLUoBKrbacLUpBKrbacLUqBKrbacLUrBKrbacLUsBKrbacLUtBKrbacLWyBKrbacLWzBKrbacLX",
  "aBKrbacLXbBKrbacLXcBKrbacLXdBKrbacLXeBKrbacLXfBKrbacLWyBKrbacLWzBKrbacLXaBKrbacLXbBKrbacLXcBKr",
  "bacLXdBKrbacLXeBKrbacLXfBKrdacLXoBKrbacBKjBKrbacBKeBKrdacMAgBKrbbaMAacaaLXobaaBKebacBKjBKrbacB",
  "gBEhbaaBKrbacBgBEhbacBgBGcbaeBgBDwBGcbacLXsBKrbacBKpBKrbacBKgBKrdacMAwBKrbaaLXqbaaBKfbaaLXsbaa",
  "BKgbacBKpBKrbbeBgBEhBDocaeBgBEhBGceaaBJcfbaMBgcaaLXubaaBKhcbeBgBEiBDocaeBgBEiBGceaaBKifbaMBwca",
  "aLXybaaBLlbaaMCbbbeBgBDwBDocaaDsdacLYaBKrbacBLhBKrbacBLmBKrdacMCsBKrbaaLXwbaaBLkbaaLYabaaBLmba",
  "cBLhBKrbacBgBDpbacBgBEicaaBgbaaBgbaaBgbaaBgbaaBgbaaBgbaaBgbaaBgbaaBgbaaBgbaaBghaaMDsgacBgBFnya",
  "aBgeacMFaMFabaeMFaMFaMFacacMFdMFdbaeMFdMFdMFdfacBhBhcacBgBDtjacClClbacClBhbacBhCloagMFaMFaMFaM",
  "FaiaaBgraaBwbaaEbdfaCagaaBrbaaMXmbaaCjbbaBocaaEgbjaBwkaaBrbaaMXmbaaCjbbaBodaaDtbaaDxbaaEhbaaEq",
  "baaXdbaaEabdaEdeaaEibbaElnacEkElDkaeDtBvDvbaeDtBvElbaaDvbacGuDvcaeDvBvEhbaeDvBvEnbaaXfcacGuDyb",
  "baDzcaaEabaaEabaaEabaaLjbaaEbbaaEbbaaEebbbEedacEgEhdcaEidaaEkbaaEkdacElEfbaeEmDxEebacEmEfcaaEs",
  "caaBLhcaaEscaaEdbaaIvbbaDudaaDxbbaDxcaaMPybaaEfbaaEhbdaCFgeaaEbcaeDyDtEqbaaBKybaaBKlbaaBKlbaaB",
  "KybaaMXlfaaDwbbaDwcbaEbiaeBxMFsCdbaeBxMFsCfbagBxMFsBxBwbaeBxMFsBzbaeByMFsBzbaeBxMFsCbbaeByMFsC",
  "bbaeBzMFsCbbaeCaMFsCbbaeBxMFsCcbaeCbMFsCcbaeBxMFsCebaeBzMFsCebaeCbMFsCebaeCdMFsCebacBxMFsbaaEb",
  "bacEbEbbaeEbEbEbbacEbEobaaEobacEoEbbaeEoEbEbbagEoEbEbEbbacEbEqbaaEqbacEqEbbaeEqEbEbbaaEebbaDvc",
  "aaEfbaaEbbacEbEbbaeEbEbEbbacEbEobaaEobacEoEbbaeEoEbEbbagEoEbEbEbbacEbEqbaaEqbacEqEbbaeEqEbEbba",
  "aEebbaDvcaaEfeaaMSagaeBwMFsBzGhacMYlMYlbaeMYlMYlMYlcacMYoMYobaeMYoMYoMYoJpbaSEyLziaBxjjcBxBwka",
  "cByBwbaeBoBxBpbaeBoByBpbaeBoBzBpbaeBoCaBpbaeBoCbBpbaeBoCcBpbaeBoCdBpbaeBoCeBpbaeBoCfBpbagBoBxB",
  "wBpbagBoBxBxBpbagBoBxByBpbagBoBxBzBpbagBoBxCaBpbagBoBxCbBpbagBoBxCcBpbagBoBxCdBpbagBoBxCeBpbag",
  "BoBxCfBpbagBoByBwBpvaeBoDtBpbaeBoDuBpbaeBoDvBpbaeBoDwBpbaeBoDxBpbaeBoDyBpbaeBoDzBpbaeBoEaBpbae",
  "BoEbBpbaeBoEcBpbaeBoEdBpbaeBoEeBpbaeBoEfBpbaeBoEgBpbaeBoEhBpbaeBoEiBpbaeBoEjBpbaeBoEkBpbaeBoEl",
  "BpbaeBoEmBpbaeBoEnBpbaeBoEoBpbaeBoEpBpbaeBoEqBpbaeBoErBpbaeBoEsBpbzaDtBazaDtBaaaBwBYoagMYlMYlM",
  "YlMYlEaaeCgCgCjbacCjCjbaeCjCjCjDyacQGbBFsLgBvaQTcDsaaQUzcaaXvbaaLEjbaaYndcbQVggaaWvbaaYbbaaWub",
  "aaWwcaaQVrdaaQVuhaaEcbaaEobbaWdcBxbQWfEdbbRAihaaRApEvaaREvLsaaBOVlDgaaCILrnaaBDOabaaBDPobaaBDQ",
  "cbaaBDQlbaaBDRlbaaBDTdbaaBDTkbaaBDUebaaBDVebaaBETzbaaBEVlbaaBEVrbaaBEWobaaBEXibaaBEYdbaaBFAeba",
  "aBFAzbaaBFBkbaaBFHjbaaBFKzbaaBFMbbaaBFMgbaaBFNkbaaBFNtbaaBFOubaaBFPhbaaBFQgbaaBFSgbaaBFSybaaBF",
  "TzbaaBGXbbaaBGZvbaaBHRnbaaBHSkbaaBHSsbaaBHTdbaaBHTvbaaBHWtbaaBIPcbaaBIQybaaBIVobaaBIWlbaaBIXeb",
  "aaBIYabaaBJAcbaaBJAfbaaBJOdbaaBJOnbaaBJOzbaaBJPmbaaBJTybaaBJUgbaaBJUlbaaBJYybaaBJZibaaBJZvbaaB",
  "KAdbaaBKCmbaaBKDdbaaBKDvbaaBKGxbaaBLDgbaaBLFabaaBLFvbaaBMIhbaaBMImbaaBMLrbaaBMMhbaaBMMubaaBMNp",
  "baaBMPcbaaBMPhbaaBMZobaaBNAmbaaBNBsbaaBOOubaaBORibaaBOSfbaaBOUlbaaBOVjbaaBOVsbaaBOVzbaaBOXzbaa",
  "BOYebaaBOZkbaaBQOxbaaBRGcbaaBRGobaaBRGtbaaBRGxbaaBRHfbaaBRHxbaaBRHzbaaBRLcbaaBRTkbaaBRTpbaaBSG",
  "qbaaBSHabaaBSIybaaBSJfbaaBSJobaaBSJwbaaBSNjbaaBSNqbaaBSWkbaaBSWrbaaBSYobaaBSZfbaaBTBabaaBTKdba",
  "aBTKkbaaBTLbbaaBTXqbaaBUCmbaaBUCsbaaBUJsbaaBUNbbaaBUOvbaaBVDjbaaBVImbaaBWEobaaBWFpbaaBWHubaaBW",
  "JtbaaBWMjbaaBWMubaaBWNabaaBWOhbaaBWRfbaaBWRpbaaBXExbaaBXFebaaBXFnbaaBXFwbaaBXGmbaaBXHbbaaBXHfb",
  "aaBXKgbaaBXKkbaaBXKqbaaBYWjbaaBYXnbaaBZPobaaBZQabaaBZQxbaaCABubaaCAChbaaCAFabaaCAGubaaCBCpbaaC",
  "BDebaaCBDtbaaCBFcbaaCBGnbaaCBOebaaCBOqbaaCBRfbaaCCAtbaaCCBybaaCCJzbaaCCKubaaCCKzbaaCCTlbaaCDAn",
  "baaCDFibaaCDFobaaCDFtbaaCEPrbaaCEQabaaCEWabaaCFBybaaCFCbbaaCFDwbaaCFHxbaaCFIkbaaCFIobaaCFIvbaa",
  "CFMpbaaCFNxbaaCFOdbaaCFOrbaaCFVcbaaCFXbbaaCFXfbaaCGEgbaaCGEjbaaCGFcbaaCGOubaaCGQqbaaCGQxbaaCGT",
  "pbaaCGTzbaaCGUcbaaCGUmbaaCGVqbaaCHKvbaaCIAfbaaCIApbaaCICbbaaCICxbaaCIDfbaaCIDpbaaCIDtbaaCIFhba",
  "aCIFlbaaCIGcbaaCIGhbaaCIGubaaCIHvbaaCIIkbaaCIIsbaaCIKzbaaCILobaaCILsBraaBgcaaBuCaaaSFicaaBFNtb",
  "baBFNwDubcBgSKneacSJwSJyDsacSLnSMiBybaGLkcaaGRybaaGLmbbaGSaccaGLndfaGSegaaGMkbcaGLqdaaGMrbjaGL",
  "tkuaGPdwbaGMecbaGTbcaaGTgbaaGTibaaGTnbaaGTrbaaGTtbaaGMmbaaGTxbaaGTzbbaGMncaaGMqbbaGMscaaGMxbaa",
  "GMzbeaGNbfaaGNibaaGNmbaaGNwbaaGOdbaaGOibbaGUrccaGOtdbaGQmcaaGQqbbaGQzcaaGRcbaaGRmbaaGRpeaaBDOa",
  "baaBDTkbaaBDOjbaaBGXfbaaBDOkbaaBDPtbaaBDOlbaaBSJybaaBDRlbaaBDOzbaaBDObbaaBHTxbaaBHAmbaaBDVeDta",
  "eBoGLkBpbaeBoGLmBpbaeBoGLnBpbaeBoGLpBpbaeBoGLqBpbaeBoGLrBpbaeBoGLtBpbaeBoGLvBpbaeBoGLwBpbaeBoG",
  "LyBpbaeBoGLzBpbaeBoGMaBpbaeBoGMbBpbaeBoGMcBpbaeBoCNDoBpbaeBoCOWuBpbaeBoCPTkBpbaeBoCRMqBpbaeBoC",
  "SJgBpbaeBoCTFwBpbaeBoCUZcBpbaeBoCWSiBpbaeBoCXOyBpbaeBoCZIeBpbaeBoDAEuBpbaeBoDBBkBpbaeBoDBYaBpb",
  "aeBoDCUqBpbaeBoCYCyBpbagBoCXAyCXTkBpbagBoCXAyDDIqBpcaeBoBDOaBpbaeBoBDTkBpbaeBoBDOjBpbaeBoBGXfB",
  "pbaeBoBDTsBpbaeBoBEVtBpbaeBoBDOdBpbaeBoBEVrBpbaeBoBDRpBpbaeBoBFNtBpbaeBoBNAmBpbaeBoBQOxBpbaeBo",
  "BOZkBpbaeBoBNBsBpbaeBoCDFtBpbaeBoBGZvBpbaeBoBMPhBpbaeBoBNLqBpbaeBoBNAnBpbaeBoBTXuBpbaeBoBFVpBp",
  "baeBoBRJdBpbaeBoCBGrBpbaeBoBTYzBpbaeBoBFIiBpbaeBoBDWtBpbaeBoBFZwBpbaeBoBIPyBpbaeBoBTApBpbaeBoB",
  "DXxBpbaeBoCBIdBpbaeBoBFOmBpbaeBoBTZpBpbaeBoBDYnBpbaeBoBXFeBpbaeBoBXFnBpbaaBGHzbaaBJUibaaBMLrba",
  "aBUUpjaeEiEmDxbicByBxjfcBzBwgaaGLkbbaGLmccaGLpdaaGLtbbaGLvceaGLyfaaCNDobaaCOWubaaCPTkbaaCRMqba",
  "aCSJgbaaCTFwbaaCUZcbaaCWSibaaCXOybaaCZIebaaDAEubaaDBBkbaaDBYabaaDCUqbacCZIuCNMebacCYCyCXMubaaC",
  "XGicaaBDOabaaBDTkbaaBDOjbaaBGXfbaaBDTsbaaBEVtbaaBDOdbaaBEVrbaaBDRpbaaBFNtbaaBNAmbaaBQOxbaaBOZk",
  "baaBNBsbaaCDFtbaaBGZvbaaBMPhbaaBNLqbaaBNAnbaaBTXubaaBFVpbaaBRJdbaaCBGrbaaBTYzbaaBFIibaaBUDsbaa",
  "BSKdbaaBHWtbaaCCRxbaaBETebaaBFPobaaBPGibaaCFOvbaaBDYnbaaBEXlbaaBORjbaaBDOkbaaBDPtbaaBDOlbaaBJO",
  "obaaBFUpbaaBFNnbaaBIRvbaaBIPybaaBTApbaaBDXxbaaCBIdbaaBFOmbaaBHTkbdcBzCcejcCaBwkacCbBwbacBxBNAm",
  "bacByBNAmbacBzBNAmbacCaBNAmbacCbBNAmbacCcBNAmbacCdBNAmbacCeBNAmbacCfBNAmbaeBxBwBNAmbaeBxBxBNAm",
  "baeBxByBNAmbacEaDzbaeDxEkDzbacDxEobaeEeEmDwbaaSKwbaaSKybaaSLabaaSLcbbaSLecaaSLhbaaSLjbaaSLlbaa",
  "SLnbaaSLpbaaSLrbaaSLtbaaSLvbaaSLxbaaSLzbaaSMbbaaSMebaaSMgbaaSMibfaSMkgaaSMsbaaSMvbaaSMybaaSNbb",
  "eaSNefaaSNkbaaSNmbfaSNogdaSNveacBDWuBGAmbagSKwSMrSOiSMibagSKwSNrSMvSKvbagSKwSNzSNaSKwbaeSKwSOi",
  "SNrbagSKySMlSNzSLkbaeSKySNzSMbbaeSLaSLdSNzbaiSLcSLtSLjSOiSMjbagSLcSOiSLfSOibaeSLeSNzSLtbaeSLeS",
  "OiSNgbaeSLfSKySNqbagSLfSNpSMdSMibagSLfSNtSNqSOibaeSLgSNtSNzbaeSLgSNzSNebacSLiSLgbaeSLiSMlSOiba",
  "gSLhSNlSNqSOibagSLiSNrSMaSOibacSLhSNtbaiSLhSNtSLkSNpSNgbakSLhSNtSNhSOiSMiSNrbaiSLhSNtSNvSMdSMi",
  "baeSLkSNpSNgbaiSLkSNpSNgSMiSNzbaiSLjSNrSLwSKySNtbagSLjSNtSOiSMnbaeSLlSOiSLtbaeSLnSNrSMkbaeSLnS",
  "OiSNdbagSLpSKySLjSNrbaiSLpSNzSMbSOiSNgbagSLrSNqSNzSLkbaeSLvSNzSMbbaeSLvSNzSMibaeSMaSOiSLtbacSM",
  "hSLrbacSMjSNrbacSMiSNzbacSMkSMobaeSMoSMdSMibaeSMpSKySMebaiSMrSOiSLvSNzSMibaeSMrSOiSMebagSMqSOi",
  "SNsSNrbaiSMuSKwSLtSMiSNrbaeSMuSLjSNrbacSMuSLnbacSMtSNrbaiSMvSKvSNpSMdSMjbagSMvSKxSOiSMibaiSMwS",
  "MdSLrSLbSNrbaeSMvSNpSNzbaiSMySLjSLzSOiSNrbacSNaSLxbaeSNaSMlSMsbaeSMySNrSMebaeSNaSNzSLtbaeSNaSO",
  "iSLsbaeSMzSOiSLzbagSNdSKySNzSMibaeSNcSNrSMibacSNbSNzbaeSNdSNzSMjbaeSNbSOiSNrbaeSNbSOiSNzbagSNe",
  "SKySLjSNtbaeSNeSKySNrbaeSNeSMdSMpbaeSNeSNrSLjbaiSNeSNzSLrSNnSNzbagSNfSLjSNtSNzbacSNfSNqbaiSNfS",
  "NqSMqSOiSNrbacSNhSLgbagSNhSLgSMiSNzbagSNhSOiSMiSNrbaeSNkSOiSMjbaeSNkSOiSNrbaeSNmSKwSNzbagSNqSM",
  "dSMiSNrbacSNqSNpbaeSNrSMuSOibagSNrSOiSMwSNrbacSNsSNgbaiSNsSNzSMiSLmSNzbaeSNvSMdSMibacBwBQRxbac",
  "BxBQRxbacByBQRxbacBzBQRxbacCaBQRxbacCbBQRxbacCcBQRxbacCdBQRxbacCeBQRxbacCfBQRxbaeBxBwBQRxbaeBx",
  "BxBQRxbaeBxByBQRxbaeBxBzBQRxbaeBxCaBQRxbaeBxCbBQRxbaeBxCcBQRxbaeBxCdBQRxbaeBxCeBQRxbaeBxCfBQRx",
  "baeByBwBQRxbaeByBxBQRxbaeByByBQRxbaeByBzBQRxbaeByCaBQRxbaeEaEiDtbacDwDtbacDtEnbaeDuDtEkbacEhEo",
  "bacEiDvbacDwEfbbeDwEfBycacEbEnbacBJTzBLDobacBMSbBGAmbacBHTvBORjbacBMQwBPEpbagBNLqBJZzBDYwBTXub",
  "acEiDtbacEgDtbacBKuDtbacEfDtbbcEdDtcacEfDubacDzDubaeDvDtEebagEdDvDtEebacEiDybacEgDybbcBKuDycac",
  "EfDzbacEdDzbacEaEsbaeEdEaEsbaeEfEaEsbaeDzEaEsbaeEmEaEsbacBKuEebacEfEebacDwEebacEdEebacDyEfbacE",
  "gEfbacBKuEfbacEfEfbacDvEfbacEdEfbaeEfEfBybaeDvEfBybacEfBybaeEdEfBybaeEfEfBzbaeDvEfBzbacEfBzbae",
  "EdEfBzbaeEfMXpElbagEfMXpElBybacEiDtbaeEdEiDtbaeEfEiDtbaeDzEiDtbaeEkDtDwbaiEkDtDwMXpElbakEkDtDw",
  "MXpElBybacEiElbacEgElbacBKuElbacEfElbacEiEobacEgEobacBKuEobacEfEobacEdEobacEfEobacEiEpbacEgEpb",
  "acBKuEpbacEfEpbacEdEpbacEfEpbacEdBLhbacEfBLhcacDuEjbbcDvDvcagDvMXpEdDzcacDwDubacDzErbacEaDtbac",
  "EaEibacEbEgbacEdEdbacEdEfbacEdEmbbcEeEfcaeEeEhDzbacEeEqbacEfDubaeEfEbEebaeEfEhEebacEiEacaeEiEi",
  "EfbacEiEkbacElEkbacElEobacEpDubaeEoMXpEfbaeDtMXpEfbacBxBMPhbacByBMPhbacBzBMPhbacCaBMPhbacCbBMP",
  "hbacCcBMPhbacCdBMPhbacCeBMPhbacCfBMPhbaeBxBwBMPhbaeBxBxBMPhbaeBxByBMPhbaeBxBzBMPhbaeBxCaBMPhba",
  "eBxCbBMPhbaeBxCcBMPhbaeBxCdBMPhbaeBxCeBMPhbaeBxCfBMPhbaeByBwBMPhbaeByBxBMPhbaeByByBMPhbaeByBzB",
  "MPhbaeByCaBMPhbaeByCbBMPhbaeByCcBMPhbaeByCdBMPhbaeByCeBMPhbaeByCfBMPhbaeBzBwBMPhbaeBzBxBMPhbae",
  "DzDtEeBRGzwbCKYzCmnbCLBlBcaaBQgbaaBQiFdgbCLHrqBebCLIhCkaaCLKpjbbCLLaeaaLEfbebCLLfnaaCLLscaaXpd",
  "bbCLLxgjbCLMduaaXqbaaXgbaaXlbaaXwbaaXucaaZubaaYxbaaZtbaaCMWxbhbCLNhqaaCLMabaaYsbaaLFabbbCLOaea",
  "aXobhbCLOfqaaPvvaaElbaaDvbaaDybaaEjbaaCLPudaaLjbaaNbBHjaaCLHvbaaCMVvbaaXvbaaCMWwkaaZdhDbaHLgBD",
  "JsaaCBDgbaaBMZsbaaCCBybaaCBIebaaBPZdbaaBDPybaaBFUbbaaCILobaaCILobaaBHVlbaaCDFtbaaBGKdbaaBHVcba",
  "aBLCobaaBSVxbaaBWHpbaaBYVvbaaBZKkbaaBZWqbaaCCTjbaaBODubaaBPIhbaaBQTdbaaBRWwbaaBYCbbaaCDBubaaCG",
  "HtbaaBDTabaaBFPtbaaBONsbaaBRFnbaaBYVdbaaCHWwbaaBJIubaaBQJzbaaBYRlbaaCAAubaaBLKrbaaBXEmbaaBZOhb",
  "aaBJXibaaBNBbbaaBPLibaaBROebaaCCVubaaBEDabaaBEYpbaaBFJybaaBMEebaaBOLvbaaBRFcbaaBTAtbaaBWMjbaaB",
  "YTqbaaBYWybaaCBTnbaaCFGsbaaCGWlbaaCHVmbaaBTQybaaBUAhbaaBVOybaaBXXpbaaCDRobaaCIApbaaCAPabaaBHRb",
  "baaBJZobaaBVCqbaaBWRebaaBRIgbaaBTTibaaCBHybaaCFElbaaBHQubaaBIZqbaaBOElbaaBPPqbaaBQBnbaaBVKpbaa",
  "BVUtbaaCEXvbaaBFJmbaaBWRrbaaBFAabaaBEZkbaaBUGibaaBVQcbaaBXZdbaaCEZlbaaCAVobaaBLKxbaaBODubaaCAQ",
  "obaaBDQfbaaBIUxbaaBKJybaaBRTnbaaBSMibaaBFMdbaaBTVfbaaBEFfbaaBKFxbaaBDOnbaaBPFgbaaBMLcbaaBVKcba",
  "aBFStbaaBHMcbaaBTBtbaaBYCnbaaCANibaaBOUsbaaCCKubaaBPCqbaaBLMsbaaBXOvbaaBLSybaaBSLxbaaBDUsbaaBE",
  "VpbaaBEZhbaaBNOzbaaBVHvbaaBXKhbaaCAOwbaaCDFrbaaBFKvbaaBFXqbaaBHWtbaaBJYqbaaBMObbaaBQKsbaaBTXab",
  "aaCERtbaaCGMkbaaCIBnbaaCIDqbaaBFHjbaaBMXybaaBOSdbaaCCHubaaBJUabaaBKYqbaaBLCybaaBMCobaaBQChbaaB",
  "QXlbaaBSDlbaaBUDebaaBVSebaaBWQpbaaCCFmbaaBYIwbaaCCPfbaaCDUgbaaBFChbaaBFHrbaaBGCjbaaBQSmbaaBZUo",
  "baaCANibaaBJXhbaaBKIvbaaBLRnbaaBOUgbaaBVBibaaBRSvbaaBDWubaaBGYjbaaBIUxbaaBJMwbaaBKKibaaBRVebaa",
  "BSCfbaaBWIkbaaBWPabaaCDJobaaCFEkbaaCFHobaaCFPobaaBEDfbaaBUCcbaaCDEqbaaCFCabaaBKRxbaaBDTebaaBEQ",
  "cbaaBIVebaaBIYhbaaBMMjbaaBODubaaBRCobaaBSUkbaaBYJkbaaCCSqbaaCIKzbaaBMVobaaCEWsbaaBFGrbaaBNExba",
  "aBNJnbaaBPJtbaaBPXcbaaBRYnbaaBSLlbaaBTPrbaaBVJkbaaCFSgbaaBEVtbaaBLEsbaaCEZobaaBEJjbaaBJGrbaaBP",
  "QgbaaCCFqbaaBKEtbaaBKVsbaaBNKxbaaBRTnbaaCFAcbaaBFCzbaaBFVrbaaBIZtbaaBMRbbaaBNDebaaBNQmbaaBPGfb",
  "aaBRYkbaaBSQsbaaBWHdbaaBZVbbaaBZVtbaaCDFobaaCFDqbaaBFNrbaaBPYgbaaBFWfbaaBRCqbaaBSEabaaBYTebaaC",
  "FBfbaaCHFjbaaCIBvbaaBNFzbaaBPPbbaaBXFcbaaBUNbbaaBUQibaaBVEobaaBRLwbaaBQQrbaaCAUabaaBDVkbaaBXRy",
  "baaBFDqbaaBFBrbaaBJVybaaBLLbbaaBVHebaaBIRdbaaBPIkbaaBMXgbaaCCGhbaaBZQabaaCEXxbaaCAChbaaBJXrbaa",
  "BEUabaaBGMidaaBHLycaaBMUudaaBFAcbaaBRPybaaBSZqbaaBTXsbaaBTZabaaBTZhbaaBUAxbaaCFIcbaaBVGgbaaBWJ",
  "tcaaBYUccaaCAQidaaCCQabaaCCXpeaaCFXvbaaCFYibaaCGAabaaCHSubaaCCWkbaaCFBzbaaBEEobaaBEQpbaaBEUnba",
  "aBFJdbaaBFKebaaBFOjbaaBGKzbaaBGPabaaBGSubaaBHKybaaBHOybaaBIZsbaaBJAcbaaBKOybaaBKXcbaaBKYobaaBL",
  "CkbaaBMJnbaaBMPebaaBMVxbaaBNPdbaaBPLvbaaBPScbaaBQCgbaaBQYwbaaBRGdbaaBRZmbaaBTRdbaaBTXubaaBTYfb",
  "aaBTYebaaBTYmbaaBTYsbaaBTYzbbaBUAvcaaBUHsbaaBUKfbaaBUWmbaaBVSebaaBVSzbaaBVVdbaaBWGwbaaBWMnbaaB",
  "XFhbaaBXKrbaaBXKrbaaBYDbbaaBZXobaaCACsbaaCAQrbaaCASvbaaCBIpbaaCBKqbaaCCLabaaCCQabaaCFDrbaaCFOp",
  "baaCFQxbaaBKNtbaaILGgbaaBXGydaaBDPmbaaBEYnbaaBEVobaaBECubaaBEUfbaaBEWmbaaBFJbbaaBFLabaaBGKzbaa",
  "BGIfbaaBGKvbaaBGNqbaaBHLybaaBHPjbaaBHUybaaBHVobaaBIFybaaBINobaaBJXqbaaBJXxbaaBKDlbaaBKGbbaaBKR",
  "obaaBKWcbaaBKTkbaaBKYobaaBKWubaaBLCkbaaBLEybaaBLUibaaBLXsbaaBLZubaaBMJubaaBMUubaaBNBbbaaBNBfba",
  "aBNDmbaaBOSfbaaBOUsbaaBPJtbaaBPZnbaaBPYxbaaBQCgbaaBQLybaaBQYwbaaBTIdbaaBRGnbaaBRLfbaaBRPybaaBS",
  "CnbaaBSIgbaaBSKhbaaBSSzbaaBSTbbaaBSZqbaaBTAhbaaBTBgbaaBTEobaaBTEebaaBTTkbaaBUMbbaaBUWmbaaBVDrb",
  "aaBVMhbaaBVSebaaBWEwbaaBWMnbaaBXTabaaBXZbbaaBZHxbaaBZZlbaaCACcbaaCACsbaaCAOdbaaCAQibaaCAOpbaaC",
  "AQrbaaCAQobaaCAPxbaaCASvbaaCAVybaaCBKqbaaCCGebaaCCSgbaaCDDpbaaCDMcbaaCEZsbaaCFDrbaaCFIcbaaCFNf",
  "baaCFOpbaaCFPbbaaCFQxbaaCGSwbaaCILobaaIBDybaaIBDsbaaIFNpbaaWOzbaaYHcbaaYIjbaaIRBlbaaIVBcbaaJHX",
  "zbaaCIIdbaaCILaBnacDyDybacDyEbbacDyEebaeDyDyEbbaeDyDyEebacElEmbacElEmnacCBsCBubacCBsCBdbacCBsC",
  "BjbacCCcCBubacCBsCBlgacCFpCEecacCGoCEhbaaCFybaaCFgbbaCFjccaCFrdaaCGebaaCGgbaaBrbbcCGfCErcbeCGf",
  "CEmCErcbcCFgCEhcacCFgCEmbacCFhCEmbacCFiCEmbacCFjCEmbacCFkCEmbacCFlCEmbacCFmCEmcacCFoCEmbacCFpC",
  "EmbacCFqCEmbacCFrCEmbacCFsCEmcacCFuCEmcacCFwCEmbacCFxCEmcacCFzCEmbacCGaCEmcacCGcCEmbacCGdCEmba",
  "cCGeCEmbacCGfCEmbacCGgCEmbacCFlCEjbacCFhCEpbacCFrCEpbacCGaCEpbacCFgCFsbaaCLlbaaCLlbaaCLvbaaCLv",
  "baaCLvbaaCLvbaaCLybaaCLybaaCLybaaCLybaaCMabaaCMabaaCMabaaCMabaaCLubaaCLubaaCLubaaCLubaaCLzbaaC",
  "LzbaaCLzbaaCLzbaaCLtbaaCLtbaaCLtbaaCLtbaaCNkbaaCNkbaaCNkbaaCNkbaaCNmbaaCNmbaaCNmbaaCNmbaaCMeba",
  "aCMebaaCMebaaCMebaaCMdbaaCMdbaaCMdbaaCMdbaaCMgbaaCMgbaaCMgbbaCMgcaaCMhbaaCMhbaaCMhbaaCMnbaaCMn",
  "baaCMmbaaCMmbaaCMobaaCMobaaCMibaaCMibaaCMybaaCMybaaCMrbaaCMrbaaCNpbaaCNpbaaCNpbaaCNpbaaCNvbaaC",
  "NvbaaCNvbaaCNvbaaCNzbaaCNzbaaCNzbaaCNzbaaCNxbaaCNxbaaCNxbaaCNxbaaCOgbbaCOgcaaCOhbaaCOhbaaCOhba",
  "aCOmbbaCOmcaaCOnbaaCOnbaaCOnbaaCOkbaaCOkbaaCOkbaaCOkbaaCPebbaCPecaaCPfBiaaCNtbaaCNtbaaCNtbaaCN",
  "tbaaCOtbaaCOtbaaCOsbaaCOsbaaCOubaaCOubacCOtCLobaaCOxbaaCOxbaaCOrbaaCOrbaaCOvbaaCOvbaaCPcbaaCPc",
  "baaCPcbaaCPcbaaCJxbaaCJxbacCIoCIpbacCIoCIpbacCIoCPhbacCIoCPhbacCIoCJwbacCIoCJwbacCIoCOtbacCIoC",
  "OtbacCIoCOsbacCIoCOsbacCIoCOubacCIoCOubacCIoCPcbacCIoCPcbacCIoCPcbacCIoCJxbacCIoCJxbacCIoCJxba",
  "aCOybaaCOybaaCOybaaCOybbcCIoCIucacCIoCJtbbcCIoCJxcccCIqCIudacCIqCJtbbcCIqCJxcccCIsCIudacCIsCJt",
  "bbcCIsCJxcacCItCIubacCItCJtbbcCItCJxcacCIuCIvbacCIuCJtbacCIvCIubacCIvCJtbbcCIwCIucacCIwCJtbccC",
  "JbCIudacCJbCJtbacCJdCIvbacCJdCJtbccCJeCIudacCJeCJtbacCJfCIvbacCJfCJtbacCJgCJtbacCJhCIubacCJhCJ",
  "tbacCJiCIubacCJiCJtbccCJpCIudacCJpCJtbbcCJpCJxcacCJqCIvbacCJqCJtbbcCJqCJxcacCJrCIpbccCJrCIudbc",
  "CJrCJscbcCJrCJxcccCJsCIudacCJsCJtbbcCJsCJxcccCJtCIudacCJtCJtbbcCJtCJxcccCJuCIudacCJuCJtbbcCJuC",
  "JxcacCJvCIubacCJvCJtbbcCJvCJxcccCJyCIudacCJyCJtbbcCJyCJxcacCIyCLkbacCIzCLkbacCJxCLkbaeBgCKaCKf",
  "baeBgCKbCKfbaeBgCKcCKfbaeBgCKdCKfbaeBgCKeCKfbaeBgCKfCLkbbcCIoCIzcbcCIoCJtcbcCIoCJxcbcCIqCIzcbc",
  "CIqCJtcbcCIqCJxcbcCIsCIzcbcCIsCJtcbcCIsCJxcbcCItCIzcbcCItCJtcbcCItCJxcbcCJpCJxcbcCJqCJxcacCJrC",
  "IpbbcCJrCJscbcCJrCJxcacCJsCJtbbcCJsCJxcacCJtCIpbacCJtCJtbbcCJuCIzcbcCJuCJtcbcCJuCJxcacCJxCLkbb",
  "cCJyCIzcbcCJyCJtcbcCJyCJxcccCIoCIudacCIoCJtbacCIoCJvbccCIqCIudacCIqCJtbacCIqCJvbccCIsCIudacCIs",
  "CJtbacCIsCJvbacCItCJtbacCIuCIvbacCIuCJtbacCIvCIubacCIvCJtbacCIwCIubacCIwCJtbccCJbCIudacCJbCJtb",
  "bcCJdCIvcacCJdCJtbccCJeCIudacCJeCJtbacCJfCIvbacCJgCJtbacCJhCIubacCJhCJtbacCJiCIubacCJiCJtbccCJ",
  "pCIudacCJpCJtbacCJqCIvbacCJqCJtbccCJrCIudbcCJrCJscccCJsCIudacCJsCJtbacCJsCJvbccCJtCIudacCJtCJt",
  "bccCJuCIudacCJuCJtbacCJuCJvbacCJvCIubacCJvCJtbacCJvCLkbccCJyCIudacCJyCJtbacCJyCJvbacCIoCJtbacC",
  "IoCJvbacCIqCJtbacCIqCJvbacCIsCJtbacCIsCJvbacCItCJtbacCItCJvbacCJbCJtbacCJbCJvbacCJcCJtbacCJcCJ",
  "vbbcCJrCJscacCJsCJtbacCJuCJtbacCJuCJvbacCJyCJtbacCJyCJvbaeCJoCKcCKfbaeCJoCKdCKfbaeCJoCKeCKfbbc",
  "CJfCJxcbcCJhCJxcbcCJiCJxcbcCJbCJxcbcCJcCJxcbcCIvCJxcbcCIuCJxcbcCIwCJxcbcCJdCJxcbcCJeCJxcccCJcC",
  "IudacCJcCJtbacCJcCIzbacCJbCIzbacCJdCIzbacCJeCIzbbcCJfCJxcbcCJhCJxcbcCJiCJxcbcCJbCJxcbcCJcCJxcb",
  "cCIvCJxcbcCIuCJxcbcCIwCJxcbcCJdCJxcbcCJeCJxcccCJcCIudacCJcCJtbacCJcCIzbacCJbCIzbacCJdCIzbacCJe",
  "CIzbccCJcCIudacCJcCJtbacCJbCJvbacCJcCJvbacCJfCJtbccCJbCIudccCJcCIudacCJfCJtbacCJgCJtbacCIpCJzb",
  "acCIpCJztaeCIsCIuCJtbaeCIsCIvCIubaeCIsCIvCIubaeCIsCIvCJtbaeCIsCIwCJtbceCIsCJtCIudaeCIuCJtCIvba",
  "eCIuCJtCIvbaeCIvCJtCJybaeCIvCJtCJxbaeCJbCIvCIubaeCJbCIuCIvbaeCJbCIuCJxbaeCJbCJtCIvbaeCJbCJtCIv",
  "baeCJbCJtCIubaeCJbCJtCJtbaeCJbCJtCJtbaeCJdCIvCIvbaeCJdCIvCIvbaeCJdCJtCJtbaeCJcCIvCJtbaeCJcCIvC",
  "JtbaeCJcCIuCJybaeCJcCJtCIwbaeCJcCJtCIwbaeCJcCJtCJtbaeCJcCJtCJtbaeCJeCIvCJxbaeCJeCIwCJtbaeCJeCI",
  "wCJtbaeCJfCJtCIvbaeCJfCJtCIvbaeCJfCJtCJtbaeCJfCJtCJybaeCJhCIuCJtbaeCJhCJtCJtbaeCJhCJtCJtbaeCJh",
  "CJtCJxbaeCJiCJtCJtbaeCJiCJtCJybaeCJiCJtCJxbaeCJpCIwCJtbaeCJpCIwCJtbaeCJqCJtCIvbaeCJqCJtCJtbaeC",
  "JsCIvCJtbaeCJsCIvCJybaeCJsCIvCJxbaeCJsCIuCIubaeCJsCIuCIubaeCJsCIwCJtbaeCJsCIwCJtbaeCJsCJtCIvba",
  "eCJsCJtCIvbaeCJtCIvCIubaeCJtCIvCJtbaeCJtCIvCJybaeCJtCIuCIvbaeCJtCIuCJtbaeCJtCIwCIubaeCJtCIwCJt",
  "daeCJtCIuCIwbaeCJvCJtCIubaeCJvCJtCJtbaeCJuCIvCJtbaeCJuCIvCJxbaeCJuCIuCJtbaeCJuCIuCJtbaeCJuCIuC",
  "JxbaeCJuCJtCJybaeCJuCJtCJxbaeCJyCJtCJtbaeCJyCJtCJtbaeCIqCIwCJybaeCIsCIuCJybaeCIsCIuCJxbaeCIsCI",
  "wCJybaeCIsCIwCJxbaeCIsCJtCJybaeCIsCJtCJxbaeCIuCJtCJybaeCIuCIvCJxbaeCIuCJtCJxbaeCJbCIwCJxbaeCJd",
  "CIvCJybaeCJcCIvCJybaeCJeCIvCJybaeCJsCIuCJybaeCJsCJtCJybaeCJyCIvCJybaeCJyCIuCJybaeCJyCJtCJybaeC",
  "JtCJtCJybaeCJqCJtCJybaeCJuCIvCJybaeCJqCJtCIvbaeCJsCIvCJtbaeCJhCJtCJybaeCJrCJtCJybaeCJuCIuCIvba",
  "eCJtCIwCJybaeCJsCIuCJtbaeCJrCJtCJtbaeCJsCIuCJtbaeCJuCIuCIvbaeCIuCIvCJybaeCIvCIuCJybaeCJtCIuCJy",
  "baeCJpCJtCJybaeCIqCIvCJybaeCJrCJtCJtbaeCJhCIuCJtbaeCJdCJtCJtbaeCJbCIwCJybaeCJuCIuCJyBpaeCJdCJs",
  "CPebaeCJqCJsCPebagCIpCJsCJsCJvbagCIpCJrCIqCIzbagCJtCIvCJtCIxbagCJdCJsCJhCJtbagCIzCJbCJwCJsbagC",
  "JhCJsCJyCJvbagCJwCJbCJsCJtbaeCJdCJsCJxbaBiCJdCJsCJxBgCIpCJsCJsCJvBgCJhCJsCJyCJvBgCJwCJbCJsCJtb",
  "aoCIuCJsBgCIuCJsCIpCJsCJvbagCIzCOyCIpCJsuaaBsbaaSErcbaCgcaaBhbaaClbbaSFmBaaaMDwbaaMDvbaaDrbaaD",
  "rbbaBocaaEtbaaEvbbaSFkcbaSFgcbaSFacbaSEycdaSFcgaaDnbaaDpbacBgBDtbacBgBDtbacBgBDtbacBgBDtbaaDrb",
  "aaDrbaaDrbaaBsbaaSErdaaChbaaCgbaaClbaaBhbaaMDwbbaBocaaEtbaaEvbbaSFkcaaBjbaaBmbbaBqcaaBtbaaCiba",
  "aCkbaaCjcaaDobbaBkcaaCmfacBgCJzbacCJoCJzbacBgCKacacBgCKbcacBgCKcbacCJoCKcbacBgCKdbacCJoCKdbacB",
  "gCKebacCJoCKebacBgCKfbacCJoCKfbacBgCKgbacCJoCKgbbaCIjcbaCIkcbaCIlcbaCImcbaCIncaaCIobaaCIobbaCI",
  "ocbaCIpcaaCIqbaaCIqbbaCIqcbaCIrcaaCIsbaaCIsbbaCIscaaCItbaaCItbbaCItcaaCIubaaCIubbaCIucaaCIvbaa",
  "CIvbbaCIvcaaCIwbaaCIwbbaCIwcbaCIxcbaCIycbaCIzcbaCJacaaCJbbaaCJbbbaCJbcaaCJcbaaCJcbbaCJccaaCJdb",
  "aaCJdbbaCJdcaaCJebaaCJebbaCJecaaCJfbaaCJfbbaCJfcaaCJgbaaCJgbbaCJgcaaCJhbaaCJhbbaCJhcaaCJibaaCJ",
  "ibaaCJibaaCJpbaaCJpbaaCJpbbaCJpcaaCJqbaaCJqbbaCJqcaaCJrbaaCJrbbaCJrcaaCJsbaaCJsbbaCJscaaCJtbaa",
  "CJtbbaCJtcaaCJubaaCJubbaCJucaaCJvbaaCJvbbaCJvcbaCJwcbaCJxcaaCJybaaCJybaaCJybacCJsCIkbbcCJsCIkc",
  "acCJsCIlbacCJsCInbacCJsCInbacCJsCIpbacCJsCIpfBfaBhBgzaDtBaBjaDnBkbaPSvcaaBubbaSFccaaSErbaaSOhb",
  "aaSNybaaSKvbaaSKxbaaSKzbaaSLbbaaSLdbaaSNjbaaSNlbaaSNnbaaSMdbaaSOibaaSKwbaaSKybaaSLabaaSLcbbaSL",
  "ecaaSLhbaaSLjbaaSLlbaaSLnbaaSLpbaaSLrbaaSLtbaaSLvbaaSLxbaaSLzbaaSMbbaaSMebaaSMgbaaSMibfaSMkgaa",
  "SMsbaaSMvbaaSMybaaSNbbeaSNefaaSNkbaaSNmbfaSNogaaSNvbaaSNzbbaSKndbaGLkcaaGRybaaGLmbbaGSaccaGLnd",
  "faGSegaaGMkbcaGLqdaaGMrbjaGLtnfaGPdifaGPjifaGPpicaGPvgbaGgcaaGqbacBgBDsbaaGkbaaGjbaaMJpcaaOAkb",
  "daMSmeaaOGmbaaOIdBOcBnaDUNoGuBjaDUUiHkkaDVBrmoaDVCdqgaDVCtibaDVDbSzbaBBscaaIwbaaZpbaaWxcaaZzba",
  "aCMXqbaaBAbbaaBAabbaXacaaLFdbaaXcbaaXibaaBAfbaaXobaaXmbaaXkbaaZrbaaLjbaaZsbaaXrbaaYubbaBAgcaaX",
  "wbaaGZKmbaaCLLubaaXybaaGZKnbaaZebaaGZKobaaJobbaYgcaaEjbaaYkbaaGZKqbbaYncaaYqbaaBAebaaBAcbaaCMX",
  "rbaaBAdbaaYybaaQVpcaaZfbbaZxcaaZobcaRgdaaGZKsbaaGZLmBVaByaDXUeIavaDYAyEHkBfaECIiBGLcBfaFITkDsy",
  "aFIWxBJRqzaDtBajaBwBRqacGUFvGUGjbacGUFwGUGjbeeGUFwGUGjGUGsDnacGUJpGUGjbacGUJqGUGjbaeGUJpGUGjGU",
  "GsbaeGUJqGUGjGUGsbaeGUJpGUGjGUGtbaeGUJqGUGjGUGtWezaDtBazaDtBazaDtBagaDtiraEbszaDtBazaDtBabbDtd",
  "aaDwdaaDzdbaEcedaEgfhaElidaDtfbbDydfaEbhkaEilzaDtBazaDtBabaDtddaDwghaEcjgaElizaDtBabaDtddaDwfe",
  "aEbgaaEhegaElizaDtBazaDtBazaDtBazaDtBazaDtBazaDtBazaDtBazaDtBazaDtBazaDtBazaDtBazaDtBazaDtBaaa",
  "LtbaaVvdqaBKjraaBKqbgaBLbhaaMXbbqaBKjraaBLbbgaBLbhaaMWwbaaBKnbaaBKqbaaBKsbaaBLebaaBKzbaaBKybqa",
  "BKjraaBKqbgaBLbhaaMXbbqaBKjraaBLbbgaBLbhaaMWwbaaBKnbaaBKqbaaBKsbaaBLebaaBKzbaaBKybqaBKjraaBKqb",
  "gaBLbhaaMXbbqaBKjraaBLbbgaBLbhaaMWwbaaBKnbaaBKqbaaBKsbaaBLebaaBKzbaaBKybqaBKjraaBKqbgaBLbhaaMX",
  "bbqaBKjraaBLbbgaBLbhaaMWwbaaBKnbaaBKqbaaBKsbaaBLebaaBKzbaaBKybqaBKjraaBKqbgaBLbhaaMXbbqaBKjraa",
  "BLbbgaBLbhaaMWwbaaBKnbaaBKqbaaBKsbaaBLebaaBKzbaaBKybaaBMbbaaBMbdjaBwkjaBwkjaBwkjaBwkjaBwDDaiaB",
  "PgjcaBPqdkaBPulaaBQhbbaBQjcaaCLBtbaaBVtbaaBQsbaaBQubaaBWjbaaBUdbaaBVjbiaBPgjbaBPqcbaBPucaaBPxb",
  "faBPzgbaBQgcaaBSzbaaBQsbaaBQrbaaBRbbaaBTzbaaCKZpbaaBUfDGlBhaHDGcBXgbaCIpcaaCIubaaCIxcaaCJwbaaC",
  "JabaaCIvbaaCJfbaaCJybdaCJreaaCJbbaaCJhbaaCJpbaaCJdbaaCJqbaaCIzbaaCJcbbaCIscaaCIwbaaCIybaaCJeba",
  "aCJgbaaCJibaaCLibaaCOgbaaCNhbaaCLjcaaCIqbaaCIucaaCJvdaaCIvcaaCJybdaCJreaaCJbbaaCJhbaaCJpbaaCJd",
  "baaCJqcaaCJcbbaCIscaaCIwcaaCJecaaCJihaaCIufaaCIvcaaCJycbbCJsdaaCJbbaaCJhcaaCJdbaaCJqcaaCJcdaaC",
  "IwcaaCJecaaCJicaaCOgcaaCLjcaaCIqbaaCIucaaCJvdaaCIvbaaCJfbaaCJybbbCJrdaaCJubaaCJbbaaCJhbaaCJpba",
  "aCJdbaaCJqcaaCJcbbaCIscaaCIwcaaCJebaaCJgbaaCJibaaCLicaaCNhcbaCIpcaaCIubaaCIxbbaCJvcaaCJabaaCIv",
  "baaCJfbaaCJyccaCJsdaaCJbbaaCJhbaaCJpbaaCJdbaaCJqbaaCIzbaaCJcbbaCIscaaCIwbaaCIybaaCJebaaCJgbaaC",
  "JigaaCIqbaaCIubaaCIxcaaCJwbaaCJabaaCIvbaaCJfbaaCJyccaCJsdaaCJbbaaCJhbaaCJpbaaCJdbaaCJqbaaCIzba",
  "aCJcbbaCIscaaCIwbaaCIybaaCJebaaCJgbaaCJiWkacBwBsbacBxBsbacByBsbacBzBsbacCaBsbacCbBsbacCcBsbacC",
  "dBsbacCeBsbacCfBsgaeBoDtBpbaeBoDuBpbaeBoDvBpbaeBoDwBpbaeBoDxBpbaeBoDyBpbaeBoDzBpbaeBoEaBpbaeBo",
  "EbBpbaeBoEcBpbaeBoEdBpbaeBoEeBpbaeBoEfBpbaeBoEgBpbaeBoEhBpbaeBoEiBpbaeBoEjBpbaeBoEkBpbaeBoElBp",
  "baeBoEmBpbaeBoEnBpbaeBoEoBpbaeBoEpBpbaeBoEqBpbaeBoErBpbaeBoEsBpbaeSFkElSFlbaaDvbaaEkbacDvDwbac",
  "EpEsczaDtBaacEaEobacEfEobacElDwbacElElbaeEiEiEobacEpDvBbbcEfDvcacEfEkBkacDwEcEiacSJjSHnbacSLnS",
  "LnbaaSLpoaaBLFvbaaBIPjbaaBFTcbaaSMhbaaBDTkbaaBHTibaaCAFrbaaBHTxbaaBDUibaaBMRobaaBQVxbaaBMMjbaa",
  "BFEjbaaBKEubaaBEWzbaaBMNgbaaBFCnbaaBVLibaaBSJfbaaCBGzbaaBHRsbaaBFXhbaaBQBsbaaBLIrbaaBLQbbaaBDO",
  "abaaBDOjbaaCCQsbaaBJOobaaBDPtbaaBFUpbaaBLNbbaaCBOqbaaBLGdbaaBUAjbaaBUJybaaBFVkbaaBPWabaaBNAnba",
  "aBNAmbaaBSJzbaaBFFubaaBGLybaaCDArfaeSFkBNBwSFlbaeSFkBDOjSFlbaeSFkBDTkSFlbaeSFkBIRhSFlbaeSFkBQR",
  "xSFlbaeSFkBLGdSFlbaeSFkBTAdSFlbaeSFkBFJxSFlbaeSFkBMJvSFliaaBKFfbaaBFUlDQtjaBwDRLwaaBDQjbaaBDQe",
  "baaBDQnbaaHMIkbaaBEBobaaBEEobaaBEFbbaaBEHubaaBEMkbaaBENpbaaBEQpbaaBEPrbaaTYcbaaHOGobaaBEUnbaaB",
  "EUubaaBEVkbaaBEWdbaaHNVobaaTZdbaaBEVnbaaBEWzbaaHNXjbaaBEXjbaaBEXwbaaBDVwbaaBEYebaaBEYnbaaJPDnb",
  "aaBFAzbaaBFBnbaaUApbaaBFDrbaaBFEcbaaBFFubaaBFFzbaaUCrbaaBFJbbaaBFJdbaaBFKebaaBFLabbaBFLlcaaBFM",
  "dbaaBFObbaaBFOjbaaBFOsbaaBFPrbaaBFQbbaaBFQdbaaBFQdbaaBFQdbaaHPTkbaaBQPcbaaBFTabaaBFTvbaaHQFjba",
  "aBFUhbaaBFUnbaaBFVibaaBGBebaaBFXgbaaBFXwbaaBFZcbaaBGBibaaBGEobaaBGFobaaBGIdbaaBGItbaaBGKabaaBG",
  "KabaaBGKvbaaBGLnbaaBGLvbaaBGMkbaaBGZmbaaBGPabaaBGZnbaaBGRxbaaBGTgbaaBFBrbaaBHRqbaaBHGobaaBHIab",
  "aaBHIzbaaBHDzbaaBHKkbaaBHKjbaaBHPcbaaHTUybaaBHRubaaBHRzbaaBHSobaaBHTibaaBHTqbaaBHWcbaaHUMibaaH",
  "UOwbaaBIBkbaaBIDfbaaBIDrbaaBIAqbaaBIGcbaaUUwbaaUVkbaaBIMibaaBIOkbaaBIOkbaaHVRcbaaBITnbaaBIUiba",
  "aBIUxbaaBIVjbaaHWEabaaBIVvbaaBIWcbaaBKCpbaaBIXebaaVAnbaaBIZobaaBJAcbaaBJDgbaaBJBhbaaHXFobaaBJI",
  "hbaaHXFqbaaBJJybaaBJJvbaaBJKmbbaBJOjcaaVHfbaaBJPlbaaBJRcbaaBJRxbaaBJTpbaaVJebaaHYPfbaaVKebaaBJ",
  "WibaaBJWlbaaBJWobaaBJXibaaJVVubaaBJZibaaHZFtbaaHZFtbaaBXGbbaaBKAsbaaBKAsbaaVNbbaaIFCqbaaIWYsba",
  "aBKDebaaBKDnbaaVOdbaaBKFibaaBKHhbaaBKHrbaaBKIzbaaBKOfbaaVRmbaaVQibaaBKOybaaIAPobaaBKQxbaaBKVwb",
  "aaBKWabaaBKWcbaaBKWabaaBKXubaaBKYobaaBKZybaaBKZkbaaBKZvbaaBLBqbaaBLCkbaaBLCobaaBLDobaaBLDzbaaB",
  "LGnbaaBLJtbaaBLLcbaaBLPwbaaICFcbaaBLPdbaaBLMqbaaBLQubaaBLRvbaaBLVobaaICNxbaaBLXybaaBLUjbaaBLTh",
  "baaWAwbaaBMArbaaBMBmbaaBMCrbaaBMBfbaaWDgbaaBMJnbaaBMKqbaaIECgbaaBMPfbaaBMZwbaaBMTdbaaWJxbaaBMV",
  "xbaaWJgbaaWHwbaaBEXebaaBEXhbaaBNAebaaBMWibaaBWSzbaaZSbbaaBNBbbaaBNBfbaaBNBlbaaBNDubaaBNDjbaaIF",
  "MxbaaWLtbaaBNJubaaBNFhbaaBNNebaaBNPdbaaIFTlbaaBNPmbaaBNLfbaaBNUqbaaWOzbaaBNWkbaaBOAdbaaBOCwbaa",
  "BOKebaaIGPfbaaBOMdbaaWTsbaaBOOvbaaIHJbbaaBOQubaaWVubaaBORybaaBOTrbbaBOUscaaIIBtbaaHWXfbaaIIFyb",
  "aaBPAkbaaIIXgbaaBPEtbaaBPFhbaaBPBjbaaBPIcbaaBPJqbaaBPLvbaaBPJtbaaBPLhbaaBPLwbaaBPMjbaaIJBabaaB",
  "PJgbaaBPSxbaaBPVibaaXEpbaaBPYxbaaBPYtbaaIJRtbaaBPQvbaaBQFebaaIJXebaaIJZabaaBQIobaaBQMzbaaBQLyb",
  "aaBQLvbaaXIkbaaBQNqbaaBQPpbaaBQPjbaaBQRlbaaHNVxbaaBQXhbaaILAxbaaBRAqbaaILNnbaaBRGabaaBRGnbaaBR",
  "HobaaIMKubaaBRJkbaaBRKfbaaIMWjbaaINEybaaBRTabaaBRTrbaaXTcbaaBRUrbaaXTobaaXTobaaBSAxbaaBSBsbaaB",
  "SCnbaaBSDhbaaBSFybaaXXjbaaBSJkbaaIOTqbaaBSKkbaaIOXebaaBSMibaaHYQhbaaBSSmbaaIQBhbaaIQCebaaIQHob",
  "aaYGabaaYGmbaaBTBgbaaIQOhbaaIQOgbaaIQPtbaaIQQtbbaBTCwcaaBTCxbaaBTEobaaYIjbaaBTHbbaaYIwbaaYLyba",
  "aIRTlbaaBTOobaaBTQybaaBTTkbaaYOxbaaISNmbaaBTYsbaaISRybaaISTpbaaBUAxbaaBUElbaaYRvbaaBUHsbaaBUIc",
  "baaBUIhbaaITUibaaIUFvbaaIUFvbaaBUOkbaaYZybaaIUPvbaaBUWsbaaBUWvbaaZBjbaaIUYabaaBVHabaaZGabaaBVH",
  "wbaaBVHrbaaBVIubaaIWBubaaBVMpbaaZJtbaaBVQlbaaBVSsbaaBVVhbaaZLsbaaIXBsbaaIXCxbaaZNdbaaIXInbaaBW",
  "HebaaIXMkbaaBWIfbaaBWMcbaaBWMnbaaIYCgbaaIYFbbaaBWQabaaIYKebaaBWQqbaaIFJbbaaZRxbaaBWTebaaBWWhba",
  "aZTzbaaBWYobaaBIJdbaaIZDvbaaIZEjbaaIFLbbaaIFLkbaaBXGbbaaBXGebaaCCKcbaaZXrbaaBXLpbaaBXLjbaaBXMb",
  "baaBFIhbaaBXMvbaaBXMxbaaBXNhbaaBXOwbaaJANcbaaBXOvbaaBXQzbaaBXTrbaaBXWnbaaBXRfbaaBXXdbaaBXYtbaa",
  "BYDbbaaBXTbbaaBXXqbaaBXXsbaaBXYibaaJAWsbaaJBIpbaaJBCvbaaBAFbbaaBYIzbaaBYJbbaaBYKkbaaJDTibaaBYN",
  "kbaaJBZwbaaBAGzbaaBAHdbaaJCEzbaaJCQcbaaBAHnbaaBYWmbaaBYWybaaBYXjbaaBYXlbaaBYZxbaaBYYqbaaBZDuba",
  "aBZCcbaaBZHxbaaBZEubaaBZHjbaaBZIkbaaBALrbaaBZLxbaaBZNdbaaBAMzbaaBZQubaaBZQxbaaJETbbaaBZVjbaaBZ",
  "VqbaaBAPhbaaBZWsbaaTZfbaaJFPmbaaJFWobaaBAUobaaBAUxbaaCAMybaaCAPxbaaCAVybaaCBDtbaaJHCqbaaCBHbba",
  "aCBHxbaaCBLjbaaCBOxbaaJIBnbaaHOYebaaCBSdbaaCBRobaaCBTobaaHPGobaaCCCibaaCCGebaaJKOwbaaJKPxbaaCC",
  "TobaaCCXdbaaCCYjbaaJLCgbaaCCYtbaaCDJsbbaCDPvcaaCDMibaaCEAzbaaCECbbaaJMXmbaaCEQlbaaBBWnbaaCESdb",
  "aaJNMdbaaBBZqbaaCFClbaaBJMobaaCFGdbaaJOXpbaaJPFubaaBCEwbaaBCFebaaCFNkbaaJPYwbaaBCHmbaaJQEgbaaC",
  "FPbbaaCFPbbaaCFQfbaaJQPibaaCFXibaaBCMlbaaCGAbbaaCGExbaaCGFybaaCGIgbaaBCSkbaaJSRgbaaCGSwbaaCHEm",
  "baaCHLtbaaBDCgbaaBDDlbaaCHPvbaaJUUobaaBDDwbaaJUWrbaaJVGwbaaJVLxbaaCICxbaaBDHmbaaCIFhbaaCIFmbaa",
  "CIFtbaaCIGdbaaCIGkbaaCIHvbaaJWTs"])).toArray⟩

/-- Characters that are taken as nothing. -/
def ignored : CodeSet := .ofTable ["GraZxaFIlbCKhbDheDApaDgeffGKyaCZMppJfaGeaCTOxdHWxhBTLJhJf"]

/-- Characters that may not occur, among those with a meaning. -/
def disallowed : CodeSet := .ofTable [
  "EyBfCAyfwaHkaBxaOubDcaFEbaDQbbucbgCddBOotEHopTbaRyaeaqaCNFbJMdBXyagawaBhaQgdGIyapaNKkpCTMmaBSZ",
  "BcaBeDrDSTsDSYncDSYn"]

/-- Code points that may not occur. -/
def banned : CodeSet := Unicode.latestUnassigned.union disallowed

/-! ### Taking characters -/

/-- What a character is replaced by, if it is. -/
def replacement? (c : Char) : Option (List Char) :=
  (replacements.span? c.toNat).bind fun (run, replacement) =>
    let distance := c.toNat - run.low
    if distance % replacement.stride == 0 then
      some ((replacement.front ++ [replacement.last + distance]).map Char.ofNat)
    else none

/-- What a character is taken for, if it may occur. -/
def mapCharacter? (c : Char) : Option (List Char) :=
  match replacement? c with
  | some text => some text
  | none => if ignored.has c then some [] else if banned.has c then none else some [c]

/-- What a text is taken for, if all its characters may occur. -/
def mapText? (text : List Char) : Option (List Char) :=
  (text.mapM mapCharacter?).map List.flatten

/-- The character stands for itself. -/
def isSettled (c : Char) : Bool := mapCharacter? c == some [c]

end SchemaAssessment.Url
