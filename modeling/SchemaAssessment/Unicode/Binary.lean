/-
Properties that a character has or has not (Unicode 16.0). Some are tables; others are
made up of general categories and of a table of the characters to which the category
does not do justice.
-/

import SchemaAssessment.Unicode.Category

namespace SchemaAssessment.Unicode

/-! ### Tables used by other properties -/

/-- Blanks of every kind. -/
def whiteSpace : CodeSet := .ofTable ["jesaDwaBaaIHjaDPnkBdbfaBvaFXwa"]

/-- The two characters that ask for joined and for separate letters. -/
def joinControl : CodeSet := .ofTable ["MDob"]

/-- Characters that count as alphabetic without being letters. -/
def otherAlphabetic : CodeSet := .ofTable [
  "BGfaBdmWenbabbbbbaCukBwmbgqaDxgedcbeaBjaBepDykDxbdibcbdEcaCildggtCcbcobbfckbBdcCggcbcbkakbBdcC",
  "geebcbeaBebdalcCghbcbbvbwcecCggcbcbjbkbBeaChedcbckaBoeCfgbcbciblbBdcCggbcbciblbpamdCggbcbckakb",
  "BdcCxfbabhsbCjacgsaDvacfbbqaGhsjkbBjEglbacdxdecbccgddnlbakdCLobBebBebBebCosHgbBiaEoleiIoeCfjct",
  "CwblcBxeBwoCicBeicbCfkBysPwBhCOnBzDKgBfBTQahBibNqaiaxeDkbBypbaCfaBmeBclBtdBwlBlaCpnmaibBtcByab",
  "ccbfaBsefaJdhBDZvaDEdeCMgcbbfdBEidCnaMjbDbaJzcCbnBtblcBtijaCjcBklsbCfcBwmobDoicagacaGbjxdCggcb",
  "cbkakbDgibacabdbbDzmbcEcrJdgcgBdbDeobaEckDznJxmJnfbbcbdabaFmgcfeaBcjBqebdskBunPrhbgDfvbnEsfdab",
  "bbcbadaCoebbbdNkdjbbaBwgdcYYnqFJcabCchdDpbBDAyaNKjgbqcgbbbeDwaDHvaCZwzgzgz"]

/-- Characters that count as lower case without being lower-case letters. -/
def otherLowercase : CodeSet := .ofTable [
  "GoapaThihbBeeDsaCaaFCzaEPzCknaBiBkBAnanaqmIdpBGqzCWobBUGkbIcaEzcdbBHidjaBIWsaccbBpbiDDZhCj"]

/-- Characters that count as upper case without being upper-case letters. -/
def otherUppercase : CodeSet := .ofTable ["MQqpBGgzGSIyzgzgz"]

/-- Characters that count as mathematical without being mathematical symbols. -/
def otherMath : CodeSet := .ofTable [
  "DqaBHxccaBabcbKQyaBbclaBgdybobCnmeadbeesaeacjbadegadbcbbcbfddfeCxecdbbbbbabecbebercbbabgbagbLe",
  "dGmbbayaraRdbmifefbcbdeoabacfybCfabaBddjbNebBfjPnvCldBgbDCLfabaeaIdabaDCOvDgbCsbbcacbcdblbabgb",
  "CmbdchbgbBbbdbebadgbNbcybybBebybBebybBebybBebybhcBxIIqdbBabbbacabjbdbabagaeabababcbbbacabababa",
  "babbbacdbgbdbdbabjbqfcbebq"]

/-- Characters that may begin an identifier though their category would not allow it. -/
def otherIdStart : CodeSet := .ofTable ["JHlbDGjavaFVwb"]

/-- Characters that may go on an identifier though their category would not allow it. -/
def otherIdContinue : CodeSet := .ofTable ["HbaBBraGAjiCLcaCIzbGKraDAEja"]

/-- Characters kept for the syntax of patterns. -/
def patternSyntax : CodeSet := .ofTable [
  "BhokgBadbaBadBigbabbbabbeaeadaxaBfaLUexiocsbjLtBBrGeYfBeBRnTsExOvceypaCZQzbKbb"]

/-- Characters kept for the blanks of patterns. -/
def patternWhiteSpace : CodeSet := .ofTable ["jesaDwaLYmbyb"]

/-- Characters that extend the one before them without being nonspacing or enclosing marks. -/
def otherGraphemeExtend : CodeSet := .ofTable [
  "DRyayaNuayaDyayaIyabaebbbjbDzayaEpapaDMraBeaBNkafabafbDxaCtbBOiaGCvbBTWtaEeaBGNlbGWmaEmaKeaoaj",
  "aDsajacabcfaIqamaJhaKcaYjamaCHfaBEOkbBKXnbgfBTLAzDr"]

/-- Code points that are shown as nothing where they are not known, formats apart. -/
def otherDefaultIgnorable : CodeSet := .ofTable ["BGpaFIlbCKhbDHnaGLiaDACpaDbiBWMIhabBdDsExJgFIl"]

/-- Characters that choose a form of the one before them. -/
def variationSelector : CodeSet := .ofTable ["JCtcbaDJCapBWNKyJf"]

/-- Format characters that enclose the characters after them. -/
def prependedMark : CodeSet := .ofTable ["CHcfIhaBxaOubDcaDVXyapa"]

/-! ### Properties made up of others -/

open Category (setOf)

/-- Alphabetic characters: letters, letter numbers and a table of others. -/
def alphabetic : CodeSet :=
  .unions [setOf (.letterNumber :: Category.letters), otherAlphabetic, otherLowercase,
    otherUppercase]

/-- Lower-case characters. -/
def lowercase : CodeSet := (setOf [.lowercaseLetter]).union otherLowercase

/-- Upper-case characters. -/
def uppercase : CodeSet := (setOf [.uppercaseLetter]).union otherUppercase

/-- Characters of any case. -/
def cased : CodeSet := .unions [lowercase, uppercase, setOf [.titlecaseLetter]]

/-- Characters that a search for the case of their neighbours passes over: marks, format
characters, modifiers, and points and quotation marks inside words. -/
def caseIgnorable : CodeSet :=
  .union (setOf [.nonspacingMark, .enclosingMark, .format, .modifierLetter, .modifierSymbol])
    (.ofCodes [0x27, 0x2E, 0x3A, 0xB7, 0x387, 0x55F, 0x5F4, 0x2018, 0x2019, 0x2024, 0x2027, 0xFE13,
      0xFE52, 0xFE55, 0xFF07, 0xFF0E, 0xFF1A])

/-- Characters of mathematical texts. -/
def math : CodeSet := (setOf [.mathSymbol]).union otherMath

/-- Characters kept for patterns, which no identifier holds. -/
def patternCharacters : CodeSet := patternSyntax.union patternWhiteSpace

/-- Characters that begin an identifier. -/
def idStart : CodeSet :=
  ((setOf (.letterNumber :: Category.letters)).union otherIdStart).difference patternCharacters

/-- Characters that go on an identifier. -/
def idContinue : CodeSet :=
  (CodeSet.unions [idStart, otherIdContinue,
    setOf [.nonspacingMark, .spacingMark, .decimalNumber, .connectorPunctuation]]).difference
    patternCharacters

/-- Characters whose plain forms do not begin an identifier though they do. -/
def unstableStarts : CodeSet := .ofTable ["BIgaEBoaExaMVvbCZEffPqbEmabababababababaLbb"]

/-- Characters whose plain forms do not go on an identifier though they do. -/
def unstableContinuations : CodeSet := .ofTable ["BIgaRCibCZEffPqbEmabababababababa"]

/-- Characters that begin an identifier, in their plain forms too. -/
def xidStart : CodeSet := idStart.difference unstableStarts

/-- Characters that go on an identifier, in their plain forms too. -/
def xidContinue : CodeSet := idContinue.difference unstableContinuations

/-- Characters that extend the one before them instead of standing alone. -/
def graphemeExtend : CodeSet :=
  (setOf [.nonspacingMark, .enclosingMark]).union otherGraphemeExtend

/-- Characters that stand alone. -/
def graphemeBase : CodeSet :=
  CodeSet.characters.difference
    (.unions [setOf (.lineSeparator :: .paragraphSeparator :: Category.others), graphemeExtend])

/-- Code points that are shown as nothing where they are not known. -/
def defaultIgnorable : CodeSet :=
  (CodeSet.unions [otherDefaultIgnorable, setOf [.format], variationSelector]).difference
    (.unions [whiteSpace, prependedMark, .range 0xFFF9 0xFFFB, .range 0x13430 0x1343F])

/-! ### Names -/

/-- The properties under their names without blanks, low lines, hyphens and capitals. -/
def binaryProperties : List (String × CodeSet) := [
  ("ahex asciihexdigit", .ofTable ["BwjhfBaf"]),
  ("alpha alphabetic", alphabetic),
  ("bidic bidicontrol", .ofTable ["CIeaJVlbBaeCdd"]),
  ("bidim bidimirrored", .ofTable [
    "BobsabaBcabaBdabaBtapaFMsdCUnbDQqbkbCcbobGvaHkddfdadbddbdbabaeifabrfdjbbabhbBfcdfajbcsfbjecb",
    "excpidubhbBPtnCwacdbbbcfdfcdnPnvcfbniahfdaeebbceeabccbkfcbmsbdcabacabdfbgcyblbedbbcbeBqchbBn",
    "fabadefceadebaJwaTvddbbbobcjBrhQljchDACrffbGgbsabaBcabaBdababbbbDDPnaCfaCfaCfaCfa"]),
  ("ci caseignorable", caseIgnorable),
  ("cased", cased),
  ("cwcf changeswhencasefolded", .ofTable [
    "CnzDmakwbhBgabababababababababababababababababababababababababababacababababababababbbababab",
    "abababababababababababababababababababbbabababbbabbbccdbbbcdbbbbababbbacabbbcbabbdahbbbbbbab",
    "ababababababacababababababababacbbabcbababababababababababababababababababababababababababab",
    "abahbbbcabdbabababaJmaBqabadaiagabcbabbbqbiwamcdbbababababababababababababbcbbabbcByBwababab",
    "abababababababababababababajabababababababababababababababababababababababababababbbabababab",
    "abacabababababababababababababababababababababababababababababababababababababababababababab",
    "abababacBlBwaEFgBlbafaBFefDFujgBqccMiabababababababababababababababababababababababababababa",
    "babababababababababababababababababababababababababababababababababababababababababababababa",
    "bafbcabababababababababababababababababababababababababababababababababababababababababababa",
    "bababababajhifkhihiflabababaihqBvcccffccfldmefccfLladbgaBtptaBFmzCSuBvBwabccabababdbacaicbab",
    "abababababababababababababababababababababababababababababababababababababababababababababab",
    "abaiabaeaBTYjababababababababababababababababababababababatabababababababababababababaFfabab",
    "ababababadababababababababababababababababababababababababababababababakababbbabababaeabacab",
    "adababababababababababebebabababababababdbabbdafabababayaBIgDbBEAigmeBNtzBUzBnFgBjGakbobgbbC",
    "QcByGbvEGoBfBGJwBfBULkBh"]),
  ("cwcm changeswhencasemapped", .ofTable [
    "CnzgzCgakwbBebClbDfbBbcncbbaeDobrgBabbbabbdbbdbecabbcahacabbdffakbGkaBqdcbdcbagabcbabtbBudBg",
    "bebFciGjbBlkBmEFgBlbafacBqccZwDhcfDFukfBqccHdadaqaEjFzcabEncfcBlcfchbabababBecCabgbadcbgddcf",
    "emfcbgLladbgaBbarBfdbBFlBzCRuEibbbbhDxhddbmBlbafaBTWcBtsBbFencCjjodccebybBdcbegybBHcaBcDbBEA",
    "igmeBNtzgzBTtDbDsBjeBjEmkbobgbbbkbobgbbCOpBynByDpvkvEFiClBGIqClBUKeCp"]),
  ("cwl changeswhenlowercased", .ofTable [
    "CnzDxwbgBhabababababababababababababababababababababababababababacabababababababacababababab",
    "ababababababababababababababababababbbabadbbabbbccdbbbcdbbbbababbbacabbbcbabbdahbbbbbbababab",
    "ababababacababababababababacbbabcbababababababababababababababababababababababababababababah",
    "bbbcabdbabababaLdabadaiagabcbabbbqbiBjaiabababababababababababafacabbcByBwababababababababab",
    "abababababababajabababababababababababababababababababababababababababbbabababababacabababab",
    "abababababababababababababababababababababababababababababababababababababababababababacBlEH",
    "dBlbafaBBuDhDGlagBqccMiababababababababababababababababababababababababababababababababababa",
    "babababababababababababababababababababababababababababababababababababababababajabababababa",
    "bababababababababababababababababababababababababababababababababababababababababababajhifkh",
    "ihiflabababaihyhihihieleldmeleLladbgaBtptaBFmzCSuBvBwabccabababdbacaicbababababababababababa",
    "babababababababababababababababababababababababababababababababababababababaiabaeaBTYjababab",
    "abababababababababababababababababababatabababababababababababababaFfababababababadababababa",
    "babababababababababababababababababababababababababakababbbabababaeabacabadababababababababa",
    "babebebabababababababdbabbdafabababayaBHAhzBUzBnFgBjGakbobgbbCQcByGbvEGoBfBGJwBfBULkBh"]),
  ("cwt changeswhentitlecased", .ofTable [
    "DtzCgaBpxbhbabababababababababababababababababababababababababababacabababababababbbabababab",
    "ababababababababababababababababababacababccabacadafacadccacababacaeacadabacadabaeabbbbbabab",
    "ababababababbbababababababababcbabadabababababababababababababababababababadabababababababab",
    "aiacbbaeababababfbbbabbdbbdbecabbcahacabbdffakbGkaBrabadadcsaBbBibbdcbababababababababababab",
    "ebacacaCaBvbababababababababababababababababajababababababababababababababababababababababab",
    "abababacababababababbbababababababababababababababababababababababababababababababababababab",
    "ababababababababababababaBxBmFMefDFuibaJeadaqaEkabababababababababababababababababababababab",
    "abababababababababababababababababababababababababababababababababababababababababababababab",
    "ababababababgfababababababababababababababababababababababababababababababababababababababab",
    "ababababababababiifkhihifkhihinchihihiebbgadcbbidcbihkcbbNeaBhpeaBGlzCTqBvbadbbababagacakaba",
    "babababababababababababababababababababababababababababababababababababababababababababababa",
    "babaiabaeamBlbafaBTWdababababababababababababababababababababababatababababababababababababa",
    "baFfababababababadababababababababababababababababababababababababababababababakabacabababab",
    "aeaeabbcabababababababababalabababababababaeabacadafababaBaaBHcaBcDbBEAigmeBOzzBVhBnFgBjFzkb",
    "obgbbCRbByEvvEGoBfBGJwBfBULmBh"]),
  ("cwu changeswhenuppercased", .ofTable [
    "DtzCgaBpxbhbabababababababababababababababababababababababababababacabababababababbbabababab",
    "ababababababababababababababababababacababccabacadafacadccacababacaeacadabacadabafbbbbbbabab",
    "abababababbbababababababababbbbbadabababababababababababababababababababadababababababababai",
    "acbbaeababababfbbbabbdbbdbecabbcahacabbdffakbGkaBrabadadcsaBbBibbdcbabababababababababababeb",
    "acacaCaBvbababababababababababababababababajabababababababababababababababababababababababab",
    "ababacababababababbbabababababababababababababababababababababababababababababababababababab",
    "abababababababababababaBxBmEHcBqccBDgfDFuibaJeadaqaEkabababababababababababababababababababa",
    "babababababababababababababababababababababababababababababababababababababababababababababa",
    "bababababababababgfababababababababababababababababababababababababababababababababababababa",
    "bababababababababababiifkhihifkhihincCabbeabadcbbeaddcbihkcbbeaMzaBhpeaBGlzCTqBvbadbbababaga",
    "cakababababababababababababababababababababababababababababababababababababababababababababa",
    "bababababaiabaeamBlbafaBTWdababababababababababababababababababababababatabababababababababa",
    "babababaFfababababababadababababababababababababababababababababababababababababababakabacab",
    "abababaeaeabbcabababababababababalabababababababaeabacadafababaBaaBHcaBcDbBEAigmeBOzzBVhBnFg",
    "BjFzkbobgbbCRbByEvvEGoBfBGJwBfBULmBh"]),
  ("dash", .ofTable [
    "BtaCAuaBzaFKjaBNpaDBdfCjaBnapaPaaEOiacaBfbeaBcaReataEhaCZWabBlakaGnaFLoaMga"]),
  ("di defaultignorablecodepoint", defaultIgnorable),
  ("dep deprecated", .ofTable ["MraBYvaDKtabaDCjbDIjfBAvbBZRYka"]),
  ("dia diacritic", .ofTable [
    "DqabaCtagaeacbTjGcbhffrbeajbJteIbaCdqbBababbbaFehebFebebdcCpBaDnkCgkBibEwhBpjqBbCjaqaddBcaCw",
    "aqaEgaqaEgaqaBvcCiaqahaEpaEgaqaEgaqaEfbqaEuaEhamfbaEdaneCxbBbababaebCocbbCkaEiabbBobeezgbakb",
    "BBdcBKmbBeaFskjaNjcLgauhcaBwockEaapaBmiCcbCgalbCobCmfDeyeagaccByCkDllBlkRdabclcncncnbEXkcMfa",
    "TmfEbdDraBSMkambbaBcbDeboBhDycEfbmaBlaFvaBbrCfdBkaDramaBkaFtcCndBzaDwejcEybBDZsaBDppKkabaBva",
    "BtbCpaBDkaBTnfbBpbiYnceaGjbVzfBmaBaePjcCskBxdHkaBpaCubEqbCkaCyajcEabGwbDcbqaygdeDlcbbnbDrada",
    "EtbJrbEwaEobElaKjbJybeaGaaDfasaDdaQfaJyabbDdaQjbxaHYaoQZpaDSaeChgVsbVaqDcbYGcdbgbbLThBtcwUyc",
    "dfihcgBedFMwCjHmgOlaCjdBDmbBCigEfcbc"]),
  ("emoji", .ofTable [
    "BjagafjEhaeaLYramaIiawaDmfpbOdbmaGkazkecHraIxbkajaCgdbejacacbcaeacabbcadadbicfabafllbcabbbas",
    "acbsfbabbdbfacbeblbfbcafbbabbubffbdcaeacacfbacababagadagakbpacaeabaecbalbBwcjaoaoaOibRvctbBz",
    "aeaBVuamaXdabaGMRqaHuaGebmboacjCxzbbxauacivbGsBhcEhcbbccDeccbKcbCklfbxhbchmacdcaebnbcaibjafc",
    "mciccabaeagadagDhBwCrfhccejdabbdacjItleaKxBubjbHcEimdjfCdhockgi"]),
  ("ecomp emojicomponent", .ofTable ["BjagafjMBjaIfaDFTraDOIwzTneCEadBSVUqDr"]),
  ("emod emojimodifier", .ofTable ["HHIxe"]),
  ("ebase emojimodifierbase", .ofTable [
    "OLhaIlaqdGSJvaCiccaccEnbckvsdaecbchabayaHtbeavaebGscdeDfaqcjalaWdacaihgajjccCeaCjbbbbarcbmIv",
    "cBqi"]),
  ("epres emojipresentation", .ofTable [
    "NHqbHxddacaUbbvbBylBratanaibrbfbiafavahbbaeacahaebBcaBjabaecbaCjcyaoaBHbbBzaeaGPLeaHuaHiacjC",
    "xzbayauacebcvbGsBgmibCrbvmBqeemqdadCsbabHecCkndbxsaBabnaDiDgBwCrgadcccedlbhiItleaKxBubjbHcEi",
    "mdjfCdhockgi"]),
  ("extpict extendedpictographic", .ofTable [
    "GnaeaLYramaIiawaDmfpbOdbmaDraCsazkecHraIxbkajaCgdbfblbEjkEnckbabagadagakbpacaeabaecbaleBtcja",
    "oaoaOibRvctbBzaeaBVuamaXdabaGMRmJvncBfaCifmboacjsCeBbokauacibdjQrfMfiKfBwExEmlDhBqmdCehkfBoh",
    "BeDdmBubjbQyJwBNh"]),
  ("ext extender", .ofTable [
    "HbaUqbBHuaQzaYgaFhaDlaBCyaExaDNfaCeaXnaPiaCqaHKjaBreDzbDpcBQBuaCGsaBLaawaFhaEeavbBFZvaDBkbCF",
    "baBbaeaBVbaLhaEmbTecBVjaBEOfbBTkbbaBQYabBUfaBGuc"]),
  ("grbase graphemebase", graphemeBase),
  ("grext graphemeextend", graphemeExtend),
  ("grlink graphemelink", .ofTable [
    "DNpaExaExaExaExaExaExaExaEfbqaEuaEhaExaHtaGybCPlbBeaGbaZdaItaDxbCsbGQtaBUKkaBlaFvaFmaEeaLxaJ",
    "maBJSraCHiaBpaoaCfaErbFjaEmaGyaDuaEycEjaExaJsaExaEoaEmaKjaJzbGfaDfasaDdaQfaKabDdaQjbYZca"]),
  ("hex hexdigit", .ofTable ["BwjhfBafDSLljhfBaf"]),
  ("hyphen", .ofTable ["BtaExaBVwaGZzaDBdbFIbaBClaCZUlaGnaDja"]),
  ("idsb idsbinaryoperator", .ofTable ["SEabcjTda"]),
  ("idst idstrinaryoperator", .ofTable ["SEcb"]),
  ("idsu idsunaryoperator", .ofTable ["SEob"]),
  ("idcompatmathcontinue", .ofTable ["GwbfaMAgadkboOhaeawaGJJeazaBfazaBfazaBfazaBfaza"]),
  ("idcompatmathstart", .ofTable ["MWwaeawaGJJeazaBfazaBfazaBfazaBfaza"]),
  ("idc idcontinue", idContinue),
  ("ids idstart", idStart),
  ("ideo ideographic", .ofTable [
    "SEwbziocBLdJTnCmBFBjBHSiObcEbBSIkaBbJBziBVpBpjNUlPfBDEiCLFbBgGDtgIncINpoLBkpXxDQwUvCFyHHyfGF",
    "f"]),
  ("joinc joincontrol", joinControl),
  ("loe logicalorderexception", .ofTable ["FKieEteEDsccaCCXmbcabb"]),
  ("lower lowercase", lowercase),
  ("math", math),
  ("mcm modifiercombiningmark", .ofTable ["CKibcaFbagadbSnbbcdaBfa"]),
  ("nchar noncharactercodepoint", .ofTable [
    "DSDcBfUgbDSYobDSYobDSYobDSYobDSYobDSYobDSYobDSYobDSYobDSYobDSYobDSYobDSYobDSYobDSYobDSYob"]),
  ("oalpha otheralphabetic", otherAlphabetic),
  ("odi otherdefaultignorablecodepoint", otherDefaultIgnorable),
  ("ogrext othergraphemeextend", otherGraphemeExtend),
  ("oidc otheridcontinue", otherIdContinue),
  ("oids otheridstart", otherIdStart),
  ("olower otherlowercase", otherLowercase),
  ("omath othermath", otherMath),
  ("oupper otheruppercase", otherUppercase),
  ("patsyn patternsyntax", patternSyntax),
  ("patws patternwhitespace", patternWhiteSpace),
  ("pcm prependedconcatenationmark", prependedMark),
  ("qmark quotationmark", .ofTable ["BiaeaFbapaLWuhzbFIdaRpdncDABpdHhaeaDmb"]),
  ("radical", .ofTable ["RPwzbDkmIf"]),
  ("ri regionalindicator", .ofTable ["HGOkz"]),
  ("sterm sentenceterminal", .ofTable [
    "BhamaqaCAbaFrcGyaBrcJmaCjabadbLhbCPwbBEkaebBDtaHqbGbbBtafaMcbNqdGgbkbcbBdcHfbCnbBJwaxbjcEUxc",
    "LuanawbQnaBSHwaKkbItadaOsbDibDraFwbFrcFobJpaBFCwacbChadbGnamaqaCnaEDwbBXdeBsdHhbEndExcEzbgaq",
    "bDkbbbEeaLmbEnbOjbfoEbbJpcTxabaJrbDjbQebBAqbCwbBCMbbFdaCnblaVhbLkaBDOgaLIma"]),
  ("sd softdotted", .ofTable [
    "EbbHoaKvaBeaCaauaMiaDuabaJMnaBzanadaFcaGbaQfaIgbEGgaGELhbBybBybBybBybBybBybBybBybBybBybBybBy",
    "bDFyaLtbBaa"]),
  ("term terminalpunctuation", .ofTable [
    "BhakabalbdaBFyaiaTtaCfaCuaoabcGyaBrkbaJbbCcfbhBfaKbbBWubGqaefLzbBEjhBDtaEucCtbGbcdaBndcbMcbN",
    "qdGgbkbbcBdcHfeCkbBJwaxbjcEUxcLuanaeakabbdbQmbBSHvbKjcIteOsbDibDraFvcFrcExaqbJpaBFCwacbCfcbd",
    "GnakabalbdaCnacaBPqaBwaBSoaHraLybFwfCqfDldBKqeBsdHhgEidExcEzbgaqbDkeEeaLmbEncmbNuddoEbbJpcTx",
    "abaJrbDjbebPycBtaYvbCwbBYxeBAMzbFdaCnckaVhbLjbBDOgaLIld"]),
  ("uideo unifiedideograph", .ofTable [
    "TSaJTnCmBFBjBICsbbabbkababbccDVEcCLFbBgGDtgIncINpoLBkpXxGRqHHyfGFf"]),
  ("upper uppercase", uppercase),
  ("vs variationselector", variationSelector),
  ("space wspace whitespace", whiteSpace),
  ("xidc xidcontinue", xidContinue),
  ("xids xidstart", xidStart)]

end SchemaAssessment.Unicode
