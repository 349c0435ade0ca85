/-
Scripts (Unicode 16.0). Every character belongs to one script; in a wider sense it also
belongs to every script that uses it.
-/

import SchemaAssessment.Unicode.CodeSet

namespace SchemaAssessment.Unicode

/-- A script under its names without blanks, low lines, hyphens and capitals. -/
structure Script where
  names : String
  own : CodeSet
  used : CodeSet
  deriving Inhabited

/-- A script, given by its own characters and by those that belong to it in just one of the two
senses. -/
def script (names : String) (own changed : List String) : Script :=
  let ownSet := CodeSet.ofTable own
  ⟨names, ownSet, if changed.isEmpty then ownSet else ownSet.symmetricDifference (.ofTable changed)⟩

/-- The scripts. -/
def scripts : List Script := [
  script "adlm adlam" ["HDEuCxejeb"] ["CIhaBgaJWoaFHha"],
  script "ahom" ["EBRcBacoew"] [],
  script "hluw anatolianhieroglyphs" ["ESSeWk"] [],
  script "arab arabic"
    [
      "CHcebfbnbcbBfbjlzbEdbBhDcBvJgBebbfCwbBcDNTwEkqNycDbcCbhaBgpEiebFeFVnBeCpcCddDGLsdbBabbbaca",
      "bjbdbabagaeabababcbbbacabababababbbacdbgbdbdbabjbqfcbebqCab"]
    ["CHoaoadaBgakkBaaJUsaFHhaDAKabCDkBb"],
  script "armn armenian" ["BZdBlcBxccDOZje"] ["BDwa"],
  script "avst avestan" ["DXCyCbdg"] ["HbaRFsb"],
  script "bali balinese" ["KFwCybBx"] [],
  script "bamu bamum" ["CLCqDjCVCqVw"] [],
  script "bass bassavah" ["FHKiBdcf"] [],
  script "batk batak" ["KNgBzid"] [],
  script "beng bengali" ["DPodbhcbcvbgbaddcicbcdiaebbecy"] ["BAyaCMubrbHJeabacbbaiaiacaeaccCBAfa"],
  script "bhks bhaiksuki" ["EDOiibBsbnkBc"] [],
  script "bopo bopomofo" ["BCsbRLxBqEiBf"] ["BBjabcnaRCpcejbmkdcagaHnaCZThbKwe"],
  script "brah brahmi" ["DZAeCzeBjja"] [],
  script "brai braille" ["PDwJv"] [],
  script "bugi buginese" ["JWaBbcb"] ["CMHza"],
  script "buhd buhid" ["IUyt"] ["IUnb"],
  script "cans canadianaboriginal" ["HOyYpVoCrDTPqp"] [],
  script "cari carian" ["DTYmBw"] ["HbaLZmacaFGda"],
  script "aghb caucasianalbanian" ["DUXsBzla"] ["BDsaBsaBsa"],
  script "cakm chakma" ["DZKaCabr"] ["DTmjCKej"],
  script "cham" ["CMJwCcjncjcd"] [],
  script "cher cherokee" ["HLgDhcfCFJeDb"] ["BDocbagbwblb"],
  script "chrs chorasmian" ["DYXcBb"] [],
  script "zyyy common"
    [
      "aCmBafBaBubobexaBfaRhBmfectEmajagabaYnagaoadaBgaGaaTwaEzbBVtaPpdLeaCGlcCtbHvbbaBVhanahdbfb",
      "ccaBDtlcDibkdkborBgClBlbccfbBabqBpceZpwkvBJrJwYdcBfbEaTsDpPmubabyphedDnbdaDmbFrpBgBljaBwCl",
      "BfDcBvaDkGlJToClBHSiBhDycGjjJkaGeaPfaobBEZqbIajwBibsbdFrabBfBafBakkaBtbCmgbgkeJyceBsdiDcmB",
      "zBsIuBaCSHwdFVgJpgQtGaElCiJlkBmcCjdqibhBdeCiIftmtmDijyFfDgbCsbbcacbcdblbabgbCmbdchbgbBbbdb",
      "ebadgbNbcLfcBxHThCpCyCiBBeBreDvmocobobBkkGrCezbbnBreihbofFyBLveqdmdEoeDqgleapleCdijgBniBdc",
      "lebCkNbmncmdjfCdhockgihFqbDxBSUXbaBeDr"]
    [
      "HbaTwakabcbajabaFyaZnaoadaBgaBExbCWraCGlcCtbHvbbaBVhanahdbfbccaBFoaBfakacaFFdaybkaeabaQmpb",
      "ccabjbmqfbaedDnbdaDmbFrpBgBljaBwBnCeBwplBzaDkykeDsBeBROjhLkjJkaGeaBFPmbKbbKwekaBtbNoceBsdi",
      "QbBaCSHwdIPwrLRyb"],
  script "copt qaac coptic" ["BMgnPJkElfg"] ["HbaWmadbbaEebQDtaDCPcBb"],
  script "xsux cuneiform" ["EFBsBJlDyEgbelHn"] [],
  script "cprt cypriot" ["DVZkfcabBrbbdaca"] ["DTImceBsdi"],
  script "cpmn cyprominoan" ["EKYyDu"] ["DTImb"],
  script "cyrl cyrillic"
    ["BNkFccGmIVokGeaCyaGFnBfBTOaDrBHEcbDHPgCjBha"]
    ["BAyaCpcbababacafaOhbJQnaGEka"],
  script "dsrt deseret" ["DUMaDb"] [],
  script "deva devanagari" ["DKqDceoczCIJgBfBREmj"] ["BAyaCMubrbHJeBmbbBNaaBZFrj"],
  script "diak divesakuru" ["ECKugcachbbbBdbbcljj"] [],
  script "dogr dogra" ["ECAyCh"] ["DOmlCIDcj"],
  script "dupl duployan" ["GMDsEcfmdihjcd"] ["HbaWtbbaybQIhaFUWpd"],
  script "egyp egyptianhieroglyphs" ["ELDgBQrkFXq"] [],
  script "elba elbasan" ["DUVwBn"] ["HbaWra"],
  script "elym elymaic" ["DYYyw"] [],
  script "ethi ethiopic"
    ["GVgCubdcgbabdcBobdcBgbdcgbabdcobCebdcCocBfdzJVawjgbgbgbgbgbgbgbgBVKcfcfcfjgbgEPYfgbdbbbo"]
    ["BEca"],
  script "gara garay" ["DXZcBldBcib"] ["CHoaoada"],
  script "geor georgian" ["GHsBlbafacBqbdEJwBqccGEaBlbafa"] ["HbaBVlaEIraFViaFGga"],
  script "glag glagolitic" ["QRgDrGIZggbqcgbbbe"] ["HbaWpabaOsacaJxaEIraFViaFGyaBTNfa"],
  script "goth gothic" ["DUEaBa"] ["HbaWqbcaBoa"],
  script "gran grantha"
    ["EADsdbhcbcvbgbbbecicbcccagafgcgde"]
    ["DNtbrbYqnGKaabbBecdbBNaaDNTqaETwbba"],
  script "grek greek"
    [
      "BHwdbccdbaeababcbabtbCkopJNqeByeeeDgaMivcfcBlcfchbabababBecCabobncfbsccbiLjaCAJeaBGNiDaraD",
      "AXrCr"]
    ["HbaWmbcababakaBuacaBuaJYxbZra"],
  script "gujr gujarati" ["DZlcbibcbvbgbbbecjbcbccapdclhg"] ["DNtbrbCIDmj"],
  script "gong gunjalagondi" ["EEBwfbbbBkbbbfhj"] ["HbaDHkb"],
  script "guru gurmukhi" ["DUncbfebcvbgbbbbbbcabeebccdahdbahq"] ["DNtbrbCIDmj"],
  script "gukh gurungkhema" ["FDRsCf"] ["DOna"],
  script "han hani"
    ["RPwzbDkmIfBvabaziodBLcJTnCmBFBjBHSiObcEbBSIibmbCCOkCLFbBgGDtgIncINpoLBkpXxDQwUvCFyHHyfGFf"]
    ["HbaRWypbccabjbmkdcagaedHfaFspBgBljaBwBnCeBwplBzaDkykeDsBeBROjhBHAzbKweDCHerLRyb"],
  script "hang hangul"
    ["GLkJvLLebJxDpEjBeCnBeBTAnBcYtQNrmweBwPAiBedfcfcfcc"]
    ["SErcejbmqagaHnaCZThbKwe"],
  script "rohg hanifirohingya" ["DXWqBnij"] ["CHoaoadaBgaFra"],
  script "hano hanunoo" ["ITsu"] ["IUnb"],
  script "hatr hatran" ["DWIasbbfe"] [],
  script "hebr hebrew" ["CCvCciBaefDOVwzbebabbbbbj"] ["BDvb"],
  script "hira hiragana" ["SHdDhgcFPEvLasaBdcYMva"] ["SErcejbmqfbaebDnddaDmbCZTgbKwekaBtb"],
  script "armi imperialaramaic" ["DWBwvbi"] [],
  script "qaai zinh inherited"
    [
      "BDoEhKrbRkkBaaBCidGOxBeTtcbmbgeagadbHqClUebHmBgFTxdEdbCZUjpqnBLnaIsaGFaaCTCuBtcwUycrhcgBed",
      "BTLHiJf"]
    ["BDoobbbamacchbbbqacasafaemKrbRkkBaaBCibHJxcbmbgeagadbHqbCcabaBDdaFTxdEdbDBQjaGFaa"],
  script "phli inscriptionalpahlavi" ["DXGqsfh"] [],
  script "prti inscriptionalparthian" ["DXFkvch"] [],
  script "java javanese" ["CMEyCzcjeb"] ["CMHza"],
  script "kthi kaithi" ["DZFcCoka"] ["DOojNXxaBUFej"],
  script "knda kannada" ["ETcmbcbwbjbecibcbdhbgbbdcjbc"] ["DNtbrbHJeabbgaxabaCASxf"],
  script "kana katakana"
    ["SKvDlccJgpIaBubDjCZHejbBsCOUcdbgbbbaLbcByaod"]
    ["BDtaBdaQZtcejbmqfbaebDnddaDmbCZTgbKwekaBtb"],
  script "kawi" ["EERwqbBodBc"] [],
  script "kali kayahli" ["CMAaBtba"] ["CMBua"],
  script "khar kharoshthi" ["DWTcdbbfhbcbBcccejhi"] [],
  script "kits khitansmallscript" ["FJIiaKGxSbBpa"] [],
  script "khmr khmer" ["IXkDpcjgjSsBf"] [],
  script "khoj khojki" ["DZTwrbBu"] ["EDijCHOij"],
  script "sind khudawadi" ["EAAqCgfj"] ["DOmbCIDmj"],
  script "krai kiratrai" ["FIIiCf"] [],
  script "lao laoo" ["FMvbbabebxbabwcebabgbjcd"] [],
  script "latn latin"
    [
      "CnzgzBvapafwbBebRgBneJXbBlgBwfdfmbCrCnJvOfanaqmFlbgaBbarBoECtBfBULmDxdCocbbabhvnBFkBqbibdB",
      "EDqgBOkzgzDCffbBpbiDDNpBegf"]
    ["HbaTwakabcbajabaBmobbbamacchbbbBmafaemKrbBVebCXkaEXwaVuaHkaEZmaBTUmhVea"],
  script "lepc lepcha" ["KPsCddodc"] [],
  script "limb limbu" ["JMeBebleleadl"] ["DOna"],
  script "lina lineara" ["DVFsLyjvkh"] ["DTItBs"],
  script "linb linearb" ["DSYqlbzbsbbbocnBiEs"] ["DTImceBsdi"],
  script "lisu" ["CKKuBvBUMaa"] ["BAyaqaRDkb"],
  script "lyci lycian" ["DTXgBc"] ["MGoa"],
  script "lydi lydian" ["DWKmzfa"] ["HbaRFta"],
  script "mahj mahajani" ["DZNcBm"] ["HbaDHklCIDcj"],
  script "maka makasar" ["EEQqy"] [],
  script "mlym malayalam" ["EYambcbBybcbfepcz"] ["DNtbrbHJoaxaCASzc"],
  script "mand mandaic" ["DDgBbca"] ["CJoa"],
  script "mani manichaean" ["DXAmBmel"] ["CJoa"],
  script "marc marchen" ["EDSqBfcvbn"] [],
  script "gonm masaramgondi" ["EDYegbbbBrdabbbiij"] ["DOmb"],
  script "medf medefaidrin" ["FISeDm"] [],
  script "mtei meeteimayek" ["CMSmwHtBtcj"] [],
  script "mend mendekikakui" ["HCUyHocp"] [],
  script "merc meroiticcursive" ["DWPkxetcBt"] [],
  script "mero meroitichieroglyphs" ["DWOeBf"] ["MGra"],
  script "miao plrd" ["FIZoCweCehq"] [],
  script "modi" ["EBHgCqlj"] ["CLSaj"],
  script "mong mongolian" ["JCibcabtgDkhBqDSCbm"] ["JCkbbaDCjaFZtbfd"],
  script "mro mroo" ["FHEuBebjeb"] [],
  script "mult multani" ["DZYugbabdbobk"] ["DYkj"],
  script "mymr myanmar" ["GBoGdCGAyBeDtBfBPAmt"] ["CMBua"],
  script "nbat nabataean" ["DWEiBeii"] [],
  script "nagm nagmundari" ["HBPoBp"] [],
  script "nand nandinagari" ["ECQyhcBtck"] ["DOmbBImjGBhaiahaCASrf"],
  script "talu newtailue" ["JRcBrezgkdb"] [],
  script "newa" ["EANoDnbe"] [],
  script "nko nkoo" ["CYiCgcc"] ["CHoaoadaDPPeb"],
  script "nshu nushu" ["FJIfaYVmPf"] [],
  script "hmnp nyiakengpuachuehmong" ["HAEaBsdncjeb"] [],
  script "ogam ogham" ["INoBc"] [],
  script "olck olchiki" ["KSuBv"] [],
  script "onao olonal" ["HBZkBqea"] ["DOmb"],
  script "hung oldhungarian" ["DXRsBynByhf"] ["MGoacaFGdapa"],
  script "ital olditalic" ["DUCeBjjc"] [],
  script "narb oldnortharabian" ["DWYaBf"] [],
  script "perm oldpermic" ["DUFgBq"] ["HbaWmafckaOda"],
  script "xpeo oldpersian" ["DUIiBjen"] [],
  script "sogo oldsogdian" ["DYQiBn"] [],
  script "sarb oldsoutharabian" ["DWWuBf"] [],
  script "orkh oldturkic" ["DXMuCu"] ["MGoaFGfa"],
  script "ougr olduyghur" ["DYUqz"] ["CJoaDUSva"],
  script "orya oriya" ["EEjcbhcbcvbgbbbecicbcchcebbecr"] ["DNtbrbHJoaxa"],
  script "osge osage" ["DUSuBjeBj"] ["BDpacagaCya"],
  script "osma osmanya" ["DUQyBdcj"] [],
  script "hmng pahawhhmong" ["FHMeCrkjbgbufs"] [],
  script "palm palmyrene" ["DWDcBf"] [],
  script "pauc paucinhau" ["EDCaCe"] [],
  script "phag phagspa" ["CLSqCd"] ["JCkbbaDCjaFZua"],
  script "phnx phoenician" ["DWJgBbda"] [],
  script "phlp psalterpahlavi" ["DXHwrhdmg"] ["CJoa"],
  script "rjng rejang" ["CMBwBjla"] [],
  script "runr runic" ["IOuCwdk"] ["IRrc"],
  script "samr samaritan" ["DAuBtco"] ["RMva"],
  script "saur saurashtra" ["CLVcCril"] [],
  script "shrd sharada" ["DZOyDr"] ["DNtaHKfabacbcaCATrfca"],
  script "shaw shavian" ["DUPcBv"] ["Hba"],
  script "sidd siddham" ["EBCiCbcBl"] [],
  script "sgnw signwriting" ["GWTkZbpebo"] [],
  script "sinh sinhala" ["FCzcbrdxbibacgdaefbabhgjccDULgt"] ["DOmbHKma"],
  script "sogd sogdian" ["DYSeBp"] ["CJoa"],
  script "sora sorasompeng" ["DZIeyhj"] [],
  script "soyo soyombo" ["ECXsDe"] [],
  script "sund sundanese" ["KKuClJwh"] [],
  script "sunu sunuwar" ["EDLwBhoj"] ["BDobbajacaBcada"],
  script "sylo sylotinagri" ["CLQeBs"] ["DOmbEyj"],
  script "syrc syriac" ["CQynbChccKmk"] ["BDrbcbbavacchbbaBCdaobcaBgakkBaaIXraba"],
  script "tglg tagalog" ["ISmvja"] ["IUnb"],
  script "tagb tagbanwa" ["IWembcbb"] ["IUnb"],
  script "tale taile" ["JPgBdce"] ["BDobfbdaEZzj"],
  script "lana taitham" ["JXgCkbBcckgjgn"] [],
  script "tavt taiviet" ["CMOuCoye"] [],
  script "takr takri" ["EBMeCfgj"] ["DOmbCIDmj"],
  script "taml tamil" ["EJibbfdcbddbbabbdbdcdleedcbdcagaouEALhBxna"] ["DNtbrbHJoaCBBkaBOEfabaCdb"],
  script "tnsa tangsa" ["FHGqDabj"] [],
  script "tang tangut" ["FJIeaBfJBziBDnTsi"] ["SEapTba"],
  script "telu telugu" ["EOembcbwbpcibcbdhbbccacdcjhi"] ["DNtbrbHJoaxa"],
  script "thaa thaana" ["CVwBx"] ["CHoaobcaCmjDPTgaka"],
  script "thai" ["FHxCffBb"] ["BAyaBaaBraBta"],
  script "tibt tibetan" ["FRsCtbBjeBmbBjbobgeb"] ["SEyd"],
  script "tfng tifinagh" ["RCyCdhboa"] ["BDqabacaba"],
  script "tirh tirhuta" ["EASmCtij"] ["DNtbrbHKmaCASzj"],
  script "todr todhri" ["DVDgBz"] ["BDpacacajabaCwa"],
  script "toto" ["HATkBe"] ["BAya"],
  script "tutg tulutigalari" ["EAIqjbacabBlbjbacabdbjbbib"] ["EXajGBqabaCASxfHfa"],
  script "ugar ugaritic" ["DUHcBdba"] [],
  script "vai vaii" ["CKMqLn"] [],
  script "vith vithkuqi" ["DVAekbobgbbbkbobgbb"] [],
  script "wcho wancho" ["HAVgCffa"] [],
  script "wara warangciti" ["ECHcDema"] [],
  script "yezi yezidi" ["DYLkBpbccb"] ["CHoaoadaCmj"],
  script "yi yiii" ["CIPkBSudCc"] ["SErbfjchIpaDAEfe"],
  script "zanb zanabazarsquare" ["ECUqCt"] []]

end SchemaAssessment.Unicode
