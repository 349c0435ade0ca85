/-
The parts that characters play where text is cut into clusters, words and sentences
(Unicode 16.0). Each part stands under its names without blanks, low lines, hyphens and
capitals; characters without a part have no name here.
-/

import SchemaAssessment.Unicode.CodeSet

namespace SchemaAssessment.Unicode

/-- Parts in clusters of characters. -/
def clusterParts : List (String × CodeSet) := [
  ("cr", .ofTable ["na"]),
  ("cn control", .ofTable ["ajbbbrDrBgnaCBmaGUraDAqacbygBxpDGHjaJglTUapBZQudHWxhBTKZlBfDsExJgFIl"]),
  ("ex extend", .ofTable [
    "BDoEhKpgKdBsbabbbbbaCukBwuqaDxgcfcbbdBjaBeBaDnkCgijaydbibcbeBrcChiBqxbBfCdabaeheadgkbBdaCgab",
    "acdiajakbBaacbCfaebebccdaBebdalbCfaeebbeaubwfbaCgabbbdiahckbBeaChabamajaBoadaCdabcfcbdhblbBd",
    "aCgacbbadcbdhblbBcbCfbbacdiajakbBdaCuaeaccbaiaDdacgmhDuacilgCvbBbababaCdnbebbfkbBjjaDydbfbbc",
    "bzbecqdnacbgapaBBbcBKkdBccBdbBebCmbbgiackjaBtcbaEnbBiaEocebjagcIlbcaCgabgbabachgjcaBwBeBxdBw",
    "jecBmimbBgdcfCeabbdabeCehcbFwcbmbgeagadbHqClUeaHnBgEOccFlaDsBfVifEbbBSQedbjBgbDcbKmadaeazbfa",
    "FvbBarnaBmhzkbaBscBwacdcbcaBkaCpfcbcbmaiaBvaBzabccbfbbaBqbiaJeacaeaBDZsaBCjpqpOcbXhaIsaFteCM",
    "gcbbfdBoceaGjbWbdCneMfbDbdCskBxdEtaCcoBpacbkcBxdcbhaCjcBkebhCkambCaibaidcaDrccdgacaGbadhvbCf",
    "bbabamajaogdeCpacfbacabcecbaobDhhccbaxaDdacfbacabbbbJbacdgbbbBbbDhhcabbEcabachDxabacdbeJzibb",
    "JlakdeaFodcbeaBgjBofcdiajfccBumbbPqgbfbaDevcgbbbbEsfdabbbgbaCubdabaNjblbCaefcxaHXtagoQYyldcD",
    "SaeChgBOiaCldDdalbBDAxbGYzBtcwUwedfihcgBedFscCYdCceBxiaoaweboCAigbqcgbbbeDwaGegOlaCjdTodJubB",
    "CigEfgEBgeBSXYuDrEyJf"]),
  ("l", .ofTable ["GLkDrCFOqBc"]),
  ("lf", .ofTable ["ka"]),
  ("lv", .ofTable [
    "CNDoaBbaBbaBbaBbaBbaBbaBbaBbaBbaBbaBbaBbaBbaBbaBbaBbaBbaBbaBbaBbaBbaBbaBbaBbaBbaBbaBbaBbaBba",
    "BbaBbaBbaBbaBbaBbaBbaBbaBbaBbaBbaBbaBbaBbaBbaBbaBbaBbaBbaBbaBbaBbaBbaBbaBbaBbaBbaBbaBbaBbaBb",
    "aBbaBbaBbaBbaBbaBbaBbaBbaBbaBbaBbaBbaBbaBbaBbaBbaBbaBbaBbaBbaBbaBbaBbaBbaBbaBbaBbaBbaBbaBbaB",
    "baBbaBbaBbaBbaBbaBbaBbaBbaBbaBbaBbaBbaBbaBbaBbaBbaBbaBbaBbaBbaBbaBbaBbaBbaBbaBbaBbaBbaBbaBba",
    "BbaBbaBbaBbaBbaBbaBbaBbaBbaBbaBbaBbaBbaBbaBbaBbaBbaBbaBbaBbaBbaBbaBbaBbaBbaBbaBbaBbaBbaBbaBb",
    "aBbaBbaBbaBbaBbaBbaBbaBbaBbaBbaBbaBbaBbaBbaBbaBbaBbaBbaBbaBbaBbaBbaBbaBbaBbaBbaBbaBbaBbaBbaB",
    "baBbaBbaBbaBbaBbaBbaBbaBbaBbaBbaBbaBbaBbaBbaBbaBbaBbaBbaBbaBbaBbaBbaBbaBbaBbaBbaBbaBbaBbaBba",
    "BbaBbaBbaBbaBbaBbaBbaBbaBbaBbaBbaBbaBbaBbaBbaBbaBbaBbaBbaBbaBbaBbaBbaBbaBbaBbaBbaBbaBbaBbaBb",
    "aBbaBbaBbaBbaBbaBbaBbaBbaBbaBbaBbaBbaBbaBbaBbaBbaBbaBbaBbaBbaBbaBbaBbaBbaBbaBbaBbaBbaBbaBbaB",
    "baBbaBbaBbaBbaBbaBbaBbaBbaBbaBbaBbaBbaBbaBbaBbaBbaBbaBbaBbaBbaBbaBbaBbaBbaBbaBbaBbaBbaBbaBba",
    "BbaBbaBbaBbaBbaBbaBbaBbaBbaBbaBbaBbaBbaBbaBbaBbaBbaBbaBbaBbaBbaBbaBbaBbaBbaBbaBbaBbaBbaBbaBb",
    "aBbaBbaBbaBbaBbaBbaBbaBbaBbaBbaBbaBbaBbaBbaBbaBbaBbaBbaBbaBbaBbaBbaBbaBbaBbaBbaBbaBbaBbaBbaB",
    "baBbaBbaBbaBbaBbaBbaBbaBbaBbaBbaBbaBbaBbaBbaBbaBbaBbaBbaBbaBbaBbaBbaBbaBbaBbaBbaBbaBbaBbaBba",
    "Bba"]),
  ("lvt", .ofTable [
    "CNDpBabBabBabBabBabBabBabBabBabBabBabBabBabBabBabBabBabBabBabBabBabBabBabBabBabBabBabBabBabB",
    "abBabBabBabBabBabBabBabBabBabBabBabBabBabBabBabBabBabBabBabBabBabBabBabBabBabBabBabBabBabBab",
    "BabBabBabBabBabBabBabBabBabBabBabBabBabBabBabBabBabBabBabBabBabBabBabBabBabBabBabBabBabBabBa",
    "bBabBabBabBabBabBabBabBabBabBabBabBabBabBabBabBabBabBabBabBabBabBabBabBabBabBabBabBabBabBabB",
    "abBabBabBabBabBabBabBabBabBabBabBabBabBabBabBabBabBabBabBabBabBabBabBabBabBabBabBabBabBabBab",
    "BabBabBabBabBabBabBabBabBabBabBabBabBabBabBabBabBabBabBabBabBabBabBabBabBabBabBabBabBabBabBa",
    "bBabBabBabBabBabBabBabBabBabBabBabBabBabBabBabBabBabBabBabBabBabBabBabBabBabBabBabBabBabBabB",
    "abBabBabBabBabBabBabBabBabBabBabBabBabBabBabBabBabBabBabBabBabBabBabBabBabBabBabBabBabBabBab",
    "BabBabBabBabBabBabBabBabBabBabBabBabBabBabBabBabBabBabBabBabBabBabBabBabBabBabBabBabBabBabBa",
    "bBabBabBabBabBabBabBabBabBabBabBabBabBabBabBabBabBabBabBabBabBabBabBabBabBabBabBabBabBabBabB",
    "abBabBabBabBabBabBabBabBabBabBabBabBabBabBabBabBabBabBabBabBabBabBabBabBabBabBabBabBabBabBab",
    "BabBabBabBabBabBabBabBabBabBabBabBabBabBabBabBabBabBabBabBabBabBabBabBabBabBabBabBabBabBabBa",
    "bBabBabBabBabBabBabBabBabBabBabBabBabBabBabBabBabBabBabBabBabBabBabBabBabBabBabBabBabBabBabB",
    "abBa"]),
  ("pp prepend", .ofTable ["CHcfIhaBxaOubDcaBRnaDUGkapaJkbUfaCBlabaJoaCvfBAyaRba"]),
  ("ri regionalindicator", .ofTable ["HGOkz"]),
  ("sm spacingmark", .ofTable [
    "DKtaCdaccidbbBybChbgbcbCcaCgcCoaCgciabbCbbCiagbcbEkabbdcbcCacCjdCjbCgacabbBuaobChbfcbcCbbCyb",
    "ggtbClaExaFibClaGvajbzbBsaCSvahhbbNidccebbfIqbCgabavfFpaCfdCmaBeaebClaccbaCbhibGpavaCAShbcaD",
    "kbBypFmaBwaBwbebcbEhbcbyaGbacbfaJdbbbbbbaBLXjabaExaBtcebElaybChaBwcjaoaDpcdbGqcBfbChabdcbcbv",
    "bDhbpabbDzcibdaEdbgabbbacaJebgdcaEjcibbaEfabbEgahaKbcjaJoebbhabaFmcideaDgaBdbCkaPraoaEcahaca",
    "IfeebbaNmbmaBwbibYZacFJgCc"]),
  ("t", .ofTable ["GRwDjCWXnBw"]),
  ("v", .ofTable ["GPcCtCWZwwCERcadd"]),
  ("zwj", .ofTable ["MDpa"])]

/-- Parts in words. -/
def wordParts : List (String × CodeSet) := [
  ("le aletter", .ofTable [
    "CnzgzBvakaeafwbBebSlgBhEiebbcdbagabcbabtbDebFiiGjbBlcdbabBobaEaaBsBqBjbbDubapbhbkccapbbBdBdD",
    "klayBgjbeafveajadaxyhkfxbfrBpCgCbdasahjppehcbcvbgbadddaqanbbcobkaifebcvbgbbbbbbBfdbatcqibcbv",
    "bgbbbedasapbxalhcbcvbgbbbedaBebbcparabfdcbddbbabbdbdcdlwaCahbcbwbpdaBaccacbBeaehbcbwbjbedaBf",
    "bbbpbribcbBocaqafcicyffrdxbibacgMbaClhbBjBbeKpBlbafacBqbMubdcgbabdcBobdcBgbdcgbabdcobCebdcCo",
    "BlpqDhcfdXvcqbzfCwdkhrnsorombcGtDkhecBhbafCrkBeIrwJeBurhCcBdnbkBrBaBjBpckBjckfBqccBpdbfbbdaf",
    "HjCmKrcfcBlcfchbabababBecCabgbadcbgddcfemfcbgEmanaqmDxaeacjbadegabababdbkcdfeearBoBFhBzCRuIu",
    "gddbmBlbafacCdhaqwjgbgbgbgbgbgbgbgDcaSbaCbbHsBqbDprBfBPToBSuCpBtcKidpkbuBuqBecDbyHpcbbabhvpb",
    "cbdbwBdBzoBxCkfdabblBbkwzBchBuBcaBwBoxcbhFskhcmfcfcfjgbgbCfgEkBdQNrmweBwNGugmeCeDtBhNysClcCb",
    "BolEmebFeBkzgzCrBedfcfcfccBjlbzbsbbbocnBiEsCrCaKhBcdBwBvBfnBdfBlkBdcBjehbeBqGbsBjeBjeBniBzmk",
    "bobgbbbkbobgbbdBzmLyjvkhyfbBpbiCrfcabBrbbdacwkwjBeCnsbbkvkzCsCdgbCmapdbcbBcBqBcdBcBjhbBbBbCb",
    "kvksnrEgCuCdBynBynBjBmBbjwJqBpgbqcChBckaivBqrBuuBbwmCaCfbcanBsBgyBaBjBdacaiBidamBvodvabaBjrb",
    "ytbClgbabdbobjhBuBmhcbcvbgbbbedasameBejbacabBlbazabaBsCasducBeBvubbaHcBuBpdBkBvuaChBqnaMpBrE",
    "mClBfhcachbbbxpabaDqhcBmqabaBcakBnhavalBttasCuHrBgBfibBkraBxBdEigbbbBlvazfbbbBfoaMpspabmbBhE",
    "uaDbBJlDyEgrHnDXkDspBPfrfzFXqfWkKDdBdCPuVwhBerDarBdsBvqdBfufsQqBsIdClEyCwfaComCmbbaBCVkEcfmd",
    "ihjIWkDgbCsbbcacbcdblbabgbCmbdchbgbBbbdbebadgbNbcybybBebybBebybBebybBebybhCSyBegfKbCjFqBskgq",
    "aMjBdsBrSqBbIuBdcaTbgbdbbbobHoChCphaBUidbBabbbacabjbdbabagaeabababcbbbacabababababbbacdbgbdb",
    "dbabjbqfcbebqYezgzgz"]),
  ("cr", .ofTable ["na"]),
  ("dq doublequote", .ofTable ["Bia"]),
  ("extend", .ofTable [
    "BDoEhKpgKdBsbabbbbbaCukBwuqaDxgcfcbbdBjaBeBaDnkCgijaydbibcbeBrcChiBqxbBgCccbrbgkbBdcCeabgcbc",
    "cjakbBaaccCeabeebccdaBebdalcCeabhbcbcubwfbcCeabgcbcchckbBeaChedcbdjaBoeCdabgbcbdhblbBdcCeabg",
    "bcbdhblbpamdCdbbgbcbdjakbBdcCsaefbabhsbCjacgmhDuacilgCvbBbababaebBxtbbfkbBjjaDwtxdecbccgddnl",
    "bakdBBbcBKkdBccBdbBebCmBfjaBtcbaEnbBiaEolelIleCfjbBccaBwBeBxeBvqBmimcBemCenBwtFwcbueagaccHqC",
    "lUeaHnBgEOccFlaDsBfVifEbbBSQedbjBgbDcbKmadaeaxeeaDfbByrBarnaBmhzmBsdBvnBkaCpnmaibBtcByabccbf",
    "bbaBpefbJchbbBDZsaBCjpqpOcbXhaIsaFteCMgcbbfdBoceaGjbWbdCneMfbDbdCskBxdEscCboBpacbkdBtkhaCjcB",
    "knqbBsamcBwnidbbDolgacaGblvdCdbbgcbccjakbcgdeCpibacabdbebaobDerxaDdtJbgciBbbDeqEcmDxoJwoJlfb",
    "bcdbabbFlgcgdaBcjBogbdiajkBupPphbhDevbnEsfdabbbgbaCoebbbeNjdjbbaBwgdexaHXtagoQYyrDSaeChgBOia",
    "bCchdDdalbBDAxbGYzBtcwUwedfihcgBedFscCYdCceBxiaoaweboCAigbqcgbbbeDwaGegOlaCjdTodJubBCigEfgEB",
    "geBSXYuDrEyJf"]),
  ("ex extendnumlet", .ofTable ["DraMBfapbtaDGAobycJfa"]),
  ("fo format", .ofTable ["GraCBmaGUraDAtbBaeBxebjDGHjaJpcTUapBZQudHWxhBTKZma"]),
  ("hl hebrewletter", .ofTable ["CFgBaedDOVyabjbmbebabbbbbj"]),
  ("ka katakana", .ofTable ["SGneDxbdDmbdJgpIaBubDjCZHeCdCOUcdbgbbbaLbcByaod"]),
  ("lf", .ofTable ["ka"]),
  ("ml midletter", .ofTable ["CgaEuaBBraSdaFsaJXyaDGBbaCnaHoa"]),
  ("mn midnum", .ofTable ["BsaoaBGcaUcaFabDqaPfaJFfaDGChadaHbaoa"]),
  ("mb midnumlet", .ofTable ["BuaMCfbkaDGDpaGyaga"]),
  ("nl newline", .ofTable ["lbEqaLZmb"]),
  ("nu numeric", .ofTable [
    "BwjCEwfDmjbaEjasjHqjHqbDcaFbjEojEojEojEojEojEojEojEojEojDsjEojCsjKsjCsjCTqjBmjLojEykGjjgjHaj",
    "DijFejgjCAEojBAcjBmjHqjwjDijPqjBFMcjCCkjDFyjgjBEqjCzapaBijCijFojKsjNejEojOkjDyjgtCyjQgjDyjZm",
    "jDijJmjCsjQgjYYgjDMcjDijFejUojBKDyjECqBxDNcjQgjTijJnjBGvjHBaj"]),
  ("ri regionalindicator", .ofTable ["HGOkz"]),
  ("sq singlequote", .ofTable ["Bna"]),
  ("wsegspace", .ofTable ["BgaIMhaDPngbcDgaFXwa"]),
  ("zwj", .ofTable ["MDpa"])]

/-- Parts in sentences. -/
def sentenceParts : List (String × CodeSet) := [
  ("at aterm", .ofTable ["BuaMCraDGDpaHfa"]),
  ("cr", .ofTable ["na"]),
  ("cl close", .ofTable [
    "BiaecBxabaBdabaBtapaFMsdCUnbDPjhzbkbCcbobYjdBdbBPgfhnDbbBfjPnvCldBgbBNmnobcjyashQljchbcCZRqb",
    "IhbBcpcbqfGnbBxabaBdababbbbDPOsc"]),
  ("ex extend", .ofTable [
    "BDoEhKpgKdBsbabbbbbaCukBwuqaDxgcfcbbdBjaBeBaDnkCgijaydbibcbeBrcChiBqxbBgCccbrbgkbBdcCeabgcbc",
    "cjakbBaaccCeabeebccdaBebdalcCeabhbcbcubwfbcCeabgcbcchckbBeaChedcbdjaBoeCdabgbcbdhblbBdcCeabg",
    "bcbdhblbpamdCdbbgbcbdjakbBdcCsaefbabhsbCjacgmhDuacilgCvbBbababaebBxtbbfkbBjjaDwtxdecbccgddnl",
    "bakdBBbcBKkdBccBdbBebCmBfjaBtcbaEnbBiaEolelIleCfjbBccaBwBeBxeBvqBmimcBemCenBwtFwcbueagaccHqC",
    "lUebHmBgEOccFlaDsBfVifEbbBSQedbjBgbDcbKmadaeaxeeaDfbByrBarnaBmhzmBsdBvnBkaCpnmaibBtcByabccbf",
    "bbaBpefbJchbbBDZsaBCjpqpOcbXhaIsaFteCMgcbbfdBoceaGjbWbdCneMfbDbdCskBxdEscCboBpacbkdBtkhaCjcB",
    "knqbBsamcBwnidbbDolgacaGblvdCdbbgcbccjakbcgdeCpibacabdbebaobDerxaDdtJbgciBbbDeqEcmDxoJwoJlfb",
    "bcdbabbFlgcgdaBcjBogbdiajkBupPphbhDevbnEsfdabbbgbaCoebbbeNjdjbbaBwgdexaHXtagoQYyrDSaeChgBOia",
    "bCchdDdalbBDAxbGYzBtcwUwedfihcgBedFscCYdCceBxiaoaweboCAigbqcgbbbeDwaGegOlaCjdTodJubBCigEfgBT",
    "CAfDrEyJf"]),
  ("fo format", .ofTable ["GraCBmaJiaGLiaDAqacbBaeBxebjDGHjaJpcTUapBZQudHWxhBTKZma"]),
  ("lf", .ofTable ["ka"]),
  ("lo lower", .ofTable [
    "DtzBvakaeaBkxbhbabababababababababababababababababababababababababababbbabababababababbbabab",
    "ababababababababababababababababababababacababccabacadbeacadccacababacabbbacadabacbccgacacab",
    "abababababababbbababababababababbcabadababababababababababababababababababababababababababab",
    "ababgcacbbaeababababCqbBjhbBeeFkabadacdsaBbBibbdcbabababababababababababebacacbBzBvbabababab",
    "ababababababababababababajababababababababababababababababababababababababababacabababababab",
    "bbababababababababababababababababababababababababababababababababababababababababababababab",
    "ababaBwBoEItaBDjfDFuibaEnHjCnabababababababababababababababababababababababababababababababa",
    "bababababababababababababababababababababababababababababababababababababababababababibababa",
    "babababababababababababababababababababababababababababababababababababababababababababababi",
    "ifkhihifkhihinchihihiebbgadcbbidcbihkcbbEranaqmEfadbdaBbaeaeacbideaBhpeaBGlzCTqBvbadbbababae",
    "abbbhdababababababababababababababababababababababababababababababababababababababababababab",
    "ababababababbhabaeamBlbafaBTWdababababababababababababababababababababababatabababababababab",
    "abababababcFdababababababcbababababababababababababababababababababababababababababababjbaba",
    "cababababaeabacabcbabababababababababafafabababababababaeabacadabababababawcbabcBFpBqbngDbBE",
    "AigmeBOzzBVhBnFgBjFzkbobgbbRjaccbBpbiBXlByEvvEGoBfBGJwBfBMMkzBagbrBazBadbabgbkBazBazBazBazBa",
    "zBazBazBazBaBbBcybfBaybfBaybfBaybfBaybfbaCSyjbtgfKbCjDHsBh"]),
  ("nu numeric", .ofTable [
    "BwjCEwfDmjbbEiasjHqjHqbDcaFbjEojEojEojEojEojEojEojEojEojDsjEojCsjKsjCsjCTqjBmjLojEykGjjgjHaj",
    "DijFejgjCAEojBAcjBmjHqjwjDijPqjBFMcjCCkjDFyjgjBEqjCzapaBijCijFojKsjNejEojOkjDyjgtCyjQgjDyjZm",
    "jDijJmjCsjQgjYYgjDMcjDijFejUojBKDyjECqBxDNcjQgjTijJnjBGvjHBaj"]),
  ("le oletter", .ofTable [
    "RbaedIaaBkgglBaabaFdaSqaEoBaeeBsBqBjbbDubapbhbkccaqabBdBdDklayBgjbeafveajadaxyhkfxbfrBpCgCbd",
    "asahjppehcbcvbgbadddaqanbbcobkaifebcvbgbbbbbbBfdbatcqibcbvbgbbbedasapbxalhcbcvbgbbbedaBebbcp",
    "arabfdcbddbbabbdbdcdlwaCahbcbwbpdaBaccacbBeaehbcbwbjbedaBfbbbpbribcbBocaqafcicyffrdxbibacgCg",
    "BvbbmgCgbbabebxbabjbbjacebavdBgaClhbBjBbeElBquaqfeddadbhcemmaCnBqcMtbdcgbabdcBobdcBgbdcgbabd",
    "cobCebdcCoBlpEjXvcqbzfCwdkhrnsorombcpBzBjaeaCpDkhecBhbafCrkBeBxBdcelBrezCcwjCaDeaDpBurhCcBdn",
    "bkBrBaBjBpckBjsBqccBpdbfbbdaBPqdCtccdEKtCdhaqwjgbgbgbgbgbgbgbgDcaSbcziheceeDhgcbDlbdfBqbDprB",
    "fBwpTsJTnCmBGUeCpBtcKidpkbCoaqaBgDbBniEaagaDzadgbcbdbwBdBzoBxCkfdabblBbkwzBchBuBcaqebjkebBox",
    "cbhuwdadBxbadbcecabaycckhcmfcfcfjgbgFpBiBdQNrmweBwMNcObcEbCpabjbmbebabbbbbEdBhNysClcCbBolEme",
    "bFeEbCdcBedfcfcfccBjlbzbsbbbocnBiEsCrCaKhBcdBwBvBfnBdfBlkBdcBjehbeEsCzDuBniBzDoBzmLyjvkhzbEv",
    "fcabBrbbdacwkwjBeCnsbbkvkzCsCdgbCmapdbcbBcBqBcdBcBjhbBbBbCbkvksnrEgCuHbBjBmfBfaKmBpgbqcChBck",
    "aivBqrBuuBbwmCaCfbcanBsBgyBaBjBdacaiBidamBvodvabaBjrbytbClgbabdbobjhBuBmhcbcvbgbbbedasameBej",
    "bacabBlbazabaBsCasducBeBvubbaHcBuBpdBkBvuaChBqnaCtBaBlgHdBrIdhcachbbbxpabaDqhcBmqabaBcakBnha",
    "valBttasCuHrBgBfibBkraBxBdEigbbbBlvazfbbbBfoaMpspabmbBhEuaDbBJlDyEgrHnDXkDspBPfrfzFXqfWkKDdB",
    "dCPuVwhBerDarBdsBvqdBfufsQqBsPnCwfaComCmbbaBcJBziBVpBpjNFrdbgbbbLepaBdccaodiPfDKuEcfmdihjNBc",
    "aThBskgqaMjBdsBrSqBbIuBdcaTbgbdbbbobHoFeaBUidbBabbbacabjbdbabagaeabababcbbbacabababababbbacd",
    "bgbdbdbabjbqfcbebqGOaCLFbBgGDtgIncINpoLBkpXxDQwUvCFyHHyfGFf"]),
  ("sc scontinue", .ofTable ["BsbmbBGcaSkaGsbSwaGBxafaDBebGAuaDAAwbbbBcbBdbcbcakaGmbmbCua"]),
  ("st sterm", .ofTable [
    "BhaBdaCAbaFrcGyaBrcJmaCjabadbLhbCPwbBEkaebBDtaHqbGbbBtafaMcbNqdGgbkbcbBdcHfbCnbBKubjcEUxcLua",
    "nawbQnaBSHwaKkbItadaOsbDibDraFwbFrcFobJpaBFCwacbClbGnaBdaCnaEDwbBXdeBsdHhbEndExcEzbgaqbDkbbb",
    "EeaLmbEnbOjbfoEbbJpcTxabaJrbDjbQebBAqbCwbBCMbbFdaCnblaVhbLkaBDOgaLIma"]),
  ("se sep", .ofTable ["FdaLZmb"]),
  ("sp", .ofTable ["jabbtaExaIHjaDPnkBkaBvaFXwa"]),
  ("up upper", .ofTable [
    "CnzDxwbgBhabababababababababababababababababababababababababababacabababababababacababababab",
    "ababababababababababababababababababbbabadbbabbbccdbbbcdbbbbababbbacabbbcbabbdahbbbbbbababab",
    "ababababacababababababababacbbabcbababababababababababababababababababababababababababababah",
    "bbbcabdbabababaLdabadaiagabcbabbbqbiBjaccdabababababababababababafacabbcByBwabababababababab",
    "ababababababababajabababababababababababababababababababababababababababbbabababababacababab",
    "ababababababababababababababababababababababababababababababababababababababababababababacBl",
    "EHdBlbafaBBuDhDGlaOkabababababababababababababababababababababababababababababababababababab",
    "ababababababababababababababababababababababababababababababababababababababajababababababab",
    "abababababababababababababababababababababababababababababababababababababababababajhifkhihi",
    "flabababaihyhihihieleldmeleKbaeadccccadegabababdcdkbfaBaptaBFmzCSuBvBwabccabababdbacaicbabab",
    "abababababababababababababababababababababababababababababababababababababababababababababab",
    "aiabaeaBTYjababababababababababababababababababababababatabababababababababababababaFfababab",
    "abababadababababababababababababababababababababababababababababababakababbbabababaeabacabad",
    "ababababababababababebebabababababababdbabbdafabababayaBHAhzBUzBnFgBjGakbobgbbCQcByGbvEGoBfB",
    "GJwBfBMMqzBazBazBaabbcacbcdbhBazBabbdchbgBbbbdbebadgBbzBazBazBazBazBazBeyBhyBhyBhyBhyBhaGNlB",
    "hDBizgzgz"])]

end SchemaAssessment.Unicode
