import Loom.Unicode.Category

/-!
# Segmentation classes

The classes by which the standard finds the boundaries of grapheme clusters, words and sentences.
Code points without a class of their own are in none of the tables.
-/

namespace Loom.Unicode

def graphemeClusterBreaks : List NamedTable :=
  [
    ⟨["CR"],
      ["na"]⟩,
    ⟨["CN", "Control"],
      ["ajbbbrDrBgnaCBmaGUraDAqacbygBxpDGHjaJglTUapBZQudHWxhBTKZlBfDsExJgFIl"]⟩,
    ⟨["EX", "Extend"],
      ["BDoEhKpgKdBsbabbbbbaCukBwuqaDxgcfcbbdBjaBeBaDnkCgijaydbibcbeBrcChiBqxbBfCdabaeheadgkbBda",
       "CgabacdiajakbBaacbCfaebebccdaBebdalbCfaeebbeaubwfbaCgabbbdiahckbBeaChabamajaBoadaCdabcfc",
       "bdhblbBdaCgacbbadcbdhblbBcbCfbbacdiajakbBdaCuaeaccbaiaDdacgmhDuacilgCvbBbababaCdnbebbfkb",
       "BjjaDydbfbbcbzbecqdnacbgapaBBbcBKkdBccBdbBebCmbbgiackjaBtcbaEnbBiaEocebjagcIlbcaCgabgbab",
       "achgjcaBwBeBxdBwjecBmimbBgdcfCeabbdabeCehcbFwcbmbgeagadbHqClUeaHnBgEOccFlaDsBfVifEbbBSQe",
       "dbjBgbDcbKmadaeazbfaFvbBarnaBmhzkbaBscBwacdcbcaBkaCpfcbcbmaiaBvaBzabccbfbbaBqbiaJeacaeaB",
       "DZsaBCjpqpOcbXhaIsaFteCMgcbbfdBoceaGjbWbdCneMfbDbdCskBxdEtaCcoBpacbkcBxdcbhaCjcBkebhCkam",
       "bCaibaidcaDrccdgacaGbadhvbCfbbabamajaogdeCpacfbacabcecbaobDhhccbaxaDdacfbacabbbbJbacdgbb",
       "bBbbDhhcabbEcabachDxabacdbeJzibbJlakdeaFodcbeaBgjBofcdiajfccBumbbPqgbfbaDevcgbbbbEsfdabb",
       "bgbaCubdabaNjblbCaefcxaHXtagoQYyldcDSaeChgBOiaCldDdalbBDAxbGYzBtcwUwedfihcgBedFscCYdCceB",
       "xiaoaweboCAigbqcgbbbeDwaGegOlaCjdTodJubBCigEfgEBgeBSXYuDrEyJf"]⟩,
    ⟨["L"],
      ["GLkDrCFOqBc"]⟩,
    ⟨["LF"],
      ["ka"]⟩,
    ⟨["LV"],
      ["CNDoaBbaBbaBbaBbaBbaBbaBbaBbaBbaBbaBbaBbaBbaBbaBbaBbaBbaBbaBbaBbaBbaBbaBbaBbaBbaBbaBbaBb",
       "aBbaBbaBbaBbaBbaBbaBbaBbaBbaBbaBbaBbaBbaBbaBbaBbaBbaBbaBbaBbaBbaBbaBbaBbaBbaBbaBbaBbaBba",
       "BbaBbaBbaBbaBbaBbaBbaBbaBbaBbaBbaBbaBbaBbaBbaBbaBbaBbaBbaBbaBbaBbaBbaBbaBbaBbaBbaBbaBbaB",
       "baBbaBbaBbaBbaBbaBbaBbaBbaBbaBbaBbaBbaBbaBbaBbaBbaBbaBbaBbaBbaBbaBbaBbaBbaBbaBbaBbaBbaBb",
       "aBbaBbaBbaBbaBbaBbaBbaBbaBbaBbaBbaBbaBbaBbaBbaBbaBbaBbaBbaBbaBbaBbaBbaBbaBbaBbaBbaBbaBba",
       "BbaBbaBbaBbaBbaBbaBbaBbaBbaBbaBbaBbaBbaBbaBbaBbaBbaBbaBbaBbaBbaBbaBbaBbaBbaBbaBbaBbaBbaB",
       "baBbaBbaBbaBbaBbaBbaBbaBbaBbaBbaBbaBbaBbaBbaBbaBbaBbaBbaBbaBbaBbaBbaBbaBbaBbaBbaBbaBbaBb",
       "aBbaBbaBbaBbaBbaBbaBbaBbaBbaBbaBbaBbaBbaBbaBbaBbaBbaBbaBbaBbaBbaBbaBbaBbaBbaBbaBbaBbaBba",
       "BbaBbaBbaBbaBbaBbaBbaBbaBbaBbaBbaBbaBbaBbaBbaBbaBbaBbaBbaBbaBbaBbaBbaBbaBbaBbaBbaBbaBbaB",
       "baBbaBbaBbaBbaBbaBbaBbaBbaBbaBbaBbaBbaBbaBbaBbaBbaBbaBbaBbaBbaBbaBbaBbaBbaBbaBbaBbaBbaBb",
       "aBbaBbaBbaBbaBbaBbaBbaBbaBbaBbaBbaBbaBbaBbaBbaBbaBbaBbaBbaBbaBbaBbaBbaBbaBbaBbaBbaBbaBba",
       "BbaBbaBbaBbaBbaBbaBbaBbaBbaBbaBbaBbaBbaBbaBbaBbaBbaBbaBbaBbaBbaBbaBbaBbaBbaBbaBbaBbaBbaB",
       "baBbaBbaBbaBbaBbaBbaBbaBbaBbaBbaBbaBbaBbaBbaBbaBbaBbaBbaBbaBbaBbaBbaBbaBbaBbaBbaBbaBbaBb",
       "aBbaBbaBbaBbaBbaBbaBbaBbaBbaBbaBbaBbaBbaBbaBbaBbaBbaBba"]⟩,
    ⟨["LVT"],
      ["CNDpBabBabBabBabBabBabBabBabBabBabBabBabBabBabBabBabBabBabBabBabBabBabBabBabBabBabBabBab",
       "BabBabBabBabBabBabBabBabBabBabBabBabBabBabBabBabBabBabBabBabBabBabBabBabBabBabBabBabBabB",
       "abBabBabBabBabBabBabBabBabBabBabBabBabBabBabBabBabBabBabBabBabBabBabBabBabBabBabBabBabBa",
       "bBabBabBabBabBabBabBabBabBabBabBabBabBabBabBabBabBabBabBabBabBabBabBabBabBabBabBabBabBab",
       "BabBabBabBabBabBabBabBabBabBabBabBabBabBabBabBabBabBabBabBabBabBabBabBabBabBabBabBabBabB",
       "abBabBabBabBabBabBabBabBabBabBabBabBabBabBabBabBabBabBabBabBabBabBabBabBabBabBabBabBabBa",
       "bBabBabBabBabBabBabBabBabBabBabBabBabBabBabBabBabBabBabBabBabBabBabBabBabBabBabBabBabBab",
       "BabBabBabBabBabBabBabBabBabBabBabBabBabBabBabBabBabBabBabBabBabBabBabBabBabBabBabBabBabB",
       "abBabBabBabBabBabBabBabBabBabBabBabBabBabBabBabBabBabBabBabBabBabBabBabBabBabBabBabBabBa",
       "bBabBabBabBabBabBabBabBabBabBabBabBabBabBabBabBabBabBabBabBabBabBabBabBabBabBabBabBabBab",
       "BabBabBabBabBabBabBabBabBabBabBabBabBabBabBabBabBabBabBabBabBabBabBabBabBabBabBabBabBabB",
       "abBabBabBabBabBabBabBabBabBabBabBabBabBabBabBabBabBabBabBabBabBabBabBabBabBabBabBabBabBa",
       "bBabBabBabBabBabBabBabBabBabBabBabBabBabBabBabBabBabBabBabBabBabBabBabBabBabBabBabBabBab",
       "BabBabBabBabBabBabBabBabBabBabBabBabBabBabBabBabBabBabBa"]⟩,
    ⟨["PP", "Prepend"],
      ["CHcfIhaBxaOubDcaBRnaDUGkapaJkbUfaCBlabaJoaCvfBAyaRba"]⟩,
    ⟨["RI", "Regional_Indicator"],
      ["HGOkz"]⟩,
    ⟨["SM", "SpacingMark"],
      ["DKtaCdaccidbbBybChbgbcbCcaCgcCoaCgciabbCbbCiagbcbEkabbdcbcCacCjdCjbCgacabbBuaobChbfcbcCb",
       "bCybggtbClaExaFibClaGvajbzbBsaCSvahhbbNidccebbfIqbCgabavfFpaCfdCmaBeaebClaccbaCbhibGpava",
       "CAShbcaDkbBypFmaBwaBwbebcbEhbcbyaGbacbfaJdbbbbbbaBLXjabaExaBtcebElaybChaBwcjaoaDpcdbGqcB",
       "fbChabdcbcbvbDhbpabbDzcibdaEdbgabbbacaJebgdcaEjcibbaEfabbEgahaKbcjaJoebbhabaFmcideaDgaBd",
       "bCkaPraoaEcahacaIfeebbaNmbmaBwbibYZacFJgCc"]⟩,
    ⟨["T"],
      ["GRwDjCWXnBw"]⟩,
    ⟨["V"],
      ["GPcCtCWZwwCERcadd"]⟩,
    ⟨["ZWJ"],
      ["MDpa"]⟩
  ]

def wordBreaks : List NamedTable :=
  [
    ⟨["LE", "ALetter"],
      ["CnzgzBvakaeafwbBebSlgBhEiebbcdbagabcbabtbDebFiiGjbBlcdbabBobaEaaBsBqBjbbDubapbhbkccapbbB",
       "dBdDklayBgjbeafveajadaxyhkfxbfrBpCgCbdasahjppehcbcvbgbadddaqanbbcobkaifebcvbgbbbbbbBfdba",
       "tcqibcbvbgbbbedasapbxalhcbcvbgbbbedaBebbcparabfdcbddbbabbdbdcdlwaCahbcbwbpdaBaccacbBeaeh",
       "bcbwbjbedaBfbbbpbribcbBocaqafcicyffrdxbibacgMbaClhbBjBbeKpBlbafacBqbMubdcgbabdcBobdcBgbd",
       "cgbabdcobCebdcCoBlpqDhcfdXvcqbzfCwdkhrnsorombcGtDkhecBhbafCrkBeIrwJeBurhCcBdnbkBrBaBjBpc",
       "kBjckfBqccBpdbfbbdafHjCmKrcfcBlcfchbabababBecCabgbadcbgddcfemfcbgEmanaqmDxaeacjbadegabab",
       "abdbkcdfeearBoBFhBzCRuIugddbmBlbafacCdhaqwjgbgbgbgbgbgbgbgDcaSbaCbbHsBqbDprBfBPToBSuCpBt",
       "cKidpkbuBuqBecDbyHpcbbabhvpbcbdbwBdBzoBxCkfdabblBbkwzBchBuBcaBwBoxcbhFskhcmfcfcfjgbgbCfg",
       "EkBdQNrmweBwNGugmeCeDtBhNysClcCbBolEmebFeBkzgzCrBedfcfcfccBjlbzbsbbbocnBiEsCrCaKhBcdBwBv",
       "BfnBdfBlkBdcBjehbeBqGbsBjeBjeBniBzmkbobgbbbkbobgbbdBzmLyjvkhyfbBpbiCrfcabBrbbdacwkwjBeCn",
       "sbbkvkzCsCdgbCmapdbcbBcBqBcdBcBjhbBbBbCbkvksnrEgCuCdBynBynBjBmBbjwJqBpgbqcChBckaivBqrBuu",
       "BbwmCaCfbcanBsBgyBaBjBdacaiBidamBvodvabaBjrbytbClgbabdbobjhBuBmhcbcvbgbbbedasameBejbacab",
       "BlbazabaBsCasducBeBvubbaHcBuBpdBkBvuaChBqnaMpBrEmClBfhcachbbbxpabaDqhcBmqabaBcakBnhavalB",
       "ttasCuHrBgBfibBkraBxBdEigbbbBlvazfbbbBfoaMpspabmbBhEuaDbBJlDyEgrHnDXkDspBPfrfzFXqfWkKDdB",
       "dCPuVwhBerDarBdsBvqdBfufsQqBsIdClEyCwfaComCmbbaBCVkEcfmdihjIWkDgbCsbbcacbcdblbabgbCmbdch",
       "bgbBbbdbebadgbNbcybybBebybBebybBebybBebybhCSyBegfKbCjFqBskgqaMjBdsBrSqBbIuBdcaTbgbdbbbob",
       "HoChCphaBUidbBabbbacabjbdbabagaeabababcbbbacabababababbbacdbgbdbdbabjbqfcbebqYezgzgz"]⟩,
    ⟨["CR"],
      ["na"]⟩,
    ⟨["DQ", "Double_Quote"],
      ["Bia"]⟩,
    ⟨["Extend"],
      ["BDoEhKpgKdBsbabbbbbaCukBwuqaDxgcfcbbdBjaBeBaDnkCgijaydbibcbeBrcChiBqxbBgCccbrbgkbBdcCeab",
       "gcbccjakbBaaccCeabeebccdaBebdalcCeabhbcbcubwfbcCeabgcbcchckbBeaChedcbdjaBoeCdabgbcbdhblb",
       "BdcCeabgbcbdhblbpamdCdbbgbcbdjakbBdcCsaefbabhsbCjacgmhDuacilgCvbBbababaebBxtbbfkbBjjaDwt",
       "xdecbccgddnlbakdBBbcBKkdBccBdbBebCmBfjaBtcbaEnbBiaEolelIleCfjbBccaBwBeBxeBvqBmimcBemCenB",
       "wtFwcbueagaccHqClUeaHnBgEOccFlaDsBfVifEbbBSQedbjBgbDcbKmadaeaxeeaDfbByrBarnaBmhzmBsdBvnB",
       "kaCpnmaibBtcByabccbfbbaBpefbJchbbBDZsaBCjpqpOcbXhaIsaFteCMgcbbfdBoceaGjbWbdCneMfbDbdCskB",
       "xdEscCboBpacbkdBtkhaCjcBknqbBsamcBwnidbbDolgacaGblvdCdbbgcbccjakbcgdeCpibacabdbebaobDerx",
       "aDdtJbgciBbbDeqEcmDxoJwoJlfbbcdbabbFlgcgdaBcjBogbdiajkBupPphbhDevbnEsfdabbbgbaCoebbbeNjd",
       "jbbaBwgdexaHXtagoQYyrDSaeChgBOiabCchdDdalbBDAxbGYzBtcwUwedfihcgBedFscCYdCceBxiaoaweboCAi",
       "gbqcgbbbeDwaGegOlaCjdTodJubBCigEfgEBgeBSXYuDrEyJf"]⟩,
    ⟨["EX", "ExtendNumLet"],
      ["DraMBfapbtaDGAobycJfa"]⟩,
    ⟨["FO", "Format"],
      ["GraCBmaGUraDAtbBaeBxebjDGHjaJpcTUapBZQudHWxhBTKZma"]⟩,
    ⟨["HL", "Hebrew_Letter"],
      ["CFgBaedDOVyabjbmbebabbbbbj"]⟩,
    ⟨["KA", "Katakana"],
      ["SGneDxbdDmbdJgpIaBubDjCZHeCdCOUcdbgbbbaLbcByaod"]⟩,
    ⟨["LF"],
      ["ka"]⟩,
    ⟨["ML", "MidLetter"],
      ["CgaEuaBBraSdaFsaJXyaDGBbaCnaHoa"]⟩,
    ⟨["MN", "MidNum"],
      ["BsaoaBGcaUcaFabDqaPfaJFfaDFZvadaChadaHbaoa"]⟩,
    ⟨["MB", "MidNumLet"],
      ["BuaMCfbkaDGDpaGyaga"]⟩,
    ⟨["NL", "Newline"],
      ["lbEqaLZmb"]⟩,
    ⟨["NU", "Numeric"],
      ["BwjCEwfDmjbaEjasjHqjHqbDcaFbjEojEojEojEojEojEojEojEojEojDsjEojCsjKsjCsjCTqjBmjLojEyjGkjg",
       "jHajDijFejgjCAEojBAcjBmjHqjwjDijPqjBFMcjCCkjDFyjgjBEqjCzapaBijCijFojKsjNejEojOkjDyjgtCyj",
       "QgjDyjZmjDijJmjCsjQgjYYgjDMcjDijFejUojBKDyjECqBxDNcjQgjTijJnjBGvjHBaj"]⟩,
    ⟨["RI", "Regional_Indicator"],
      ["HGOkz"]⟩,
    ⟨["SQ", "Single_Quote"],
      ["Bna"]⟩,
    ⟨["WSegSpace"],
      ["BgaIMhaDPngbcDgaFXwa"]⟩,
    ⟨["ZWJ"],
      ["MDpa"]⟩
  ]

def sentenceBreaks : List NamedTable :=
  [
    ⟨["AT", "ATerm"],
      ["BuaMCraDGDpaHfa"]⟩,
    ⟨["CR"],
      ["na"]⟩,
    ⟨["CL", "Close"],
      ["BiaecBxabaBdabaBtapaFMsdCUnbDPjhzbkbCcbobYjdBdbBPgfhnDbbBfjPnvCldBgbBNmnobcjyashQljchbcC",
       "ZRqbIhbBcpcbqfGnbBxabaBdababbbbDPOsc"]⟩,
    ⟨["EX", "Extend"],
      ["BDoEhKpgKdBsbabbbbbaCukBwuqaDxgcfcbbdBjaBeBaDnkCgijaydbibcbeBrcChiBqxbBgCccbrbgkbBdcCeab",
       "gcbccjakbBaaccCeabeebccdaBebdalcCeabhbcbcubwfbcCeabgcbcchckbBeaChedcbdjaBoeCdabgbcbdhblb",
       "BdcCeabgbcbdhblbpamdCdbbgbcbdjakbBdcCsaefbabhsbCjacgmhDuacilgCvbBbababaebBxtbbfkbBjjaDwt",
       "xdecbccgddnlbakdBBbcBKkdBccBdbBebCmBfjaBtcbaEnbBiaEolelIleCfjbBccaBwBeBxeBvqBmimcBemCenB",
       "wtFwcbueagaccHqClUebHmBgEOccFlaDsBfVifEbbBSQedbjBgbDcbKmadaeaxeeaDfbByrBarnaBmhzmBsdBvnB",
       "kaCpnmaibBtcByabccbfbbaBpefbJchbbBDZsaBCjpqpOcbXhaIsaFteCMgcbbfdBoceaGjbWbdCneMfbDbdCskB",
       "xdEscCboBpacbkdBtkhaCjcBknqbBsamcBwnidbbDolgacaGblvdCdbbgcbccjakbcgdeCpibacabdbebaobDerx",
       "aDdtJbgciBbbDeqEcmDxoJwoJlfbbcdbabbFlgcgdaBcjBogbdiajkBupPphbhDevbnEsfdabbbgbaCoebbbeNjd",
       "jbbaBwgdexaHXtagoQYyrDSaeChgBOiabCchdDdalbBDAxbGYzBtcwUwedfihcgBedFscCYdCceBxiaoaweboCAi",
       "gbqcgbbbeDwaGegOlaCjdTodJubBCigEfgBTCAfDrEyJf"]⟩,
    ⟨["FO", "Format"],
      ["GraCBmaGUraDAqacbBaeBxebjDGHjaJpcTUapBZQudHWxhBTKZma"]⟩,
    ⟨["LF"],
      ["ka"]⟩,
    ⟨["LO", "Lower"],
      ["DtzBvakaeaBkxbhbabababababababababababababababababababababababababababbbabababababababbb",
       "ababababababababababababababababababababababacababccabacadbeacadccacababacabbbacadabacbc",
       "cgacacababababababababbbababababababababbcabadababababababababababababababababababababab",
       "ababababababababgcacbbaeababababCqbBjhbBeeFkabadacdsaBbBibbdcbabababababababababababebac",
       "acbBzBvbababababababababababababababababajababababababababababababababababababababababab",
       "abababacababababababbbababababababababababababababababababababababababababababababababab",
       "ababababababababababababababaBwBoEItaBDjfDFuibaEnHjCnabababababababababababababababababa",
       "babababababababababababababababababababababababababababababababababababababababababababa",
       "bababababababababababababibababababababababababababababababababababababababababababababa",
       "babababababababababababababababababiifkhihifkhihinchihihiebbgadcbbidcbihkcbbEranaqmEfadb",
       "daBbaeaeacbideaBhpeaBGlzCTqBvbadbbababaeabbbhdababababababababababababababababababababab",
       "ababababababababababababababababababababababababababababbhabaeamBlbafaBTWdababababababab",
       "abababababababababababababababatabababababababababababababcFdababababababcbababababababa",
       "babababababababababababababababababababababababjbabacababababaeabacabcbababababababababa",
       "bafafabababababababaeabacadabababababawcbabcBFpBqbngDbBEAigmeBOzzBVhBnFgBjFzkbobgbbRjacc",
       "bBpbiBXlByEvvEGoBfBGJwBfBMMkzBagbrBazBadbabgbkBazBazBazBazBazBazBazBazBaBbBcybfBaybfBayb",
       "fBaybfBaybfbaCSyjbtgfKbCjDHsBh"]⟩,
    ⟨["NU", "Numeric"],
      ["BwjCEwfDmjbbEiasjHqjHqbDcaFbjEojEojEojEojEojEojEojEojEojDsjEojCsjKsjCsjCTqjBmjLojEyjGkjg",
       "jHajDijFejgjCAEojBAcjBmjHqjwjDijPqjBFMcjCCkjDFyjgjBEqjCzapaBijCijFojKsjNejEojOkjDyjgtCyj",
       "QgjDyjZmjDijJmjCsjQgjYYgjDMcjDijFejUojBKDyjECqBxDNcjQgjTijJnjBGvjHBaj"]⟩,
    ⟨["LE", "OLetter"],
      ["RbaedIaaBkgglBaabaFdaSqaEoBaeeBsBqBjbbDubapbhbkccaqabBdBdDklayBgjbeafveajadaxyhkfxbfrBpC",
       "gCbdasahjppehcbcvbgbadddaqanbbcobkaifebcvbgbbbbbbBfdbatcqibcbvbgbbbedasapbxalhcbcvbgbbbe",
       "daBebbcparabfdcbddbbabbdbdcdlwaCahbcbwbpdaBaccacbBeaehbcbwbjbedaBfbbbpbribcbBocaqafcicyf",
       "frdxbibacgCgBvbbmgCgbbabebxbabjbbjacebavdBgaClhbBjBbeElBquaqfeddadbhcemmaCnBqcMtbdcgbabd",
       "cBobdcBgbdcgbabdcobCebdcCoBlpEjXvcqbzfCwdkhrnsorombcpBzBjaeaCpDkhecBhbafCrkBeBxBdcelBrez",
       "CcwjCaDeaDpBurhCcBdnbkBrBaBjBpckBjsBqccBpdbfbbdaBPqdCtccdEKtCdhaqwjgbgbgbgbgbgbgbgDcaSbc",
       "ziheceeDhgcbDlbdfBqbDprBfBwpTsJTnCmBGUeCpBtcKidpkbCoaqaBgDbBniEaagaDzadgbcbdbwBdBzoBxCkf",
       "dabblBbkwzBchBuBcaqebjkebBoxcbhuwdadBxbadbcecabaycckhcmfcfcfjgbgFpBiBdQNrmweBwMNcObcEbCp",
       "abjbmbebabbbbbEdBhNysClcCbBolEmebFeEbCdcBedfcfcfccBjlbzbsbbbocnBiEsCrCaKhBcdBwBvBfnBdfBl",
       "kBdcBjehbeEsCzDuBniBzDoBzmLyjvkhzbEvfcabBrbbdacwkwjBeCnsbbkvkzCsCdgbCmapdbcbBcBqBcdBcBjh",
       "bBbBbCbkvksnrEgCuHbBjBmfBfaKmBpgbqcChBckaivBqrBuuBbwmCaCfbcanBsBgyBaBjBdacaiBidamBvodvab",
       "aBjrbytbClgbabdbobjhBuBmhcbcvbgbbbedasameBejbacabBlbazabaBsCasducBeBvubbaHcBuBpdBkBvuaCh",
       "BqnaCtBaBlgHdBrIdhcachbbbxpabaDqhcBmqabaBcakBnhavalBttasCuHrBgBfibBkraBxBdEigbbbBlvazfbb",
       "bBfoaMpspabmbBhEuaDbBJlDyEgrHnDXkDspBPfrfzFXqfWkKDdBdCPuVwhBerDarBdsBvqdBfufsQqBsPnCwfaC",
       "omCmbbaBcJBziBVpBpjNFrdbgbbbLepaBdccaodiPfDKuEcfmdihjNBcaThBskgqaMjBdsBrSqBbIuBdcaTbgbdb",
       "bbobHoFeaBUidbBabbbacabjbdbabagaeabababcbbbacabababababbbacdbgbdbdbabjbqfcbebqGOaCLFbBgG",
       "DtgIncINpoLBkpXxDQwUvCFyHHyfGFf"]⟩,
    ⟨["SC", "SContinue"],
      ["BsbmbBGcaSkaGsbSwaGBxafaDBebGAuaDAAwbbbBcbBdbcbcakaGmbmbCua"]⟩,
    ⟨["ST", "STerm"],
      ["BhaBdaCAbaFrcGyaBrcJmaCjabadbLhbCPwbBEkaebBDtaHqbGbbBtafaMcbNqdGgbkbcbBdcHfbCnbBKubjcEUx",
       "cLuanawbQnaBSHwaKkbItadaOsbDibDraFwbFrcFobJpaBFCwacbClbGnaBdaCnaEDwbBXdeBsdHhbEndExcEzbg",
       "aqbDkbbbEeaLmbEnbOjbfoEbbJpcTxabaJrbDjbQebBAqbCwbBCMbbFdaCnblaVhbLkaBDOgaLIma"]⟩,
    ⟨["SE", "Sep"],
      ["FdaLZmb"]⟩,
    ⟨["SP", "Sp"],
      ["jabbtaExaIHjaDPnkBkaBvaFXwa"]⟩,
    ⟨["UP", "Upper"],
      ["CnzDxwbgBhabababababababababababababababababababababababababababacabababababababacababab",
       "ababababababababababababababababababababbbabadbbabbbccdbbbcdbbbbababbbacabbbcbabbdahbbbb",
       "bbabababababababacababababababababacbbabcbababababababababababababababababababababababab",
       "abababababahbbbcabdbabababaLdabadaiagabcbabbbqbiBjaccdabababababababababababafacabbcByBw",
       "ababababababababababababababababajababababababababababababababababababababababababababab",
       "bbabababababacababababababababababababababababababababababababababababababababababababab",
       "ababababababababababacBlEHdBlbafaBBuDhDGlaOkabababababababababababababababababababababab",
       "abababababababababababababababababababababababababababababababababababababababababababab",
       "ababababababababajababababababababababababababababababababababababababababababababababab",
       "abababababababababababababajhifkhihiflabababaihyhihihieleldmeleKbaeadccccadegabababdcdkb",
       "faBaptaBFmzCSuBvBwabccabababdbacaicbabababababababababababababababababababababababababab",
       "ababababababababababababababababababababababaiabaeaBTYjababababababababababababababababa",
       "babababababatabababababababababababababaFfababababababadabababababababababababababababab",
       "ababababababababababababababakababbbabababaeabacabadababababababababababebebabababababab",
       "abdbabbdafabababayaBHAhzBUzBnFgBjGakbobgbbCQcByGbvEGoBfBGJwBfBMMqzBazBazBaabbcacbcdbhBaz",
       "BabbdchbgBbbbdbebadgBbzBazBazBazBazBazBeyBhyBhyBhyBhyBhaGNlBhDBizgzgz"]⟩
  ]

end Loom.Unicode
