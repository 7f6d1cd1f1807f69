import Loom.Unicode.Category

/-!
# Binary properties

The code points that have each of the standard's yes-or-no properties.
-/

namespace Loom.Unicode

/-- Every binary property, the long name first. -/
def binaryProperties : List NamedTable :=
  [
    ⟨["Alphabetic", "Alpha"],
      ["CnzgzBvakaeafwbBebRpeloehabaDiaBdrbbcdbagabcbabtbDebFiiGjbBlcagBoBnnbabbbbbaiBaedBdkfCdb",
       "goDxbheheckccaqBvnDwyBgjbeafxcstyhkfxbfiaiBpkldggCxbpbceonsbhcbcvbgbadddhcbcbbaiaebbembk",
       "aecbfebcvbgbbbbbbeeebcbeahdbarflcbibcbvbgbbbedibcbbdapdvdecbhcbcvbgbbbedhcbcbjbebbenaqbb",
       "fdcbddbbabbdbdcdleedcbcdagaBombcbwbpdhbcbcibbccacdBcdbhbcbwbjbedhbcbcibgbbdncmmbcbBochbc",
       "bcbafdhewfbcbrdxbibacgifbabhsbnCffggaBzbbabebxbabsbccebagaodBgaClhbBjesepbBjCpCcbaceqClk",
       "dcBlbafacBqbMubdcgbabdcBobdcBgbdcgbabdcobCebdcCoBlpqDhcfdXvcqbzfCwdkhtlumtmmbcbbmBzcsoae",
       "aCpDkhBqfCrkBebleixBdcelBrezCcBbeCkctByaxblcBxBzbobhBzBpcdkBrbkoCcwckBjckfBqccBpdbfbbdaf",
       "HjtBhlKrcfcBlcfchbabababBecCabgbadcbgddcfemfcbgEmanaqmDxaeacjbadegabababdbkcdfeearBoBFhB",
       "zCRuIugddbmBlbafacCdhaqwjgbgbgbgbgbgbgbgbBfBvaSbcziheceeDhgcbDlbdfBqbDprBfBwpTsJTnCmBGUe",
       "CpBtcKidpkbuBufhdEiBnicDycCocbbabhvtbBgyBzmCpbaBsfdabckBgfBinBcdByblpaqpkebCcjnswdCqbaba",
       "yccpcdlfcfcfjgbgbBqbngEsvQNrmweBwMNcObcEbBmgmeflbmbebabbbbbEdBhNysClcCbBolEmebFeBkzgzlDk",
       "dfcfcfccBjlbzbsbbbocnBiEsCrCaKhBcdBwBvBfnBdfBqfBdcBjehbeBqGbsBjeBjeBniBzmkbobgbbbkbobgbb",
       "dBzmLyjvkhyfbBpbiCrfcabBrbbdacwkwjBeCnsbbkvkzCsCdgbCmdbbfhbcbBcBqBcdBcBjhbBbBbCbkvksnrEg",
       "CuCdBynBynBnBiBbdafwJqBpbbdbqcCdadBckaivBqrBuuBbwjCrBrekCejanyxByrdiBidajClbdjbkabaBjrbB",
       "hcagdCkgbabdbobjhCexdbhcbcvbgbbbedhcbcbdagafgBcjbacabBlbjbacabdbbdabaBsCnbcbducBeCncbbaH",
       "cCbcgzfBiCkbadaChCbcaCtBacnvgHdCeDzClBfhcachbbbBdbbcbcdDphcBtcfbabbBbBycjrCtfasCuHrBgBfi",
       "bBsbgbaBxBdcvbnCvgbbbBrdabbbcbacbyfbbbBkbbbdbaMpwjqbBodcEhaDbBJlDyEgrHnDXkDspBPfrfzFXqfW",
       "kKDdBuCPdVwhBerDarBdsBvqdBfufsQqBsIdClEyCweCehqCmbbamboJBziBVpBpjNFrdbgbbbLepaBdccaodiPf",
       "DKuEcfmdihjeaIWfDgbCsbbcacbcdblbabgbCmbdchbgbBbbdbebadgbNbcybybBebybBebybBebybBebybhCSyB",
       "egfIfgbqcgbbbefCjBhaEiBskgqaMjBdsBrSqBbIuBdcaTbgbdbbbobHoChCpdadaBUidbBabbbacabjbdbabaga",
       "eabababcbbbacabababababbbacdbgbdbdbabjbqfcbebqYezgzgzFMkCLFbBgGDtgIncINpoLBkpXxDQwUvCFyH",
       "HyfGFf"]⟩,
    ⟨["ASCII_Hex_Digit", "AHex"],
      ["BwjhfBaf"]⟩,
    ⟨["Bidi_Control", "Bidi_C"],
      ["CIeaJVlbBaeCdd"]⟩,
    ⟨["Bidi_Mirrored", "Bidi_M"],
      ["BobsabaBcabaBdabaBtapaFMsdCUnbDQqbkbCcbobGvaHkddfdadbddbdbabaeifabrfdjbbabhbBfcdfajbcsfb",
       "jecbexcpidubhbBPtnCwacdbbbcfdfcdnPnvcfbniahfdaeebbceeabccbkfcbmsbdcabacabdfbgcyblbedbbcb",
       "eBqchbBnfabadefceadebaJwaTvddbbbobcjBrhQljchDACrffbGgbsabaBcabaBdababbbbDDPnaCfaCfaCfaCf",
       "a"]⟩,
    ⟨["Case_Ignorable", "CI"],
      ["BnagalaBjabaCtaeabaeacbTjHjebeajbbaJrgHzafaBxBsbabbbbbaBsalfkkbaBjakuqaDxhbjbdBhabaBeBaD",
       "nkCgkeacayxBrcBsahbfiBpCfCdabaeheadgkbnapaCgaediaubBaacbCfaebebccdaBebdalbCfaeebbeaubwfb",
       "aCgacabdiahblbBeaCjamaByadaCdabcfcbdhblbBdaCgacagafbubBcbCfbediaubBdaCuahcbaDmacgliDuaci",
       "jabgCvbBbababaCdnbebbfkbBjjaDydbfbbcbzbecqdnacbgapaDqaXkcBKkcBdbBebBebCmbbgiackdafaBteBz",
       "aCnbBiaEocebjagcIlbcaCgabgbabachgjcaBnaiBeBxdBwabebafaBoimbBgdcbbcCeabbdabcCghcbCmfDecbm",
       "bgeagadbByCknaBiDwRdabclcncncnbmeibkacaceBxebjbanaqmBzBgEJrbEjcEvapaDsBfBvaSbaBkddefaDpf",
       "DpcBQBuaBWcfKkaDudbjbaBcdDcboBhDaaxcDzcdbiadaeazbfaFvbBarnaBmhzkBucBwacdcbravbCofcbcbmai",
       "aBjalaBzabccbfbbaBbaobfbbaDwejcEracaeaBDZsaFrqWbpdampBiacaGnahagalaBjabaBvaBtbCpavcTtaIs",
       "aFteBNpfbBpbiWkcbbfdBoceaGjbWbdBmaBaebaMdbDbdCskBxdEtaCcoBpacbkcBxdcbcaeakaBycBkebhCkamb",
       "CaikdcaDrccabbgacaGbadhvbCfbdaBlgdeCsfnababaobDhhccbaxaDgfbaebbbJedgbbbBbbDhhcabbEcabacf",
       "baDxabacdbeJzibbJwbbaeaFodcbeaBgjBofcdiajfccBumbbPqgbfbaDevcgbbbbEsfdabbbgbaCubdabaNjblb",
       "CaefabaxaHXdqgoQYyldcDSaeChgjdTocBobSoaClqCmbbbYGpdbgbbEUgbbdGYuBtcwUycjpcgBedFscCYdCceB",
       "xiaoaweboCAigbqcgbbbefCjBhaGenOeaCjdTneJubBCigEfhEBfeBSXXpaBeDrEyJf"]⟩,
    ⟨["Cased"],
      ["CnzgzBvakaeafwbBebHmbdeHzbBjhbBeeDsaBqdcbcdbagabcbabtbDebFiiGjbBljBoEFfBlbafacBqbdZwDhcf",
       "DFukfBqccCmHjCmKrcfcBlcfchbabababBecCabgbadcbgddcfemfcbgEmanaqmDxaeacjbadegabababdbfeacd",
       "feearBfdbBFlBzCRuIugddbmBlbafaBTWcBtsBdFcDxddbCjcbbabhvebcBFpBqbngDbBEAigmeBNtzgzBTtDbDs",
       "BjeBjEmkbobgbbbkbobgbbRjaccbBpbiBUzBynByDpvkvEFiClBGIqClBMLkDgbCsbbcacbcdblbabgbCmbdchbg",
       "bBbbdbebadgbNbcybybBebybBebybBebybBebybhCSyjbtgfKbCjDGkCpDAazgzgz"]⟩,
    ⟨["Changes_When_Casefolded", "CWCF"],
      ["CnzDmakwbhBgabababababababababababababababababababababababababababacababababababababbbab",
       "abababababababababababababababababababababbbabababbbabbbccdbbbcdbbbbababbbacabbbcbabbdah",
       "bbbbbbabababababababacababababababababacbbabcbababababababababababababababababababababab",
       "abababababababahbbbcabdbabababaJmaBqabadaiagabcbabbbqbiwamcdbbababababababababababababbc",
       "bbabbcByBwababababababababababababababababajabababababababababababababababababababababab",
       "abababababbbabababababacabababababababababababababababababababababababababababababababab",
       "abababababababababababababababacBlBwaEFgBlbafaBFefDFujgBqccMiabababababababababababababa",
       "babababababababababababababababababababababababababababababababababababababababababababa",
       "bababababababababababababababababafbcabababababababababababababababababababababababababa",
       "bababababababababababababababababababababababajhifkhihiflabababaihqBvcccffccfldmefccfLla",
       "dbgaBtptaBFmzCSuBvBwabccabababdbacaicbababababababababababababababababababababababababab",
       "abababababababababababababababababababababababaiabaeaBTYjabababababababababababababababa",
       "bababababababatabababababababababababababaFfababababababadababababababababababababababab",
       "abababababababababababababababakababbbabababaeabacabadababababababababababebebababababab",
       "ababdbabbdafabababayaBIgDbBEAigmeBNtzBUzBnFgBjGakbobgbbCQcByGbvEGoBfBGJwBfBULkBh"]⟩,
    ⟨["Changes_When_Casemapped", "CWCM"],
      ["CnzgzCgakwbBebClbDfbBbcncbbaeDobrgBabbbabbdbbdbecabbcahacabbdffakbGkaBqdcbdcbagabcbabtbB",
       "udBgbebFciGjbBlkBmEFgBlbafacBqccZwDhcfDFukfBqccHdadaqaEjFzcabEncfcBlcfchbabababBecCabgba",
       "dcbgddcfemfcbgLladbgaBbarBfdbBFlBzCRuEibbbbhDxhddbmBlbafaBTWcBtsBbFencCjjodccebybBdcbegy",
       "bBHcaBcDbBEAigmeBNtzgzBTtDbDsBjeBjEmkbobgbbbkbobgbbCOpBynByDpvkvEFiClBGIqClBUKeCp"]⟩,
    ⟨["Changes_When_Lowercased", "CWL"],
      ["CnzDxwbgBhabababababababababababababababababababababababababababacabababababababacababab",
       "ababababababababababababababababababababbbabadbbabbbccdbbbcdbbbbababbbacabbbcbabbdahbbbb",
       "bbabababababababacababababababababacbbabcbababababababababababababababababababababababab",
       "abababababahbbbcabdbabababaLdabadaiagabcbabbbqbiBjaiabababababababababababafacabbcByBwab",
       "abababababababababababababababajabababababababababababababababababababababababababababbb",
       "abababababacabababababababababababababababababababababababababababababababababababababab",
       "abababababababababacBlEHdBlbafaBBuDhDGlagBqccMiababababababababababababababababababababa",
       "babababababababababababababababababababababababababababababababababababababababababababa",
       "babababababababababajabababababababababababababababababababababababababababababababababa",
       "bababababababababababababababajhifkhihiflabababaihyhihihieleldmeleLladbgaBtptaBFmzCSuBvB",
       "wabccabababdbacaicbababababababababababababababababababababababababababababababababababa",
       "babababababababababababababaiabaeaBTYjababababababababababababababababababababababatabab",
       "abababababababababababaFfababababababadababababababababababababababababababababababababa",
       "babababababakababbbabababaeabacabadababababababababababebebabababababababdbabbdafabababa",
       "yaBHAhzBUzBnFgBjGakbobgbbCQcByGbvEGoBfBGJwBfBULkBh"]⟩,
    ⟨["Changes_When_Titlecased", "CWT"],
      ["DtzCgaBpxbhbabababababababababababababababababababababababababababacabababababababbbabab",
       "ababababababababababababababababababababacababccabacadafacadccacababacaeacadabacadabaeab",
       "bbbbababababababababbbababababababababcbabadabababababababababababababababababababadabab",
       "ababababababaiacbbaeababababfbbbabbdbbdbecabbcahacabbdffakbGkaBrabadadcsaBbBibbdcbababab",
       "ababababababababebacacaCaBvbababababababababababababababababajababababababababababababab",
       "abababababababababababababacababababababbbababababababababababababababababababababababab",
       "ababababababababababababababababababababababababaBxBmFMefDFuibaJeadaqaEkabababababababab",
       "abababababababababababababababababababababababababababababababababababababababababababab",
       "ababababababababababababababababababababababgfababababababababababababababababababababab",
       "ababababababababababababababababababababababababababiifkhihifkhihinchihihiebbgadcbbidcbi",
       "hkcbbNeaBhpeaBGlzCTqBvbadbbababagacakabababababababababababababababababababababababababa",
       "babababababababababababababababababababababababaiabaeamBlbafaBTWdabababababababababababa",
       "bababababababababababatabababababababababababababaFfababababababadababababababababababab",
       "abababababababababababababababababababakabacababababaeaeabbcabababababababababalabababab",
       "abababaeabacadafababaBaaBHcaBcDbBEAigmeBOzzBVhBnFgBjFzkbobgbbCRbByEvvEGoBfBGJwBfBULmBh"]⟩,
    ⟨["Changes_When_Uppercased", "CWU"],
      ["DtzCgaBpxbhbabababababababababababababababababababababababababababacabababababababbbabab",
       "ababababababababababababababababababababacababccabacadafacadccacababacaeacadabacadabafbb",
       "bbbbabababababababbbababababababababbbbbadabababababababababababababababababababadababab",
       "abababababaiacbbaeababababfbbbabbdbbdbecabbcahacabbdffakbGkaBrabadadcsaBbBibbdcbabababab",
       "abababababababebacacaCaBvbababababababababababababababababajabababababababababababababab",
       "ababababababababababababacababababababbbabababababababababababababababababababababababab",
       "abababababababababababababababababababababababaBxBmEHcBqccBDgfDFuibaJeadaqaEkabababababa",
       "babababababababababababababababababababababababababababababababababababababababababababa",
       "bababababababababababababababababababababababababgfababababababababababababababababababa",
       "bababababababababababababababababababababababababababababiifkhihifkhihincCabbeabadcbbead",
       "dcbihkcbbeaMzaBhpeaBGlzCTqBvbadbbababagacakababababababababababababababababababababababa",
       "bababababababababababababababababababababababababababaiabaeamBlbafaBTWdababababababababa",
       "babababababababababababababatabababababababababababababaFfababababababadabababababababab",
       "ababababababababababababababababababababababakabacababababaeaeabbcabababababababababalab",
       "ababababababaeabacadafababaBaaBHcaBcDbBEAigmeBOzzBVhBnFgBjFzkbobgbbCRbByEvvEGoBfBGJwBfBU",
       "LmBh"]⟩,
    ⟨["Dash"],
      ["BtaCAuaBzaFKjaBNpaDBdfCjaBnapaPaaEOiacaBfbeaBcaReataEhaCZWabBlakaGnaFLoaMga"]⟩,
    ⟨["Default_Ignorable_Code_Point", "DI"],
      ["GraZxaBBoaEGwbCKhbDheDApeBaeBxpGKyaCZMppJfaGeaDbiCTLndHWxhBTKZlGBn"]⟩,
    ⟨["Deprecated", "Dep"],
      ["MraBYvaDKtabaDCjbDIjfBAvbBZRYka"]⟩,
    ⟨["Diacritic", "Dia"],
      ["DqabaCtagaeacbTjGcbhffrbeajbJteIbaCdqbBababbbaFehebFebebdcCpBaDnkCgkBibEwhBpjqBbCjaqaddB",
       "caCwaqaEgaqaEgaqaBvcCiaqahaEpaEgaqaEgaqaEfbqaEuaEhamfbaEdaneCxbBbababaebCocbbCkaEiabbBob",
       "eezgbakbBBdcBKmbBeaFskjaNjcLgauhcaBwockEaapaBmiCcbCgalbCobCmfDeyeagaccByCkDllBlkRdabclcn",
       "cncnbEXkcMfaTmfEbdDraBSMkambbaBcbDeboBhDycEfbmaBlaFvaBbrCfdBkaDramaBkaFtcCndBzaDwejcEybB",
       "DZsaBDppKkabaBvaBtbCpaBDkaBTnfbBpbiYnceaGjbVzfBmaBaePjcCskBxdHkaBpaCubEqbCkaCyajcEabGwbD",
       "cbqaygdeDlcbbnbDradaEtbJrbEwaEobElaKjbJybeaGaaDfasaDdaQfaJyabbDdaQjbxaHYaoQZpaDSaeChgVsb",
       "VaqDcbYGcdbgbbLThBtcwUycdfihcgBedFMwCjHmgOlaCjdBDmbBCigEfcbc"]⟩,
    ⟨["Emoji"],
      ["BjagafjEhaeaLYramaIiawaDmfpbOdbmaGkazkecHraIxbkajaCgdbejacacbcaeacabbcadadbicfabafllbcab",
       "bbasacbsfbabbdbfacbeblbfbcafbbabbubffbdcaeacacfbacababagadagakbpacaeabaecbalbBwcjaoaoaOi",
       "bRvctbBzaeaBVuamaXdabaGMRqaHuaGebmboacjCxzbbxauacivbGsBhcEhcbbccDeccbKcbCklfbxhbchmacdca",
       "ebnbcaibjafcmciccabaeagadagDhBwCrfhccejdabbdacjItleaKxBubjbHcEimdjfCdhockgi"]⟩,
    ⟨["Emoji_Component", "EComp"],
      ["BjagafjMBjaIfaDFTraDOIwzTneCEadBSVUqDr"]⟩,
    ⟨["Emoji_Modifier", "EMod"],
      ["HHIxe"]⟩,
    ⟨["Emoji_Modifier_Base", "EBase"],
      ["OLhaIlaqdGSJvaCiccaccEnbckvsdaecbchabayaHtbeavaebGscdeDfaqcjalaWdacaihgajjccCeaCjbbbbarc",
       "bmIvcBqi"]⟩,
    ⟨["Emoji_Presentation", "EPres"],
      ["NHqbHxddacaUbbvbBylBratanaibrbfbiafavahbbaeacahaebBcaBjabaecbaCjcyaoaBHbbBzaeaGPLeaHuaHi",
       "acjCxzbayauacebcvbGsBgmibCrbvmBqeemqdadCsbabHecCkndbxsaBabnaDiDgBwCrgadcccedlbhiItleaKxB",
       "ubjbHcEimdjfCdhockgi"]⟩,
    ⟨["Extended_Pictographic", "ExtPict"],
      ["GnaeaLYramaIiawaDmfpbOdbmaDraCsazkecHraIxbkajaCgdbfblbEjkEnckbabagadagakbpacaeabaecbaleB",
       "tcjaoaoaOibRvctbBzaeaBVuamaXdabaGMRmJvncBfaCifmboacjsCeBbokauacibdjQrfMfiKfBwExEmlDhBqmd",
       "CehkfBohBeDdmBubjbQyJwBNh"]⟩,
    ⟨["Extender", "Ext"],
      ["HbaUqbBHuaQzaYgaFhaDlaBCyaExaDNfaCeaXnaPiaCqaHKjaBreDzbDpcBQBuaCGsaBLaawaFhaEeavbBFZvaDB",
       "kbCFbaBbaeaBVbaLhaEmbTecBVjaBEOfbBTkbbaBQYabBUfaBGuc"]⟩,
    ⟨["Grapheme_Base", "Gr_Base"],
      ["BgDqBhmbWvEihcfegbabtbIphGjbBlcBxccBuabacacajBaefrjlabBtvpbDwiagbcaeBfcabBdBdDklaoBqjgdx",
       "eajadahobyfabkfBerBpCfCcbabdidbchjcBcbbbhcbcvbgbadddabbgbcbbanbbcexfabfebcvbgbbbbbbecydb",
       "ahjccbamabibcbvbgbbbeddiabbdapbelhaibbhcbcvbgbbbedacagbcbpbbcerlabfdcbddbbabbdbdcdlfabbd",
       "cbcdavugcbhbcbwbpdaddtccacbejhjbkbcbwbjbedbcabbybbbejbcokbcbBocabbfcbcbbecbjezcbbrdxbiba",
       "cgjbgghjccmBvbblhimBlbbabebxbabjbbjacebajjcdBgxcBabababnbBjsafaceBxhbfbmBlBseagacbcycddp",
       "embbcfbobBnbafacOmbdcgbabdcBobdcBgbdcgbabdcobCebdcCofBcdzgDhcfcZsdDkhrnsdbjrombcpBzcahhb",
       "blidjgjgkfjgDkhecBhbafCrkBeedccebbfhadBpcelBrezgkdCecbdCdbajabbifnjgjgnDiBvkddhbBcjlcBfe",
       "bgCdbaccbanBvibfodCjfBqcklanahdbfbccafHjCmKrcfcBlcfchbabababBecCabobncfbsccbibkfxhBwqbcB",
       "abmdBgClFjeZpwkvCRrcBfbNfdbfBsbafacCdhbpwjgbgbgbgbgbgbgbgBhDpBizbDkmIfBaCfgpbDheDwfBqbDp",
       "bDhjBvbBRIqdCcjNjuBueakBfcDbcfiHxcbbabhvpbcbdbyceejgCdiCpklymbBliylamBdgBvbbebcbbmbkegby",
       "bBogbcblcbhbacjcBfbBybadbcecabayqchlfcfcfjgbgbCheEmbbbddjgQNrmweBwMNcObcEbBmgmefabxbebab",
       "bbbbEuqRccCbhaBgpqjwBibsbdeebFeeGacBedfcfcfccdgbgnbclbzbsbbbocnBiEsfceBsdDjbmdaBvBsFbBcd",
       "BwqBaeBjjBdfBlkBdbBkenBqGbcjgBjeBjeBniBzllbobgbbbkbobgbbdBzmLyjvkhyfbBpbiCrfcabBrbbdacwb",
       "CtiiBwsbbfBgdBafaCmCdetcBupdbcbBckihihClBgBkgljCbdBccBafzhdmgDcCuCdBynByhBpmjgBlixibIaBe",
       "bBpdacbqcChBnivliwredBmBbuwjabCbpgeBdbbcamBwebcbbdoyhjjBjfajriBibclBzjabhebbpbtlrbBbdbef",
       "bbClgbabdbobkgBubcnjibbhcbcvbgbbbedababdcbcbdamgBcjbacabBlbabbpabbdabcbbBnCdibdabubabcBe",
       "BvbbgabbbacacdijGkBubbgdcacBaBkByibbacdljgmtBqbabbibgjgtBcBadabbeajwHdBujacaDwDemhcachbb",
       "bxbebbgdbcjjCshcBpidbdBbakBngbehjagbdBtnacinCuhjHaBhojgibBloabfkBcdBfzahacaCxgbbbBlvajjg",
       "fbbbBkebbabahjLyscdjobBjibdwDiapBxnBJmDyEgbelHnDXkDunBPfrfzFXqfWkKDdBdmcdjCOsVwhBebjeDcb",
       "jgBdhakBvhokjbgbufsQqCfHqDmDxCwfCdlmCmdBcJBziBVpBpjNFrdbgbbbLepaBdccaodiPfDKuEcfmdihjcac",
       "aFVkJpgQtGaElCiJlkBmcChfcwbhBdeCivCndaEstmtmDijyFfDgbCsbbcacbcdblbabgbCmbdchbgbBbbdbebad",
       "gbNbcLfcVpCddByhbnbgBRwBegfKbCjFqBskgcjebMiBdsBrejfaRwBbejIgBdckeaSmgbdbbbobHociBwCphaej",
       "ebBEfCpCyCiHmdbBabbbacabjbdbabagaeabababcbbbacabababababbbacdbgbdbdbabjbqfcbebqCabKkBreD",
       "vmocobobBkkGrCeBcnBreihbofFyBLveqdmdEoeDqgleapleCdijgBniBdclebCkNbmncmdjfCdhockgihFqbDxB",
       "NqCLFbBgGDtgIncINpoLBkpXxDQwUvCFyHHyfGFf"]⟩,
    ⟨["Grapheme_Extend", "Gr_Ext"],
      ["BDoEhKpgKdBsbabbbbbaCukBwuqaDxgcfcbbdBjaBeBaDnkCgijaydbibcbeBrcChiBqxbBfCdabaeheadgkbBda",
       "CgabacdiajakbBaacbCfaebebccdaBebdalbCfaeebbeaubwfbaCgabbbdiahckbBeaChabamajaBoadaCdabcfc",
       "bdhblbBdaCgacbbadcbdhblbBcbCfbbacdiajakbBdaCuaeaccbaiaDdacgmhDuacilgCvbBbababaCdnbebbfkb",
       "BjjaDydbfbbcbzbecqdnacbgapaBBbcBKkdBccBdbBebCmbbgiackjaBtcbaEnbBiaEocebjagcIlbcaCgabgbab",
       "achgjcaBwBeBxdBwjecBmimbBgdcfCeabbdabeCehcbFwcbmbgeagadbHqClUeaHnBgEOccFlaDsBfVifEbbBSQe",
       "dbjBgbDcbKmadaeazbfaFvbBarnaBmhzkbaBscBwacdcbcaBkaCpfcbcbmaiaBvaBzabccbfbbaBqbiaJeacaeaB",
       "DZsaBCjpqpOcbXhaIsaFteCMgcbbfdBoceaGjbWbdCneMfbDbdCskBxdEtaCcoBpacbkcBxdcbhaCjcBkebhCkam",
       "bCaibaidcaDrccdgacaGbadhvbCfbbabamajaogdeCpacfbacabcecbaobDhhccbaxaDdacfbacabbbbJbacdgbb",
       "bBbbDhhcabbEcabachDxabacdbeJzibbJlakdeaFodcbeaBgjBofcdiajfccBumbbPqgbfbaDevcgbbbbEsfdabb",
       "bgbaCubdabaNjblbCaefcxaHXtagoQYyldcDSaeChgBOiaCldDdalbBDAxbGYzBtcwUwedfihcgBedFscCYdCceB",
       "xiaoaweboCAigbqcgbbbeDwaGegOlaCjdTodJubBCigEfgBTCAfDrEyJf"]⟩,
    ⟨["Grapheme_Link", "Gr_Link"],
      ["DNpaExaExaExaExaExaExaExaEfbqaEuaEhaExaHtaGybCPlbBeaGbaZdaItaDxbCsbGQtaBUKkaBlaFvaFmaEea",
       "LxaJmaBJSraCHiaBpaoaCfaErbFjaEmaGyaDuaEycEjaExaJsaExaEoaEmaKjaJzbGfaDfasaDdaQfaKabDdaQjb",
       "YZca"]⟩,
    ⟨["Hex_Digit", "Hex"],
      ["BwjhfBafDSLljhfBaf"]⟩,
    ⟨["Hyphen"],
      ["BtaExaBVwaGZzaDBdbFIbaBClaCZUlaGnaDja"]⟩,
    ⟨["IDS_Binary_Operator", "IDSB"],
      ["SEabcjTda"]⟩,
    ⟨["IDS_Trinary_Operator", "IDST"],
      ["SEcb"]⟩,
    ⟨["IDS_Unary_Operator", "IDSU"],
      ["SEob"]⟩,
    ⟨["ID_Compat_Math_Continue"],
      ["GwbfaMAgadkboOhaeawaGJJeazaBfazaBfazaBfazaBfaza"]⟩,
    ⟨["ID_Compat_Math_Start"],
      ["MWwaeawaGJJeazaBfazaBfazaBfazaBfaza"]⟩,
    ⟨["ID_Continue", "IDC"],
      ["BwjhzeabzBvakabacafwbBebRpeloehabarEmbbcdbagebabtbDebFibecGjbBlcagBoiBsbabbbbbaiBaedBdkf",
       "CveDxbhcjbscaqCgcDwoCbeacacBtsBbekfxbfiCwbEycjbsbhcbcvbgbaddcicbcdiaebbeclkabaccbfebcvbg",
       "bbbbbbcabeebccdahdbahplcbibcbvbgbbbecjbcbccapdcjjgbcbhcbcvbgbbbecicbcchcebbecjbaqbbfdcbd",
       "dbbabbdbdcdleedcbdcagaojqmbcbwbpcibcbdhbbccacdcjqdbhbcbwbjbecibcbdhbgbbdcjbcmmbcbBybcbef",
       "dhecjkfbcbrdxbibacgdaefbabhgjcbnCffobjBnbbabebxbabwcebabgbjcdBgaxbgjlababaejbBjetbrbBjja",
       "CfCvgCzcBlbafacBqbMubdcgbabdcBobdcBgbdcgbabdcobCebdcCoccjiopqDhcfdXvcqbzfCwdkhvjvltmmbcb",
       "bmDfdaebcjBhcbkgDkhBqfCrkBeblelkBncelBrezgkBlBbeCkbBcckgjnainbpBxCydjrimElmCdijdBwckfBqc",
       "cqcbBmfUncfcBlcfchbabababBecCabgbadcbgddcfemfcbgpbBxbtaBcanaqmBzmeadlraeacjbacfgabababpc",
       "dfeearBoDZbIugimBlbafacCdhapxjgbgbgbgbgbgbgbgbBfTxczobeceeDhcgbDqfBqbDprBfBwpTsJTnCmBGUe",
       "CpBtcKidBbuBvejbEkBlicDycCocbbabhvCbeatBzmCrkjgxdabBwcBjmBcdCmokgBebCcjncjgwdCuyccpcekfc",
       "fcfjgbgbBqbngEsbbcjgQNrmweBwMNcObcEbBmgmeflbmbebabbbbbEdBhNysClcCbBolepqpdbycBgebFetjhze",
       "abzkDldfcfcfccBjlbzbsbbbocnBiEsCrCaFgaFaBcdBwpaBfBfnBdfBqfBdcBjehbeBqGbcjgBjeBjeBniBzmkb",
       "obgbbbkbobgbbdBzmLyjvkhyfbBpbiCrfcabBrbbdacwkwjBeCnsbbkvkzCsCdgbCmdbbfhbcbBccceaBgBcdBcB",
       "jhbBdzCbkvksnrEgCuCdBynBynBnijgBldebwJqBpbbdbqcCdBgkaiBgBfvBquBbwjCsBfpjChhanyhjgCabjedi",
       "BjcajCqedbmbaBjrbBkgdCkgbabdbobjhCgfjgdbhcbcvbgbbbebjcbcccagafgcgdeljbacabBlbjbacabdbhnb",
       "BdCwfjedBeCrbaijGkCbcixfBiCmdaljBmCehjgtBcBacoejggHdCgDxCvvhcachbbbBdbbcimjCshcBtchbbBbC",
       "kiaiCvdasCuHrBgpjgibBsbipjyBdcvbnCvgbbbBrdabbbiijgfbbbBkbbbfhjLywjqbBodenkDhaDbBJlDyEgrH",
       "nDXkDspBPfqvkFXqfWkKDdCfCOsVwhBebjgDabjgBdcelCcjdmjjufsQqBsdjHqClEyCweCehqCmbbblboJBziBV",
       "pBpjNFrdbgbbbLepaBdccaodiPfDKuEcfmdihjdbGErjTyBtcwUwedfihcgBedFscRbDgbCsbbcacbcdblbabgbC",
       "mbdchbgbBbbdbebadgbNbcybybBebybBebybBebybBebybhcBxTsCceBxiaoaweboBQmBegfIfgbqcgbbbefCjBh",
       "aEiBsdncjeaMjBerCfScBpIgBqSrgbdbbbobHolgBpCxejBTudbBabbbacabjbdbabagaeabababcbbbacababab",
       "ababbbacdbgbdbdbabjbqfcbebqFAajBNqCLFbBgGDtgIncINpoLBkpXxDQwUvCFyHHyfGFfBONHgJf"]⟩,
    ⟨["ID_Start", "IDS"],
      ["CnzgzBvakaeafwbBebRpeloehabaEzebbcdbagabcbabtbDebFiiGjbBlcagBoCtBaedBtBqBjbbDubapbhbkcca",
       "qabBdBdDklayBgjbeafveajadaxyhkfxbfrBpCgCbdasahjppehcbcvbgbadddaqanbbcobkaifebcvbgbbbbbbB",
       "fdbatcqibcbvbgbbbedasapbxalhcbcvbgbbbedaBebbcparabfdcbddbbabbdbdcdlwaCahbcbwbpdaBaccacbB",
       "eaehbcbwbjbedaBfbbbpbribcbBocaqafcicyffrdxbibacgCgBvbbmgCgbbabebxbabjbbjacebavdBgaClhbBj",
       "BbeElBquaqfeddadbhcemmarBlbafacBqbMubdcgbabdcBobdcBgbdcgbabdcobCebdcCoBlpqDhcfdXvcqbzfCw",
       "dkhrnsorombcpBzBjaeaCpDkhBobafCrkBeBxBdcelBrezCcwjCaDeaDpBurhCcBdnbkBrBaBjBpckBjckfBqccB",
       "pdbfbbdafHjCmKrcfcBlcfchbabababBecCabgbadcbgddcfemfcbgEmanaqmDxaeacjbacfgabababpcdfeearB",
       "oDZbIugddbmBlbafacCdhaqwjgbgbgbgbgbgbgbgVecziheceeDheebDlbdfBqbDprBfBwpTsJTnCmBGUeCpBtcK",
       "idpkbuBuqBecDbBnicDycCocbbabhvpbcbdbwBdBzoBxCkfdabblBbkwzBchBuBcaqebjkebBoxcbhuwdadBxbad",
       "bcecabaycckhcmfcfcfjgbgbBqbngEkBdQNrmweBwMNcObcEbBmgmefabjbmbebabbbbbEdBhNysClcCbBolEmeb",
       "FeBkzgzlDkdfcfcfccBjlbzbsbbbocnBiEsCrCaKhBcdBwBvBfnBdfBlkBdcBjehbeBqGbsBjeBjeBniBzmkbobg",
       "bbbkbobgbbdBzmLyjvkhyfbBpbiCrfcabBrbbdacwkwjBeCnsbbkvkzCsCdgbCmapdbcbBcBqBcdBcBjhbBbBbCb",
       "kvksnrEgCuCdBynBynBjBmBbjwJqBpgbqcChBckaivBqrBuuBbwmCaCfbcanBsBgyBaBjBdacaiBidamBvodvaba",
       "BjrbytbClgbabdbobjhBuBmhcbcvbgbbbedasameBejbacabBlbazabaBsCasducBeBvubbaHcBuBpdBkBvuaChB",
       "qnaCtBaBlgHdBrEmClBfhcachbbbxpabaDqhcBmqabaBcakBnhavalBttasCuHrBgBfibBkraBxBdEigbbbBlvaz",
       "fbbbBfoaMpspabmbBhEuaDbBJlDyEgrHnDXkDspBPfrfzFXqfWkKDdBdCPuVwhBerDarBdsBvqdBfufsQqBsIdCl",
       "EyCwfaComCmbbaBcJBziBVpBpjNFrdbgbbbLepaBdccaodiPfDKuEcfmdihjIWkDgbCsbbcacbcdblbabgbCmbdc",
       "hbgbBbbdbebadgbNbcybybBebybBebybBebybBebybhCSyBegfKbCjFqBskgqaMjBdsBrSqBbIuBdcaTbgbdbbbo",
       "bHoChCphaBUidbBabbbacabjbdbabagaeabababcbbbacabababababbbacdbgbdbdbabjbqfcbebqGOaCLFbBgG",
       "DtgIncINpoLBkpXxDQwUvCFyHHyfGFf"]⟩,
    ⟨["Ideographic", "Ideo"],
      ["SEwbziocBLdJTnCmBFBjBHSiObcEbBSIkaBbJBziBVpBpjNUlPfBDEiCLFbBgGDtgIncINpoLBkpXxDQwUvCFyHH",
       "yfGFf"]⟩,
    ⟨["Join_Control", "Join_C"],
      ["MDob"]⟩,
    ⟨["Logical_Order_Exception", "LOE"],
      ["FKieEteEDsccaCCXmbcabb"]⟩,
    ⟨["Lowercase", "Lower"],
      ["DtzBvakaeaBkxbhbabababababababababababababababababababababababababababbbabababababababbb",
       "ababababababababababababababababababababababacababccabacadbeacadccacababacabbbacadabacbc",
       "cgacacababababababababbbababababababababbcabadababababababababababababababababababababab",
       "ababababababababgcacbbaeababababCqbBjhbBeeDsaBrabadacdsaBbBibbdcbabababababababababababe",
       "bacacbBzBvbababababababababababababababababajabababababababababababababababababababababa",
       "bababababacababababababbbabababababababababababababababababababababababababababababababa",
       "babababababababababababababababaBwBoEHbBqbdBDgfDFuibaEnHjCnababababababababababababababa",
       "babababababababababababababababababababababababababababababababababababababababababababa",
       "babababababababababababababababibabababababababababababababababababababababababababababa",
       "bababababababababababababababababababababiifkhihifkhihinchihihiebbgadcbbidcbihkcbbEranaq",
       "mEfadbdaBbaeaeacbideaBhpeaBGlzCTqBvbadbbababaeabbbhdabababababababababababababababababab",
       "abababababababababababababababababababababababababababababababbhabaeamBlbafaBTWdabababab",
       "ababababababababababababababababababatabababababababababababababcFdababababababcbabababa",
       "bababababababababababababababababababababababababababjbabacababababaeabacabcbabababababa",
       "babababafafabababababababaeabacadabababababawcbabcBFpBqbngDbBEAigmeBOzzBVhBnFgBjFzkbobgb",
       "bRjaccbBpbiBXlByEvvEGoBfBGJwBfBMMkzBagbrBazBadbabgbkBazBazBazBazBazBazBazBazBaBbBcybfBay",
       "bfBaybfBaybfBaybfbaCSyjbtgfKbCjDHsBh"]⟩,
    ⟨["Math"],
      ["BraqcBfaBdabaBtaeaBlaBfaBCaccaBabccUhcJWnaBbcladanaodveleCnmeadbeesaeacjbacfgadbcbbcbfdn",
       "baCqxbfbbebeBfbagboKhidubDmaBeBabayalgRdbmjefebcbdeoabacflhfbCfabaBddjcMyClJwTrBwucfDASq",
       "aBFrfbaGgaqcBdabaBdabaFbagdFEfbCXDwDgbCsbbcacbcdblbabgbCmbdchbgbBbbdbebadgbNbcLfcBxIIqdb",
       "BabbbacabjbdbabagaeabababcbbbacabababababbbacdbgbdbdbabjbqfcbebqCab"]⟩,
    ⟨["Modifier_Combining_Mark", "MCM"],
      ["CKibcaFbagadbSnbbcdaBfa"]⟩,
    ⟨["Noncharacter_Code_Point", "NChar"],
      ["DSDcBfUgbDSYobDSYobDSYobDSYobDSYobDSYobDSYobDSYobDSYobDSYobDSYobDSYobDSYobDSYobDSYobDSYo",
       "b"]⟩,
    ⟨["Other_Alphabetic", "OAlpha"],
      ["BGfaBdmWenbabbbbbaCukBwmbgqaDxgedcbeaBjaBepDykDxbdibcbdEcaCildggtCcbcobbfckbBdcCggcbcbka",
       "kbBdcCgeebcbeaBebdalcCghbcbbvbwcecCggcbcbjbkbBeaChedcbckaBoeCfgbcbciblbBdcCggbcbciblbpam",
       "dCggbcbckakbBdcCxfbabhsbCjacgsaDvacfbbqaGhsjkbBjEglbacdxdecbccgddnlbakdCLobBebBebBebCosH",
       "gbBiaEoleiIoeCfjctCwblcBxeBwoCicBeicbCfkBysPwBhCOnBzDKgBfBTQahBibNqaiaxeDkbBypbaCfaBmeBc",
       "lBtdBwlBlaCpnmaibBtcByabccbfaBsefaJdhBDZvaDEdeCMgcbbfdBEidCnaMjbDbaJzcCbnBtblcBtijaCjcBk",
       "lsbCfcBwmobDoicagacaGbjxdCggcbcbkakbDgibacabdbbDzmbcEcrJdgcgBdbDeobaEckDznJxmJnfbbcbdaba",
       "FmgcfeaBcjBqebdskBunPrhbgDfvbnEsfdabbbcbadaCoebbbdNkdjbbaBwgdcYYnqFJcabCchdDpbBDAyaNKjgb",
       "qcgbbbeDwaDHvaCZwzgzgz"]⟩,
    ⟨["Other_Default_Ignorable_Code_Point", "ODI"],
      ["BGpaFIlbCKhbDHnaGLiaDACpaDbiBWMIhabBdDsExJgFIl"]⟩,
    ⟨["Other_Grapheme_Extend", "OGr_Ext"],
      ["DRyayaNuayaDyayaIyabaebbbjbDzayaEpapaDMraBeaBNkafabafbDxaCtbBOiaGCvbBTWtaEeaBGNlbGWmaEma",
       "KeaoajaDsajacabcfaIqamaJhaKcaYjamaCHfaBEOkbBKXnbgfBTLAzDr"]⟩,
    ⟨["Other_ID_Continue", "OIDC"],
      ["HbaBBraGAjiCLcaCIzbGKraDAEja"]⟩,
    ⟨["Other_ID_Start", "OIDS"],
      ["JHlbDGjavaFVwb"]⟩,
    ⟨["Other_Lowercase", "OLower"],
      ["GoapaThihbBeeDsaCaaFCzaEPzCknaBiBkBAnanaqmIdpBGqzCWobBUGkbIcaEzcdbBHidjaBIWsaccbBpbiDDZh",
       "Cj"]⟩,
    ⟨["Other_Math", "OMath"],
      ["DqaBHxccaBabcbKQyaBbclaBgdybobCnmeadbeesaeacjbadegadbcbbcbfddfeCxecdbbbbbabecbebercbbabg",
       "bagbLedGmbbayaraRdbmifefbcbdeoabacfybCfabaBddjbNebBfjPnvCldBgbDCLfabaeaIdabaDCOvDgbCsbbc",
       "acbcdblbabgbCmbdchbgbBbbdbebadgbNbcybybBebybBebybBebybBebybhcBxIIqdbBabbbacabjbdbabagaea",
       "bababcbbbacabababababbbacdbgbdbdbabjbqfcbebq"]⟩,
    ⟨["Other_Uppercase", "OUpper"],
      ["MQqpBGgzGSIyzgzgz"]⟩,
    ⟨["Pattern_Syntax", "Pat_Syn"],
      ["BhokgBadbaBadBigbabbbabbeaeadaxaBfaLUexiocsbjLtBBrGeYfBeBRnTsExOvceypaCZQzbKbb"]⟩,
    ⟨["Pattern_White_Space", "Pat_WS"],
      ["jesaDwaLYmbyb"]⟩,
    ⟨["Prepended_Concatenation_Mark", "PCM"],
      ["CHcfIhaBxaOubDcaDVXyapa"]⟩,
    ⟨["Quotation_Mark", "QMark"],
      ["BiaeaFbapaLWuhzbFIdaRpdncDABpdHhaeaDmb"]⟩,
    ⟨["Radical"],
      ["RPwzbDkmIf"]⟩,
    ⟨["Regional_Indicator", "RI"],
      ["HGOkz"]⟩,
    ⟨["Sentence_Terminal", "STerm"],
      ["BhamaqaCAbaFrcGyaBrcJmaCjabadbLhbCPwbBEkaebBDtaHqbGbbBtafaMcbNqdGgbkbcbBdcHfbCnbBJwaxbjc",
       "EUxcLuanawbQnaBSHwaKkbItadaOsbDibDraFwbFrcFobJpaBFCwacbChadbGnamaqaCnaEDwbBXdeBsdHhbEndE",
       "xcEzbgaqbDkbbbEeaLmbEnbOjbfoEbbJpcTxabaJrbDjbQebBAqbCwbBCMbbFdaCnblaVhbLkaBDOgaLIma"]⟩,
    ⟨["Soft_Dotted", "SD"],
      ["EbbHoaKvaBeaCaauaMiaDuabaJMnaBzanadaFcaGbaQfaIgbEGgaGELhbBybBybBybBybBybBybBybBybBybBybB",
       "ybBybDFyaLtbBaa"]⟩,
    ⟨["Terminal_Punctuation", "Term"],
      ["BhakabalbdaBFyaiaTtaCfaCuaoabcGyaBrkbaJbbCcfbhBfaKbbBWubGqaefLzbBEjhBDtaEucCtbGbcdaBndcb",
       "McbNqdGgbkbbcBdcHfeCkbBJwaxbjcEUxcLuanaeakabbdbQmbBSHvbKjcIteOsbDibDraFvcFrcExaqbJpaBFCw",
       "acbCfcbdGnakabalbdaCnacaBPqaBwaBSoaHraLybFwfCqfDldBKqeBsdHhgEidExcEzbgaqbDkeEeaLmbEncmbN",
       "uddoEbbJpcTxabaJrbDjbebPycBtaYvbCwbBYxeBAMzbFdaCnckaVhbLjbBDOgaLIld"]⟩,
    ⟨["Unified_Ideograph", "UIdeo"],
      ["TSaJTnCmBFBjBICsbbabbkababbccDVEcCLFbBgGDtgIncINpoLBkpXxGRqHHyfGFf"]⟩,
    ⟨["Uppercase", "Upper"],
      ["CnzDxwbgBhabababababababababababababababababababababababababababacabababababababacababab",
       "ababababababababababababababababababababbbabadbbabbbccdbbbcdbbbbababbbacabbbcbabbdahacac",
       "acabababababababacababababababababacacabcbababababababababababababababababababababababab",
       "abababababahbbbcabdbabababaLdabadaiagabcbabbbqbiBjaccdabababababababababababafacabbcByBw",
       "ababababababababababababababababajababababababababababababababababababababababababababab",
       "bbabababababacababababababababababababababababababababababababababababababababababababab",
       "ababababababababababacBlEHdBlbafaBBuDhDGlagBqccMiabababababababababababababababababababa",
       "babababababababababababababababababababababababababababababababababababababababababababa",
       "bababababababababababajababababababababababababababababababababababababababababababababa",
       "babababababababababababababababajhifkhihiflabababaihCudmdmdmeldKcaeadccccadegabababdcdkb",
       "faBaptaBFmzCSuBvBwabccabababdbacaicbabababababababababababababababababababababababababab",
       "ababababababababababababababababababababababaiabaeaBTYjababababababababababababababababa",
       "babababababatabababababababababababababaFfababababababadabababababababababababababababab",
       "ababababababababababababababakababbbabababaeabacabadababababababababababebebabababababab",
       "abdbabbdafabababayaBHAhzBUzBnFgBjGakbobgbbCQcByGbvEGoBfBGJwBfBMMqzBazBazBaabbcacbcdbhBaz",
       "BabbdchbgBbbbdbebadgBbzBazBazBazBazBazBeyBhyBhyBhyBhyBhaGNlBhDBizgzgz"]⟩,
    ⟨["Variation_Selector", "VS"],
      ["JCtcbaDJCapBWNKyJf"]⟩,
    ⟨["White_Space", "space", "WSpace"],
      ["jesaDwaBaaIHjaDPnkBdbfaBvaFXwa"]⟩,
    ⟨["XID_Continue", "XIDC"],
      ["BwjhzeabzBvakabacafwbBebRpeloehabarEmbbdcbagebabtbDebFibecGjbBlcagBoiBsbabbbbbaiBaedBdkf",
       "CveDxbhcjbscaqCgcDwoCbeacacBtsBbekfxbfiCwbEycjbsbhcbcvbgbaddcicbcdiaebbeclkabaccbfebcvbg",
       "bbbbbbcabeebccdahdbahplcbibcbvbgbbbecjbcbccapdcjjgbcbhcbcvbgbbbecicbcchcebbecjbaqbbfdcbd",
       "dbbabbdbdcdleedcbdcagaojqmbcbwbpcibcbdhbbccacdcjqdbhbcbwbjbecibcbdhbgbbdcjbcmmbcbBybcbef",
       "dhecjkfbcbrdxbibacgdaefbabhgjcbnCffobjBnbbabebxbabwcebabgbjcdBgaxbgjlababaejbBjetbrbBjja",
       "CfCvgCzcBlbafacBqbMubdcgbabdcBobdcBgbdcgbabdcobCebdcCoccjiopqDhcfdXvcqbzfCwdkhvjvltmmbcb",
       "bmDfdaebcjBhcbkgDkhBqfCrkBeblelkBncelBrezgkBlBbeCkbBcckgjnainbpBxCydjrimElmCdijdBwckfBqc",
       "cqcbBmfUncfcBlcfchbabababBecCabgbadcbgddcfemfcbgpbBxbtaBcanaqmBzmeadlraeacjbacfgabababpc",
       "dfeearBoDZbIugimBlbafacCdhapxjgbgbgbgbgbgbgbgbBfTxczobeceeDhcbccbDqfBqbDprBfBwpTsJTnCmBG",
       "UeCpBtcKidBbuBvejbEkBlicDycCocbbabhvCbeatBzmCrkjgxdabBwcBjmBcdCmokgBebCcjncjgwdCuyccpcek",
       "fcfcfjgbgbBqbngEsbbcjgQNrmweBwMNcObcEbBmgmeflbmbebabbbbbEdBhFigIjsClcCbBojgpqpdbycBhabad",
       "ababababEvtjhzeabzkDldfcfcfccBjlbzbsbbbocnBiEsCrCaFgaFaBcdBwpaBfBfnBdfBqfBdcBjehbeBqGbcj",
       "gBjeBjeBniBzmkbobgbbbkbobgbbdBzmLyjvkhyfbBpbiCrfcabBrbbdacwkwjBeCnsbbkvkzCsCdgbCmdbbfhbc",
       "bBccceaBgBcdBcBjhbBdzCbkvksnrEgCuCdBynBynBnijgBldebwJqBpbbdbqcCdBgkaiBgBfvBquBbwjCsBfpjC",
       "hhanyhjgCabjediBjcajCqedbmbaBjrbBkgdCkgbabdbobjhCgfjgdbhcbcvbgbbbebjcbcccagafgcgdeljbaca",
       "bBlbjbacabdbhnbBdCwfjedBeCrbaijGkCbcixfBiCmdaljBmCehjgtBcBacoejggHdCgDxCvvhcachbbbBdbbci",
       "mjCshcBtchbbBbCkiaiCvdasCuHrBgpjgibBsbipjyBdcvbnCvgbbbBrdabbbiijgfbbbBkbbbfhjLywjqbBoden",
       "kDhaDbBJlDyEgrHnDXkDspBPfqvkFXqfWkKDdCfCOsVwhBebjgDabjgBdcelCcjdmjjufsQqBsdjHqClEyCweCeh",
       "qCmbbblboJBziBVpBpjNFrdbgbbbLepaBdccaodiPfDKuEcfmdihjdbGErjTyBtcwUwedfihcgBedFscRbDgbCsb",
       "bcacbcdblbabgbCmbdchbgbBbbdbebadgbNbcybybBebybBebybBebybBebybhcBxTsCceBxiaoaweboBQmBegfI",
       "fgbqcgbbbefCjBhaEiBsdncjeaMjBerCfScBpIgBqSrgbdbbbobHolgBpCxejBTudbBabbbacabjbdbabagaeaba",
       "babcbbbacabababababbbacdbgbdbdbabjbqfcbebqFAajBNqCLFbBgGDtgIncINpoLBkpXxDQwUvCFyHHyfGFfB",
       "ONHgJf"]⟩,
    ⟨["XID_Start", "XIDS"],
      ["CnzgzBvakaeafwbBebRpeloehabaEzebbdcbagabcbabtbDebFiiGjbBlcagBoCtBaedBtBqBjbbDubapbhbkcca",
       "qabBdBdDklayBgjbeafveajadaxyhkfxbfrBpCgCbdasahjppehcbcvbgbadddaqanbbcobkaifebcvbgbbbbbbB",
       "fdbatcqibcbvbgbbbedasapbxalhcbcvbgbbbedaBebbcparabfdcbddbbabbdbdcdlwaCahbcbwbpdaBaccacbB",
       "eaehbcbwbjbedaBfbbbpbribcbBocaqafcicyffrdxbibacgCgBvbangCgbbabebxbabjbakacebavdBgaClhbBj",
       "BbeElBquaqfeddadbhcemmarBlbafacBqbMubdcgbabdcBobdcBgbdcgbabdcobCebdcCoBlpqDhcfdXvcqbzfCw",
       "dkhrnsorombcpBzBjaeaCpDkhBobafCrkBeBxBdcelBrezCcwjCaDeaDpBurhCcBdnbkBrBaBjBpckBjckfBqccB",
       "pdbfbbdafHjCmKrcfcBlcfchbabababBecCabgbadcbgddcfemfcbgEmanaqmDxaeacjbacfgabababpcdfeearB",
       "oDZbIugddbmBlbafacCdhaqwjgbgbgbgbgbgbgbgVecziheceeDhgcbDlbdfBqbDprBfBwpTsJTnCmBGUeCpBtcK",
       "idpkbuBuqBecDbBnicDycCocbbabhvpbcbdbwBdBzoBxCkfdabblBbkwzBchBuBcaqebjkebBoxcbhuwdadBxbad",
       "bcecabaycckhcmfcfcfjgbgbBqbngEkBdQNrmweBwMNcObcEbBmgmefabjbmbebabbbbbEdBhFigIjsClcCbBojE",
       "pabadababababEvBkzgzlCdcBedfcfcfccBjlbzbsbbbocnBiEsCrCaKhBcdBwBvBfnBdfBlkBdcBjehbeBqGbsB",
       "jeBjeBniBzmkbobgbbbkbobgbbdBzmLyjvkhyfbBpbiCrfcabBrbbdacwkwjBeCnsbbkvkzCsCdgbCmapdbcbBcB",
       "qBcdBcBjhbBbBbCbkvksnrEgCuCdBynBynBjBmBbjwJqBpgbqcChBckaivBqrBuuBbwmCaCfbcanBsBgyBaBjBda",
       "caiBidamBvodvabaBjrbytbClgbabdbobjhBuBmhcbcvbgbbbedasameBejbacabBlbazabaBsCasducBeBvubba",
       "HcBuBpdBkBvuaChBqnaCtBaBlgHdBrEmClBfhcachbbbxpabaDqhcBmqabaBcakBnhavalBttasCuHrBgBfibBkr",
       "aBxBdEigbbbBlvazfbbbBfoaMpspabmbBhEuaDbBJlDyEgrHnDXkDspBPfrfzFXqfWkKDdBdCPuVwhBerDarBdsB",
       "vqdBfufsQqBsIdClEyCwfaComCmbbaBcJBziBVpBpjNFrdbgbbbLepaBdccaodiPfDKuEcfmdihjIWkDgbCsbbca",
       "cbcdblbabgbCmbdchbgbBbbdbebadgbNbcybybBebybBebybBebybBebybhCSyBegfKbCjFqBskgqaMjBdsBrSqB",
       "bIuBdcaTbgbdbbbobHoChCphaBUidbBabbbacabjbdbabagaeabababcbbbacabababababbbacdbgbdbdbabjbq",
       "fcbebqGOaCLFbBgGDtgIncINpoLBkpXxDQwUvCFyHHyfGFf"]⟩
  ]

/-- The table of the property with the long name `name`; empty for an unknown name. -/
def binaryTable (name : String) : RangeTable :=
  ((binaryProperties.find? fun t => t.short == name).map (·.table)).getD ⟨[]⟩

end Loom.Unicode
