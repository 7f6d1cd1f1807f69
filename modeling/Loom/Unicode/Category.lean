import Loom.Unicode.RangeTable

/-!
# General categories

The general category of every character, one table a category, under the names the standard gives
it, the short one first. The one-letter groups are the unions of the categories that start with
that letter. Surrogates are no characters, so their category has no table.
-/

namespace Loom.Unicode

/-- A named set of code points: its names, and its ranges in the form `RangeTable.decode` reads. -/
structure NamedTable where
  names : List String
  code : List String

namespace NamedTable

def table (t : NamedTable) : RangeTable := .decode t.code

/-- The short name. -/
def short (t : NamedTable) : String := t.names.headD ""

end NamedTable

/-- Every general category of characters. -/
def categories : List NamedTable :=
  [
    ⟨["Cc", "Control", "Cntrl"],
      ["aBfDrBg"]⟩,
    ⟨["Cf", "Format"],
      ["GraCAkfwaHkaBxaOubDcaFTjaDAqeBaeBxebjDGHjaJpcGIzapaNKkpBZQudHWxhBTKZmaBeDr"]⟩,
    ⟨["Cn", "Unassigned"],
      ["BIebgdhabauaPhaBmbBybdaCdhBbdgkKkaCibDxnChbBxbpaBcbbaleBfaceJdaibcbwahabcebjbcbehbdcafbz",
       "bdagdcbwahacacacbbafdcbdcbgeabgrjdajadawahacafbkadadbboebmghadaibcbwahacafbjbcbdgddcafbs",
       "jcagcdaeccabaccccdcmdfcdaebbfbnvenadaxaqbjadaegcadbbbebkgwadaxakafbjadaegcfcaebkadlnadaB",
       "zadagdqbBaadascyajabbhcbdgabaifkbdlCgdBdBkcabafayabaxbfabahakbeBfCuaBkdBnaBkapanBkHqabeb",
       "bOnaebhabaebBpaebBhaebhabaebpaCfaebCpbBgcBafDibgbZtcDlgwiyiulnadaclDqbkfkfBafDlgBreCsjBf",
       "amdmdbcBqbfkBsdBaflcCkbCnaBdblfkfobBfBwCzaGkhCicpcCkeBrblhBreUobgbBmbgbiabababaBfbCbapao",
       "bgatbdajaDxambBbancBhoBhoFkdZqvluCRsbBgaNleBtabebbCegcnyihahahahahahahahaEwBhBaaDllIgzDc",
       "aDibDzeBraDqaDiiBwaBRIrcCdiNktHchHybcabaiuChckfCehCshmfEmkBecDaaldBhaCdiobkbDzxBcjgbgbgi",
       "hahaCidEwbkfQNslxdBxdNBabEcBlhlfeBaafabacacaEvpRdbCcgbBfBqfBzataedfaFfbbaHicgbgbgbdchahj",
       "fbmaBaatacapboBhEteddBtcDkancbBuBuEzBdcBxoBcdBkiBeeBreBeaBldoBpGcbkfBkdBkdBohCakmapahaca",
       "lapahaccCalLziwjixgaBqajCqgbbaBsaccbbxaCuhjBvtaceBhcBbebClCedubByaceiadaBdbddkgjgCmBfBnd",
       "miCccBdbBbeBagelhDbCvCcBzmBzgBuhkfBmcBdhcHzBfaBqadbcpdCcBshBqvBaBlBctxiDadBkiCqjbbzgkfCb",
       "ashBniDsauksaBvCjhabaeapalfChekfeaibcbwahacafakbcbdbbfbehbhcfkkabbbaBmakabbbaeakachcBcDo",
       "afBdCuhkGjCcbBmBhCrkkfnsCgfkfuBbBbbpdxHcCiDvDflibbbiacaBeacbmikCribBublBaCuhDfmCvgkGzBin",
       "kfjaBtaojBdcBgbwaoCuhacaBscbacajhkfgacaBlacaggkLxzgraBpcBdDgboBymBJnDxEhafkHoDXjDvmBQsjF",
       "XreWlKDcCgCOrVxgBfakdDdakfBebgjCsjkahavetQpCgHpDnDwCxdCfgrClfkcnJCahBVqBokNFqeahacaLfobB",
       "cdbbnehPgDKtEdencjgkbiFVfJqfQuCxBubxiEmChJmjBnbHmuCsErululDjizFeDhaCtacbbbcbeamabahaCnae",
       "biahaBcaeafabchaNcbLgbBBaofapBQlBffgIeharbhacafeCkBgbEhBtcobkdcMhBfqCgebRvBqIfBrdbSlhaea",
       "capaHpbqBoCydkdcBEeCqCxCjHleaBbacabbbakaeababfbdbababadacabbbababababacabbeahaeaeabakare",
       "dafarBzcKjBsdDwlpbpapaBljGsCdBdmBsdjgcngFxBLwdrcncEpdDrfmdbomdCehkfBohBebmdcCjNclobnckeC",
       "egpblfjgFraDyBNpCLFcBfGDufIobINqnLBloXyDQvUwCFxHHzeGFgBOMXkbBdDsExJgDSFnDSYobDSYob"]⟩,
    ⟨["Co", "Private_Use"],
      ["DGVoJMdCAHXoDSYncDSYn"]⟩,
    ⟨["Ll", "Lowercase_Letter"],
      ["DtzCgaBpxbhbabababababababababababababababababababababababababababbbabababababababbbabab",
       "ababababababababababababababababababababacababccabacadbeacadccacababacabbbacadabacbccgac",
       "acababababababababbbababababababababbcabadababababababababababababababababababababababab",
       "ababababababgcacbbaeababababCqbBaHlabadadcsaBbBibbdcbabababababababababababebacacbBzBvba",
       "babababababababababababababababajababababababababababababababababababababababababababaca",
       "babababababbbabababababababababababababababababababababababababababababababababababababa",
       "babababababababababaBwBoEHbBqccBDgfDFuibaEnBrClmbBhDyabababababababababababababababababa",
       "babababababababababababababababababababababababababababababababababababababababababababa",
       "bababababababababababababibababababababababababababababababababababababababababababababa",
       "babababababababababababababababababiifkhihifkhihinchihihiebbgadcbbidcbihkcbbKoadbdaBbaea",
       "eacbideaCbaEBbBvbadbbababaeabbbffabababababababababababababababababababababababababababa",
       "babababababababababababababababababababababbhabaeamBlbafaBTWdabababababababababababababa",
       "bababababababababatabababababababababababababaFfababababababcbababababababababababababab",
       "ababababababababababababababababababhbabacababababaeabacabcbabababababababababafafababab",
       "ababababaeabacadabababababaBaadaBFpBqfihDbBEAigmeBOzzBVhBnFgBjFzkbobgbbCRbByEvvEGoBfBGJw",
       "BfBMMkzBagbrBazBadbabgbkBazBazBazBazBazBazBazBazBaBbBcybfBaybfBaybfBaybfBaybfbaCSyjbtgfD",
       "UdBh"]⟩,
    ⟨["Lm", "Modifier_Letter"],
      ["BAmreloehabaFdafaSkaIwaGibKjbeaBfajadaGeaGlaBVoaExaVtaCPmaEdaXnaRwfGsCknaBiBkBAnanaqmEMx",
       "bJhaHjaSbaBrefaDtbDpcBQBuaBWcfKkaEkaBcbEriDcaxaEbcdbSbawaFhaEeavbDzdjaBFViaBtbCZofbBpbiC",
       "CxaBgaBJNsdTocBobVemCmbbaYGqdbgbbSGnCjHtgBKfaBRba"]⟩,
    ⟨["Lo", "Other_Letter"],
      ["GoapaJwaedIaaBFvBaedBtBfbjBjbbDubaybkccaqabBdBdDklayBgvvBqyhkfxbfrBoChCbdasahjqoehcbcvbg",
       "badddaqanbbcobkaifebcvbgbbbbbbBfdbatcqibcbvbgbbbedasapbxalhcbcvbgbbbedaBebbcparabfdcbddb",
       "babbdbdcdlwaCahbcbwbpdaBaccacbBeaehbcbwbjbedaBfbbbpbribcbBocaqafcicyffrdxbibacgCgBvbbmfC",
       "hbbabebxbabjbbjacexdBgaClhbBjBbeElBquaqfeddadbhcemmaEjMqbdcgbabdcBobdcBgbdcgbabdcobCebdc",
       "CoBlpEjXvcqbzfCwghhrnsorombcpBzBoaCpBibCahecBhbafCrkBeBxBdcelBrezCcwjCaGuBurhCcBdnbkBrBa",
       "BjBpckBdEjdbfbbdaBPqdENvCdywjgbgbgbgbgbgbgbgVfaCbaeDhiabDleafBqbDprBfBwpTsJTnCmBFCebBRyC",
       "pBniKhepkbCoaBxCrGnaDzadgbcbdbwBdBzoBxCkfdabblBbkwzBchBuBtecikebBoxcbhupbfdadBxbadbcecab",
       "aybdkhaofcfcfjgbgFpBiBdQNrmweBwMNcObcEbCpabjbmbebabbbbbEdBhNysClcCbBolEmebFeEbjbBscBedfc",
       "fcfccBjlbzbsbbbocnBiEsOzBcdBwBvBfntbhgBlkBdcBjehEyCzDuBniBzDoBzmLyjvkhFwfcabBrbbdacwkwjB",
       "eCnsbbkvkzCsCdgbCmapdbcbBcBqBcdBcBjhbBbBbCbkvksnrEgCuHbBjBmdbaLsBpgbqcChBckaivBqrBuuBbwm",
       "CaCfbcanBsBgyBaBjBdacaiBidamBvodvabaBjrbytbClgbabdbobjhBuBmhcbcvbgbbbedasameBejbacabBlba",
       "zabaBsCasducBeBvubbaHcBuBpdBkBvuaChBqnaCtBaBlgHdBrIdhcachbbbxpabaDqhcBmqabaBcakBnhavalBt",
       "tasCuHrBgBfibBkraBxBdEigbbbBlvazfbbbBfoaMpspabmbBhEuaDbBJlIwHnDXkDspBPfrfzFXqfWkKDdBdCPu",
       "VwhBerDarBdsBvBzufsQtBnPpCwfaGtJBziBVpBpjNGhLepaBdccaodiPfDKuEcfmdihjNBcaThBsBhaMjBdsBrS",
       "qBaIvBdcaTbgbdbbbobHoBZndbBabbbacabjbdbabagaeabababcbbbacabababababbbacdbgbdbdbabjbqfcbe",
       "bqGOaCLFbBgGDtgIncINpoLBkpXxDQwUvCFyHHyfGFf"]⟩,
    ⟨["Lt", "Titlecase_Letter"],
      ["RlacacaBmaLFhhihihmapaBva"]⟩,
    ⟨["Lu", "Uppercase_Letter"],
      ["CnzDxwbgBhabababababababababababababababababababababababababababacabababababababacababab",
       "ababababababababababababababababababababbbabadbbabbbccdbbbcdbbbbababbbacabbbcbabbdahacac",
       "acabababababababacababababababababacacabcbababababababababababababababababababababababab",
       "abababababahbbbcabdbabababaLdabadaiagabcbabbbqbiBjaccdabababababababababababafacabbcByBw",
       "ababababababababababababababababajababababababababababababababababababababababababababab",
       "bbabababababacababababababababababababababababababababababababababababababababababababab",
       "ababababababababababacBlEHdBlbafaBBuDhDGlagBqccMiabababababababababababababababababababa",
       "babababababababababababababababababababababababababababababababababababababababababababa",
       "bababababababababababajababababababababababababababababababababababababababababababababa",
       "babababababababababababababababajhifkhihiflabababaihCudmdmdmeldKcaeadccccadegabababdcdkb",
       "faCjaDZgBvBwabccabababdbacaicbababababababababababababababababababababababababababababab",
       "abababababababababababababababababababaiabaeaBTYjabababababababababababababababababababa",
       "bababatabababababababababababababaFfababababababadababababababababababababababababababab",
       "abababababababababababakababbbabababaeabacabadababababababababababebebabababababababdbab",
       "bdafabababayaBHAhzBUzBnFgBjGakbobgbbCQcByGbvEGoBfBGJwBfBMMqzBazBazBaabbcacbcdbhBazBabbdc",
       "hbgBbbbdbebadgBbzBazBazBazBazBazBeyBhyBhyBhyBhyBhaGNlBh"]⟩,
    ⟨["Mc", "Spacing_Mark"],
      ["DKtaCdaccidbbBybCgcgbcbkaBraCgcCoaCgciabbCbbCgabagbcbkaDybbbdcbckaBpcCjdCjbCgabecbbbjbBc",
       "aobCgcfcbckaBqbCxcghsbMsbClaGpbeagacbzbkccgvbcfcakcCLsaBeaEzahhbbNidccebbfIqbCgabajabbif",
       "FpaBwafabebbCjaBeaebcaCiaccbadbBwhibGpavaHHebBTLbbcaDkbBypFmbBvaBwbebccEgbcbyaBtabaEfacb",
       "faJdbbbbbbaBLXjabaExaBtcebElaybChaBwcjbnaDpcdbbaGocBfbCgbbdcbccjakbDgchacabdbbbaDxcibdaE",
       "ccgabdcaJdcgdcaEjcibbaEfabbgaDzabbeaKbcjaJnfbbeacabaFmcideaDgaBdbCkaPraoaEcahacaIfeebbaN",
       "mbmaBwbibbaYYycFJgCcEabBKXnbgf"]⟩,
    ⟨["Me", "Enclosing_Mark"],
      ["BSqbIKqaCIgdbcBYOxc"]⟩,
    ⟨["Mn", "Nonspacing_Mark"],
      ["BDoEhKpeKfBsbabbbbbaCukBwuqaDxgcfcbbdBjaBeBaDnkCgijaydbibcbeBrcChiBqxbBfCdabaeheadgkbBda",
       "CgaediaubBaacbCfaebebccdaBebdalbCfaeebbeaubwfbaCgacabdiahblbBeaCjamaByadaCdabcfcbdhblbBd",
       "aCgacagafbubBcbCfbediaubBdaCuahcbaDmacgmhDuacilgCvbBbababaCdnbebbfkbBjjaDydbfbbcbzbecqdn",
       "acbgapaBBbcBKkcBdbBebBebCmbbgiackjaBtcbaEnbBiaEocebjagcIlbcaCgabgbabachgjcaBwnbpBxdBwabe",
       "bafaBoimbBgdcbbcCeabbdabcCghcbFwcbmbgeagadbHqClBBsmeadlEOccFlaDsBfVidEdbBSQeaejBgbDcbKma",
       "daeazbfaFvbBarnaBmhzkBucBwacdcbBnaCpfcbcbmaiaBvaBzabccbfbbaBqbiaJeacaeaBDZsaBCjpqpBLlaIs",
       "aFteCMgcbbfdBoceaGjbWbdCneMfbDbdCskBxdEtaCcoBpacbkcBxdcbhaCjcBkebhCkambCaikdcaDrccabbgac",
       "aGbadhvbCfbdaBlgdeCsfnababaobDhhccbaxaDgfbaebbbJedgbbbBbbDhhcabbEcabacfbaDxabacdbeJzibbJ",
       "wbbaeaFodcbeaBgjBofcdiajfccBumbbPqgbfbaDevcgbbbbEsfdabbbgbaCubdabaNjblbCaefabaxaHXtagoQY",
       "yldcDSaeChgBOiaCldDdaBDBkbGYzBtcwUycrhcgBedFscCYdCceBxiaoaweboCAigbqcgbbbeDwaGegOlaCjdTo",
       "dJubBCigEfgBTCIvJf"]⟩,
    ⟨["Nd", "Decimal_Number", "Digit"],
      ["BwjCIojFejHqjPwjEojEojEojEojEojEojEojEojEojDsjEojCsjKsjCsjCTqjBmjLojEyjGkjgjHajDijFejgjC",
       "AEojBAcjBmjHqjwjDijPqjBFMcjCCkjDFyjgjBEqjEyjCijFojKsjNejEojOkjDyjgtCyjQgjDyjZmjDijJmjCsj",
       "QgjYYgjDMcjDijFejUojBKDyjECqBxDNcjQgjTijJnjBGvjHBaj"]⟩,
    ⟨["Nl", "Letter_Number"],
      ["IRucDYtBicdFMsaziocBSYljBIFgCaRsaiaFeeMEsEg"]⟩,
    ⟨["No", "Other_Number"],
      ["GwbfaccDMrfOmfEqcFdgIjgriQrjBPltBRvjSmaCMvadfgjHqpBpaBByChDavYgBdCBhaBTcdFijBehboBgjBnoB",
       "SMifBHQnBsCndrbNdBaBkdBZghzgBniCxewfGebcpcBtCmiCabBecCxeEahyhBpgMsfNoBeGcjBqdEigFetOptBZ",
       "xbQoiBHnsBGtuBCPqgBEswBLYftmtEeyIBuiBJtCgbcbdCyBsboBLam"]⟩,
    ⟨["Pc", "Connector_Punctuation"],
      ["DraMBvbtaDGAobycJfa"]⟩,
    ⟨["Pd", "Dash_Punctuation"],
      ["BtaCAuaBzaFKjaBNpaDBdfFHxacaBfbeaBcaReataEhaCZWabBlakaGnaFLoaMga"]⟩,
    ⟨["Pe", "Close_Punctuation"],
      ["BpaBzaBfaFPdabaCUoaDRdaCdapaYkabaBeaBPuababababababaDcaBgababababaPoabababababababababab",
       "aCmabaBhaBOvabababaBsabababaQmababababadabababacbCZRqaIjaBdabababababababadarababaGoaBza",
       "Bfacaca"]⟩,
    ⟨["Pf", "Final_Punctuation"],
      ["HfaLWvadaBcaFFsabaeacapada"]⟩,
    ⟨["Pi", "Initial_Punctuation"],
      ["GpaLXkacbcazaFFsabaeacapada"]⟩,
    ⟨["Po", "Other_Punctuation"],
      ["BhcbccababbkbdbBbaCqafaobhaBBaaiaRyfBpaCcacacaBsbubbbnabcCwdDyaBrnIzcCcoBfaKbbkaFkaEqaEr",
       "aPaamaOdaDmakbGmobaEiaCweebEhfGpaXoiBDtaEucCtbGbcbcBlfbdMbbIibEygbfGebkgBccEudCheCkbCmhl",
       "aBGcbihiicdccdkbabjEUcdbbEiaFnbeccacibbbacbkebjcdbabmccQmcCfaHhaBRYgbKjcDvakaElfOqdDibBo",
       "cbaBxbBvaDtmqbEudEwbqbJpaBFCugcawaubcddcbdhcgabbFtcbccababbkbdbBbaBkacbPucZsaBwaPyaBCpaH",
       "raBfaKmiBmaEigCogDldBKqeBsdHhgEfbbdEwdBwbDbdeanabcDkfEdaLmbbbEkekbbaEaaJqwEbcBcmCyaFacJs",
       "aKecFzaDohDfcbeDpjIhaDreBqbYvbCwmGtaBRseEJcbWDvbFdaCneiaVgcLjdMpaBDBoaLIleEItaBHeb"]⟩,
    ⟨["Ps", "Open_Punctuation"],
      ["BoaByaBfaFPeabaCUoaDPmadaBmaCdapaYkabaBeaBPuababababababaDcaBgababababaPoabababababababa",
       "bababaCmabaBhaBOvabababazasabababaQmababababadabababacaCZRtaIhaBdabababababababadarababa",
       "GoaByaBfadaca"]⟩,
    ⟨["Sc", "Currency_Symbol"],
      ["BkaEvdBWjaEtaTebTebhaJlaKdaWjaDQpaDIiBgBZHvaBGMlaEeaFyaIlbdbMCsdCVXeaDRka"]⟩,
    ⟨["Sk", "Modifier_Symbol"],
      ["DqabaCtagaeadaUbdmnfgbabqEnaobBXiaIUmabclcncncnbGHobBSVrwjbDzbBLoaobBEKkqBIhabaGgaDOLje"]⟩,
    ⟨["Sm", "Math_Symbol"],
      ["BraqcCjabaBtaeaBlaBfaBDmaUhcJYhanaBncncFjaBnegaCqefbeacacahaBfbcabaBfKhBgbDmaBeyBofSbaja",
       "CchEhaMyecBekpJwFawCkeBfcJxBwucfDASqaBFsabcGiaqcCjabaFbagdFEfbCYEzazaBfazaBfazaBfazaBfaz",
       "aIUeb"]⟩,
    ⟨["So", "Other_Symbol"],
      ["GkacaeabaBLpaKgbExbHyakatbJnaTvaOjaFafbaFcaHzaBpaPbcpabccfuababaFdhbfbbfdHpbBCyjBBvaBBua",
       "GbBhNpjjiCChbbdbbkabbgfbababaealboabbbaCgbjecdbbbbbgbBecbbabBeKihetcgcDcbBdzBngCtwkDdCzw",
       "HabibCbiEgbJnBsBrCmJvTsBvvbgBmcBfbEaIvfNtbBuzbDkmIfBapeanbmavbgbMybejBgBljaqBelBdiapBfkB",
       "mpMhJToClBGUiCcBHhdkbbaWbcBFJapExaBtcSqadaebnbMbiCfqccbmdaBvBsCLubWtaESsaDGnheqBCNidfaBE",
       "UwaFVnJfqQtGaElCiJlkBmcChfcwbhBdeCivCndaHeDiBTxTrCddByhbnbbCOuaEHwaEzaBBtBreDvmocobobBkx",
       "GeCeBcnBreihbofFyJqfBBzeqdmdEoeDqgleapleCdijgBniBdclebCkNbmncmdjfCdhockgihFqbDn"]⟩,
    ⟨["Zl", "Line_Separator"],
      ["MEqa"]⟩,
    ⟨["Zp", "Paragraph_Separator"],
      ["MEra"]⟩,
    ⟨["Zs", "Space_Separator"],
      ["BgaExaIHjaDPnkBkaBvaFXwa"]⟩
  ]

/-- The code points whose category is one of `shorts`. -/
def categoryTable (shorts : List String) : RangeTable :=
  ⟨(categories.filter fun t => shorts.contains t.short).flatMap fun t => t.table.ranges⟩

end Loom.Unicode
