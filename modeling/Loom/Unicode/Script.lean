import Loom.Unicode.Category

/-!
# Scripts

The code points of each script, and those of its script extensions where they differ.
-/

namespace Loom.Unicode

/-- Every script, the short name first. -/
def scripts : List NamedTable :=
  [
    ⟨["Adlm", "Adlam"],
      ["HDEuCxejeb"]⟩,
    ⟨["Aghb", "Caucasian_Albanian"],
      ["DUXsBzla"]⟩,
    ⟨["Ahom", "Ahom"],
      ["EBRcBacoew"]⟩,
    ⟨["Arab", "Arabic"],
      ["CHcebfbnbcbBfbjlzbEdbBhDcBvJgBebbfCwbBcDNTwEkqNycDbcCbhaBgpEiebFeFVnBeCpcCddDGLsdbBabbba",
       "cabjbdbabagaeabababcbbbacabababababbbacdbgbdbdbabjbqfcbebqCab"]⟩,
    ⟨["Armi", "Imperial_Aramaic"],
      ["DWBwvbi"]⟩,
    ⟨["Armn", "Armenian"],
      ["BZdBlcBxccDOZje"]⟩,
    ⟨["Avst", "Avestan"],
      ["DXCyCbdg"]⟩,
    ⟨["Bali", "Balinese"],
      ["KFwCybBx"]⟩,
    ⟨["Bamu", "Bamum"],
      ["CLCqDjCVCqVw"]⟩,
    ⟨["Bass", "Bassa_Vah"],
      ["FHKiBdcf"]⟩,
    ⟨["Batk", "Batak"],
      ["KNgBzid"]⟩,
    ⟨["Beng", "Bengali"],
      ["DPodbhcbcvbgbaddcicbcdiaebbecy"]⟩,
    ⟨["Bhks", "Bhaiksuki"],
      ["EDOiibBsbnkBc"]⟩,
    ⟨["Bopo", "Bopomofo"],
      ["BCsbRLxBqEiBf"]⟩,
    ⟨["Brah", "Brahmi"],
      ["DZAeCzeBjja"]⟩,
    ⟨["Brai", "Braille"],
      ["PDwJv"]⟩,
    ⟨["Bugi", "Buginese"],
      ["JWaBbcb"]⟩,
    ⟨["Buhd", "Buhid"],
      ["IUyt"]⟩,
    ⟨["Cakm", "Chakma"],
      ["DZKaCabr"]⟩,
    ⟨["Cans", "Canadian_Aboriginal"],
      ["HOyYpVoCrDTPqp"]⟩,
    ⟨["Cari", "Carian"],
      ["DTYmBw"]⟩,
    ⟨["Cham", "Cham"],
      ["CMJwCcjncjcd"]⟩,
    ⟨["Cher", "Cherokee"],
      ["HLgDhcfCFJeDb"]⟩,
    ⟨["Chrs", "Chorasmian"],
      ["DYXcBb"]⟩,
    ⟨["Copt", "Coptic", "Qaac"],
      ["BMgnPJkElfg"]⟩,
    ⟨["Cpmn", "Cypro_Minoan"],
      ["EKYyDu"]⟩,
    ⟨["Cprt", "Cypriot"],
      ["DVZkfcabBrbbdaca"]⟩,
    ⟨["Cyrl", "Cyrillic"],
      ["BNkFccGmIVokGeaCyaGFnBfBTOaDrBHEcbDHPgCjBha"]⟩,
    ⟨["Deva", "Devanagari"],
      ["DKqDceoczCIJgBfBREmj"]⟩,
    ⟨["Diak", "Dives_Akuru"],
      ["ECKugcachbbbBdbbcljj"]⟩,
    ⟨["Dogr", "Dogra"],
      ["ECAyCh"]⟩,
    ⟨["Dsrt", "Deseret"],
      ["DUMaDb"]⟩,
    ⟨["Dupl", "Duployan"],
      ["GMDsEcfmdihjcd"]⟩,
    ⟨["Egyp", "Egyptian_Hieroglyphs"],
      ["ELDgBQrkFXq"]⟩,
    ⟨["Elba", "Elbasan"],
      ["DUVwBn"]⟩,
    ⟨["Elym", "Elymaic"],
      ["DYYyw"]⟩,
    ⟨["Ethi", "Ethiopic"],
      ["GVgCubdcgbabdcBobdcBgbdcgbabdcobCebdcCocBfdzJVawjgbgbgbgbgbgbgbgBVKcfcfcfjgbgEPYfgbdbbbo"]⟩,
    ⟨["Gara", "Garay"],
      ["DXZcBldBcib"]⟩,
    ⟨["Geor", "Georgian"],
      ["GHsBlbafacBqbdEJwBqccGEaBlbafa"]⟩,
    ⟨["Glag", "Glagolitic"],
      ["QRgDrGIZggbqcgbbbe"]⟩,
    ⟨["Gong", "Gunjala_Gondi"],
      ["EEBwfbbbBkbbbfhj"]⟩,
    ⟨["Gonm", "Masaram_Gondi"],
      ["EDYegbbbBrdabbbiij"]⟩,
    ⟨["Goth", "Gothic"],
      ["DUEaBa"]⟩,
    ⟨["Gran", "Grantha"],
      ["EADsdbhcbcvbgbbbecicbcccagafgcgde"]⟩,
    ⟨["Grek", "Greek"],
      ["BHwdbccdbaeababcbabtbCkopJNqeByeeeDgaMivcfcBlcfchbabababBecCabobncfbsccbiLjaCAJeaBGNiDar",
       "aDAXrCr"]⟩,
    ⟨["Gujr", "Gujarati"],
      ["DZlcbibcbvbgbbbecjbcbccapdclhg"]⟩,
    ⟨["Gukh", "Gurung_Khema"],
      ["FDRsCf"]⟩,
    ⟨["Guru", "Gurmukhi"],
      ["DUncbfebcvbgbbbbbbcabeebccdahdbahq"]⟩,
    ⟨["Hang", "Hangul"],
      ["GLkJvLLebJxDpEjBeCnBeBTAnBcYtQNrmweBwPAiBedfcfcfcc"]⟩,
    ⟨["Hani", "Han"],
      ["RPwzbDkmIfBvabaziodBLcJTnCmBFBjBHSiObcEbBSIibmbCCOkCLFbBgGDtgIncINpoLBkpXxDQwUvCFyHHyfGF",
       "f"]⟩,
    ⟨["Hano", "Hanunoo"],
      ["ITsu"]⟩,
    ⟨["Hatr", "Hatran"],
      ["DWIasbbfe"]⟩,
    ⟨["Hebr", "Hebrew"],
      ["CCvCciBaefDOVwzbebabbbbbj"]⟩,
    ⟨["Hira", "Hiragana"],
      ["SHdDhgcFPEvLasaBdcYMva"]⟩,
    ⟨["Hluw", "Anatolian_Hieroglyphs"],
      ["ESSeWk"]⟩,
    ⟨["Hmng", "Pahawh_Hmong"],
      ["FHMeCrkjbgbufs"]⟩,
    ⟨["Hmnp", "Nyiakeng_Puachue_Hmong"],
      ["HAEaBsdncjeb"]⟩,
    ⟨["Hung", "Old_Hungarian"],
      ["DXRsBynByhf"]⟩,
    ⟨["Ital", "Old_Italic"],
      ["DUCeBjjc"]⟩,
    ⟨["Java", "Javanese"],
      ["CMEyCzcjeb"]⟩,
    ⟨["Kali", "Kayah_Li"],
      ["CMAaBtba"]⟩,
    ⟨["Kana", "Katakana"],
      ["SKvDlccJgpIaBubDjCZHejbBsCOUcdbgbbbaLbcByaod"]⟩,
    ⟨["Kawi", "Kawi"],
      ["EERwqbBodBc"]⟩,
    ⟨["Khar", "Kharoshthi"],
      ["DWTcdbbfhbcbBcccejhi"]⟩,
    ⟨["Khmr", "Khmer"],
      ["IXkDpcjgjSsBf"]⟩,
    ⟨["Khoj", "Khojki"],
      ["DZTwrbBu"]⟩,
    ⟨["Kits", "Khitan_Small_Script"],
      ["FJIiaKGxSbBpa"]⟩,
    ⟨["Knda", "Kannada"],
      ["ETcmbcbwbjbecibcbdhbgbbdcjbc"]⟩,
    ⟨["Krai", "Kirat_Rai"],
      ["FIIiCf"]⟩,
    ⟨["Kthi", "Kaithi"],
      ["DZFcCoka"]⟩,
    ⟨["Lana", "Tai_Tham"],
      ["JXgCkbBcckgjgn"]⟩,
    ⟨["Laoo", "Lao"],
      ["FMvbbabebxbabwcebabgbjcd"]⟩,
    ⟨["Latn", "Latin"],
      ["CnzgzBvapafwbBebRgBneJXbBlgBwfdfmbCrCnJvOfanaqmFlbgaBbarBoECtBfBULmDxdCocbbabhvnBFkBqbib",
       "dBEDqgBOkzgzDCffbBpbiDDNpBegf"]⟩,
    ⟨["Lepc", "Lepcha"],
      ["KPsCddodc"]⟩,
    ⟨["Limb", "Limbu"],
      ["JMeBebleleadl"]⟩,
    ⟨["Lina", "Linear_A"],
      ["DVFsLyjvkh"]⟩,
    ⟨["Linb", "Linear_B"],
      ["DSYqlbzbsbbbocnBiEs"]⟩,
    ⟨["Lisu", "Lisu"],
      ["CKKuBvBUMaa"]⟩,
    ⟨["Lyci", "Lycian"],
      ["DTXgBc"]⟩,
    ⟨["Lydi", "Lydian"],
      ["DWKmzfa"]⟩,
    ⟨["Mahj", "Mahajani"],
      ["DZNcBm"]⟩,
    ⟨["Maka", "Makasar"],
      ["EEQqy"]⟩,
    ⟨["Mand", "Mandaic"],
      ["DDgBbca"]⟩,
    ⟨["Mani", "Manichaean"],
      ["DXAmBmel"]⟩,
    ⟨["Marc", "Marchen"],
      ["EDSqBfcvbn"]⟩,
    ⟨["Medf", "Medefaidrin"],
      ["FISeDm"]⟩,
    ⟨["Mend", "Mende_Kikakui"],
      ["HCUyHocp"]⟩,
    ⟨["Merc", "Meroitic_Cursive"],
      ["DWPkxetcBt"]⟩,
    ⟨["Mero", "Meroitic_Hieroglyphs"],
      ["DWOeBf"]⟩,
    ⟨["Mlym", "Malayalam"],
      ["EYambcbBybcbfepcz"]⟩,
    ⟨["Modi", "Modi"],
      ["EBHgCqlj"]⟩,
    ⟨["Mong", "Mongolian"],
      ["JCibcabtgDkhBqDSCbm"]⟩,
    ⟨["Mroo", "Mro"],
      ["FHEuBebjeb"]⟩,
    ⟨["Mtei", "Meetei_Mayek"],
      ["CMSmwHtBtcj"]⟩,
    ⟨["Mult", "Multani"],
      ["DZYugbabdbobk"]⟩,
    ⟨["Mymr", "Myanmar"],
      ["GBoGdCGAyBeDtBfBPAmt"]⟩,
    ⟨["Nagm", "Nag_Mundari"],
      ["HBPoBp"]⟩,
    ⟨["Nand", "Nandinagari"],
      ["ECQyhcBtck"]⟩,
    ⟨["Narb", "Old_North_Arabian"],
      ["DWYaBf"]⟩,
    ⟨["Nbat", "Nabataean"],
      ["DWEiBeii"]⟩,
    ⟨["Newa", "Newa"],
      ["EANoDnbe"]⟩,
    ⟨["Nkoo", "Nko"],
      ["CYiCgcc"]⟩,
    ⟨["Nshu", "Nushu"],
      ["FJIfaYVmPf"]⟩,
    ⟨["Ogam", "Ogham"],
      ["INoBc"]⟩,
    ⟨["Olck", "Ol_Chiki"],
      ["KSuBv"]⟩,
    ⟨["Onao", "Ol_Onal"],
      ["HBZkBqea"]⟩,
    ⟨["Orkh", "Old_Turkic"],
      ["DXMuCu"]⟩,
    ⟨["Orya", "Oriya"],
      ["EEjcbhcbcvbgbbbecicbcchcebbecr"]⟩,
    ⟨["Osge", "Osage"],
      ["DUSuBjeBj"]⟩,
    ⟨["Osma", "Osmanya"],
      ["DUQyBdcj"]⟩,
    ⟨["Ougr", "Old_Uyghur"],
      ["DYUqz"]⟩,
    ⟨["Palm", "Palmyrene"],
      ["DWDcBf"]⟩,
    ⟨["Pauc", "Pau_Cin_Hau"],
      ["EDCaCe"]⟩,
    ⟨["Perm", "Old_Permic"],
      ["DUFgBq"]⟩,
    ⟨["Phag", "Phags_Pa"],
      ["CLSqCd"]⟩,
    ⟨["Phli", "Inscriptional_Pahlavi"],
      ["DXGqsfh"]⟩,
    ⟨["Phlp", "Psalter_Pahlavi"],
      ["DXHwrhdmg"]⟩,
    ⟨["Phnx", "Phoenician"],
      ["DWJgBbda"]⟩,
    ⟨["Plrd", "Miao"],
      ["FIZoCweCehq"]⟩,
    ⟨["Prti", "Inscriptional_Parthian"],
      ["DXFkvch"]⟩,
    ⟨["Rjng", "Rejang"],
      ["CMBwBjla"]⟩,
    ⟨["Rohg", "Hanifi_Rohingya"],
      ["DXWqBnij"]⟩,
    ⟨["Runr", "Runic"],
      ["IOuCwdk"]⟩,
    ⟨["Samr", "Samaritan"],
      ["DAuBtco"]⟩,
    ⟨["Sarb", "Old_South_Arabian"],
      ["DWWuBf"]⟩,
    ⟨["Saur", "Saurashtra"],
      ["CLVcCril"]⟩,
    ⟨["Sgnw", "SignWriting"],
      ["GWTkZbpebo"]⟩,
    ⟨["Shaw", "Shavian"],
      ["DUPcBv"]⟩,
    ⟨["Shrd", "Sharada"],
      ["DZOyDr"]⟩,
    ⟨["Sidd", "Siddham"],
      ["EBCiCbcBl"]⟩,
    ⟨["Sind", "Khudawadi"],
      ["EAAqCgfj"]⟩,
    ⟨["Sinh", "Sinhala"],
      ["FCzcbrdxbibacgdaefbabhgjccDULgt"]⟩,
    ⟨["Sogd", "Sogdian"],
      ["DYSeBp"]⟩,
    ⟨["Sogo", "Old_Sogdian"],
      ["DYQiBn"]⟩,
    ⟨["Sora", "Sora_Sompeng"],
      ["DZIeyhj"]⟩,
    ⟨["Soyo", "Soyombo"],
      ["ECXsDe"]⟩,
    ⟨["Sund", "Sundanese"],
      ["KKuClJwh"]⟩,
    ⟨["Sunu", "Sunuwar"],
      ["EDLwBhoj"]⟩,
    ⟨["Sylo", "Syloti_Nagri"],
      ["CLQeBs"]⟩,
    ⟨["Syrc", "Syriac"],
      ["CQynbChccKmk"]⟩,
    ⟨["Tagb", "Tagbanwa"],
      ["IWembcbb"]⟩,
    ⟨["Takr", "Takri"],
      ["EBMeCfgj"]⟩,
    ⟨["Tale", "Tai_Le"],
      ["JPgBdce"]⟩,
    ⟨["Talu", "New_Tai_Lue"],
      ["JRcBrezgkdb"]⟩,
    ⟨["Taml", "Tamil"],
      ["EJibbfdcbddbbabbdbdcdleedcbdcagaouEALhBxna"]⟩,
    ⟨["Tang", "Tangut"],
      ["FJIeaBfJBziBDnTsi"]⟩,
    ⟨["Tavt", "Tai_Viet"],
      ["CMOuCoye"]⟩,
    ⟨["Telu", "Telugu"],
      ["EOembcbwbpcibcbdhbbccacdcjhi"]⟩,
    ⟨["Tfng", "Tifinagh"],
      ["RCyCdhboa"]⟩,
    ⟨["Tglg", "Tagalog"],
      ["ISmvja"]⟩,
    ⟨["Thaa", "Thaana"],
      ["CVwBx"]⟩,
    ⟨["Thai", "Thai"],
      ["FHxCffBb"]⟩,
    ⟨["Tibt", "Tibetan"],
      ["FRsCtbBjeBmbBjbobgeb"]⟩,
    ⟨["Tirh", "Tirhuta"],
      ["EASmCtij"]⟩,
    ⟨["Tnsa", "Tangsa"],
      ["FHGqDabj"]⟩,
    ⟨["Todr", "Todhri"],
      ["DVDgBz"]⟩,
    ⟨["Toto", "Toto"],
      ["HATkBe"]⟩,
    ⟨["Tutg", "Tulu_Tigalari"],
      ["EAIqjbacabBlbjbacabdbjbbib"]⟩,
    ⟨["Ugar", "Ugaritic"],
      ["DUHcBdba"]⟩,
    ⟨["Vaii", "Vai"],
      ["CKMqLn"]⟩,
    ⟨["Vith", "Vithkuqi"],
      ["DVAekbobgbbbkbobgbb"]⟩,
    ⟨["Wara", "Warang_Citi"],
      ["ECHcDema"]⟩,
    ⟨["Wcho", "Wancho"],
      ["HAVgCffa"]⟩,
    ⟨["Xpeo", "Old_Persian"],
      ["DUIiBjen"]⟩,
    ⟨["Xsux", "Cuneiform"],
      ["EFBsBJlDyEgbelHn"]⟩,
    ⟨["Yezi", "Yezidi"],
      ["DYLkBpbccb"]⟩,
    ⟨["Yiii", "Yi"],
      ["CIPkBSudCc"]⟩,
    ⟨["Zanb", "Zanabazar_Square"],
      ["ECUqCt"]⟩,
    ⟨["Zinh", "Inherited", "Qaai"],
      ["BDoEhKrbRkkBaaBCidGOxBeTtcbmbgeagadbHqClUebHmBgFTxdEdbCZUjpqnBLnaIsaGFaaCTCuBtcwUycrhcgB",
       "edBTLHiJf"]⟩,
    ⟨["Zyyy", "Common"],
      ["aCmBafBaBubobexaBfaRhBmfectEmajagabaYnagaoadaBgaGaaTwaEzbBVtaPpdLeaCGlcCtbHvbbaBVhanahdb",
       "fbccaBDtlcDibkdkborBgClBlbccfbBabqBpceZpwkvBJrJwYdcBfbEaTsDpPmubabyphedDnbdaDmbFrpBgBlja",
       "BwClBfDcBvaDkGlJToClBHSiBhDycGjjJkaGeaPfaobBEZqbIajwBibsbdFrabBfBafBakkaBtbCmgbgkeJyceBs",
       "diDcmBzBsIuBaCSHwdFVgJpgQtGaElCiJlkBmcCjdqibhBdeCiIftmtmDijyFfDgbCsbbcacbcdblbabgbCmbdch",
       "bgbBbbdbebadgbNbcLfcBxHThCpCyCiBBeBreDvmocobobBkkGrCezbbnBreihbofFyBLveqdmdEoeDqgleapleC",
       "dijgBniBdclebCkNbmncmdjfCdhockgihFqbDxBSUXbaBeDr"]⟩
  ]

/-- The scripts whose extensions differ from the script itself. -/
def scriptExtensions : List NamedTable :=
  [
    ⟨["Adlm", "Adlam"],
      ["CIhaBgaJWoaFHhaGLRiCxejeb"]⟩,
    ⟨["Aghb", "Caucasian_Albanian"],
      ["BDsaBsaBsaDTQnBzla"]⟩,
    ⟨["Arab", "Arabic"],
      ["CHcebIgbBhDcBvJgBebbfCwbBcIVnaFHhaCZRaEkqRccCbhaBgpEiebFeBMhBbEIeBeCpcCddDGLsdbBabbbacab",
       "jbdbabagaeabababcbbbacabababababbbacdbgbdbdbabjbqfcbebqCab"]⟩,
    ⟨["Armn", "Armenian"],
      ["BDwaVgBlcBxccDOZje"]⟩,
    ⟨["Avst", "Avestan"],
      ["HbaRFsbDFQcCbdg"]⟩,
    ⟨["Beng", "Bengali"],
      ["BAyaCMubrbBadbhcbcvbgbaddcicbcdiaebbecyHDhabacbbaiaiacaeaccCBAfa"]⟩,
    ⟨["Bopo", "Bopomofo"],
      ["BBjabcnaqbRBxcejbmkdcagaHnajBqEiBfCZLtbKwe"]⟩,
    ⟨["Bugi", "Buginese"],
      ["JWaBbcbCCKta"]⟩,
    ⟨["Buhd", "Buhid"],
      ["IUnbjt"]⟩,
    ⟨["Cakm", "Chakma"],
      ["DTmjCKejDTFqCabr"]⟩,
    ⟨["Cari", "Carian"],
      ["HbaLZmacaFGdaDCLqBw"]⟩,
    ⟨["Cher", "Cherokee"],
      ["BDocbagbwblbGFuDhcfCFJeDb"]⟩,
    ⟨["Copt", "Coptic", "Qaac"],
      ["HbaWmadbbaEebEenPJkElfgKtaDCPcBb"]⟩,
    ⟨["Cpmn", "Cypro_Minoan"],
      ["DTImbRQkDu"]⟩,
    ⟨["Cprt", "Cypriot"],
      ["DTImceBsdiCOmfcabBrbbdaca"]⟩,
    ⟨["Cyrl", "Cyrillic"],
      ["BAyaCpcbababacafaJeLrIVokGeaCyaExaGApBfCpaBTLkDrBHEcbDHPgCjBha"]⟩,
    ⟨["Deva", "Devanagari"],
      ["BAyaCJrDecBqHIeBmbbBNaaBZFrjGkBfBREmj"]⟩,
    ⟨["Dogr", "Dogra"],
      ["DOmlCIDcjBQIoCh"]⟩,
    ⟨["Dupl", "Duployan"],
      ["HbaWtbbaybQIhaFUQlEcfmdihjch"]⟩,
    ⟨["Elba", "Elbasan"],
      ["HbaWraDTScBn"]⟩,
    ⟨["Ethi", "Ethiopic"],
      ["BEcaFRdCubdcgbabdcBobdcBgbdcgbabdcobCebdcCocBfdzJVawjgbgbgbgbgbgbgbgBVKcfcfcfjgbgEPYfgbd",
       "bbbo"]⟩,
    ⟨["Gara", "Garay"],
      ["CHoaoadaDVQuBldBcib"]⟩,
    ⟨["Geor", "Georgian"],
      ["HbaBVlaEFeBlbafacBvEJwBqccBJmaEUnBlbafaJza"]⟩,
    ⟨["Glag", "Glagolitic"],
      ["HbaWpabaOsacaJxaEIraFViaEKrDrSpaBTNfaEOTkgbqcgbbbe"]⟩,
    ⟨["Gong", "Gunjala_Gondi"],
      ["HbaDHkbEANifbbbBkbbbfhj"]⟩,
    ⟨["Gonm", "Masaram_Gondi"],
      ["DOmbEAJqgbbbBrdabbbiij"]⟩,
    ⟨["Goth", "Gothic"],
      ["HbaWqbcaBoaDSYoBa"]⟩,
    ⟨["Gran", "Grantha"],
      ["DNtbrbYqnGKaabbBecdbBNaaDNRjdbhcbcvbgbbbebjcbcccagafgcgdeERrbba"]⟩,
    ⟨["Grek", "Greek"],
      ["HbaWmbcababakaBuacaBqhcdbaeababcbabtbCkopJNqeByeeeDgcMgvcfcBlcfchbabababBecCabobncfbsccb",
       "iDqaHsaCAJeaBGNiDaraDAXrCr"]⟩,
    ⟨["Gujr", "Gujarati"],
      ["DNtbrbKxcbibcbvbgbbbecjbcbccapdclhgCHNsj"]⟩,
    ⟨["Gukh", "Gurung_Khema"],
      ["DOnaFADeCf"]⟩,
    ⟨["Guru", "Gurmukhi"],
      ["DNtbrbFzcbfebcvbgbbbbbbcabeebccdahdbahqCHSzj"]⟩,
    ⟨["Hang", "Hangul"],
      ["GLkJvLJlcejbmocgaHnaCbDpEjBeCnBeBTAnBcYtQNrmweBwOMzbKweCgBedfcfcfcc"]⟩,
    ⟨["Hani", "Han"],
      ["HbaRIuzbDkmIfBapbcbmbmbmcagiHfaFspBgBljaBwBnCeBwplBzaDkykeDsBebJTnCmBFBjCQyhBFBcObcEbBHr",
       "bKweBQPobmbBLRarLRybFEsCLFbBgGDtgIncINpoLBkpXxDQwUvCFyHHyfGFf"]⟩,
    ⟨["Hano", "Hanunoo"],
      ["ITsw"]⟩,
    ⟨["Hebr", "Hebrew"],
      ["BDvbYyCciBaefDOVwzbebabbbbbj"]⟩,
    ⟨["Hira", "Hiragana"],
      ["SErcejbmqfbaebdDhchDmbCZTgbKwekaBtbCOUrLasaBdcYMva"]⟩,
    ⟨["Hung", "Old_Hungarian"],
      ["MGoacaFGdapaDGEgBynByhf"]⟩,
    ⟨["Java", "Javanese"],
      ["CMEyCzbkeb"]⟩,
    ⟨["Kali", "Kayah_Li"],
      ["CMAaBv"]⟩,
    ⟨["Kana", "Katakana"],
      ["BDtaBdaQZtcejbmqfbaebDnddDrJgpIaBubDjCYWbbKwCkCOUadbgbbbaLbcByaod"]⟩,
    ⟨["Khoj", "Khojki"],
      ["EDijCHOijBOBmrbBu"]⟩,
    ⟨["Knda", "Kannada"],
      ["DNtbrbBEombcbwbjbecibcbdhbgbbdcjbcGAeabbgaxabaCASxf"]⟩,
    ⟨["Kthi", "Kaithi"],
      ["DOojNXxaBUFejBNMsCoka"]⟩,
    ⟨["Latn", "Latin"],
      ["CnzgzBvamacafwbBebRgdakabcbajabageBbobbbamacchbbbBmafaemKrbBVebCXkaEOiBlgBwfdfmbCrCfahJv",
       "LraCnanaqmDfaCfbgaBbarBoECtBfPraBTUmhBaDxdCocbbabhvnLqaTtBqbibdBEDqgBOkzgzDCffbBpbiDDNpB",
       "egf"]⟩,
    ⟨["Limb", "Limbu"],
      ["DOnaFXqBebleleadl"]⟩,
    ⟨["Lina", "Linear_A"],
      ["DTItBsBVgLyjvkh"]⟩,
    ⟨["Linb", "Linear_B"],
      ["DSYqlbzbsbbbocnBiEsfceBsdi"]⟩,
    ⟨["Lisu", "Lisu"],
      ["BAyaqaRDkbBSFsBvBUMaa"]⟩,
    ⟨["Lyci", "Lycian"],
      ["MGoaDHQrBc"]⟩,
    ⟨["Lydi", "Lydian"],
      ["HbaRFtaDEXqzfa"]⟩,
    ⟨["Mahj", "Mahajani"],
      ["HbaDHklCIDcjBNUsBm"]⟩,
    ⟨["Mand", "Mandaic"],
      ["CJoaTrBbca"]⟩,
    ⟨["Mani", "Manichaean"],
      ["CJoaDUQxBmel"]⟩,
    ⟨["Mero", "Meroitic_Hieroglyphs"],
      ["MGraDKHmBf"]⟩,
    ⟨["Mlym", "Malayalam"],
      ["DNtbrbBJmmbcbBybcbfepczFVeaxaCASzc"]⟩,
    ⟨["Modi", "Modi"],
      ["CLSajBPOwCqlj"]⟩,
    ⟨["Mong", "Mongolian"],
      ["JCizgDkhBqCWaaFZtbfdDJFwm"]⟩,
    ⟨["Mult", "Multani"],
      ["DYkjDWAagbabdbobk"]⟩,
    ⟨["Mymr", "Myanmar"],
      ["GBoGdCFUcaGvBeDtBfBPAmt"]⟩,
    ⟨["Nand", "Nandinagari"],
      ["DNtasbBImjGBhaiahaCASrfBQYshcBtck"]⟩,
    ⟨["Nkoo", "Nko"],
      ["CHoaoadaQaCgccDOWsb"]⟩,
    ⟨["Onao", "Ol_Onal"],
      ["DOmbGYKwBqea"]⟩,
    ⟨["Orkh", "Old_Turkic"],
      ["MGoaFGfaDFZzCu"]⟩,
    ⟨["Orya", "Oriya"],
      ["DNtbrbPvcbhcbcvbgbbbecicbcchcebbecrGPeaxa"]⟩,
    ⟨["Osge", "Osage"],
      ["BDpacagaCyaDTLvBjeBj"]⟩,
    ⟨["Ougr", "Old_Uyghur"],
      ["CJoaDUSvaBSfz"]⟩,
    ⟨["Perm", "Old_Permic"],
      ["HbaWmafckaOdaDSMuBq"]⟩,
    ⟨["Phag", "Phags_Pa"],
      ["JCkbbaDCjaFZuaBTNxCd"]⟩,
    ⟨["Phlp", "Psalter_Pahlavi"],
      ["CJoaDUYhrhdmg"]⟩,
    ⟨["Rohg", "Hanifi_Rohingya"],
      ["CHoaoadaBgaFraDVHjBnij"]⟩,
    ⟨["Runr", "Runic"],
      ["IOuDk"]⟩,
    ⟨["Samr", "Samaritan"],
      ["DAuBtcoOJqa"]⟩,
    ⟨["Shaw", "Shavian"],
      ["HbaDUIaBv"]⟩,
    ⟨["Shrd", "Sharada"],
      ["DNtaHKfabacbcaCATrfcaBNWpDr"]⟩,
    ⟨["Sind", "Khudawadi"],
      ["DOmbCIDmjBOIgCgfj"]⟩,
    ⟨["Sinh", "Sinhala"],
      ["DOmbBOlcbrdxbibacgdaefbabhgjccFRpaDOTqt"]⟩,
    ⟨["Sogd", "Sogdian"],
      ["CJoaDWIpBp"]⟩,
    ⟨["Sunu", "Sunuwar"],
      ["BDobbajacaBcadaECGkBhoj"]⟩,
    ⟨["Sylo", "Syloti_Nagri"],
      ["DOmbEyjCHWiBs"]⟩,
    ⟨["Syrc", "Syriac"],
      ["BDrbcbbavacchbbaBCdaobcaBgakkBaaFnnbChccKmkIEfaba"]⟩,
    ⟨["Tagb", "Tagbanwa"],
      ["IUnbBpmbcbb"]⟩,
    ⟨["Takr", "Takri"],
      ["DOmbCIDmjBPTuCfgj"]⟩,
    ⟨["Tale", "Tai_Le"],
      ["BDobfbdaEZzjDKwBdce"]⟩,
    ⟨["Taml", "Tamil"],
      ["DNtbrbUubbfdcbddbbabbdbdcdleedcbdcagaouGKdaCBBkaBOEfabaCdbETfBxna"]⟩,
    ⟨["Tang", "Tangut"],
      ["SEapTbaEQKmaBfJBziBDnTsi"]⟩,
    ⟨["Telu", "Telugu"],
      ["DNtbrbZqmbcbwbpcibcbdhbbccacdcjhiGEvbbabaxa"]⟩,
    ⟨["Tfng", "Tifinagh"],
      ["BDqabacabaPZaCdhboa"]⟩,
    ⟨["Tglg", "Tagalog"],
      ["ISmvjavb"]⟩,
    ⟨["Thaa", "Thaana"],
      ["CHoaobcaCmjKsBxDPGqaka"]⟩,
    ⟨["Thai", "Thai"],
      ["BAyaBaaBraBtaEClCffBb"]⟩,
    ⟨["Tibt", "Tibetan"],
      ["FRsCtbBjeBmbBjbobgebMEvd"]⟩,
    ⟨["Tirh", "Tirhuta"],
      ["DNtbrbHKmaCASzjBPAcCtij"]⟩,
    ⟨["Todr", "Todhri"],
      ["BDpacacajabaCwaDTWbBz"]⟩,
    ⟨["Toto", "Toto"],
      ["BAyaGZSlBe"]⟩,
    ⟨["Tutg", "Tulu_Tigalari"],
      ["EXajGBqabaCASxfHfaBOJejbacabBlbjbacabdbjbbib"]⟩,
    ⟨["Yezi", "Yezidi"],
      ["CHoaoadaCmjDWAgBpbccb"]⟩,
    ⟨["Yiii", "Yi"],
      ["SErbfjchIpaBQBcBSudCcBIIce"]⟩,
    ⟨["Zinh", "Inherited", "Qaai"],
      ["BEdacablbbdgcacpbbbrbebdCGmbGOxBeBDbCbbabeUebHmBfDFSqpqnBLnaCZQoBtcwUycrhcgBedBTLHiJf"]⟩,
    ⟨["Zyyy", "Common"],
      ["aCmBafBaBublbbbexaBfaRhcbjbadabibabffectEwagabaYnaIhaTwaCAuaPpdGDblcBgbBebjbbbgbkdkborBg",
       "ClBlbccfbBabqBpceZpwkvBJrJwYdcBfbEaTswbxcjbdbabzQcadananavaUjxBfaBxomdGfjfDrBfaJToClBHSq",
       "zDycBLoaobBFHsjwuclbsbdFrabBfBafBafExgbgkePmmBzBsCYNbJpgQtGaElCiJlkBmcCjdqibhBdeCiIftmtm",
       "DiBbgFfDgbCsbbcacbcdblbabgbCmbdchbgbBbbdbebadgbNbcLfcBxHThCpCyCiBBeBreDvmocobobBkkGrCezb",
       "bnBreixfFyBLveqdmdEoeDqgleapleCdijgBniBdclebCkNbmncmdjfCdhockgihFqbDxBSUXbaBeDr"]⟩
  ]

end Loom.Unicode
