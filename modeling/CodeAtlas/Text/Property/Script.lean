/-
  CodeAtlas.Text.Property.Script — scripts, and code points that several scripts share.
-/
import CodeAtlas.Text.Property.Partition

namespace CodeAtlas

/-- The script of each code point; the first value stands for none. -/
def scripts : Partition where
  names := [
    [], ["zyyy", "common"], ["zinh", "inherited", "qaai"], ["arab", "arabic"], ["armn", "armenian"],
    ["beng", "bengali"], ["bopo", "bopomofo"], ["cher", "cherokee"], ["copt", "coptic", "qaac"],
    ["cyrl", "cyrillic"], ["dsrt", "deseret"], ["deva", "devanagari"], ["ethi", "ethiopic"],
    ["geor", "georgian"], ["goth", "gothic"], ["grek", "greek"], ["gujr", "gujarati"],
    ["guru", "gurmukhi"], ["hani", "han"], ["hang", "hangul"], ["hebr", "hebrew"],
    ["hira", "hiragana"], ["knda", "kannada"], ["kana", "katakana"], ["khmr", "khmer"],
    ["laoo", "lao"], ["latn", "latin"], ["mlym", "malayalam"], ["mong", "mongolian"],
    ["mymr", "myanmar"], ["ogam", "ogham"], ["ital", "olditalic"], ["orya", "oriya"],
    ["runr", "runic"], ["sinh", "sinhala"], ["syrc", "syriac"], ["taml", "tamil"],
    ["telu", "telugu"], ["thaa", "thaana"], ["thai"], ["tibt", "tibetan"],
    ["cans", "canadianaboriginal"], ["yiii", "yi"], ["tglg", "tagalog"], ["hano", "hanunoo"],
    ["buhd", "buhid"], ["tagb", "tagbanwa"], ["brai", "braille"], ["cprt", "cypriot"],
    ["limb", "limbu"], ["linb", "linearb"], ["osma", "osmanya"], ["shaw", "shavian"],
    ["tale", "taile"], ["ugar", "ugaritic"], ["bugi", "buginese"], ["glag", "glagolitic"],
    ["khar", "kharoshthi"], ["sylo", "sylotinagri"], ["talu", "newtailue"], ["tfng", "tifinagh"],
    ["xpeo", "oldpersian"], ["bali", "balinese"], ["batk", "batak"], ["brah", "brahmi"], ["cham"],
    ["egyp", "egyptianhieroglyphs"], ["hmng", "pahawhhmong"], ["hung", "oldhungarian"],
    ["java", "javanese"], ["kali", "kayahli"], ["lepc", "lepcha"], ["lina", "lineara"],
    ["mand", "mandaic"], ["mero", "meroitichieroglyphs"], ["nkoo", "nko"], ["orkh", "oldturkic"],
    ["perm", "oldpermic"], ["phag", "phagspa"], ["phnx", "phoenician"], ["plrd", "miao"],
    ["vaii", "vai"], ["xsux", "cuneiform"], ["cari", "carian"], ["lana", "taitham"],
    ["lyci", "lycian"], ["lydi", "lydian"], ["olck", "olchiki"], ["rjng", "rejang"],
    ["saur", "saurashtra"], ["sgnw", "signwriting"], ["sund", "sundanese"], ["mtei", "meeteimayek"],
    ["armi", "imperialaramaic"], ["avst", "avestan"], ["cakm", "chakma"], ["kthi", "kaithi"],
    ["mani", "manichaean"], ["phli", "inscriptionalpahlavi"], ["phlp", "psalterpahlavi"],
    ["prti", "inscriptionalparthian"], ["samr", "samaritan"], ["tavt", "taiviet"],
    ["bamu", "bamum"], ["lisu"], ["sarb", "oldsoutharabian"], ["bass", "bassavah"],
    ["dupl", "duployan"], ["elba", "elbasan"], ["gran", "grantha"], ["mend", "mendekikakui"],
    ["merc", "meroiticcursive"], ["narb", "oldnortharabian"], ["nbat", "nabataean"],
    ["palm", "palmyrene"], ["sind", "khudawadi"], ["wara", "warangciti"], ["mroo", "mro"],
    ["nshu", "nushu"], ["shrd", "sharada"], ["sora", "sorasompeng"], ["takr", "takri"],
    ["tang", "tangut"], ["hluw", "anatolianhieroglyphs"], ["khoj", "khojki"], ["tirh", "tirhuta"],
    ["aghb", "caucasianalbanian"], ["mahj", "mahajani"], ["ahom"], ["hatr", "hatran"], ["modi"],
    ["mult", "multani"], ["pauc", "paucinhau"], ["sidd", "siddham"], ["adlm", "adlam"],
    ["bhks", "bhaiksuki"], ["marc", "marchen"], ["newa"], ["osge", "osage"],
    ["gonm", "masaramgondi"], ["soyo", "soyombo"], ["zanb", "zanabazarsquare"], ["dogr", "dogra"],
    ["gong", "gunjalagondi"], ["maka", "makasar"], ["medf", "medefaidrin"],
    ["rohg", "hanifirohingya"], ["sogd", "sogdian"], ["sogo", "oldsogdian"], ["elym", "elymaic"],
    ["hmnp", "nyiakengpuachuehmong"], ["nand", "nandinagari"], ["wcho", "wancho"],
    ["chrs", "chorasmian"], ["diak", "divesakuru"], ["kits", "khitansmallscript"],
    ["yezi", "yezidi"], ["cpmn", "cyprominoan"], ["ougr", "olduyghur"], ["tnsa", "tangsa"],
    ["toto"], ["vith", "vithkuqi"], ["kawi"], ["nagm", "nagmundari"], ["gara", "garay"],
    ["gukh", "gurungkhema"], ["krai", "kiratrai"], ["onao", "olonal"], ["sunu", "sunuwar"],
    ["todr", "todhri"], ["tutg", "tulutigalari"]]
  code := [
    "cNBbAbAGBbAbAbVBBbAPBBbAFBXbABBbFbABBrHbAbNBFbAFBCGUBeICEPBBDPCAEPBBBPEABPBBBPBBDPBABPBAUPBA",
    "cLPOIQPfDJCCgNJBAbMECAbYECADEBAcDUIAbBUEAGULAFDBBGDBBODBBDDBBbGDBBKDLCbADBCeEDBBbIDObJBAcIbJ",
    "CADbJbWDbYbMOAcHcXCADcXbUdXCAPdXBAbCcVCABcVBALbJFAbFDBACDFAcXDBBbDDdDLECPLCBbALEFBAIFCACFCAW",
    "FBAHFBABFDAEFCAJFCACFCAEFIABFEACFBAFFCAZFCADRBAGREACRCAWRBAHRBACRBACRBACRCABRBAFREACRCADRDAB",
    "RHAERBABRHARRKADQBAJQBADQBAWQBAHQBACQBAFQCAKQBADQBADQCABQPAEQCAMQHAHQBADbGBAIbGCACbGCAWbGBAH",
    "bGBACbGBAFbGCAJbGCACbGCADbGHADbGEACbGBAFbGCASbGKACbKBAGbKDADbKBAEbKDACbKBABbKBACbKDACbKDADbK",
    "DAMbKEAFbKDADbKBAEbKCABbKGABbKOAVbKFANbLBADbLBAXbLBAQbLCAJbLBADbLBAEbLHACbLBADbLCABbLCAEbLCA",
    "KbLHAJbLNWBADWBAXWBAKWBAFWCAJWBADWBAEWHACWGACWBAEWCAKWBADWMANbBBADbBBAbZbBBADbBBAGbBEAQbBCAb",
    "AbBBADbIBASbIDAYbIBAJbIBABbICAHbIDABbIEAGbIBABbIBAIbIGAKbICADbIMAcGbNEABBbCbNbLACZBABZBAFZBA",
    "YZBABZBAXZCAFZBABZBAHZBAKZCAEZbGAcUbOBAbKbOEAbNbOBAbKbOBAPbOBAHbOEBCbObLAgEbDbMNBABNFABNCAbR",
    "NBBENjWTcVMBAEMCAHMBABMBAEMCAbPMBAEMCAbHMBAEMCAHMBABMBAEMCAPMBAcFMBAEMCAcPMCAbGMDAbAMGAdIHCA",
    "GHCAyQbPbDbEDAcXbHDBLbHHAWbRJABbRVbSCBJAUbTMANbUBADbUBACbUMAdQYCAKYGAKYGACbCCBBbCBBUbCGAdLbC",
    "HAbRbCFAcSbPKAbFbXBAMbXEAMbXEABbXDAMbXbEcBCAFcBLAbScHEAbAcHGALcHDACcHbGYbCcDCACcDcLdGBAbDdGC",
    "ALdGGAKdGGAOdGCAbFCbXAcZcKBAbYcKcMdNcAcLIAEcLcEcTDAPcTDADcTbWdJLJFAbRNCADNIdNIADCBBNCBBHCEBB",
    "CGBBCDBCCBBFAbMbAFPBJbXbAFPEbAFPNbABJcSbABPcMCjWbAWPCAGPCAbMPCAGPCAIPBABPBABPBABPBAbFPCAcBPB",
    "APPBAOPCAGPBATPCADPBAJPBAMBCCdJBBALBBbACALBBbAPBBANbADAbHBPAbHCPAbMBBPDBCbAGBBbAbBBBbARBbPbA",
    "DBEAzQBWALBVAbjSBjWbVyEBCAbGBBAeBBdScEbGbAeMIFAHIbMNBABNFABNCAcEcIHACcIOABcIXMJAHMBAHMBAHMBA",
    "HMBAHMBAHMBAHMBAHMBAbGJdQBbIAbASBAdLSMAiGSbAAVBBSBBBSZBJSECCTIBESEBBAdIVCACCCBDVBBdMXCBDXFAb",
    "RGBAdQTBAQBbGGbMBJABBQXbFTBAcMBbFTdDBbVXBBdKXgMBjtOScMBbfbKSbsVbQDAcDbQJAbWeAlOdDUAdSJdKdZIA",
    "bIBdYbADBcPbACACbABABbABAIbAVAObAbTcGDAKBGAcEdAIAcSdLIAMdLGAbGLbUcSBBBcSbKdKLABdKbDTDAdAcRBA",
    "BBKcREACcRbFbDBAcDcNJAOcNCAKcNCAEcNbGbDcPdYYAFdYXdOKAGMCAGMCAGMJAHMBAHMBAbRbABBJbABPEbACBEAd",
    "CHbUdOCAKdOGAqnSTMAXTEAbXTmnCAoCSCAeCSbMAHbAMAFEFAbAUBAFUBABUBACUBACUBAKUeLDQAnZDCBdCDCAcCDH",
    "ABDbGAQDQCKBGAOCCJbJBBATBBAEBEAFDBAfFDCABBBAbGBbAbAGBbAbALBKXBBbTXCBbFTDAGTCAGTCAGTCADTDAHBB",
    "AHBKAFBCAMbYBAbAbYBATbYBACbYBAPbYCAObYbIAeTbYFADBEAbTBDAJBdBPBANBDABPbVAbTBBCfAAbDdHDAbXdFPA",
    "BCbBBEAbKbFJADbFbBOFAbRcZFAbEcCBABcCbKcJEAOcJbQAdCKbWcAbEbZCAKbZGAbKfIEAbKfIEAbOeEIAcAeWLABe",
    "WLgFBAPgFBAHgFBACgFBALgFBAPgFBAHgFBACgFDAcAgNMAlZcUJAWcUKAIcUYAGbABAbQbABAJbAcRAGbWCABbWBAbS",
    "bWBACbWDABbWCABbWWdPBAJdPbGeKbFeJIAJeJbWATeZBACeZFAFeZbCdBDABdBbAdIFABdIcMAbGcWYeHEAUeHCAbUe",
    "HEcFBACcFFAIcFBADcFBAbDcFCADcFEAKcFHAJcFHAbGeBbGeIbGAbNdTEAMdTJAcCdQDAHdQWdWCAIdWTdUFAIdUSdV",
    "HAEdVMAHdVdCAcVcYcDAbZcQNAbZcQHAGcQbOfQIAKfQGAbMgIDAbDgIIACgIiAAbFDBAbQgABADgACACgAQADDcDAED",
    "bOfSIAbQfRWAbAgCbMAbCfXUAXfTJAdAcMEAbKcMJABcMcPdSKABdSCAZeQHAKeQGAcBdRBASdRIAbNeXJAdSePBAUbI",
    "LASeUBAbVeUcKAHfBBABfBBAEfBBAPfBBALfBGAcHeLFAKeLGAEeFBAIeFCACeFCAWeFBAHeFBACeFBAFeFBABCJeFCA",
    "CeFCADeFCABeFGABeFFAHeFCAHeFDAFeFLAKgOBABgOCABgOBAbMgOBAKgOBABgOCABgOBAEgOBAKgOBACgOIACgObDA",
    "dOfHBAFfHbEAcUeVIAKeVgKAcCfDCAbMfDbIAcRfALAKfAGANbCTAcGeRGAKeRGAUbDbCAbBeYCAPeYEAXeYhDAcIfMd",
    "WAdFeMMABeMHfYCABfYCAIfYBACfYBAbEfYBACfYCAMfYJAKfYcSAIfVCAbUfVCALfVbBAcUfLIAdFfKNAQbPcFfCHAK",
    "LhAAbIgMOAKgMGAJfFBAbTfFBAOfFKAbDfFDAbGfGCAWfGBAOfGcVAHfJBACfJBAbSfJDABfJBACfJBAJfJIAKfJGAGf",
    "NBACfNBAbLfNBACfNBAGfNHAKfNlYAZfOHARgGBAbPgGDAbDgGdHABeAPAbYbKNABbKbjMdEdYAeHdEBAFdELAhOdEdx",
    "KAdVgBNAbqScOKAfxRcOFAwLeTkdDAcGgJcoSAvXdZHAbFeNBAKeNEACeNdBgDBAKgDGAbEeCCAGeCKAcScPKAKcPBAH",
    "cPBAVcPFATcPqQAcGgKhQAdNfPdXAcXdCEAcFdCHARdCcMABeSBeOCSBfZLACSOAjcAeSIAbdOeSsCfZbPABfZJeSnfR",
    "AEXBAHXBACXBABXlBVDXPABVbDADVCABXOAEXIApGeOdkUAeDeDFANeDDAJeDHAKeDCAEeDEBfvGAjQBGAqUBcYAbUCC",
    "AXCJAeMBcIAjMBKAbNBCAcKBDCRBICCBHCbEBECcJBVAcSPeSAUBMAUBMAdJBJAZBfFAdHBBAcTBBACBCABBCACBCAEB",
    "BAMBBABBBAHBBAcNBBAEBCAIBBAHBBAbCBBAEBBAFBBABBDAHBBAnCBCAlGBCAbYBzCdMPAFdMBAPdMbqMAbFbAGAGbA",
    "iFAHcEBARcECAHcEBACcEBAFcEFAcKJbHABJeIAbTfUDAOfUCAKfUEACfUmIAbFgERAcGfWFABfWrWAbQgHiGAbRgLEA",
    "BgLsMAHMBAEMBACMBAPMBAhPeGCAQeGbPAcYfEEAKfEEACfEbeFAcQBcYAcJBhMAEDBAbBDBACDBABDCABDBAKDBAEDB",
    "ABDBABDGABDEABDBABDBABDBADDBACDBABDCABDBABDBABDBABDBABDBACDBABDCAEDBAHDBAEDBAEDBABDBAKDBARDF",
    "ADDBAFDBARDcAACDkKAbSBEAdWBMAPBCAPBBAPBBAbLBKAgSBcEAbABBVCBNAbSBEAJBHACBOAGBfYAblWBEARBDANBD",
    "AePBEAdRBGAMBEABBPAMBEAcEBIAKBGAbOBIAbEBCAMBEACBcKAnCBMAOBCANBDAKBFAcEBHAPBCALBGAJBHAfRBBAdY",
    "BbnQAclfCSbGAgdUSGAiOSCAinQSOAlbLSPAxYSdqWAuWScfYAhhZSFAgfGSbomxLABBbEAdSBeYAjGClecUA"]

/-- The code points that are used with several scripts, each group with its scripts. -/
def sharedScripts : List (List Nat) := [
    [8, 13, 14, 15, 18, 26, 52, 56, 77, 83, 86, 94, 107, 108, 127, 143],
    [5, 9, 11, 26, 39, 104, 160], [6, 26], [26, 104], [26, 39], [7, 8, 9, 15, 26, 53, 77, 168],
    [7, 9, 15, 26, 53, 138, 168, 169], [7, 9, 26, 60], [26, 35, 39, 56, 168],
    [7, 8, 9, 14, 15, 26, 35, 60, 126, 138, 169], [8, 14, 23, 26, 56, 108], [9, 15, 26, 60, 77],
    [8, 20, 26, 35, 53, 60, 77, 107, 169], [4, 9, 14, 15, 20, 26, 35, 53, 60, 77, 107], [26, 60],
    [26, 35, 107], [7, 9, 26, 138], [7, 26, 53], [26, 168], [12, 26], [9, 26, 169],
    [15, 26, 77, 169], [7, 23, 26, 35, 60, 107], [7, 26, 35, 107], [26, 35], [26, 35, 168],
    [7, 26, 35], [7, 14, 26, 35, 39, 126, 168], [15], [26, 138], [26, 126, 169], [26], [8, 15],
    [9, 77], [9, 56], [9, 26], [4, 13, 56], [3, 35, 38, 75, 146, 156, 164], [3, 35, 38],
    [3, 35, 38, 75, 134, 146, 156, 164], [3, 35, 73, 97, 99, 134, 146, 147, 158], [3, 35],
    [3, 38, 156], [3, 146], [5, 11, 16, 17, 22, 26, 27, 32, 36, 37, 109, 119, 125, 137, 151],
    [5, 11, 16, 17, 22, 26, 27, 32, 36, 37, 109, 125, 137],
    [5, 11, 16, 17, 22, 27, 32, 34, 36, 37, 58, 109, 115, 121, 125, 127, 139, 142, 143, 151, 167],
    [5, 11, 16, 17, 22, 27, 32, 34, 36, 37, 49, 58, 109, 115, 121, 125, 127, 139, 142, 143, 151,
      165, 167],
    [11, 96, 127, 142], [5, 58, 95], [17, 131], [16, 124], [36, 109], [22, 151, 170], [29, 53, 95],
    [13, 26, 56], [33], [43, 44, 45, 46], [28, 78], [5, 11, 22, 109], [11], [11, 22, 109],
    [5, 11, 37, 125, 137], [5, 11, 37], [11, 119, 137], [5, 11, 37, 137], [11, 119],
    [11, 22, 27, 32, 36, 37], [5, 11], [11, 125, 137], [11, 137, 151], [5, 11, 119], [11, 137],
    [5, 11, 119, 137], [5, 11, 22, 27, 32, 34, 37, 109, 125, 151, 170], [11, 109],
    [11, 22, 109, 170], [5], [151], [9, 26, 35], [35], [26, 28, 78], [3, 134],
    [13, 56, 68, 76, 83, 85], [15, 68, 74, 83], [11, 26, 109], [8, 26], [76, 94],
    [13, 68, 83, 86, 94, 96, 101], [107], [3, 68, 134], [18, 122], [6, 18, 19, 21, 23, 28, 42],
    [6, 18, 19, 21, 23, 28, 42, 78], [6, 18, 19, 21, 23], [18], [6, 18, 19, 21, 23, 28, 40, 42],
    [6, 18, 19, 21, 23, 28, 40, 42, 104], [6, 18, 19, 21, 23, 42], [6, 18], [21, 23], [18, 21, 23],
    [18, 26], [11, 16, 17, 22, 27, 96, 115, 119, 121, 124, 125, 127, 130, 142, 151, 170],
    [11, 16, 17, 22, 96, 115, 119, 121, 124, 125, 127, 130, 142, 151, 170],
    [11, 16, 17, 96, 115, 121, 124, 125, 127, 130, 142],
    [11, 16, 17, 96, 115, 119, 121, 124, 125, 127, 130, 142], [5, 11, 170], [11, 36], [26, 29, 70],
    [55, 69], [3, 75], [3, 38], [48, 50, 157], [48, 50], [48, 50, 72], [3, 8], [97, 158]]

/-- The place in `sharedScripts` of each code point, counted from one; zero for the others. -/
def sharedCode : List String := [
    "hBABBtWABCKABDBADDBABEJABFBABDbMABGBHBIBJBKBLBMBNBOBPBQBRBSBTBUBABTBVBABWPABXBYBZHABbABZBABb",
    "BBbCQABbDCABbDSABbEFABbFEANbGEACbHkJABbIBbJCbKBbJjXABbLfAABbMOABbMBbNCABbObGABbPKALbQKAKbRGA",
    "BbQdVABbSyMABbTBbURABbVBbWKbXeOAKbYeOAKbZeOAKcAjMAOcBjIAKcCbgQAKcDgVABcEcgLADcFcTACcGhVACcHB",
    "ABcHbvEABcIBcJBcIBcKBcJBcLBcMBcNBcOBcPBcQBcJCcPCcJBcPBcRBcSGcJBcTBcUBcVBcJBcWEcJBcXBcYBcZCcR",
    "BdACcYBdBhPACbDcCABdCBABdDvSABdEbFABdFKABdGCABdHfQABdIezMABdJYABdKBdLKABdMEABdNBABbJqMAQdOBA",
    "BdPBdQBdRCABdSBACdTCdUGdVBABdRIdVEdRKAEdWCABdRFdXBABdREACdYCdSdLAEdXDABdXdMABdVBdXfRAQdSbGAb",
    "MdSJABdObWAbOdScEAbXdSPAMdSbZABdSdKAZdSKAFdSdSAbFdSbriUABbJfOAIdZlKADeADeBCeCBeDBeChBABeEBAB",
    "eFcGABeGgEABeHbfpMACeIgWABeJKABeJcTACdRkWAFdVKABdXbTACdXnOACeKBeLEAbTeMDAJeLqAAbCeNdaKABeOdb",
    "IABcBBABcBcDACcBetVACcBBABcBchjWAEdMipWASdSlrYACdScedjYA"]

end CodeAtlas
