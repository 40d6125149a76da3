/-
  CodeAtlas.Text.Property.Break — how code points make up characters, words and sentences.
-/
import CodeAtlas.Text.Property.Partition

namespace CodeAtlas

/-- The part of each code point in user-perceived characters. -/
def graphemeBreaks : Partition where
  names := [
    [], ["cn", "control"], ["cr"], ["ex", "extend"], ["l"], ["lf"], ["lv"], ["lvt"], ["t"], ["v"],
    ["sm", "spacingmark"], ["pp", "prepend"], ["ri", "regionalindicator"], ["zwj"]]
  code := [
    "KBBFCBBCSBdRAbHBNABBwWAeIDkPAHDkDAbTDBABDBACDBACDBABDcEAGLKALDBABBbUAVDQABDdXAHDBLBAGDCACDBA",
    "EDbHABLBABDbEAbBDdNALDcGAJDJABDYAEDBAJDBADDBAFDbRADDcAACLFAJDbQAYDBLbGDBKcCABDBKBDBADKIDEKBD",
    "CKBAHDKACDbDABDCKcEABDBABDCKEDCACKCACKBDJABDKACDbAABDCACDBKcEABDBADKCDEACDCADDDABDbEACDDABDL",
    "ACDBKcEABDBADKFDBACDBKBACKBDUACDWAGDBABDCKcEABDBACDBKEDCACKCACKBDHADDKACDbEABDcHABDBKBDCKDAD",
    "KBADKBDJABDbOABDDKBDcDABDBADDEKBADDBAEDHACDLACDbDABDCKcEABDBABKCDBKBDCKBADDBAEDHACDLACDPABKM",
    "ACDCKcDACDBABDCKEDBADKBADKBDBLIABDKACDbDABDCKcSABDEABDCKDDBABDBAHKBDSACKcJABDBABKHDMAIDdUABD",
    "BABKJDLAHDcVACDbBABDBABDBABDEACKbXAODBKFDBACDFALDBAbKDJABDdYAEDBKGDBACDCKCDXACKCDEADDQAEDNAB",
    "DBABKCDGABDPABDdUAdSEcUJdKInLADDbkKAEDbCADDbDACDbEACDcMACDBKHDIKBDCKLDJABDbTADDBBBDeNACDbIAB",
    "DeOADDEKCDDKEACKBDGKDDiLACDCKBDcFABKBDBKHDBABDBABDCAIDGKKDCABDbWAbFDbXAEDBKbVAKDEKDDbMAJDMAC",
    "DBKbEABKEDCKGDcEABDBKCDDKBDBKFDbWAIKIDCKCDfWADDBANDBKHDEABDGABDCABKCDhQAcMDuDABBBDBNCBYAHBbX",
    "AQBdSAbHDeoCADDfLABDdSAbGDvIAGDeBACDbsqEAEDBAKDbGACDdCACDkMABDDABDEABDXACKCDBKEABDdFACKbYAQK",
    "CDbAASDNABDbMAIDZALDBKBDMAbDEDADDBKbVABDCKEDCKCDCKBDbKABDcPAGDCKCDCKCDMABDIABDBKbUABDbZABDBA",
    "DDCACDFACDBABDbPABKCDCKFABKBDjCACKBDCKBDCKBABKBDSABGbBHBGbBHBGbBHBGbBHBGbBHBGbBHBGbBHBGbBHBG",
    "bBHBGbBHBGbBHBGbBHBGbBHBGbBHBGbBHBGbBHBGbBHBGbBHBGbBHBGbBHBGbBHBGbBHBGbBHBGbBHBGbBHBGbBHBGbB",
    "HBGbBHBGbBHBGbBHBGbBHBGbBHBGbBHBGbBHBGbBHBGbBHBGbBHBGbBHBGbBHBGbBHBGbBHBGbBHBGbBHBGbBHBGbBHB",
    "GbBHBGbBHBGbBHBGbBHBGbBHBGbBHBGbBHBGbBHBGbBHBGbBHBGbBHBGbBHBGbBHBGbBHBGbBHBGbBHBGbBHBGbBHBGb",
    "BHBGbBHBGbBHBGbBHBGbBHBGbBHBGbBHBGbBHBGbBHBGbBHBGbBHBGbBHBGbBHBGbBHBGbBHBGbBHBGbBHBGbBHBGbBH",
    "BGbBHBGbBHBGbBHBGbBHBGbBHBGbBHBGbBHBGbBHBGbBHBGbBHBGbBHBGbBHBGbBHBGbBHBGbBHBGbBHBGbBHBGbBHBG",
    "bBHBGbBHBGbBHBGbBHBGbBHBGbBHBGbBHBGbBHBGbBHBGbBHBGbBHBGbBHBGbBHBGbBHBGbBHBGbBHBGbBHBGbBHBGbB",
    "HBGbBHBGbBHBGbBHBGbBHBGbBHBGbBHBGbBHBGbBHBGbBHBGbBHBGbBHBGbBHBGbBHBGbBHBGbBHBGbBHBGbBHBGbBHB",
    "GbBHBGbBHBGbBHBGbBHBGbBHBGbBHBGbBHBGbBHBGbBHBGbBHBGbBHBGbBHBGbBHBGbBHBGbBHBGbBHBGbBHBGbBHBGb",
    "BHBGbBHBGbBHBGbBHBGbBHBGbBHBGbBHBGbBHBGbBHBGbBHBGbBHBGbBHBGbBHBGbBHBGbBHBGbBHBGbBHBGbBHBGbBH",
    "BGbBHBGbBHBGbBHBGbBHBGbBHBGbBHBGbBHBGbBHBGbBHBGbBHBGbBHBGbBHBGbBHBGbBHBGbBHBGbBHBGbBHBGbBHBG",
    "bBHBGbBHBGbBHBGbBHBGbBHBGbBHBGbBHBGbBHBGbBHBGbBHBGbBHBGbBHBGbBHBGbBHBGbBHBGbBHBGbBHBGbBHBGbB",
    "HBGbBHBGbBHBGbBHBGbBHBGbBHBGbBHBGbBHBGbBHBGbBHBGbBHBGbBHBGbBHBGbBHBGbBHBGbBHBGbBHBGbBHBGbBHB",
    "GbBHBGbBHBGbBHBGbBHBGbBHBGbBHBGbBHBGbBHBGbBHBGbBHBGbBHBGbBHBGbBHBGbBHBGbBHBGbBHBGbBHBGbBHBGb",
    "BHBGbBHBGbBHBGbBHBGbBHBGbBHBGbBHBGbBHBGbBHBGbBHBGbBHBGbBHBGbBHBGbBHBGbBHBGbBHBGbBHBGbBHBGbBH",
    "BGbBHBGbBHBGbBHBGbBHBGbBHBGbBHBGbBHBGbBHBGbBHBGbBHBGbBHBGbBHBGbBHBGbBHBGbBHBGbBHBGbBHBGbBHBG",
    "bBHBGbBHBGbBHBGbBHBGbBHBGbBHBGbBHBGbBHBGbBHBGbBHBGbBHBGbBHBGbBHBGbBHBGbBHBGbBHBGbBHBGbBHBGbB",
    "HBGbBHBGbBHBGbBHBGbBHBGbBHBGbBHBGbBHBGbBHBGbBHBGbBHBGbBHBGbBHBGbBHBGbBHBGbBHBGbBHBGbBHBGbBHB",
    "GbBHBGbBHBGbBHBGbBHBGbBHBGbBHBGbBHBGbBHBGbBHBGbBHBGbBHBGbBHBGbBHBGbBHBGbBHBGbBHBGbBHBGbBHBGb",
    "BHBGbBHBGbBHBGbBHBGbBHBGbBHBGbBHBGbBHBGbBHBGbBHBGbBHBGbBHBGbBHBGbBHBGbBHBGbBHBGbBHBGbBHBGbBH",
    "BGbBHBGbBHBGbBHBGbBHBGbBHBGbBHBGbBHBGbBHBGbBHBGbBHBGbBHBGbBHBGbBHBGbBHBGbBHBGbBHBGbBHBGbBHBG",
    "bBHBGbBHBGbBHBGbBHBGbBHBGbBHBGbBHBGbBHBGbBHBGbBHBGbBHBGbBHBGbBHBGbBHBGbBHBGbBHBGbBHBGbBHBGbB",
    "HBGbBHBGbBHBGbBHBGbBHMAXJEAbXInhYABDbcJAQDQAQDhZABBgCACDdCAMBtTABDiSABDfTAFDcmGADDBACDFAEDbO",
    "ADDEABDgJACDwBAEDcNAFDmFACDdBAEDcSALDbXAEDeSABKBDBKcBAPDbPABDCACDKADDBKbTADKEDCKCDCABLEABDKA",
    "BLbYADDbKAFDBKIDQACKbSABDMACDBKbWADKJDBKBDBACLFAEDBABKBDdOADKDDCKEDGABDCABDgBABDDKIDVACDCKcD",
    "ACDBABDBKBDEKCACKCACKBDJABDKACKCAHDDAFDcPABDCKGDBABDCABDBADDBKBACKDDBLBDOACDdEADKIDCKDDBKBDX",
    "ABDdDABDCKGDBKBDCKBDBKCDBKCDjBABDCKEDCAEKCDBKCDbBACDdEADKIDCKBDBKCDeCABDBKBDCKIDdXABDBKBDCAE",
    "DBKFDjWADKJDBKCDjLABDFKBACKCAEDBLBKBLBKBDfLADKEDCACDEKBDDABKbCAKDbOAGDBKBAEDIABDJAGDCKDDbOAG",
    "LNDBKCDpPABKHDBAGDBKBDdEAWDBABKHDBKCDBKCDeSAGDDABDBACDBAHDBLBDcOAFKBACDBACKBDBKBDnJACDCKJACD",
    "BLBKbWACKFDDACKDDXABDhxDAQBBDGAPDqyYAMDDKDDdsAAFDcHAHDvKABJDAEJsQABDBAcDKHAEDdDABDLACDbdaXAC",
    "DBAEBgyUAbUDCAXDuWAFDDAGDIBIDCAHDbEAEDfSADDcyDAcDDEAbYDIABDOABDWAFDBAPDcaIAHDBARDCAHDBACDBAF",
    "DdWABDgEAHDoLABDcJAEDtOAEDjUACDbcIAHDeFAHDdgTAbAMtNAFDbsxxOAbGBdSDeYBjGDfiMBkyuIA"]

/-- The part of each code point at the bounds of words. -/
def wordBreaks : Partition where
  names := [
    [], ["le", "aletter"], ["fo", "format"], ["ka", "katakana"], ["ml", "midletter"],
    ["mn", "midnum"], ["nu", "numeric"], ["ex", "extendnumlet"], ["cr"], ["extend"], ["lf"],
    ["mb", "midnumlet"], ["nl", "newline"], ["ri", "regionalindicator"], ["hl", "hebrewletter"],
    ["sq", "singlequote"], ["dq", "doublequote"], ["zwj"], ["wsegspace"]]
  code := [
    "KABKCMBISABSBABQEABPEABFBABLBAKGBEBFFAbABEABHBAbABKABMbKABBCABCHABBBABEBBBABBFAXBBAbFBBAsMBG",
    "AbIBeIJFBBACBCAEBBFBBGABBBEDBBABBBAUBBAdFBBAfJBBAHJgKBBAbMBCAEBBABBBEbPBBFBBGAbTJBABJBACJBAC",
    "JBABJIAbBOEAEOBBBELAGGGACFCALJBABCDAbRBVJKGBABGBFBACBBJdVBBABBHJBGBAGJCBCJBAEJCBKGDBCABBPACB",
    "BJbEBbBJCAdLBLJBBOAKGbHBJJCBCABFBABBCABJCAWBEJBBJJBBDJBBFJSAZBDJEALBFAYBBAGBBACGFAJJbQBYJBGb",
    "HJcCBDJBBSJBBHJKBCJCAKGBAQBDJBAIBCACBCAWBBAHBBABBDAEBCABJBBHJCACJCADJBBIABJEACBBADBCJCAKGCBK",
    "ABBBABJCADJBAGBEACBCAWBBAHBBACBBACBBACBCABJBAFJEACJCADJDABJHAEBBABBHAKGCJDBBJLADJBAJBBADBBAW",
    "BBAHBBACBBAFBCABJBBIJBADJBADJCABBPACBCJCAKGJABBGJBADJBAIBCACBCAWBBAHBBACBBAFBCABJBBHJCACJCAD",
    "JHADJEACBBADBCJCAKGBABBQABJBBBAGBDADBBAEBDACBBABBBACBDACBDADBDAMBEAFJDADJBAEJCABBGABJOAKGQAF",
    "JIBBADBBAXBBAQBCABJBBHJBADJBAEJHACJBADBCABBCACBCJCAKGQABBDJBAIBBADBBAXBBAKBBAFBCABJBBHJBADJB",
    "AEJHACJGACBBACBCJCAKGBACBBJMAEJJBBADBBAbPBCJBBHJBADJBAEJBBFADBBJHADBCJCAKGKAGBBADJBASBDAYBBA",
    "JBBABBCAHBDABJEAGJBABJBAIJGAKGCACJcJABJCAHJMAIJBAKGdJABJCAJJLAHJBAKGbMABBXACJGAKGLABJBABJBAB",
    "JEACJIBBAbKBEAUJBACJFBLJBAbKJJABJdWAUJBAKGMAEJEADJBADJCAHJDAEJNAMJBABJKGEJCAbMBBABBFABBCAbRB",
    "BAmVBBAEBCAHBBABBBAEBCAbPBBAEBCAbHBBAEBCAHBBABBBAEBCAPBBAcFBBAEBCAcPBCADJbGAQBQAdIBCAGBDAxWB",
    "CARBBSbABFAcXBDALBHASBEJJATBDJLASBCJMANBBADBBACJcMAbGJJABJCAKGbHADJBCBJKGGAdLBHAFBCJbIBBJBBF",
    "AcSBKAbFBBAMJEAMJKAKGeYALGbLAXBFJcFAKJBAbDJCABJKGGAKGWAbFJbXAFJbVBRJIBDAKGRAJJMADJbEBNJCBKGb",
    "SBOJMAbKBUJIAKGDADBKGbKBCALBFAbRBCADBQADJBAVJEBBJGBBJCBDJBBFAhKBcMJkSBCAGBCAbMBCAGBCAIBBABBB",
    "ABBBABBBAbFBCAcBBBAHBBABBDADBBAHBDAEBCAGBEANBFADBBAHBDAHSBADSBABJBRCCIACLKABLCABECMFCBHPACHD",
    "ABFPABHKABSFCBAKCBABBNABBQANBbZAbHJRABBEABBCAKBBABBDAFBGABBBABBBABBBAEBBALBCAEBFAFBEABBRAbPB",
    "bfHAcABcrUAiVBGAEBDJCBMAbMBBABBFABBCAcEBHABBPABJXBJAHBBAHBBAHBBAHBBAHBBAHBBAHBBAHBBAbGJbVABB",
    "rWABSEABBbKAGJBAFDFACBdOACJCDDAdNDBAEDFAbRBBAdQBRAbGBbWAQDiAAbVDBAdKDbpdWAbsVBcPAbUBCAkJBDAQ",
    "BKGCBUAbVBEJBAKJBAbFBCJdCBCJWAhQBCACBBABBBAIBVAQBBJDBBJEBBJXBFJEABJTAcABMACJbYBSJKAKGGASJGBD",
    "ABBBACBBJKGbCBIJCAXBNJMAbDBDAEJbVBOJOABBKGLABJKAKGGAbPBOJJADBBJIBCJCAKGbHADJbYABJBADJCACJFAC",
    "JBABJbEALBFJCADBCJKAGBCAGBCAGBJAHBBAHBBAcGBGAeLBIJBACJCAKGGAqnSBMAXBEAbXBngUAHBMAFBFABOBJKOB",
    "ANOBAFOBABOBACOBACOBAKOdUBbHAnZBSAcMBCAcCBbOAMBEAQJDABEMAQJDACHYADHBFBABLBABFBEbAAFBBAfFBCAB",
    "CHABLEABFBABLBAKGBEBFFAbABEABHBAbABLAcEDCJbFBDAGBCAGBCAGBCADBbCADCEAMBBAbABBATBBACBBAPBCAOBb",
    "IAeTBcRAcBBfGABJfAAbDBDAbXBPABJbFAbGBNAbEBFAbMBFJFAbEBCAbKBEAIBBAFBbQAgCBCAKGGAbKBEAbKBEAbOB",
    "IAcABMALBBAPBBAHBBACBBALBBAPBBAHBBACBDAcABMAlZBJAWBKAIBYAGBBAbQBBAJBcRAGBCABBBAbSBBACBDABBCA",
    "XBKAXBJAbFBcNATBBACBKAWBKAbABcSAcEBGACBcMABBDJBACJFAEJEBBADBBAbDBCADJEABJbGAbDBDAbDBbJAIBBAb",
    "CBCJZAcCBKAWBKATBNASBeGAcVBcDAbZBNAbZBNAbKBEJIAKGGAKGbCBDAFJBAXBjQAbQBBACJDACBQADBcDAEJbDBKA",
    "BBIAWBLJbFASBEJbQAVBbBAXBJADJcBBPJbFAKGBJCBCJBBJAEJbTBLJCABGEABJKABGCAZBHAKGGADJbKBOJBAKGEAB",
    "BCJBBIAbJBBJCABBJADJbWBOJEBEAEJBACJKGBBBABBbJASBBAZBMJGABJCBBJcKAHBBABBBAEBBAPBBAKBHAbVBMJFA",
    "KGGAEJBAIBCACBCAWBBAHBBACBBAFBBACJBBHJCACJCADJCABBGABJFAFBCJCAHJDAFJLAKBBABBCABBBAbMBBABBJJB",
    "ABJCABJBAEJBAFJBBBJBBNACJbDAcBBSJEBFAKGEABJDBbEAbWBUJCBBABBIAKGgKAbVBHJCAJJXAEBCJbIAbWBRJDAB",
    "BLAKGbMAbRBNJBBHAKGGAUGcFAPJEAKGhQAbSBPJdXAcMBKGVAIBCABBCAIBBACBBAYBGJBACJCAEJBBBJBBCJMAKGcS",
    "AIBCAbNBHJCAHJBBBABBBJbBABBKJbOBHJBBEJIABJIABBLJbUBQJDABBSAcVBhRAbHBPAKGGAJBBAbLBIJBAIJBBPAK",
    "GYAbEBCAWJBAOJcVAHBBACBBAbMBGJDABJBACJBAHJBBBJIAKGGAGBBACBBAbGBFJBACJBAFJBBHAKGlYATBEJJACJBB",
    "BJNBBAbIBHJDAFJNAKGBJdHABBdBAbjMBdYAeHBRAhOBdxKAdTBPAbpGBQCBJGBPJKAfxRBFAwLBkdDAbEBSJKGcoSAv",
    "XBHAbFBBAKGGAdBBBAKGGAbEBCAFJLAbWBHJJAEBMAKGJAVBFATBqQAbTBDAKGhQAcMBeYAcXBEABJBBcDJHAEJNBcMA",
    "CBBABBBJLACJygCAEDBAHDBACDBABDlBADDbYABDOAEDeaIAeDBFANBDAJBHAKBDACJBAECgeMAKGtYAbUJCAXJuWAFJ",
    "DAGJICIJCAHJbEAEJfSADJrBAdHBBAcTBBACBCABBCACBCAEBBAMBBABBBAHBBAcNBBAEBCAIBBAHBBAbCBBAEBBAFBB",
    "ABBDAHBBAnCBCAZBBAZBBAbFBBAZBBAbFBBAZBBAbFBBAZBBAbFBBAZBBAIBCAbYGtSAcDJEAbYJIABJOABJWAFJBAPJ",
    "bqMAbFBGAGBiFAHJBARJCAHJBACJBAFJFAcKBbHABJeIAbTBDAHJHBCAKGEABBmJAbEBBJRAbSBEJKGsCAbCBEJKGiGA",
    "bEBCJBBKGsRAHBBAEBBACBBAPBBAhPBLAHJbPAcQBHJBBEAKGbtUAEBBAbBBBACBBABBCABBBAKBBAEBBABBBABBGABB",
    "EABBBABBBABBBADBBACBBABBCABBBABBBABBBABBBABBBACBBABBCAEBBAHBBAEBBAEBBABBBAKBBARBFADBBAFBBARB",
    "yEAbABGAbABGAbABdOAbANtNAFJdaEAKGbsuxBABCbEAdSJeYAjGJlecUA"]

/-- The part of each code point at the bounds of sentences. -/
def sentenceBreaks : Partition where
  names := [
    [], ["at", "aterm"], ["cl", "close"], ["fo", "format"], ["lo", "lower"], ["nu", "numeric"],
    ["le", "oletter"], ["se", "sep"], ["sp"], ["st", "sterm"], ["up", "upper"], ["cr"],
    ["ex", "extend"], ["lf"], ["sc", "scontinue"]]
  code := [
    "JABIBNCIBLSABIBJBCEADCCACOBBBAKFCODABJBAbAKBCBABCDAbAEBCBABCHABHbAABIJABEBCBABDHABEEABEBCEAX",
    "KBAHKYEBAIEBKBEBKBEBKBEBKBEBKBEBKBEBKBEBKBEBKBEBKBEBKBEBKBEBKBEBKBEBKBEBKBEBKBEBKBEBKBEBKBEB",
    "KBEBKBEBKBEBKBEBKBEBKBEBKBEBKCEBKBEBKBEBKBEBKBEBKBEBKBEBKBEBKCEBKBEBKBEBKBEBKBEBKBEBKBEBKBEB",
    "KBEBKBEBKBEBKBEBKBEBKBEBKBEBKBEBKBEBKBEBKBEBKBEBKBEBKBEBKBEBKBECKBEBKBEBKDECKBEBKBECKBEDKCEE",
    "KBECKBEDKDECKBECKBEBKBEBKBECKBEBKCEBKBECKBEDKBEBKBECKCEBGBKDEEGCKBECKBECKBEBKBEBKBEBKBEBKBEB",
    "KBEBKBEBKBEBKCEBKBEBKBEBKBEBKBEBKBEBKBEBKBEBKBEBKCECKBEBKBEDKBEBKBEBKBEBKBEBKBEBKBEBKBEBKBEB",
    "KBEBKBEBKBEBKBEBKBEBKBEBKBEBKBEBKBEBKBEBKBEBKBEBKBEBKBEBKBEBKBEBKBEBKBEBKBEBKBEBKBEBKHECKBEC",
    "KCEBKBEEKBEBKBEBKBEBKBEBKcREBGbKEHGCEEAMGOAFEHABGBABGRAeIMBKBEBKBEBGBABKBECAEEBOBKGABKBADKBA",
    "BKBACKBERKBAJKbJEBKCEDKDEBKBEBKBEBKBEBKBEBKBEBKBEBKBEBKBEBKBEBKBEBKBEBKFEBKBEBABKBECKCEbZKbW",
    "EBKBEBKBEBKBEBKBEBKBEBKBEBKBEBKBEBKBEBKBEBKBEBKBEBKBEBKBEBKBEBKBEBKBEBAHMBKBEBKBEBKBEBKBEBKB",
    "EBKBEBKBEBKBEBKBEBKBEBKBEBKBEBKBEBKBEBKBEBKBEBKBEBKBEBKBEBKBEBKBEBKBEBKBEBKBEBKBEBKBEBKBECKB",
    "EBKBEBKBEBKBEBKBEBKBEBKCEBKBEBKBEBKBEBKBEBKBEBKBEBKBEBKBEBKBEBKBEBKBEBKBEBKBEBKBEBKBEBKBEBKB",
    "EBKBEBKBEBKBEBKBEBKBEBKBEBKBEBKBEBKBEBKBEBKBEBKBEBKBEBKBEBKBEBKBEBKBEBKBEBKBEBKBEBKBEBKBEBKB",
    "EBKBEBKBEBKBEBKBEBKBEBKBEBKBEBKBEBAbMKCABGDABOCAbPEBJHAbTMBABMBACMBACMBABMIAbBGEAFGMAGFGACOC",
    "ALMBABDDJbRGVMKFBACFBACGBMdVGBJBGHMBFBAGMCGCMBAEMCGKFDGCABGDJMABDBGBMbEGbBMCAdLGLMBGOAKFbHGJ",
    "MCGCABOBJBGCABMCAWGEMBGJMBGDMBGFMJABJBABJDACJBAZGDMEALGFAYGBAGGBACFFAJMbQGYMBFbHMcCGDMBGSMBG",
    "HMKGCMCJKFBAQGDMBAIGCACGCAWGBAHGBABGDAEGCABMBGHMCACMCADMBGIABMEACGBADGCMCAKFCGKABGBABMCADMBA",
    "GGEACGCAWGBAHGBACGBACGBACGCABMBAFMEACMCADMDABMHAEGBABGHAKFCMDGBMLADMBAJGBADGBAWGBAHGBACGBAFG",
    "CABMBGIMBADMBADMCABGPACGCMCAKFJABGGMBADMBAIGCACGCAWGBAHGBACGBAFGCABMBGHMCACMCADMHADMEACGBADG",
    "CMCAKFBABGQABMBGBAGGDADGBAEGDACGBABGBACGDACGDADGDAMGEAFMDADMBAEMCABGGABMOAKFQAFMIGBADGBAXGBA",
    "QGCABMBGHMBADMBAEMHACMBADGCABGCACGCMCAKFQABGDMBAIGBADGBAXGBAKGBAFGCABMBGHMBADMBAEMHACMGACGBA",
    "CGCMCAKFBACGBMMAEMJGBADGBAbPGCMBGHMBADMBAEMBGFADGBMHADGCMCAKFKAGGBADMBASGDAYGBAJGBABGCAHGDAB",
    "MEAGMBABMBAIMGAKFCACMNAbWGBMCGHMFAHGIMBAKFbNACGBABGBAFGBAYGBABGBAKGBMCGJMBGCAFGBABGBAHMBAKFC",
    "AEGbGABGXACMGAKFLABMBABMBABMECCMIGBAbKGEAUMBACMFGLMBAbKMJABMcFAbRGUMBGKFCJEAGGEMEGDMBGDMCGHM",
    "DGEMNGMMBGBMKFEMCAbMKBABKFABKCAbRGBABEmUGBAEGCAHGBABGBAEGCAbPGBAEGCAbHGBAEGCAHGBABGBAEGCAPGB",
    "AcFGBAEGCAcPGCADMCABJEACJXAQGQAdIKCAGEDAxWGBABJRGBIbAGCCDAcXGDALGHASGEMJATGDMCJJASGCMMANGBAD",
    "GBACMMAcAGbGMCJBABGEABGBMCAKFYABOBJEABOBJBADMBDBMKFGAdLGHAFGCMbIGBMBGFAcSGKAbFGBAMMEAMMIACJK",
    "FbEGCAFGLAbSGEAbAGGALFbLAXGFMEAcBGKMBAbDMCABMKFGAKFNABGEJEAbFMbXAFMbVGRMIGBACJKFCJCACJLAJMJA",
    "DJDMbEGNMCGKFbSGOMMAbKGUMDACJDAKFDADGKFbKGCJJEBKBEFAbRGCADGQADMBAVMEGBMGGBMCGDMBGFAhKEcMMBKB",
    "EBKBEBKBEBKBEBKBEBKBEBKBEBKBEBKBEBKBEBKBEBKBEBKBEBKBEBKBEBKBEBKBEBKBEBKBEBKBEBKBEBKBEBKBEBKB",
    "EBKBEBKBEBKBEBKBEBKBEBKBEBKBEBKBEBKBEBKBEBKBEBKBEBKBEBKBEBKBEBKBEBKBEBKBEBKBEBKBEBKBEBKBEBKB",
    "EBKBEBKBEBKBEBKBEBKBEBKBEBKBEBKBEBKBEBKBEBKBEBKBEBKBEBKBEBKBEBKBEBKBEBKBEBKBEBKBEBKBEBKBEBKB",
    "EBKBEBKBEBKBEBKBEBKJEBKBEBKBEBKBEBKBEBKBEBKBEBKBEBKBEBKBEBKBEBKBEBKBEBKBEBKBEBKBEBKBEBKBEBKB",
    "EBKBEBKBEBKBEBKBEBKBEBKBEBKBEBKBEBKBEBKBEBKBEBKBEBKBEBKBEBKBEBKBEBKBEBKBEBKBEBKBEBKBEBKBEBKB",
    "EBKBEBKBEBKBEBKBEBKBEBKBEBKBEBKJEIKGECAGKCAIEIKIEIKGECAGKCAIEBABKBABKBABKBABKIEIKOECAIEIKIEI",
    "KIEIKFEBACEFKBABEDADEBACEFKDAEECACEEKEAIEFKFADEBACEFKDALIBDCMCDDACODAICEABBDACHFDBIJACCBACJH",
    "ACCDJVABIFDBAKDBABELACCBENACCBANEbZAbHMRABKEABKCABEDKCEDKBEBABKDAFKGABKBABKBABKBAEKBABEEKBEE",
    "GBECACECKFABKEEEABERAQKQEDGBKBEEGoTAECbDACCpFAbAKbAEyBAGCHAOCdBACCbFAKCpNAWCcLAECbGACCtUAbWK",
    "bWEBKBEDKCEBKBEBKBEBKBEEKBEBKCEBKIEDKBEBKBEBKBEBKBEBKBEBKBEBKBEBKBEBKBEBKBEBKBEBKBEBKBEBKBEB",
    "KBEBKBEBKBEBKBEBKBEBKBEBKBEBKBEBKBEBKBEBKBEBKBEBKBEBKBEBKBEBKBEBKBEBKBEBKBEBKBEBKBEBKBEBKBEB",
    "KBEBKBEBKBEBKBEBKBEBKBEBKBEBKBEBKBEBKBEBKBEBKBEBKCEGABKBEBKBEDMBKBEFADJEAbMEBABEFABECAcEGHAB",
    "GPABMXGJAHGBAHGBAHGBAHGBAHGBAHGBAHGBAHGBAbGMOCOACCCAKCEABJBGMABJFABCQACJICqDABIBOBJCADGKCCAI",
    "CBADCBAJGGMBAFGCAFGEAdIGCACMCADGBAdMGBAEGFAbRGBAdQGRAbGGbWAQGtSAjtOGcMAbguFGcPAbUGBABJkJGBAC",
    "JQGKFCGUABKBEBKBEBKBEBKBEBKBEBKBEBKBEBKBEBKBEBKBEBKBEBKBEBKBEBKBEBKBEBKBEBKBEBKBEBKBEBKBEBKB",
    "EBKBEBKBEBGEMBAKMBABGBKBEBKBEBKBEBKBEBKBEBKBEBKBEBKBEBKBEBKBEBKBEBKBEBKBEBKDECMdCGCMBABJDABJ",
    "bFAJGCABKBEBKBEBKBEBKBEBKBEBKBEBKDEBKBEBKBEBKBEBKBEBKBEBKBEBKBEBKBEBKBEBKBEBKBEBKBEBKBEBKBEB",
    "KBEBKBEBKBEBKBEBKBEBKBEBKBEBKBEBKBEBKBEBKBEBKBEBKBEBKBEBKBEBKBEBKKEBKBEBKBECKBEBKBEBKBEBKBEB",
    "KBEBGCABKBEBKBEBGBKBEBKDEBKBEBKBEBKBEBKBEBKBEBKBEBKBEBKBEBKBEBKBEFKBEFKBEBKBEBKBEBKBEBKBEBKB",
    "EBKBEBKBEEKBEBKBECKBECABKBEBABEBABEBKBEBKBEBKBEBKVADEBKBEBGDEHGBMDGBMEGBMXGFMEABMTAcAGCACJIA",
    "CMbYGSMIACJKFGASMGGDABGBACGBMKFbCGIMBABJXGNMMAbDGDAEMbVGOMHACJFABGKFGAFGBMKGKFFGBAbPGOMJADGB",
    "MIGCMCAKFDADJXGDABGDMbYGBMBGDMCGCMFGCMBGBMBGYADGCALGFMCJDGCMKAGGCAGGCAGGJAHGBAHGBAbREBAOEGAd",
    "CEbJGIMBJCMCAKFGAqnSGMAXGEAbXGmnCAoCGCAeCGbMAHEMAFEFABGBMKGBANGBAFGBABGBACGBACGBAeEGbHAnZGCC",
    "QAcMGCAcCGbOAMGEAQMCOBJCOCJCCHAQMBACOCAQCCACCHACOBBBACOCJBOGCEABOMAFGBAfFGCABDBABJGACCCACOBB",
    "BAKFCODABJBAbAKBCBABCDAbAEBCBABCBACCBJCCBOBAcEGCMbFGDAGGCAGGCAGGCADGbCADDEAMGBAbAGBATGBACGBA",
    "PGCAOGbIAeTGcRAcBGfGABMfAAbDGDAbXGPABMbFAbGGNAbEGFAbMGFMFAbEGCAbKGEAIGBAFGbQAbOKbOEdAGCAKFGA",
    "bKKEAbKEEAbOGIAcAGMALKBAPKBAHKBACKBALEBAPEBAHEBACEDAcAGMAlZGJAWGKAIGYABECGDEBAbQEBAJEcRAGGCA",
    "BGBAbSGBACGDABGCAXGKAXGJAbFGcNATGBACGKAWGKAbAGcSAcEGGACGcMABGDMBACMFAEMEGBADGBAbDGCADMEABMWA",
    "CJIAbDGDAbDGbJAIGBAbCGCMZAcCGKAWGKATGNASGeGAcVGcDAbZKNAbZENAbKGEMIAKFGAKFGGWKDAFMBABGWEjQAbQ",
    "GBACMDACGQADGcDAEMbDGKABGIAWGLMEAFJWASGEMEJbMAVGbBAXGJADMcBGPMCJbDAKFBMCGCMBGJAEMbTGLMCABFEJ",
    "BMKABFCAZGHAKFGADMbKGOMBAKFBADJBGCMBGIAbJGBMCABGJADMbWGOMEGCJCAEMBJCMKFBGBABGBACJbGASGBAZGMM",
    "CJBACJBABMCGBMcKAHGBABGBAEGBAPGBAKGBJGAbVGMMFAKFGAEMBAIGCACGCAWGBAHGBACGBAFGBACMBGHMCACMCADM",
    "CABGGABMFAFGCMCAHMDAFMLAKGBABGCABGBAbMGBABGJMBABMCABMBAEMBAFMBGBMBGCJLACMbDAcBGSMEGCJDAKFEAB",
    "MDGbEAbWGUMCGBABGIAKFgKAbVGHMCAJMBACJFAPJEGCMbIAbWGRMCJBABGLAKFbMAbRGNMBGHAKFGAUFbCAbBGCAPME",
    "AKFCADJBAHGhDAbSGPMdXAbGKbGEKFVAIGCABGCAIGBACGBAYGGMBACMCAEMBGBMBGCMBJBABJJAKFcSAIGCAbNGHMCA",
    "HMBGBABGBMbBABGKMbOGHMBGEMDACJDABMIABGLMbUGQMBACJBGSAcVGhRAbHGPAKFGAJGBAbLGIMBAIMBGCJNAKFYAb",
    "EGCAWMBAOMcVAHGBACGBAbMGGMDABMBACMBAHMBGBMIAKFGAGGBACGBAbGGFMBACMBAFMBGHAKFlYATGEMCJHACMBGBM",
    "NGBAbIGHMDAFMCJLAKFBMdHABGdBAbjMGdYAeHGRAhOGdxKAdTGPAbpGGQDBMGGPMKAfxRGFAwLGkdDAbEGSMKFcoSAv",
    "XGHAbFGBAKFEACJdBGBAKFGAbEGCAFMBJKAbWGHMCJHAEGBJLAKFJAVGFATGqQAbTGBACJKFhQAbGKbGEYABJdZAcXGE",
    "ABMBGcDMHAEMNGcMACGBABGBMLACMOAjcAGIAbvQGbPAKGnfRAEGBAHGBACGBAlFGPABGbDADGCABGOAEGIApGGdkUAe",
    "DGFANGDAJGHAKGDACMBJEDgeMAKFtYAbUMCAXMuWAFMDAGMIDIMCAHMbEAEMfSADMrBAbAKbAEbAKHEBASEbAKbAEBKB",
    "ACKCABKCACKCAEKBAIKEEBABEBAHEBALEbAKbAECKBAEKCAIKBAHKBAbAECKBAEKBAFKBABKDAHKBAbAEbAKbAEbAKbA",
    "EbAKbAEbAKbAEbAKbAEbAKbCECAZKBAZEBAGEZKBAZEBAGEZKBAZEBAGEZKBAZEBAGEZKBAZEBAGEBKBECAbYFtSAcDM",
    "EAbYMIABMOABMDABJSAFMBAPMbqMAKEBGUEGAGEiFAHMBARMCAHMBACMBAFMFAcKEbHABMeIAbTGDAHMHGCAKFEABGmJ",
    "AbEGBMRAbSGEMKFsCAbCGEMKFiGAbEGCMBGKFsRAHGBAEGBACGBAPGBAhPGLAHMbPAbIKbIEHMBGEAKFbtUAEGBAbBGB",
    "ACGBABGCABGBAKGBAEGBABGBABGGABGEABGBABGBABGBADGBACGBABGCABGBABGBABGBABGBABGBACGBABGCAEGBAHGB",
    "AEGBAEGBABGBAKGBARGFADGBAFGBARGyEAbAKGAbAKGAbAKbwMADCcbVAKFbnQAclfCGbGAgdUGGAiOGCAinQGOAlbLG",
    "PAxYGdqWAuWGcfYAhhZGFAgfGGbomxLABDbEAdSMeYAjGMlecUA"]

end CodeAtlas
