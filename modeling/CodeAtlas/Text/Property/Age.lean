/-
  CodeAtlas.Text.Property.Age — when code points came into the standard.
-/
import CodeAtlas.Text.Property.Partition

namespace CodeAtlas

/-- The version of the standard that brought each code point; the first value stands for none. -/
def ages : Partition where
  names := [
    [], ["1.1", "v11"], ["2.0", "v20"], ["2.1", "v21"], ["3.0", "v30"], ["3.1", "v31"],
    ["3.2", "v32"], ["4.0", "v40"], ["4.1", "v41"], ["5.0", "v50"], ["5.1", "v51"], ["5.2", "v52"],
    ["6.0", "v60"], ["6.1", "v61"], ["6.2", "v62"], ["6.3", "v63"], ["7.0", "v70"], ["8.0", "v80"],
    ["9.0", "v90"], ["10.0", "v100"], ["11.0", "v110"], ["12.0", "v120"], ["12.1", "v121"],
    ["13.0", "v130"], ["14.0", "v140"], ["15.0", "v150"], ["15.1", "v151"], ["16.0", "v160"]]
  code := [
    "tIBEEbEBIEBGBHSEDHLIOJdLBFECHbVBBEKBFERHcSBJEBGIHFIDHCBBENGEKCBCKCABBDJBBBQEAHBBABBBAUBBAbSB",
    "BKHBBECGBBBEBBBEBBBEBBBESBCFBGFHEIBEMBBEcOBBEMBBEbPBBKCECGEEcBBCGCBCGCBCGBJbCBCEIBCICBGJQGEJ",
    "QKCLCMIQBAbMBCAHBBUbNBBUBBBECACQBNBARCBINCKBBJJBBCDIIAbBBEABUFBLAEHBNBQFKBIBBJHFKBBBPBYBIBBB",
    "MbABFKTBDEDHGIBMOBCGcUBCEFBBEPBBEbEBCHKBFEBHOEBAbEEDHbBECADHbEISKbXEBGOAcHJCADUbULCAPLBAbCMC",
    "ABMBALTFAbFYBACYFABbBIYBNBQLNGQCRBYISKXLYBUPSBRbBNBQBLDBBHcBBCMSBBLBMFBBLCMZBCKFMBQCLCJBICJB",
    "QDBBAIBCACBCAWBBAHBBABBDAEBCABBBHHBCACBCADBBIIABBEACBBAFBCAVBBLCTBUCABHBBBHBAGBEACBCAWBBAHBB",
    "ACBBACBBACBCABBBAFBEACBCADBDABKHAEBBABBHAPBBKBUKADBBAHBBHBBBADBBAWBBAHBBACBBAFBCAKBBADBBADBC",
    "ABBPABBDHCAKBBNBHHABRGTBADBBAIBCACBCAWBBAHBBACBBABHEBCAIBBKCACBCADBHABXCBEACBBADBCKCALBBHGMK",
    "ACBBAGBDADBBAEBDACBBABBBACBDACBDADBDAIBBIDBEAFBDADBBAEBCABKGABBOABIMBIHFABQDBBUIBBADBBAXBBAK",
    "BBQFBCABYBKHBBADBBAEBHACBBACKBRCABYCACBCKCAKBHABVIKBSBQCBBUIBBADBBAXBBAKBBAFBCACHHBBADBBAEBH",
    "ACBGABYBBBACBCJCAKBBACJBZMABTBQCBBXIBBADBBAXBBMQBBMCTBKGBBKBADBBAEBBMBSEADSBBHSBRCBCKCAKBGKD",
    "SHKBABXCEBASEDAYEBAJEBABECAHEDABEEAGEBABEBAIEGAKQCADEMAcGBEAbDBbLACBBABBBABVCBBVBBBABVBBGVEB",
    "BVHBBVDBBABBBABBCVCBBVNBBVDBCAFBBABBBAGBBZBAKBCACBCNbGAcUCBAbHCBECKEAbBCEMGCBEBCBAVCDEHCBEBC",
    "DEBAPEBABKBECIDKELCMbLAbIEBKFEBKCEBKHEDKEEGKbAEcMKELCKbMBBABNFABNCAbNBCGCIBBBIDNdMBFLcQBFLdE",
    "BGLHEBIcLEBIBEBAEECAHEBABEBAEECAbNEBIBEBAEECAbFEBIBEBAEECAHEBABEBAEECAHEBIHEBAXEBIbFEBIBEBAE",
    "ECAHEBIbNEBITECACMCIbCEDAbAIGAdHEBRCAGRCABLyGEJLbDEDAdDEIQHANGBYHGBYJABYXGJAUGMANGBADGBACGMA",
    "dPEBHCAKEGAKHGAPEBYKEGAdKEBUHAbQEBKFAcSLKAbDHCQBAMHEAMHEABHDAbQHCAFHLAbQICLEAbAIGAKIBLDACIbG",
    "HbCICACIcLLBAbDLCALLGAKLGAOLCAPQCXOYbXAcYJBYBACbBbTJCYBbBbRKDNMKGNcAMIAEMcEKDAPKDAbZKJSCbBFA",
    "bRUCADUINIAbJLENBTCQBVFAeEHdKIHJbCKPQETBYBSBMBLCJfZBBCEKdMBGKWBCAGBCAbMBCAGBCAIBBABBBABBBABB",
    "BAbFBCAcBBBAPBBAOBCAGBBATBCADBBAJBBAbVBBEXBBGGEFGCHCIBGHIFGBKBAEPHBBGCAbBBBAFIIMDALBBCBDDECG",
    "EIDLBMBODQBRBTBYPASBCEHGBIEJBKPAcFBCEBHBIPGBICJBKDLbWBBEBJEKBLCREAdNBJEMGjIBOGBBBEeRBBEBGbEE",
    "cAGCHLIMJBLLMHQESBTbLBCEDbBWALBVAfJBUGBHfUBKGdCBIEIGUBCHCGBIBEdIBCEMGCIKGIHLIBKCLCHQIBJKKDLE",
    "KKLBMTLBMBLEMYLBQEBBMEBCMbCBBMbJBBMBBBMEBDMBBBLHBCMHBOGbFBDMYBBMOBBMHIEJBNBKBNCMbCGEKQGjWEtS",
    "GOHGIHJFKEJbPKDQFKFLbAQCAbGQBABXbIQDUMQBVIQBTZUERPUBVbVIBYbVIBYNJDKBLDKEJGKCLeDIHLCNFAbTIBAB",
    "NFABNCAcCICNHABIBMOABMXIJAHIBAHIBAHIBAHIBAHIBAHIBAHIBAHIBAbGKYIEKCITKBLKNHQCSFTFUBVDXLYbIAbA",
    "EBAdLEMAiGEbAAMEEbAcEBDEDGBEBBBAdGBCGCAGBCGdQBBGFAbOBBKBTBUBAdQBBAQBYEDMFXQIUKCbBJABbAQGbDBC",
    "HBAbKBMLBHPGbCBCHBIbYBPGMBEHbVBBWePBEHdVBCHbFBBHjtEEKXcMHbexYBWIIKILBNJRVTFUNXDYbsVEDASECGQE",
    "BGMEBGDEBGBEJAbWLlOKUAbGKCMSKINbCKGQBRBNdKLIAXIEJFKCJeDKCMBRCMCNMQKMBNDQBSBUCQGRCUGVCYFVEXDb",
    "BCACYBABYBAFYDbBVADYCXBQCNBMFKbSIBXDAKLGAcEJIAcRKBSIAMKGAbCLCRCUdGKLABKbDLDAdALBALLEACLbFQBA",
    "cDKJAOKCAKKCAEKbCLEQcPLYAFLXNKAGMCAGMCAGMJAHMBAHMBAbWQERCQCVEXEAdCRbULCAKLGAqnSCMAXLEAbXLEAd",
    "aUCjxUBCNcHGDLCAeCIbMAHBMAFBFABEZBBAFBBABBBACBBACBBAeEBQMBYQAoBBQYcMBCAcCBHABYbGFMBBGBHCYQGK",
    "IGAEBDKHQCRVBCGCHKBBATBBAEBEADBBGBBBAfFBCABBBAdQBCGdQBDAGBCAGBCAGBCADBDAHBBAHBKADEBDDBMHBAbA",
    "HBATHBACHBAPHCAOHbIAeTHFADHEAbTHDAJHcXICQCSBAMKBXDABQbVAbUKfAAbDKDAbXKPAbCQEAbFFBQEFJADTbBFF",
    "AbRQFAbEHBABHbKIEAOIbQAbMFCHbMFdCHCAKHGAbKSEAbKSEAbOQIAcAQLABQLYBAPYBAHYBACYBALYBAPYBAHYBACY",
    "DAcAbBMAlZQJAWQKAIQYAGYBAbQYBAJYcRAGHCABHBAbSHBACHDABHCABHWLBAJLcLQIAJQbWATRBACRFAFRbAJCLDAB",
    "JbAKFABKcMAcENEACRCNQRCAbUREIBACIFAIIBADIBAbBICUCADIEAJIBUHAJIHAbGLbGQbGAbNQEAMQJAcCLDAbDLCA",
    "bBLFAILSQHAEQMAHQdCAcVLcDAbZRNAbZRHAGRbOUIAKUGAbMbBDAbDbBIACbBiAAbFLBAbQXBADXCACXQADbBcDABbB",
    "DZbOUIAbQUWAbAYbMAbCXUAXVJAdAMEAbEMGYJABQcOLBYKABUCAZNHAKNGAcBNBAONDUBXIAbNQJAcVNERBQCXKNBQF",
    "RBAUQLASQBAbRQBSDZcKAHRBABRBAERBAPRBALRGAcHQFAKQGABRDQBAIQCACQCAWQBAHQBACQBAFQBABUJQCACQCADQ",
    "CABRGABQFAHQCAHQDAFQLAKbBBABbBCABbBBAbMbBBAKbBBABbBCABbBBAEbBBAKbBBACbBIACbBbDAdMSBXBSBABSBU",
    "BVCXbEAcUQIAKQgKAcCQCASQURbIAcRQLAKQGANSTAcENBVBYGAKNGAUbBbCAbARBUCAPREAQRHYhDAcIUdWAdFQMABQ",
    "HXCABXCAIXBACXBAbEXBACXCAMXJAKXcSAIVCAbUVCALVbBAcUTIAcATCVXTBUFTNAQYcFQHAKZhAAbIbBOAKbBGAJSB",
    "AbTSBAOSKAbDSDAbGSCAWSBAOScVAHTBACTBAbSTDABTBACTBAJTIAKTGAGUBACUBAbLUBACUBAGUHAKUlYAZUHARZBA",
    "bPZDAbCZBbBdHABXPAbYVNABVbhVJbQQBRdYAdVJMQBAEJBQLAhORdxKAdVYNAbpFLBZJVbDZKAfxRbBFAwLRkdDAcGb",
    "BcoSAvXMHAbFQBAKQEACQdBYBAKYGAbEQCAGQKAcSQKAKQBAHQBAVQFATQqQAcGbBhQAdNUdXAcRNGVEABVbVNJVHARN",
    "cMABSBTCVBXLACXOAjbPSFUGVIAbdBSsPXbPABbBJXnfRAEYBAHYBACYBACMkZTEYPABZbDADVCABZOAEVIApGTdkUAe",
    "DQFANQDAJQHAKQCAIQfvGAjQbBGAqUbBcYAbUYCAXYJAeMYcIAjMFKAbNFCABKgYFLRCYVAcSIeSAUZMAUUMAdJHJASJ",
    "HUfFAdHFBAcTFBACFCABFCACFCAEFBAMFBABFBAEFBHCFBAcNFBAEFCAIFBAHFBAbCFBAEFBAFFBABFDAHFBAnAFCICA",
    "lEFCJCAbYFzCRPAFRBAPRbqMAbFYGAGZiFAHSBARSCAHSBACSBAFSFAcKZbHABZeIAbTVDAOVCAKVEACVmIAbFYRAcGV",
    "FABVrWAbQZiGAbRbBEABbBsMAHYBAEYBACYBAPYBAhPQCAQQbPAcXSBVEAKSEACSbeFAcQUcYAcJVhMAENBAbBNBACNB",
    "ABNCABNBAKNBAENBABNBABNGABNEABNBABNBABNBADNBACNBABNCABNBABNBABNBABNBABNBACNBABNCAENBAHNBAENB",
    "AENBABNBAKNBARNFADNBAFNBARNcAACNkKAbSKEAdWKMAPMCAOMBQBAPMBAPMWQKALLCQDXbFLBUBMBLLMBLBMBLCMBL",
    "DMBLDMFLIMBLHMBLKMCNBVDXJMBLBMCLCMBLKMELCMBLKMSSBXcEAbAMBLCMNAbILJMBSEAJLHACMOAGTfYAbHMMQDRG",
    "MBQcSMBQCRUMMQbLMBQFMEQFRMQRMHQIRcLMBQBMBQhAMBQEMCQBRcKMCQENHQFRYMSQBSbPQBSdIQFMBNQMBNDMBNBM",
    "BNBMBNBMBNDMBNGMCNEMBNBMCNEMBNMMCQCRLMbWQcSMKQBRCSCTBVCXEABZDYNQDAEQDSCTBUBVCXDAeMMDZEAFZdHQ",
    "EUBZGAMVEABYPAMQEAcEQIAKQGAbOQIAbEQCACXKbBEACbBcKAMTBXDVJRGSBTISITBSCTMSBVMSBTDUPSNTFUBVBXEU",
    "CXBYBUBVEUFRNSGTLUCXGVDXCVKUGVBRCUIVBXBYDVXTZUdGVMAOUCAEVBXDZDVCYDADVEXCZBbBFABbBGVTXEYDZHXE",
    "YDZBbBBZDXDYBbBHACZHXDYCZBbBCABbBIYBZBbBGAHYCZHAfRXBAcDXbLbBKXbnOACCcleTFHXCYbGAgdPLEYBZGAiO",
    "MCAinQROAlbLTPAxYbAdqWAuWFcfWACChhZXFAgfGZdflEACCdsyOACCdsyOACCdsyOACCdsyOACCdsyOACCdsyOACCd",
    "syOACCdsyOACCdsyOACCdsyOACCBABFbEAdSFeYAjGHdsfMAhlxIC"]

end CodeAtlas
