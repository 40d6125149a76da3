/-
  CodeAtlas.Text.Property.Category — general categories.

  Each code point has one of thirty categories; the one-letter groups are unions of them.
-/
import CodeAtlas.Text.Property.Partition

namespace CodeAtlas

/-- The general category of each code point. -/
def categories : Partition where
  names := [
    ["cn", "unassigned"], ["lu", "uppercaseletter"], ["ll", "lowercaseletter"],
    ["lt", "titlecaseletter"], ["lm", "modifierletter"], ["lo", "otherletter"],
    ["mn", "nonspacingmark"], ["me", "enclosingmark"], ["mc", "spacingmark"],
    ["nd", "decimalnumber", "digit"], ["nl", "letternumber"], ["no", "othernumber"],
    ["zs", "spaceseparator"], ["zl", "lineseparator"], ["zp", "paragraphseparator"],
    ["cc", "control", "cntrl"], ["cf", "format"], ["co", "privateuse"], ["cs", "surrogate"],
    ["pd", "dashpunctuation"], ["ps", "openpunctuation"], ["pe", "closepunctuation"],
    ["pc", "connectorpunctuation"], ["po", "otherpunctuation"], ["sm", "mathsymbol"],
    ["sc", "currencysymbol"], ["sk", "modifiersymbol"], ["so", "othersymbol"],
    ["pi", "initialpunctuation"], ["pf", "finalpunctuation"]]
  code := [
    "bGPBMDXBZDXBUBVBXBYBXBTCXKJCXDYCXbABBUBXBVBbABWBbAbACBUBYBVBYbHPBMBXEZBbBBXBbABbBBFBbCBYBQBb",
    "BBbABbBBYCLBbABCCXBbABLBFBbDDLBXXBBYHBYCBYICBBBCBBBCBBBCBBBCBBBCBBBCBBBCBBBCBBBCBBBCBBBCBBBC",
    "BBBCBBBCBBBCBBBCBBBCBBBCBBBCBBBCBBBCBBBCBBBCBBBCBBBCBBBCBBBCBBCCBBBCBBBCBBBCBBBCBBBCBBBCBBBC",
    "BBCCBBBCBBBCBBBCBBBCBBBCBBBCBBBCBBBCBBBCBBBCBBBCBBBCBBBCBBBCBBBCBBBCBBBCBBBCBBBCBBBCBBBCBBBC",
    "BBBCCBBCBBBCBBDCCBBCBBBCCBBCDBCCEBBCCBBCDBDCCBBCCBBCBBBCBBBCCBBCBBCCBBBCCBBCDBBCBBBCCBCCBFBB",
    "DCEFBBBDBCBBBDBCBBBDBCBBBCBBBCBBBCBBBCBBBCBBBCBBBCBBCCBBBCBBBCBBBCBBBCBBBCBBBCBBBCBBBCBBCCBB",
    "BDBCBBBCDBBCBBBCBBBCBBBCBBBCBBBCBBBCBBBCBBBCBBBCBBBCBBBCBBBCBBBCBBBCBBBCBBBCBBBCBBBCBBBCBBBC",
    "BBBCBBBCBBBCBBBCBBBCBBBCBBBCBBBCBBHCCBBCCBCCBBBCEBBCBBBCBBBCBBBCBBcRCBFbBCSEEbAMEObAFEHbABEB",
    "bABERbAeIGBBBCBBBCBEBbABBBCCABEDCBXBBEACbABBBXDBBABBBACBBCRBBAJBbJCBBCCDBDCBBBCBBBCBBBCBBBCB",
    "BBCBBBCBBBCBBBCBBBCBBBCBBBCBBFCBBBCBYBBBCCBCCbZBbWCBBBCBBBCBBBCBBBCBBBCBBBCBBBCBBBCBBBCBBBCB",
    "BBCBBBCBBBCBBBCBBBCBBBCBBBCBbBFGCHBBBCBBBCBBBCBBBCBBBCBBBCBBBCBBBCBBBCBBBCBBBCBBBCBBBCBBBCBB",
    "BCBBBCBBBCBBBCBBBCBBBCBBBCBBBCBBBCBBBCBBBCBBBCBBBCCBBCBBBCBBBCBBBCBBBCBBBCBBCCBBBCBBBCBBBCBB",
    "BCBBBCBBBCBBBCBBBCBBBCBBBCBBBCBBBCBBBCBBBCBBBCBBBCBBBCBBBCBBBCBBBCBBBCBBBCBBBCBBBCBBBCBBBCBB",
    "BCBBBCBBBCBBBCBBBCBBBCBBBCBBBCBBBCBBBCBBBCBBBCBBBCBBBCBBBCBBBCBBBCBBBCBBBCBBBCBBBCBBBCBAbMBC",
    "ABEGXbPCBXBTCACbBBZBAbTGBTBGBXCGBXCGBXBGIAbBFEAEFCXLAGQDYCXBZCXCbBLGBXBQDXbGFBEKFVGKJEXCFBGd",
    "VFBXBFHGBQBbBGGCECGBbBEGCFKJDFCbBBFOXBABQBFBGbEFbBGCAdLFLGBFOAKJbHFJGCEBbBDXBECABGCZWFEGBEJG",
    "BEDGBEFGCAPXBAZFDGCABXBALFFAYFBbAGFBACQFAJGbPFBEYGBQbGGBIcCFBGBIBGBFDIIGEIBGCIBFHGKFCGCXKJBX",
    "BEPFBGCIBAIFCACFCAWFBAHFBABFDAEFCABGBFDIEGCACICACIBGBFIABIEACFBADFCGCAKJCFCZGLBbBBZBFBXBGCAC",
    "GBIBAGFEACFCAWFBAHFBACFBACFBACFCABGBADICGEACGCADGDABGHAEFBABFHAKJCGDFBGBXKACGBIBAJFBADFBAWFB",
    "AHFBACFBAFFCABGBFDIFGBACGBIBACIBGCABFPACFCGCAKJBXBZHABFGGBABGCIBAIFCACFCAWFBAHFBACFBAFFCABGB",
    "FBIBGBIEGCACICACIBGHACGBIEACFBADFCGCAKJBbBBFGLKABGBFBAGFDADFBAEFDACFBABFBACFDACFDADFDAMFEACI",
    "BGCIDADIBADIBGCABFGABIOAKJDLGbBBZBbBFABGDIBGIFBADFBAXFBAQFCABGBFDGEIBADGBAEGHACGBADFCABFCACF",
    "CGCAKJHABXHLBbBBFBGCIBXIFBADFBAXFBAKFBAFFCABGBFBIBGFIBABGCIBACICGHACIGACFBACFCGCAKJBACFBIMAC",
    "GCIJFBADFBAbPFCGBFDIEGBADIBADIBGBFBbBEADFBIHLDFCGCAKJJLBbBGFBABGCIBASFDAYFBAJFBABFCAHFDABGEA",
    "DIDGBABGBAIIGAKJCACIBXMAbWFBGCFHGEABZGFBEIGBXKJCXbLACFBABFBAFFBAYFBABFBAKFBGCFJGBFCAFFBABEBA",
    "HGBAKJCAEFbGABFDbBPXBbBBXDbBCGGbBKJKLBbBBGBbBBGBbBBGBUBVBUBVCIIFBAbKFEAOGBIFGBXCGFFLGBAbKGBA",
    "IbBBGGbBBACbBFXEbBCXbLAbRFCIEGBIGGBICGCICGBFKJGXGFCICGEFDGBFDICFHIDFEGNFBGCICGGIBGBFBIKJDIBG",
    "CbBbMBBABBFABBCAbRCBXBEDCmRFBAEFCAHFBABFBAEFCAbPFBAEFCAbHFBAEFCAHFBABFBAEFCAPFBAcFFBAEFCAcPF",
    "CADGJXULDAQFKbBGAdIBCAGCCABTxWFBbBBXRFBMbAFBUBVDAcXFDXDKIFHASFDGBIJATFCGBICXJASFCGMANFBADFBA",
    "CGMAcAFCGBIHGIIBGCILGDXBEDXBZBFBGCAKJGAKLGAGXBTEXDGBQBGKJGAbJFBEcBFHAFFCGbIFBGBFFAcSFKAbFFBA",
    "DGEICGDIEACIBGGIDGEABbBDACXKJbEFCAFFLAbSFEAbAFGAKJBLDAbIbBXFCGCIBGCACXcBFBIBGBIHGBABGBIBGCII",
    "GGIKGCABGKJGAKJGAHXBEGXCAOGBHQGbXAEGBIbVFBGBIFGBIBGFIBGCIIFBACXKJHXKbBJGJbBDXCGBIbEFBIEGCICG",
    "BIDGCFKJbSFBGBICGDIBGBIDGCIIAEXbKFIIIGCICGDAFXKJDADFKJbEFGECXJCBBBCFAbRBCADBIXIADGBXNGBIHGEF",
    "BGGFBGCFBICGBFFAbSCcLENCBEbICbLEcMGBBBCBBBCBBBCBBBCBBBCBBBCBBBCBBBCBBBCBBBCBBBCBBBCBBBCBBBCB",
    "BBCBBBCBBBCBBBCBBBCBBBCBBBCBBBCBBBCBBBCBBBCBBBCBBBCBBBCBBBCBBBCBBBCBBBCBBBCBBBCBBBCBBBCBBBCB",
    "BBCBBBCBBBCBBBCBBBCBBBCBBBCBBBCBBBCBBBCBBBCBBBCBBBCBBBCBBBCBBBCBBBCBBBCBBBCBBBCBBBCBBBCBBBCB",
    "BBCBBBCBBBCBBBCBBBCBBBCBBBCBBBCBBBCBBBCBBBCBBBCBBBCBBBCBBJCBBBCBBBCBBBCBBBCBBBCBBBCBBBCBBBCB",
    "BBCBBBCBBBCBBBCBBBCBBBCBBBCBBBCBBBCBBBCBBBCBBBCBBBCBBBCBBBCBBBCBBBCBBBCBBBCBBBCBBBCBBBCBBBCB",
    "BBCBBBCBBBCBBBCBBBCBBBCBBBCBBBCBBBCBBBCBBBCBBBCBBBCBBBCBBBCBBBCBBBCBBJCIBGCCAGBCAICIBICIBGCC",
    "AGBCAICBABBBABBBABBBABBICIBOCCAICIDICIDICIDFCBACCEBBDBbABCDbADCBACCEBBDDbAECCACCEBBADbAICFBD",
    "bACADCBACCEBBDCbABALMFQGTCXBbCBbDBUCbCBbDBUBbCIXBNBOFQBMJXBbCBbDEXCWDXBYBUBVLXBYBXBWKXBMFQBA",
    "KQBLBECAGLDYBUBVBEKLDYBUBVBANEDAbHZPANGEHBGDHMGPACbBBBEbBBBCbBBCDBCCDBBCBbBBBCbBBYFBGbBBBBbB",
    "BBBbBBBBbBEBBbBBCEBBCEFBCCbBCCCBFYBBECBbBBYCbBBCBbBQLbJKBBBCEKBLCbBEAFYFbBCYEbBBYCbBBYCbBBYH",
    "bBBYbFbBCYCbBBYBbBBYbFbBkIYIbBBUBVBUBVUbBCYHbBBUBVdDbBBYbEbBZYbObBGYcUbBWALbBVAcILdAbBWLhBbB",
    "BYJbBBYcCbBIYeHbBBYjObBBUBVBUBVBUBVBUBVBUBVBUBVBUBVbELbSbBFYBUBVbFYBUBVBUBVBUBVBUBVBUBVQYjWb",
    "BfBYBUBVBUBVBUBVBUBVBUBVBUBVBUBVBUBVBUBVBUBVBUBVcLYBUBVBUBVbGYBUBVjYYbWbBVYCbBGYbNbBCAbGbBBA",
    "eBbBbWBbWCBBBCDBCCBBBCBBBCBBBCEBBCBBCCBBGCCEDBBCBBBCBBBCBBBCBBBCBBBCBBBCBBBCBBBCBBBCBBBCBBBC",
    "BBBCBBBCBBBCBBBCBBBCBBBCBBBCBBBCBBBCBBBCBBBCBBBCBBBCBBBCBBBCBBBCBBBCBBBCBBBCBBBCBBBCBBBCBBBC",
    "BBBCBBBCBBBCBBBCBBBCBBBCBBBCBBBCBBBCBBBCBBBCBBBCBBBCBBBCBBCCGbBBBBCBBBCDGBBBCFAEXBLCXbMCBABC",
    "FABCCAcEFHABEBXOABGXFJAHFBAHFBAHFBAHFBAHFBAHFBAHFBAHFBAbGGCXBbCBbDBbCBbDDXBbCBbDBXBbCBbDJXBT",
    "CXBTBXBbCBbDCXBbCBbDBUBVBUBVBUBVBUBVFXBEKXCTEXBTBXBUNXCbBDXBUBVBUBVBUBVBUBVBTbIAbAbBBAdLbBMA",
    "iGbBbAAQbBBMDXBbBBEBFBKBUBVBUBVBUBVBUBVBUBVCbBBUBVBUBVBUBVBUBVBTBUCVBbBJKEGCIBTFECbBDKBEBFBX",
    "CbBBAdIFCACGCbACEBFBTdMFBXDEBFFAbRFBAdQFBACbBELKbBbGFbMbBJABbBQFbFbBBAKLbEbBILBbBPLbGbBKLbNb",
    "BPLmIbBjtOFcMbBbfcFFBEbrZFDAcDbBJAbOFGECXkIFBEDXQFKJCFUABBBCBBBCBBBCBBBCBBBCBBBCBBBCBBBCBBBC",
    "BBBCBBBCBBBCBBBCBBBCBBBCBBBCBBBCBBBCBBBCBBBCBBBCBBBCBBBCBFBGDHBXKGBXBEBBBCBBBCBBBCBBBCBBBCBB",
    "BCBBBCBBBCBBBCBBBCBBBCBBBCBBBCBBBCCECGcSFKKCGGXIAXbAJECbABBBCBBBCBBBCBBBCBBBCBBBCBBDCBBBCBBB",
    "CBBBCBBBCBBBCBBBCBBBCBBBCBBBCBBBCBBBCBBBCBBBCBBBCBBBCBBBCBBBCBBBCBBBCBBBCBBBCBBBCBBBCBBBCBBB",
    "CBBBCBBBCBBBCBBBCBBBCBBBCBEICBBBCBBBCCBBCBBBCBBBCBBBCBBBCBECbABBBCBBBCBFBBBCBBDCBBBCBBBCBBBC",
    "BBBCBBBCBBBCBBBCBBBCBBBCBBBCFBBCFBBCBBBCBBBCBBBCBBBCBBBCBBBCBBBCEBBCBBBCCBBCCABBBCBABCBABCBB",
    "BCBBBCBBBCBBVADEBBBCBFCEBCHFBGDFBGEFBGXFCICGBIEbBBGDAGLCbBBZBbBGAcAFEXIACIbYFQICGIACXKJGASGG",
    "FDXBFBXCFBGKJbCFIGCXXFLGCILABXbDFDADGBIbVFBGCIEGCICGDINXBABEKJEACXFFBGBEJFKJFFBAbPFGGCICGCIC",
    "GJADFBGIFBGBICAKJCAEXQFBEGFDbBBFBIBGBIbYFBGBFDGCFCGFFCGBFBGBFYACFBECXLFBICGCICXBFCEBIBGKAGFC",
    "AGFCAGFJAHFBAHFBAbRCBbAEEJCBECbAEAdCCbJFCIBGCIBGCIBXBIBGCAKJGAqnSFMAXFEAbXFEAdaUSjmERoCFCAeC",
    "FbMAHCMAFCFABFBGKFBYNFBAFFBABFBACFBACFBAeEFRbAQAnZFBVBUQbBcMFCAcCFHABbBbGAMFBZDbBQGHXBUBVBXG",
    "AQGBXCTCWBUBVBUBVBUBVBUBVBUBVBUBVBUBVBUBVCXBUBVEXDWDXBAEXBTBUBVBUBVBUBVDXBYBTDYBABXBZCXEAFFB",
    "AfFFCABQBADXBZDXBUBVBXBYBXBTCXKJCXDYCXbABBUBXBVBbABWBbAbACBUBYBVBYBUBVBXBUBVCXKFBEbTFCEbFFDA",
    "GFCAGFCAGFCADFDACZBYBbABbBCZBABbBEYCbBKADQCbBCAMFBAbAFBATFBACFBAPFCAOFbIAeTFFADXEAbTLDAJbBcB",
    "KELRbBCLDbBBANbBDABbBbVAbTbBBGfAAbDFDAbXFPABGbBLEAbGFELJAUFBKIFBKFAbMFFGFAbEFBABXbKFEAIFBXFK",
    "bQAbOBbOCdAFCAKJGAbKBEAbKCEAbOFIAcAFLABXLBBAPBBAHBBACBBALCBAPCBAHCBACCDAcAFMAlZFJAWFKAIFYAGE",
    "BAbQEBAJEcRAGFCABFBAbSFBACFDABFCAXFBABXILXFCbBHLbFFIAJLbWATFBACFFAFLWFGLDABXbAFFABXcMAcEFEAC",
    "LCFQLCAbULBFDGBACGFAEGEFBADFBAbDFCADGEABGJLHAJXHAbDFCLBXbDFDLbGAIFBbBbCFCGEAFLHXJAcCFDAHXWFC",
    "AILTFFAILSFHAEXMAHLdCAcVFcDAbZBNAbZCHAGLbKFEGIAKJGAKJEFBEBFWBDAFGBTBEWCIACYiAAbFLBAbQFBACGBT",
    "CACFQADFcDAEGbDFKLBFIAWFLGELFXWASFEGEXbMAVFHLUAXFJABIBGBIcBFPGHXEAULKJBGCFCGBFJADGBIbTFDIEGC",
    "ICGCXBQEXBGKABQCAZFHAKJGADGbKFFGBIIGBAKJEXBFCIBFIAbJFBGCXBFJACGBIbWFDIJGCIEFEXEGBXBIBGKJBFBX",
    "BFDXBAULLASFBAZFDIDGCIBGBICGGXBGCFBGcKAHFBABFBAEFBAPFBAKFBXGAbVFBGDIIGFAKJGACGCIBAIFCACFCAWF",
    "BAHFBACFBAFFBACGBFCIBGEICACICADICABFGABIFAFFCICAHGDAFGLAKFBABFCABFBAbMFBABFDIGGBABICABIBAEIB",
    "ACIBGBIBGBFBGBFCXBACXIACGbDAcBFDIIGCIDGBIBGEFFXKJCXBABXBGDFbEAbWFDIGGBIBGEICGBICGCFBXBFIAKJg",
    "KAbVFDIEGCAEICGBICGXXEFCGbIAbWFDIIGCIBGBICGDXBFLAKJGANXTAbRFBGBIBGCIGGBIBGBFBXGAKJGAUJbCAbBF",
    "CABGBIBGCIEGBIFGEAKJCLDXBbBHFhDAbSFDIJGBICGBXdWAbGBbGCKJJLMAIFCABFCAIFBACFBAYFGIBACICACGBIBG",
    "BFBIBFBIBGDXJAKJcSAIFCAbNFDIEGCACGEIBGBFBXBFBIbBABFKGbOFGGBIBFEGIXBGIABFGGCIDGbUFNGBICGDXBFF",
    "XNAcVFHAKXhAAbHFBXOAKJGAJFBAbLFBIHGBAGGBIBGBFFXKAKJTLDACXbEFCAWGBABIHGBICGBICGcVAHFBACFBAbMF",
    "GGDABGBACGBAHGBFBGIAKJGAGFBACFBAbGFFIBACGBACIBGBIBGBFHAKJlYATFCGCICXHACGBFBINFBAbIFCIFGDACIB",
    "GBIBGNXKJBGdHABFPAVLIbBEZRbBNABXbjMFdYAeHKBAFXLAhOFdxKAdTFCXNAbpGFQQBGGFPGKAfxRFFAwLFkdDAbEF",
    "MGDIDGKJcoSAvXFHAbFFBAKJEACXdBFBAKJGAbEFCAFGBXKAbWFHGFXEbBEEBXBbBKAKJBAHLBAVFFATFqQADEbOFCED",
    "XKJhQAbGBbGCXLEXdXAcXFEABGBFcDIHAEGNEcMACEBXBEBGLACIOAjcAFIAbvQFbPAKFnfRAEEBAHEBACEBAlFFPABF",
    "bDADFCABFOAEFIApGFdkUAeDFFANFDAJFHAKFCABbBCGBXEQfvGAjGbBKJGAqUbBcYAbUGCAXGJAeMbBcIAjMbBKAbNb",
    "BCAcIbBCIDGDbBGIIQIGCbBHGbEbBEGcJbBVAcObBDGBbBeSAULMAULMAdJbBJAZLfFAbABbACbABHCBASCbABbACBBB",
    "ACBCABBCACBCAEBBAIBECBABCBAHCBALCbABbACCBBAEBCAIBBAHBBAbACCBBAEBBAFBBABBDAHBBAbACbABbACbABbA",
    "CbABbACbABbACbABbACbABbCCCAZBBYZCBYGCZBBYZCBYGCZBBYZCBYGCZBBYZCBYGCZBBYZCBYGCBBBCCAbYJtSbBcD",
    "GEbBbYGIbBBGObBBGCbBFXPAFGBAPGbqMAKCBFUCGAGCiFAHGBARGCAHGBACGBAFGFAcKEbHABGeIAbTFDAHGHECAKJE",
    "ABFBbBmIAbEFBGRAbSFEGKJFABZrWAbBFBEEGKJiGAbEFCGBFKJEABXsMAHFBAEFBACFBAPFBAhPFCAJLHGbPAbIBbIC",
    "HGBEEAKJEACXbeFAcHLBbBDLBZELcYAbTLBbBPLhMAEFBAbBFBACFBABFCABFBAKFBAEFBABFBABFGABFEABFBABFBAB",
    "FBADFBACFBABFCABFBABFBABFBABFBABFBACFBABFCAEFBAHFBAEFBAEFBABFBAKFBARFFADFBAFFBARFcAACYkKAbSb",
    "BEAdWbBMAPbBCAPbBBAPbBBAbLbBKANLgFbBcEAbDbBNAbSbBEAJbBHACbBOAGbBfYAjRbBFbAbcAbBEARbBDANbBDAe",
    "PbBEAdRbBGAMbBEABbBPAMbBEAcEbBIAKbBGAbObBIAbEbBCAMbBEACbBcKAnCbBMAObBCANbBDAKbBFAcEbBHAPbBCA",
    "LbBGAJbBHAfRbBBAdObBKJbnQAclfCFbGAgdUFGAiOFCAinQFOAlbLFPAxYFdqWAuWFcfYAhhZFFAgfGFbomxLABQbEA",
    "dSQeYAjGGdsfOAdsyORCAdsyORCA"]

end CodeAtlas
