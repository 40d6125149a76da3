/-
  CodeAtlas.Text.Property.Binary — properties that a code point has or has not.
-/
import CodeAtlas.Text.Property.Partition

namespace CodeAtlas

/-- The code points that have a property, for each property. -/
def binaryProperties : List BinaryProperty := [
  ⟨["ahex", "asciihexdigit"], [
    "bWJHFbAF"]⟩,
  ⟨["alpha", "alphabetic"], [
    "cNZGZbVAKAEAFWBbEBrPELOEHABAdIAbDRBBCDBAGABCBABTBdEBfIIgJBbLCAGbObNNBABBBBBAIbAEDbDKFcDBGOdX",
    "BHEHECKCCAQbVNdWYbGJBEAFXCSTYHKFXBFIAIbPKLDGGcXBPBCEONSBHCBCVBGBADDDHCBCBBAIAEBBEMBKAECBFEBC",
    "VBGBBBBBBEEEBCBEAHDBARFLCBIBCBVBGBBBEDIBCBBDAPDVDECBHCBCVBGBBBEDHCBCBJBEBBENAQBBFDCBDDBBABBD",
    "BDCDLEEDCBCDAGAbOMBCBWBPDHBCBCIBBCCACDbCDBHBCBWBJBEDHBCBCIBGBBDNCMMBCBbOCHBCBCBAFDHEWFBCBRDX",
    "BIBACGIFBABHSBNcFFGGAbZBBABEBXBABSBCCEBAGAODbGAcLHBbJESEPBbJcPcCBACEQcLKDCbLBAFACbQBmUBDCGBA",
    "BDCbOBDCbGBDCGBABDCOBcEBDCcObLPQdHCFDxVCQBZFcWDKHTLUMTMMBCBBMbZCSOAEAcPdKHbQFcRKbEBLEIXbDCEL",
    "bREZcCbBEcKCTbYAXBLCbXbZBOBHbZbPCDKbRBKOcCWCKbJCKFbQCCbPDBFBBDAFhJTbHLkRCFCbLCFCHBABABABbECc",
    "ABGBADCBGDDCFEMFCBGeMANAQMdXAEACJBADEGABABABDBKCDFEEARbObfHbZcrUiUGDDBMbLBAFACcDHAQWJGBGBGBG",
    "BGBGBGBGBbFbVAsBCZIHECEEdHGCBdLBDFbQBdPRbFbWPtSjtNcMbguEcPbTCkIDPKBUbUFHDeIbNICdYCcOCBBABHVT",
    "BbGYbZMcPBAbSFDABCKbGFbINbCDbYBLPAQPKEBcCJNSWDcQBABAYCCPCDLFCFCFJGBGBbQBNGeSVqnRMWEbWmnCoBCe",
    "BbMGMEFLBMBEBABBBBBeDbHnYScLCcBbOLeMEBfEbKZGZLdKDFCFCFCCbJLBZBSBBBOCNbIeScRcAkHbCDbWbVbFNbDF",
    "bQFbDCbJEHBEbQgBSbJEbJEbNIbZMKBOBGBBBKBOBGBBDbZMlYJVKHYFBbPBIcRFCABbRBBDACWKWJbEcNSBBKVKZcSc",
    "DGBcMDBBFHBCBbCbQbCDbCbJHBbBbBcBKVKSNReGcUcDbYNbYNbNbIbBDAFWjQbPBBDBQCcDADbCKAIVbQRbUUbBWJcR",
    "bREKcEJANYXbYRDIbIDAJcLBDJBKABAbJRBbHCAGDcKGBABDBOBJHcEXDBHCBCVBGBBBEDHCBCBDAGAFGbCJBACABbLB",
    "JBACABDBBDABAbScNBCBDUCbEcNCBBAhCcBCGZFbIcKBADAcHcBCAcTbACNVGhDcEdZcLbFHCACHBBBbDBBCBCDdPHCb",
    "TCFBABBbBbYCJRcTFAScUhRbGbFIBbSBGBAbXbDCVBNcVGBBBbRDABBBCBACBYFBBBbKBBBDBAmPWJQBbODCeHAdBbjL",
    "dYeGRhNdxKdSPbpFRFZfxQFwKkdDbUcpDvWHbERdARbDSbVQDbFUFSqQbSiDcLeYcWEcEHQcMBBAMBOjbZIbvPbPJnfR",
    "DBGBBBlEPAbDCCAODIpFdkUeCFMDIHJEAiwFdGBcSBBCACBCDBLBABGBcMBDCHBGBbBBDBEBADGBnBCYBYBbEBYBbEBY",
    "BbEBYBbEBYBHcsYbEGFiFGBQCGBBBEFcJbHAeIbSKGQAmJbDSbRsQbBiUbDCAtBGBDBBBOBhOcHcPDADAbuIDBbABBBA",
    "CABJBDBABAGAEABABABCBBBACABABABABABBBACDBGBDBDBABJBQFCBEBQyEZGZGZfmKclfBbGgdTGiNCinPOlbKPxXd",
    "qWuVcfYhhYFgfF"]⟩,
  ⟨["bidic", "bidicontrol"], [
    "ciEAjvLBbAEcDD"]⟩,
  ⟨["bidim", "bidimirrored"], [
    "bOBSABAbCABAbDABAbTAPAfmSDcuNBdqQBKBcCBOBgVAhKDDFDADBDDBDBABAEIFABRFDJBBABHBbFCDFAJBCSFBJECB",
    "EXCPIDUBHBbpTNcWACDBBBCFDFCDNpNVCFBNIAHFDAEEBBCEEABCCBKFCBMSBDCABACABDFBGCYBLBEDBBCBEbQCHBbN",
    "FABADEFCEADEBAjWAtVDDBBBOBCJbRHqLJCHdacRFFBgGBSABAbCABAbDABABBBBddpNAcFAcFAcFAcFA"]⟩,
  ⟨["ci", "caseignorable"], [
    "bNAGALAbJABAcTAEABAEACBtJhJEBEAJBBAjRGhZAFAbXbSBABBBBBAbSALFKKBAbJAKUQAdXHBJBDbHABAbEbAdNKcG",
    "KEACAYXbRCbSAHBFIbPcFcDABAEHEADGKBNAPAcGAEDIAUBbAACBcFAEBEBCCDAbEBDALBcFAEEBBEAUBWFBAcGACABD",
    "IAHBLBbEAcJAMAbYADAcDABCFCBDHBLBbDAcGACAGAFBUBbCBcFBEDIAUBbDAcUAHCBAdMACGLIdUACIJABGcVBbBABA",
    "BAcDNBEBBFKBbJJAdYDBFBBCBZBECQDNACBGAPAdQAxKCbkKCbDBbEBbEBcMBBGIACKDAFAbTEbZAcNBbIAeOCEBJAGC",
    "iLBCAcGABGBABACHGJCAbNAIbEbXDbWABEBAFAbOIMBbGDCBBCcEABBDABCcGHCBcMFdECBMBGEAGADBbYcKNAbIdWrD",
    "ABCLCNCNCNBMEIBKACACEbXEBJBANAQMbZbGejRBeJCeVAPAdSbFbVAsBAbKDDEFAdPFdPCbqbUAbwCFkKAdUDBJBAbC",
    "DdCBObHdAAXCdZCDBIADAEAZBFAfVBbARNAbMHZKbUCbWACDCBRAVBcOFCBCBMAIAbJALAbZABCCBFBBAbBAOBFBBAdW",
    "EJCeRACAEAbdzSAfRQwBPDAMPbIACAgNAHAGALAbJABAbVAbTBcPAVCtTAiSAfTEbnPFBbPBIwKCBBFDbOCEAgJBwBDb",
    "MAbAEBAmDBdBDcSKbXDeTAcCObPACBKCbXDCBCAEAKAbYCbKEBHcKAMBcAIKDCAdRCCABBGACAgBADHVBcFBDAbLGDEc",
    "SFNABABAOBdHHCCBAXAdGFBAEBBBjEDGBBBbBBdHHCABBeCABACFBAdXABACDBEjZIBBjWBBAEAfODCBEAbGJbOFCDIA",
    "JFCCbUMBBpQGBFBAdEVCGBBBBeSFDABBBGBAcUBDABAnJBLBcAEFABAXAhxDQGOqyYLDCdsAEcHGJDtOCbOBsOAcLQcM",
    "BBBygPDBGBBeuGBBDgyUbTCWuYCJPCGbEDfSCcyDcCEbXIAOAWEBOcaIGBQCGBBBEFcJbHAgENoEAcJDtNEjUBbcIGeF",
    "HebFEbsxxPAbEdReYjF"]⟩,
  ⟨["cased"], [
    "cNZGZbVAKAEAFWBbEBhMBDEhZBbJHBbEEdSAbQDCBCDBAGABCBABTBdEBfIIgJBbLJbOefFbLBAFACbQBDzWdHCFdfUK",
    "FbQCCcMhJcMkRCFCbLCFCHBABABABbECcABGBADCBGDDCFEMFCBGeMANAQMdXAEACJBADEGABABABDBFEACDFEEARbFD",
    "BbfLbZcrUiUGDDBMbLBAFAbtwCbTSbDfCdXDDBcJCBBABHVEBCbfPbQBNGdBbeaIGMEbnTZGZbtTdBdSbJEbJeMKBOBG",
    "BBBKBOBGBBrJACCBbPBIbuZbYNbYdPVKVefIcLbgiQcLbmlKdGBcSBBCACBCDBLBABGBcMBDCHBGBbBBDBEBADGBnBCY",
    "BYBbEBYBbEBYBbEBYBbEBYBHcsYJBTGFkBcJdgKcPdaAZGZGZ"]⟩,
  ⟨["cwcf", "changeswhencasefolded"], [
    "cNZdMAKWBHbGABABABABABABABABABABABABABABABABABABABABABABABABABABABACABABABABABABABABBBABABAB",
    "ABABABABABABABABABABABABABABABABABABABBBABABABBBABBBCCDBBBCDBBBBABABBBACABBBCBABBDAHBBBBBBAB",
    "ABABABABABABACABABABABABABABABACBBABCBABABABABABABABABABABABABABABABABABABABABABABABABABABAB",
    "ABAHBBBCABDBABABABAjMAbQABADAIAGABCBABBBQBIWAMCDBBABABABABABABABABABABABABBCBBABBCbYbWABABAB",
    "ABABABABABABABABABABABABABAJABABABABABABABABABABABABABABABABABABABABABABABABABABABBBABABABAB",
    "ABACABABABABABABABABABABABABABABABABABABABABABABABABABABABABABABABABABABABABABABABABABABABAB",
    "ABABABACbLbWAefGbLBAFAbfEFdfUJGbQCCmIABABABABABABABABABABABABABABABABABABABABABABABABABABABA",
    "BABABABABABABABABABABABABABABABABABABABABABABABABABABABABABABABABABABABABABABABABABABABABABA",
    "BAFBCABABABABABABABABABABABABABABABABABABABABABABABABABABABABABABABABABABABABABABABABABABABA",
    "BABABABABAJHIFKHIHIFLABABABAIHQbVCCCFFCCFLDMEFCCFlLADBGAbTPTAbfMZcsUbVbWABCCABABABDBACAICBAB",
    "ABABABABABABABABABABABABABABABABABABABABABABABABABABABABABABABABABABABABABABABABABABABABABAB",
    "ABAIABAEAbtyJABABABABABABABABABABABABABABABABABABABABABABATABABABABABABABABABABABABABAfFABAB",
    "ABABABABADABABABABABABABABABABABABABABABABABABABABABABABABABABABABABABAKABABBBABABABAEABACAB",
    "ADABABABABABABABABABABEBEBABABABABABABABDBABBDAFABABABAYAbiGdBbeaIGMEbnTZbuZbNfGbJgAKBOBGBBc",
    "qCbYgBVegObFbgjWbFbulKbH"]⟩,
  ⟨["cwcm", "changeswhencasemapped"], [
    "cNZGZcGAKWBbEBcLBdFBbBCNCBBAEdOBRGbABBBABBDBBDBECABBCAHACABBDFFAKBgKAbQDCBDCBAGABCBABTBbUDbG",
    "BEBfCIgJBbLKbMefGbLBAFACbQCCzWdHCFdfUKFbQCChDADAQAeJfZCABeNCFCbLCFCHBABABABbECcABGBADCBGDDCF",
    "EMFCBGlLADBGAbBARbFDBbfLbZcrUeIBBBBHdXHDDBMbLBAFAbtwCbTSbBfENCcJJODCCEBYBbDCBEGYBbhCAbCdBbea",
    "IGMEbnTZGZbtTdBdSbJEbJeMKBOBGBBBKBOBGBBcoPbYNbYdPVKVefIcLbgiQcLbukEcP"]⟩,
  ⟨["cwl", "changeswhenlowercased"], [
    "cNZdXWBGbHABABABABABABABABABABABABABABABABABABABABABABABABABABABACABABABABABABABACABABABABAB",
    "ABABABABABABABABABABABABABABABABABABBBABADBBABBBCCDBBBCDBBBBABABBBACABBBCBABBDAHBBBBBBABABAB",
    "ABABABABACABABABABABABABABACBBABCBABABABABABABABABABABABABABABABABABABABABABABABABABABABABAH",
    "BBBCABDBABABABAlDABADAIAGABCBABBBQBIbJAIABABABABABABABABABABABAFACABBCbYbWABABABABABABABABAB",
    "ABABABABABABABAJABABABABABABABABABABABABABABABABABABABABABABABABABABABBBABABABABABACABABABAB",
    "ABABABABABABABABABABABABABABABABABABABABABABABABABABABABABABABABABABABABABABABABABABABACbLeh",
    "DbLBAFAbbUdHdgLAGbQCCmIABABABABABABABABABABABABABABABABABABABABABABABABABABABABABABABABABABA",
    "BABABABABABABABABABABABABABABABABABABABABABABABABABABABABABABABABABABABABABABABAJABABABABABA",
    "BABABABABABABABABABABABABABABABABABABABABABABABABABABABABABABABABABABABABABABABABABABAJHIFKH",
    "IHIFLABABABAIHYHIHIHIELELDMELElLADBGAbTPTAbfMZcsUbVbWABCCABABABDBACAICBABABABABABABABABABABA",
    "BABABABABABABABABABABABABABABABABABABABABABABABABABABABABABABABABABABABABABAIABAEAbtyJABABAB",
    "ABABABABABABABABABABABABABABABABABABABATABABABABABABABABABABABABABAfFABABABABABABADABABABABA",
    "BABABABABABABABABABABABABABABABABABABABABABABABABABAKABABBBABABABAEABACABADABABABABABABABABA",
    "BABEBEBABABABABABABABDBABBDAFABABABAYAbhaHZbuZbNfGbJgAKBOBGBBcqCbYgBVegObFbgjWbFbulKbH"]⟩,
  ⟨["cwt", "changeswhentitlecased"], [
    "dTZcGAbPXBHBABABABABABABABABABABABABABABABABABABABABABABABABABABABACABABABABABABABBBABABABAB",
    "ABABABABABABABABABABABABABABABABABABACABABCCABACADAFACADCCACABABACAEACADABACADABAEABBBBBABAB",
    "ABABABABABABBBABABABABABABABABCBABADABABABABABABABABABABABABABABABABABABABADABABABABABABABAB",
    "AIACBBAEABABABABFBBBABBDBBDBECABBCAHACABBDFFAKBgKAbRABADADCSAbBbIBBDCBABABABABABABABABABABAB",
    "EBACACAcAbVBABABABABABABABABABABABABABABABABAJABABABABABABABABABABABABABABABABABABABABABABAB",
    "ABABABACABABABABABABBBABABABABABABABABABABABABABABABABABABABABABABABABABABABABABABABABABABAB",
    "ABABABABABABABABABABABABAbXbMfmEFdfUIBAjEADAQAeKABABABABABABABABABABABABABABABABABABABABABAB",
    "ABABABABABABABABABABABABABABABABABABABABABABABABABABABABABABABABABABABABABABABABABABABABABAB",
    "ABABABABABABGFABABABABABABABABABABABABABABABABABABABABABABABABABABABABABABABABABABABABABABAB",
    "ABABABABABABABABIIFKHIHIFKHIHINCHIHIHIEBBGADCBBIDCBIHKCBBnEAbHPEAbgLZctQbVBADBBABABAGACAKABA",
    "BABABABABABABABABABABABABABABABABABABABABABABABABABABABABABABABABABABABABABABABABABABABABABA",
    "BABAIABAEAMbLBAFAbtwDABABABABABABABABABABABABABABABABABABABABABABATABABABABABABABABABABABABA",
    "BAfFABABABABABABADABABABABABABABABABABABABABABABABABABABABABABABABABABABABABABAKABACABABABAB",
    "AEAEABBCABABABABABABABABABALABABABABABABABAEABACADAFABABAbAAbhCAbCdBbeaIGMEboZZbvHbNfGbJfZKB",
    "OBGBBcrBbYeVVegObFbgjWbFbulMbH"]⟩,
  ⟨["cwu", "changeswhenuppercased"], [
    "dTZcGAbPXBHBABABABABABABABABABABABABABABABABABABABABABABABABABABABACABABABABABABABBBABABABAB",
    "ABABABABABABABABABABABABABABABABABABACABABCCABACADAFACADCCACABABACAEACADABACADABAFBBBBBBABAB",
    "ABABABABABBBABABABABABABABABBBBBADABABABABABABABABABABABABABABABABABABABADABABABABABABABABAI",
    "ACBBAEABABABABFBBBABBDBBDBECABBCAHACABBDFFAKBgKAbRABADADCSAbBbIBBDCBABABABABABABABABABABABEB",
    "ACACAcAbVBABABABABABABABABABABABABABABABABAJABABABABABABABABABABABABABABABABABABABABABABABAB",
    "ABABACABABABABABABBBABABABABABABABABABABABABABABABABABABABABABABABABABABABABABABABABABABABAB",
    "ABABABABABABABABABABABAbXbMehCbQCCbdGFdfUIBAjEADAQAeKABABABABABABABABABABABABABABABABABABABA",
    "BABABABABABABABABABABABABABABABABABABABABABABABABABABABABABABABABABABABABABABABABABABABABABA",
    "BABABABABABABABABGFABABABABABABABABABABABABABABABABABABABABABABABABABABABABABABABABABABABABA",
    "BABABABABABABABABABABIIFKHIHIFKHIHINCcABBEABADCBBEADDCBIHKCBBEAmZAbHPEAbgLZctQbVBADBBABABAGA",
    "CAKABABABABABABABABABABABABABABABABABABABABABABABABABABABABABABABABABABABABABABABABABABABABA",
    "BABABABABAIABAEAMbLBAFAbtwDABABABABABABABABABABABABABABABABABABABABABABATABABABABABABABABABA",
    "BABABABAfFABABABABABABADABABABABABABABABABABABABABABABABABABABABABABABABABABABABABABAKABACAB",
    "ABABABAEAEABBCABABABABABABABABABALABABABABABABABAEABACADAFABABAbAAbhCAbCdBbeaIGMEboZZbvHbNfG",
    "bJfZKBOBGBBcrBbYeVVegObFbgjWbFbulMbH"]⟩,
  ⟨["dash"], [
    "bTAcaUAbZAfkJAbnPAdbDFcJAbNAPApAAeoIACAbFBEAbCArEATAeHAczwABbLAKAgNAflOAmGA"]⟩,
  ⟨["di", "defaultignorablecodepoint"], [
    "gRAzXAbbOAegWBckHBdHEdaPEbAEbXPgkYAczmPPjFAgEAdBIctlNDhwXHbtkzLgbN"]⟩,
  ⟨["dep", "deprecated"], [
    "mRAbyVAdkTABAdcJBdiJFbaVBbzryKA"]⟩,
  ⟨["dia", "diacritic"], [
    "dQABAcTAGAEACBtJgCBHFFRBEAJBjTEiBAcDbSBABBBBBAfBHEBfEBEBDCcPbAdNKcGKbIBeWHbPJQbBcJAQADDbCAcW",
    "AQAeGAQAeGAQAbVCcIAQAHAePAeGAQAeGAQAeFBQAeUAeHAMFBAeDANEcXBbBABABAEBcOCBBcKAeIABBbOBEEZGBAKB",
    "bbDCbkMBbEAfSKJAnJClGAUHCAbWOCKeAAPAbMIcCBcGALBcOBcMFdEYEAGACCbYcKbWbJFLbLKrDABCLCNCNCNBexKC",
    "mFAtMFeBDdRAbsmKAMBBAbCBdEBObHdYCeFBMAbLAfVAbBRcFDbKAdRAMAbKAfTCcNDbZAdWEJCeYBbdzSAbdPPkKABA",
    "bVAbTBcPAbdKAbtNFBbPBIyNCEAgJBvZFbMAbAEpJCcSKbXDhKAbPAcUBeQBcKAcYAJCeABgWBdCBQAYGDEdLCBBNBdR",
    "ADAeTBjRBeWAeOBeLAkJBjYBEAgAAdFASAdDAqFAjYABBdDAqJBXAhyAOqzPAdsAEcHGvSBvAQdCBygCDBGBBltHbTCW",
    "uYCDFIHCGbEDfmWcJhMGoLAcJDbdMBbcIGeFCBC"]⟩,
  ⟨["emoji"], [
    "bJAGAFJeHAEAlyRAMAiIAWAdMFPBoDBMAgKAZKEChRAiXBKAJAcGDBEJACACBCAEACABBCADADBICFABAFLLBCABBBAS",
    "ACBSFBABBDBFACBEBLBFBCAFBBABBUBFFBDCAEACACFBACABABAGADAGAKBPACAEABAECBALBbWCJAOAOAoIBrVCTBbZ",
    "AEAbvUAMAxDABAgmrQAhUAgEBMBOACJcXZBBXAUACIVBgSbHCeHCBBCCdECCBkCBcKLFBXHBCHMACDCAEBNBCAIBJAFC",
    "MCICCABAEAGADAGdHbWcRFHCCEJDABBDACJiTLEAkXbUBJBhCeIMDJFcDHOCKGI"]⟩,
  ⟨["ecomp", "emojicomponent"], [
    "bJAGAFJmbJAiFAdftRAdoiWZtNEceADbsvuQdR"]⟩,
  ⟨["emod", "emojimodifier"], [
    "hhiXE"]⟩,
  ⟨["ebase", "emojimodifierbase"], [
    "olHAiLAQDgsjVAcICCACCeNBCKVSDAECBCHABAYAhTBEAVAEBgSCDEdFAQCJALAwDACAIHGAJJCCcEAcJBBBBARCBMiV",
    "CbQI"]⟩,
  ⟨["epres", "emojipresentation"], [
    "nhQBhXDDACAuBBVBbYLbRATANAIBRBFBIAFAVAHBBAEACAHAEBbCAbJABAECBAcJCYAOAbhBBbZAEAgplEAhUAhIACJc",
    "XZBAYAUACEBCVBgSbGMIBcRBVMbQEEMQDADcSBABhECcKNDBXSAbABNAdIdGbWcRGADCCCEDLBHIiTLEAkXbUBJBhCeI",
    "MDJFcDHOCKGI"]⟩,
  ⟨["extpict", "extendedpictographic"], [
    "gNAEAlyRAMAiIAWAdMFPBoDBMAdRAcSAZKEChRAiXBKAJAcGDBFBLBeJKeNCKBABAGADAGAKBPACAEABAECBALEbTCJA",
    "OAOAoIBrVCTBbZAEAbvUAMAxDABAgmrMjVNCbFAcIFMBOACJScEbBOKAUACIBDJqRFmFIkFbWeXeMLdHbQMDcEHKFbOH",
    "bEdDMbUBJBqYjWbnH"]⟩,
  ⟨["ext", "extender"], [
    "hBAuQBbhUAqZAyGAfHAdLAbcYAeXAdnFAcEAxNApIAcQAhkJAbREdZBdPCbqbUAcgSAblAAWAfHAeEAVBbfzVAdbKBcf",
    "BAbBAEAbvBAlHAeMBtECbvJAbeoFBbtKBBAbqyABbuFAbgUC"]⟩,
  ⟨["grbase", "graphemebase"], [
    "bGdQbHMBwVeIHCFEGBABTBiPHgJBbLCbXCCbUABACACAJbAEFRJLABbTVPBdWIAGBCAEbFCABbDbDdKLAObQJGDXEAJA",
    "DAHOBYFABKFbERbPcFcCBABDIDBCHJCbCBBBHCBCVBGBADDDABBGBCBBANBBCEXFABFEBCVBGBBBBBBECYDBAHJCCBAM",
    "ABIBCBVBGBBBEDDIABBDAPBELHAIBBHCBCVBGBBBEDACAGBCBPBBCERLABFDCBDDBBABBDBDCDLFABBDCBCDAVUGCBHB",
    "CBWBPDADDTCCACBEJHJBKBCBWBJBEDBCABBYBBBEJBCOKBCBbOCABBFCBCBBECBJEZCBBRDXBIBACGJBGGHJCCMbVBBL",
    "HIMbLBBABEBXBABJBBJACEBAJJCDbGXCbABABABNBbJSAFACEbXHBFBMbLbSEAGACBCYCDDPEMBBCFBOBbNBAFACoMBD",
    "CGBABDCbOBDCbGBDCGBABDCOBcEBDCcOFbCDZGdHCFCzSDdKHRNSDBJROMBCPbZCAHHBBLIDJGJGKFJGdKHECbHBAFcR",
    "KbEEDCCEBBFHADbPCELbREZGKDcECBDcDBAJABBIFNJGJGNdIbVKDDHBbCJLCbFEBGcDBACCBANbVIBFODcJFbQCKLAN",
    "AHDBFBCCAFhJcMkRCFCbLCFCHBABABABbECcABOBNCFBSCCBIBKFXHbWQBCbABMDbGcLfJEzPWKVcrRCbFBnFDBFbSBA",
    "FACcDHBPWJGBGBGBGBGBGBGBGbHdPbIZBdKMiFbAcFGPBdHEdWFbQBdPBdHJbVBbriQDcCJnJUbUEAKbFCdBCFIhXCBB",
    "ABHVPBCBDBYCEEJGcDIcPKLYMBbLIYLAMbDGbVBBEBCBBMBKEGBYBbOGBCBLCBHBACJCbFBbYBADBCECABAYQCHLFCFC",
    "FJGBGBcHEeMBBBDDJGqnRMWEbWmnCoBCeBbMGMEFABXBEBABBBBBeUQrCCcBHAbGPQJWbIBSBDEEBfEEgACbEDFCFCFC",
    "CDGBGNBCLBZBSBBBOCNbIeSFCEbSDdJBMDAbVbSfBbCDbWQbAEbJJbDFbLKbDBbKENbQgBCJGbJEbJEbNIbZLLBOBGBB",
    "BKBOBGBBDbZMlYJVKHYFBbPBIcRFCABbRBBDACWBcTIIbWSBBFbGDbAFAcMcDETCbUPDBCBbCKIHIHcLbGbKGLJcBDbC",
    "CbAFZHDMGdCcUcDbYNbYHbPMJGbLIXIBiAbEBbPDACBQCcHbNIVLIWREDbMbBUWJABcBPGEbDBBCAMbWEBCBBDOYHJJb",
    "JFAJRIbIBCLbZJABHEBBPBTLRBbBDBEFBBcLGBABDBOBKGbUBCNJIBBHCBCVBGBBBEDABABDCBCBDAMGbCJBACABbLBA",
    "BBPABBDABCBBbNcDIBDABUBABCbEbVBBGABBBACACDIJgKbUBBGDCACbAbKbYIBBACDLJGMTbQBABBIBGJGTbCbADABB",
    "EAJWhDbUJACAdWdEMHCACHBBBXBEBBGDBCJJcSHCbPIDBDbBAKbNGBEHJAGBDbTNACINcUHJhAbHOJGIBbLOABFKbCDb",
    "FZAHACAcXGBBBbLVAJJGFBBBbKEBBABAHJlYSCDJOBbJIBDWdIAPbXNbjMdYeGBELhNdxKdUNbpFRFZfxQFwKkdDbDMC",
    "DJcoSvWHbEBJEdCBJGbDHAKbVHOKJBGBUFSqQcFhQdMdXcWFcDLMcMDbCjbZIbvPbPJnfRDBGBBBlEPAbDCCAODIpFdk",
    "UeCFMDIHJCACAfvKjPGqTgAeLcIjLKbMCcHFCWBHbDEcIVcNDAeSTMTMdIJYfFdGBcSBBCACBCDBLBABGBcMBDCHBGBb",
    "BBDBEBADGBnBClFCvPcDDbYHBNBGbrWbEGFkBcJfQbSKGCJEBmIbDSbREJFArWbBEJiGbDCKEAsMGBDBBBOBhOCIbWcP",
    "HAEJEBbeFcPcYcIhMDBbABBBACABJBDBABAGAEABABABCBBBACABABABABABBBACDBGBDBDBABJBQFCBEBQcABkKbREd",
    "VMOCOBOBbKKgRcEbCNbREIHBOFfYblVEQDMDeOEdQGLEAPLEcDIJGbNIbDCLEBcKnBMNCMDJFcDHOCKGIHfQBdXbnQcl",
    "fBbGgdTGiNCinPOlbKPxXdqWuVcfYhhYFgfF"]⟩,
  ⟨["grext", "graphemeextend"], [
    "bdOeHkPGkDbSBABBBBBAcUKbWUQAdXGCFCBBDbJAbEbAdNKcGIJAYDBIBCBEbRCcHIbQXBbFcDABAEHEADGKBbDAcGAB",
    "ACDIAJAKBbAACBcFAEBEBCCDAbEBDALBcFAEEBBEAUBWFBAcGABBBDIAHCKBbEAcHABAMAJAbOADAcDABCFCBDHBLBbD",
    "AcGACBBADCBDHBLBbCBcFBBACDIAJAKBbDAcUAEACCBAIAdDACGMHdUACILGcVBbBABABAcDNBEBBFKBbJJAdYDBFBBC",
    "BZBECQDNACBGAPAbbBCbkKDbCCbDBbEBcMBBGIACKJAbTCBAeNBbIAeOCEBJAGCiLBCAcGABGBABACHGJCAbWbEbXDbW",
    "JECbMIMBbGDCFcEABBDABEcEHCBfWCBMBGEAGADBhQcLuEAhNbGeoCCfLAdSbFvIFeBBbsqEDBJbGBdCBkMADAEAZBFA",
    "fVBbARNAbMHZKBAbSCbWACDCBCAbKAcPFCBCBMAIAbVAbZABCCBFBBAbQBIAjEACAEAbdzSAbcJPQPoCBxHAiSAfTEcm",
    "GCBBFDbOCEAgJBwBDcNEmFBdBDcSKbXDeTAcCObPACBKCbXDCBHAcJCbKEBHcKAMBcAIBAIDCAdRCCDGACAgBADHVBcF",
    "BBABAMAJAOGDEcPACFBACABCECBAOBdHHCCBAXAdDACFBACABBBBjBACDGBBBbBBdHHCABBeCABACHdXABACDBEjZIBB",
    "jLAKDEAfODCBEAbGJbOFCDIAJFCCbUMBBpQGBFBAdEVCGBBBBeSFDABBBGBAcUBDABAnJBLBcAEFCXAhxTAGOqyYLDCd",
    "sAEcHGboIAcLDdDALBbdaXBgyZbTCWuWEDFIHCGbEDfSCcyDcCEbXIAOAWEBOcaIGBQCGBBBEdWAgEGoLAcJDtODjUBb",
    "cIGeFGbtcaFdReYjF"]⟩,
  ⟨["grlink", "graphemelink"], [
    "dnPAeXAeXAeXAeXAeXAeXAeXAeFBQAeUAeHAeXAhTAgYBcpLBbEAgBAzDAiTAdXBcSBgqTAbukKAbLAfVAfMAeEAlXAj",
    "MAbjsRAchIAbPAOAcFAeRBfJAeMAgYAdUAeYCeJAeXAjSAeXAeOAeMAkJAjZBgFAdFASAdDAqFAkABdDAqJByzCA"]⟩,
  ⟨["hex", "hexdigit"], [
    "bWJHFbAFdslLJHFbAF"]⟩,
  ⟨["hyphen"], [
    "bTAeXAbvWAgzZAdbDBfiBAbcLAczuLAgNAdJA"]⟩,
  ⟨["idsb", "idsbinaryoperator"], [
    "seABCJtDA"]⟩,
  ⟨["idst", "idstrinaryoperator"], [
    "seCB"]⟩,
  ⟨["idsu", "idsunaryoperator"], [
    "seOB"]⟩,
  ⟨["idcompatmathcontinue"], [
    "gWBFAmaGADKBOoHAEAWAgjjEAZAbFAZAbFAZAbFAZAbFAZA"]⟩,
  ⟨["idcompatmathstart"], [
    "mwWAEAWAgjjEAZAbFAZAbFAZAbFAZAbFAZA"]⟩,
  ⟨["idc", "idcontinue"], [
    "bWJHZEABZbVAKABACAFWBbEBrPELOEHABAReMBBCDBAGEBABTBdEBfIBECgJBbLCAGbOIbSBABBBBBAIbAEDbDKFcVEd",
    "XBHCJBSCAQcGCdWOcBEACACbTSbBEKFXBFIcWBeYCJBSBHCBCVBGBADDCICBCDIAEBBECLKABACCBFEBCVBGBBBBBBCA",
    "BEEBCCDAHDBAHPLCBIBCBVBGBBBECJBCBCCAPDCJJGBCBHCBCVBGBBBECICBCCHCEBBECJBAQBBFDCBDDBBABBDBDCDL",
    "EEDCBDCAGAOJQMBCBWBPCIBCBDHBBCCACDCJQDBHBCBWBJBECIBCBDHBGBBDCJBCMMBCBbYBCBEFDHECJKFBCBRDXBIB",
    "ACGDAEFBABHGJCBNcFFOBJbNBBABEBXBABWCEBABGBJCDbGAXBGJLABABAEJBbJETBRBbJJAcFcVGcZCbLBAFACbQBmU",
    "BDCGBABDCbOBDCbGBDCGBABDCOBcEBDCcOCCJIOPQdHCFDxVCQBZFcWDKHVJVLTMMBCBBMdFDAEBCJbHCBKGdKHbQFcR",
    "KbEBLELKbNCELbREZGKbLbBEcKBbCCKGJNAINBPbXcYDJRIMeLMcDIJDbWCKFbQCCQCBbMFuNCFCbLCFCHBABABABbEC",
    "cABGBADCBGDDCFEMFCBGPBbXBTAbCANAQMbZMEADLRAEACJBACFGABABABPCDFEEARbOdzBiUGIMbLBAFACcDHAPXJGB",
    "GBGBGBGBGBGBGBbFtXCZOBECEEdHCGBdQFbQBdPRbFbWPtSjtNcMbguEcPbTCkIDbBUbVEJBeKbLICdYCcOCBBABHVcB",
    "EATbZMcRKJGXDABbWCbJMbCDcMOKGbEBcCJNCJGWDcUYCCPCEKFCFCFJGBGBbQBNGeSBBCJGqnRMWEbWmnCoBCeBbMGM",
    "EFLBMBEBABBBBBeDbHnYScLCcBbOLEPQPDBYCbGEBfETJHZEABZKdLDFCFCFCCbJLBZBSBBBOCNbIeScRcAfGAfAbCDb",
    "WPAbFbFNbDFbQFbDCbJEHBEbQgBCJGbJEbJEbNIbZMKBOBGBBBKBOBGBBDbZMlYJVKHYFBbPBIcRFCABbRBBDACWKWJb",
    "EcNSBBKVKZcScDGBcMDBBFHBCBbCCCEAbGbCDbCbJHBbDZcBKVKSNReGcUcDbYNbYNbNIJGbLDEBWjQbPBBDBQCcDbGK",
    "AIbGbFVbQUbBWJcSbFPJcHHANYHJGcABJEDIbJCAJcQEDBMBAbJRBbKGDcKGBABDBOBJHcGFJGDBHCBCVBGBBBEBJCBC",
    "CCAGAFGCGDELJBACABbLBJBACABDBHNBbDcWFJEDbEcRBAIJgKcBCIXFbIcMDALJbMcEHJGTbCbACOEJGGhDcGdXcVVH",
    "CACHBBBbDBBCIMJcSHCbTCHBBbBcKIAIcVDAScUhRbGPJGIBbSBIPJYbDCVBNcVGBBBbRDABBBIIJGFBBBbKBBBFHJlY",
    "WJQBbODENKdHAdBbjLdYeGRhNdxKdSPbpFQVKfxQFwKkdDcFcoSvWHbEBJGdABJGbDCELcCJDMJJUFSqQbSDJhQcLeYc",
    "WEcEHQcMBBBLBOjbZIbvPbPJnfRDBGBBBlEPAbDCCAODIpFdkUeCFMDIHJDBgeRJtYbTCWuWEDFIHCGbEDfSCrBdGBcS",
    "BBCACBCDBLBABGBcMBDCHBGBbBBDBEBADGBnBCYBYBbEBYBbEBYBbEBYBbEBYBHCbXtScCEbXIAOAWEBObqMbEGFiFGB",
    "QCGBBBEFcJbHAeIbSDNCJEAmJbERcFsCbPiGbQsRGBDBBBOBhOLGbPcXEJbtUDBbABBBACABJBDBABAGAEABABABCBBB",
    "ACABABABABABBBACDBGBDBDBABJBQFCBEBQfaAJbnQclfBbGgdTGiNCinPOlbKPxXdqWuVcfYhhYFgfFbonhGjF"]⟩,
  ⟨["ids", "idstart"], [
    "cNZGZbVAKAEAFWBbEBrPELOEHABAeZEBBCDBAGABCBABTBdEBfIIgJBbLCAGbOcTbAEDbTbQbJBBdUBAPBHBKCCAQABb",
    "DbDdKLAYbGJBEAFVEAJADAXYHKFXBFRbPcGcBDASAHJPPEHCBCVBGBADDDAQANBBCOBKAIFEBCVBGBBBBBBbFDBATCQI",
    "BCBVBGBBBEDASAPBXALHCBCVBGBBBEDAbEBBCPARABFDCBDDBBABBDBDCDLWAcAHBCBWBPDAbACCACBbEAEHBCBWBJBE",
    "DAbFBBBPBRIBCBbOCAQAFCICYFFRDXBIBACGcGbVBBMGcGBBABEBXBABJBBJACEBAVDbGAcLHBbJbBEeLbQUAQFEDDAD",
    "BHCEMMARbLBAFACbQBmUBDCGBABDCbOBDCbGBDCGBABDCOBcEBDCcObLPQdHCFDxVCQBZFcWDKHRNSOROMBCPbZbJAEA",
    "cPdKHbOBAFcRKbEbXbDCELbREZcCWJcAdEAdPbURHcCbDNBKbRbAbJbPCKbJCKFbQCCbPDBFBBDAFhJcMkRCFCbLCFCH",
    "BABABABbECcABGBADCBGDDCFEMFCBGeMANAQMdXAEACJBACFGABABABPCDFEEARbOdzBiUGDDBMbLBAFACcDHAQWJGBG",
    "BGBGBGBGBGBGvECZIHECEEdHEEBdLBDFbQBdPRbFbWPtSjtNcMbguEcPbTCkIDPKBUbUQbECdBbNICdYCcOCBBABHVPB",
    "CBDBWbDbZObXcKFDABBLbBKWZbCHbUbCAQEBJKEBbOXCBHUWDADbXBADBCECABAYCCKHCMFCFCFJGBGBbQBNGeKbDqnR",
    "MWEbWmnCoBCeBbMGMEFABJBMBEBABBBBBeDbHnYScLCcBbOLeMEBfEbKZGZLdKDFCFCFCCbJLBZBSBBBOCNbIeScRcAk",
    "HbCDbWbVbFNbDFbLKbDCbJEHBEbQgBSbJEbJEbNIbZMKBOBGBBBKBOBGBBDbZMlYJVKHYFBbPBIcRFCABbRBBDACWKWJ",
    "bEcNSBBKVKZcScDGBcMAPDBCBbCbQbCDbCbJHBbBbBcBKVKSNReGcUcDbYNbYNbJbMbBJWjQbPGBQCcHbCKAIVbQRbUU",
    "bBWMcAcFBCANbSbGYbAbJbDACAIbIDAMbVODVABAbJRBYTBcLGBABDBOBJHbUbMHCBCVBGBBBEDASAMEbEJBACABbLBA",
    "ZABAbScASDUCbEbVUBBAhCbUbPDbKbVUAcHbQNAcTbAbLGhDbReMcLbFHCACHBBBXPABAdQHCbMQABAbCAKbNHAVALbT",
    "TAScUhRbGbFIBbKRAbXbDeIGBBBbLVAZFBBBbFOAmPSPABMBbHeUAdBbjLdYeGRhNdxKdSPbpFRFZfxQFwKkdDbDcpUv",
    "WHbERdARbDSbVQDbFUFSqQbSiDcLeYcWFAcOMcMBBAbCjbZIbvPbPJnfRDBGBBBlEPAbDCCAODIpFdkUeCFMDIHJiwKd",
    "GBcSBBCACBCDBLBABGBcMBDCHBGBbBBDBEBADGBnBCYBYBbEBYBbEBYBbEBYBbEBYBHcsYbEGFkBcJfQbSKGQAmJbDSb",
    "RsQbBiUbDCAtBGBDBBBOBhOcHcPHAbuIDBbABBBACABJBDBABAGAEABABABCBBBACABABABABABBBACDBGBDBDBABJBQ",
    "FCBEBQgoAclfBbGgdTGiNCinPOlbKPxXdqWuVcfYhhYFgfF"]⟩,
  ⟨["ideo", "ideographic"], [
    "seWBZIOCblDjtNcMbfbJbhsIoBCeBbsiKAbBjbZIbvPbPJnuLpFbdeIclfBbGgdTGiNCinPOlbKPxXdqWuVcfYhhYFgf",
    "F"]⟩,
  ⟨["joinc", "joincontrol"], [
    "mdOB"]⟩,
  ⟨["loe", "logicalorderexception"], [
    "fkIEeTEedSCCAccxMBCABB"]⟩,
  ⟨["lower", "lowercase"], [
    "dTZbVAKAEAbKXBHBABABABABABABABABABABABABABABABABABABABABABABABABABABABBBABABABABABABABBBABAB",
    "ABABABABABABABABABABABABABABABABABABABABACABABCCABACADBEACADCCACABABACABBBACADABACBCCGACACAB",
    "ABABABABABABABBBABABABABABABABABBCABADABABABABABABABABABABABABABABABABABABABABABABABABABABAB",
    "ABABGCACBBAEABABABABcQBbJHBbEEdSAbRABADACDSAbBbIBBDCBABABABABABABABABABABABEBACACBbZbVBABABA",
    "BABABABABABABABABABABABABABAJABABABABABABABABABABABABABABABABABABABABABABABABABABACABABABABA",
    "BABBBABABABABABABABABABABABABABABABABABABABABABABABABABABABABABABABABABABABABABABABABABABABA",
    "BABABABAbWbOehBbQBDbdGFdfUIBAeNhJcNABABABABABABABABABABABABABABABABABABABABABABABABABABABABA",
    "BABABABABABABABABABABABABABABABABABABABABABABABABABABABABABABABABABABABABABABABABABABABABABI",
    "BABABABABABABABABABABABABABABABABABABABABABABABABABABABABABABABABABABABABABABABABABABABABABA",
    "BABABIIFKHIHIFKHIHINCHIHIHIEBBGADCBBIDCBIHKCBBeRANAQMeFADBDAbBAEAEACBIDEAbHPEAbgLZctQbVBADBB",
    "ABABAEABBBHDABABABABABABABABABABABABABABABABABABABABABABABABABABABABABABABABABABABABABABABAB",
    "ABABABABABABABABABBHABAEAMbLBAFAbtwDABABABABABABABABABABABABABABABABABABABABABABATABABABABAB",
    "ABABABABABABABABCfDABABABABABABCBABABABABABABABABABABABABABABABABABABABABABABABABABABABABABA",
    "BJBABACABABABABAEABACABCBABABABABABABABABABAFAFABABABABABABABAEABACADABABABABABAWCBABCbfPbQB",
    "NGdBbeaIGMEboZZbvHbNfGbJfZKBOBGBBrJACCBbPBIbxLbYeVVegObFbgjWbFbmmKZbAGBRbAZbADBABGBKbAZbAZbA",
    "ZbAZbAZbAZbAZbAZbAbBbCYBFbAYBFbAYBFbAYBFbAYBFBAcsYJBTGFkBcJdhSbH"]⟩,
  ⟨["math"], [
    "bRAQCbFAbDABAbTAEAbLAbFAbcACCAbABCCuHCjwNAbBCLADANAODVELEcNMEADBEESAEACJBACFGADBCBBCBFDNBAcQ",
    "XBFBBEBEbFBAGBOkHIDUBdMAbEbABAYALGrDBMJEFEBCBDEOABACFLHFBcFABAbDDJCmYcLjWtRbWUCFdasQAbfRFBAg",
    "GAQCbDABAbDABAfBAGDfeFBcxdWdGBcSBBCACBCDBLBABGBcMBDCHBGBbBBDBEBADGBnBClFCbXiiQDBbABBBACABJBD",
    "BABAGAEABABABCBBBACABABABABABBBACDBGBDBDBABJBQFCBEBQcAB"]⟩,
  ⟨["mcm", "modifiercombiningmark"], [
    "ckIBCAfBAGADBsNBBCDAbFA"]⟩,
  ⟨["nchar", "noncharactercodepoint"], [
    "dsdCbFuGBdsyOBdsyOBdsyOBdsyOBdsyOBdsyOBdsyOBdsyOBdsyOBdsyOBdsyOBdsyOBdsyOBdsyOBdsyOBdsyOB"]⟩,
  ⟨["otheralphabetic", "oalpha"], [
    "bgFAbDMwENBABBBBBAcUKbWMBGQAdXGEDCBEAbJAbEPdYKdXBDIBCBDeCAcILDGGTcCBCOBBFCKBbDCcGGCBCBKAKBbD",
    "CcGEEBCBEAbEBDALCcGHBCBBVBWCECcGGCBCBJBKBbEAcHEDCBCKAbOEcFGBCBCIBLBbDCcGGBCBCIBLBPAMDcGGBCBC",
    "KAKBbDCcXFBABHSBcJACGSAdVACFBBQAgHSJKBbJeGLBACDXDECBCCGDDNLBAKDclOBbEBbEBbEBcOShGBbIAeOLEIiO",
    "EcFJCTcWBLCbXEbWOcICbEICBcFKbYSpWbHcoNbZdkGbFbtqAHbIBnQAIAXEdKBbYPBAcFAbMEbCLbTDbWLbLAcPNMAI",
    "BbTCbYABCCBFAbSEFAjDHbdzVAdeDEcmGCBBFDbeIDcNAmJBdBAjZCcBNbTBLCbTIJAcJCbKLSBcFCbWMOBdOICAGACA",
    "gBJXDcGGCBCBKAKBdGIBACABDBBdZMBCeCRjDGCGbDBdEOBAeCKdZNjXMjNFBBCBDABAfMGCFEAbCJbQEBDSKbUNpRHB",
    "GdFVBNeSFDABBBCBADAcOEBBBDnKDJBBAbWGDCyyNQfjCABcCHDdPBbdaYAnkJGBQCGBBBEdWAdhVAczWZGZGZ"]⟩,
  ⟨["otherdefaultignorablecodepoint", "odi"], [
    "bgPAfiLBckHBdhNAglIAdacPAdBIbwmiHABbDdSeXjGfiL"]⟩,
  ⟨["othergraphemeextend", "ogrext"], [
    "drYAYAnUAYAdYAYAiYABAEBBBJBdZAYAePAPAdmRAbEAbnKAFABAFBdXAcTBboIAgcVBbtwTAeEAbgnLBgwMAeMAkEAO",
    "AJAdSAJACABCFAiQAMAjHAkCAyJAMAchFAbeoKBbkxNBGFbtlaZdR"]⟩,
  ⟨["otheridcontinue", "oidc"], [
    "hBAbbRAgaJIclCAciZBgkRAdaeJA"]⟩,
  ⟨["otheridstart", "oids"], [
    "jhLBdgJAVAfvWB"]⟩,
  ⟨["otherlowercase", "olower"], [
    "gOAPAtHIHBbEEdSAcAAfcZAepZcKNAbIbKbaNANAQMiDPbgQZcwOBbugKBiCAeZCDBbhIDJAbiwSACCBbPBIddzHcJ"]⟩,
  ⟨["othermath", "omath"], [
    "dQAbhXCCAbABCBkqYAbBCLAbGDYBOBcNMEADBEESAEACJBADEGADBCBBCBFDDFEcXECDBBBBBABECBEBERCBBABGBAGB",
    "lEDgMBBAYARArDBMIFEFBCBDEOABACFYBcFABAbDDJBnEBbFJpNVcLDbGBdclFABAEAiDABAdcoVdGBcSBBCACBCDBLB",
    "ABGBcMBDCHBGBbBBDBEBADGBnBCYBYBbEBYBbEBYBbEBYBbEBYBHCbXiiQDBbABBBACABJBDBABAGAEABABABCBBBACA",
    "BABABABABBBACDBGBDBDBABJBQFCBEBQ"]⟩,
  ⟨["otheruppercase", "oupper"], [
    "mqQPbgGZgsiYZGZGZ"]⟩,
  ⟨["patsyn", "patternsyntax"], [
    "bHOKGbADBAbADbIGBABBBABBEAEADAXAbFAluEXIOCSBJlTbbRgEyFbEbnLBeAtSeXoVCEYPAczqZBkBB"]⟩,
  ⟨["patws", "patternwhitespace"], [
    "JESAdWAlyMBYB"]⟩,
  ⟨["pcm", "prependedconcatenationmark"], [
    "chCFiHAbXAoUBdCAdvxYAPA"]⟩,
  ⟨["qmark", "quotationmark"], [
    "bIAEAfBAPAlwUHZBfiDArPDNCdabPDhHAEAdMB"]⟩,
  ⟨["radical"], [
    "rpWZBdKMiF"]⟩,
  ⟨["ri", "regionalindicator"], [
    "hgoKZ"]⟩,
  ⟨["sterm", "sentenceterminal"], [
    "bHAMAQAcaBAfRCgYAbRCjMAcJABADBlHBcpWBbeKAEBbdTAhQBgBBbTAFAmCBnQDgGBKBCBbDChFBcNBbjWAXBJCeuXC",
    "lUANAWBqNAbshWAkKBiTADAoSBdIBdRAfWBfRCfOBjPAbfcWACBcHADBgNAMAQAcNAedWBbxDEbSDhHBeNDeXCeZBGAQ",
    "BdKBBBeEAlMBeNBoJBFOeBBjPCtXABAjRBdJBqEBbaQBcWBbcmBBfDAcNBLAvHBlKAbdoGAliMA"]⟩,
  ⟨["sd", "softdotted"], [
    "eBBhOAkVAbEAcAAUAmIAdUABAjmNAbZANADAfCAgBAqFAiGBegGAgelHBbYBbYBbYBbYBbYBbYBbYBbYBbYBbYBbYBbY",
    "BdfYAlTBbAA"]⟩,
  ⟨["term", "terminalpunctuation"], [
    "bHAKABALBDAbfYAIAtTAcFAcUAOABCgYAbRKBAjBBcCFBHbFAkBBbwUBgQAEFlZBbeJHbdTAeUCcTBgBCDAbNDCBmCBn",
    "QDgGBKBBCbDChFEcKBbjWAXBJCeuXClUANAEAKABBDBqMBbshVBkJCiTEoSBdIBdRAfVCfRCeXAQBjPAbfcWACBcFCBD",
    "gNAKABALBDAcNACAbpQAbWAbsOAhRAlYBfWFcQFdLDbkQEbSDhHGeIDeXCeZBGAQBdKEeEAlMBeNCMBnUDDOeBBjPCtX",
    "ABAjRBdJBEBpYCbTAyVBcWBbyXEbamZBfDAcNCKAvHBlJBbdoGAliLD"]⟩,
  ⟨["uideo", "unifiedideograph"], [
    "tsAjtNcMbfbJbicSBBABBKABABBCCdveCclfBbGgdTGiNCinPOlbKPxXgrQhhYFgfF"]⟩,
  ⟨["upper", "uppercase"], [
    "cNZdXWBGbHABABABABABABABABABABABABABABABABABABABABABABABABABABABACABABABABABABABACABABABABAB",
    "ABABABABABABABABABABABABABABABABABABBBABADBBABBBCCDBBBCDBBBBABABBBACABBBCBABBDAHACACACABABAB",
    "ABABABABACABABABABABABABABACACABCBABABABABABABABABABABABABABABABABABABABABABABABABABABABABAH",
    "BBBCABDBABABABAlDABADAIAGABCBABBBQBIbJACCDABABABABABABABABABABABAFACABBCbYbWABABABABABABABAB",
    "ABABABABABABABABAJABABABABABABABABABABABABABABABABABABABABABABABABABABABBBABABABABABACABABAB",
    "ABABABABABABABABABABABABABABABABABABABABABABABABABABABABABABABABABABABABABABABABABABABABACbL",
    "ehDbLBAFAbbUdHdgLAGbQCCmIABABABABABABABABABABABABABABABABABABABABABABABABABABABABABABABABABA",
    "BABABABABABABABABABABABABABABABABABABABABABABABABABABABABABABABABABABABABABABABABAJABABABABA",
    "BABABABABABABABABABABABABABABABABABABABABABABABABABABABABABABABABABABABABABABABABABABABAJHIF",
    "KHIHIFLABABABAIHcUDMDMDMELDkCAEADCCCCADEGABABABDCDKBFAbAPTAbfMZcsUbVbWABCCABABABDBACAICBABAB",
    "ABABABABABABABABABABABABABABABABABABABABABABABABABABABABABABABABABABABABABABABABABABABABABAB",
    "AIABAEAbtyJABABABABABABABABABABABABABABABABABABABABABABATABABABABABABABABABABABABABAfFABABAB",
    "ABABABADABABABABABABABABABABABABABABABABABABABABABABABABABABABABABABAKABABBBABABABAEABACABAD",
    "ABABABABABABABABABABEBEBABABABABABABABDBABBDAFABABABAYAbhaHZbuZbNfGbJgAKBOBGBBcqCbYgBVegObFb",
    "gjWbFbmmQZbAZbAZbAABBCACBCDBHbAZbABBDCHBGbBBBDBEBADGbBZbAZbAZbAZbAZbAZbEYbHYbHYbHYbHYbHAgnLb",
    "HdbIZGZGZ"]⟩,
  ⟨["vs", "variationselector"], [
    "jcTCBAdjcAPbwnkYjF"]⟩,
  ⟨["wspace", "whitespace", "space"], [
    "JESAdWAbAAihJAdpNKbDBFAbVAfxWA"]⟩,
  ⟨["xidc", "xidcontinue"], [
    "bWJHZEABZbVAKABACAFWBbEBrPELOEHABAReMBBDCBAGEBABTBdEBfIBECgJBbLCAGbOIbSBABBBBBAIbAEDbDKFcVEd",
    "XBHCJBSCAQcGCdWOcBEACACbTSbBEKFXBFIcWBeYCJBSBHCBCVBGBADDCICBCDIAEBBECLKABACCBFEBCVBGBBBBBBCA",
    "BEEBCCDAHDBAHPLCBIBCBVBGBBBECJBCBCCAPDCJJGBCBHCBCVBGBBBECICBCCHCEBBECJBAQBBFDCBDDBBABBDBDCDL",
    "EEDCBDCAGAOJQMBCBWBPCIBCBDHBBCCACDCJQDBHBCBWBJBECIBCBDHBGBBDCJBCMMBCBbYBCBEFDHECJKFBCBRDXBIB",
    "ACGDAEFBABHGJCBNcFFOBJbNBBABEBXBABWCEBABGBJCDbGAXBGJLABABAEJBbJETBRBbJJAcFcVGcZCbLBAFACbQBmU",
    "BDCGBABDCbOBDCbGBDCGBABDCOBcEBDCcOCCJIOPQdHCFDxVCQBZFcWDKHVJVLTMMBCBBMdFDAEBCJbHCBKGdKHbQFcR",
    "KbEBLELKbNCELbREZGKbLbBEcKBbCCKGJNAINBPbXcYDJRIMeLMcDIJDbWCKFbQCCQCBbMFuNCFCbLCFCHBABABABbEC",
    "cABGBADCBGDDCFEMFCBGPBbXBTAbCANAQMbZMEADLRAEACJBACFGABABABPCDFEEARbOdzBiUGIMbLBAFACcDHAPXJGB",
    "GBGBGBGBGBGBGBbFtXCZOBECEEdHCBCCBdQFbQBdPRbFbWPtSjtNcMbguEcPbTCkIDbBUbVEJBeKbLICdYCcOCBBABHV",
    "cBEATbZMcRKJGXDABbWCbJMbCDcMOKGbEBcCJNCJGWDcUYCCPCEKFCFCFJGBGBbQBNGeSBBCJGqnRMWEbWmnCoBCeBbM",
    "GMEFLBMBEBABBBBBeDbHfIGiJScLCcBbOJGPQPDBYCbHABADABABABABeVTJHZEABZKdLDFCFCFCCbJLBZBSBBBOCNbI",
    "eScRcAfGAfAbCDbWPAbFbFNbDFbQFbDCbJEHBEbQgBCJGbJEbJEbNIbZMKBOBGBBBKBOBGBBDbZMlYJVKHYFBbPBIcRF",
    "CABbRBBDACWKWJbEcNSBBKVKZcScDGBcMDBBFHBCBbCCCEAbGbCDbCbJHBbDZcBKVKSNReGcUcDbYNbYNbNIJGbLDEBW",
    "jQbPBBDBQCcDbGKAIbGbFVbQUbBWJcSbFPJcHHANYHJGcABJEDIbJCAJcQEDBMBAbJRBbKGDcKGBABDBOBJHcGFJGDBH",
    "CBCVBGBBBEBJCBCCCAGAFGCGDELJBACABbLBJBACABDBHNBbDcWFJEDbEcRBAIJgKcBCIXFbIcMDALJbMcEHJGTbCbAC",
    "OEJGGhDcGdXcVVHCACHBBBbDBBCIMJcSHCbTCHBBbBcKIAIcVDAScUhRbGPJGIBbSBIPJYbDCVBNcVGBBBbRDABBBIIJ",
    "GFBBBbKBBBFHJlYWJQBbODENKdHAdBbjLdYeGRhNdxKdSPbpFQVKfxQFwKkdDcFcoSvWHbEBJGdABJGbDCELcCJDMJJU",
    "FSqQbSDJhQcLeYcWEcEHQcMBBBLBOjbZIbvPbPJnfRDBGBBBlEPAbDCCAODIpFdkUeCFMDIHJDBgeRJtYbTCWuWEDFIH",
    "CGbEDfSCrBdGBcSBBCACBCDBLBABGBcMBDCHBGBbBBDBEBADGBnBCYBYBbEBYBbEBYBbEBYBbEBYBHCbXtScCEbXIAOA",
    "WEBObqMbEGFiFGBQCGBBBEFcJbHAeIbSDNCJEAmJbERcFsCbPiGbQsRGBDBBBOBhOLGbPcXEJbtUDBbABBBACABJBDBA",
    "BAGAEABABABCBBBACABABABABABBBACDBGBDBDBABJBQFCBEBQfaAJbnQclfBbGgdTGiNCinPOlbKPxXdqWuVcfYhhYF",
    "gfFbonhGjF"]⟩,
  ⟨["xids", "xidstart"], [
    "cNZGZbVAKAEAFWBbEBrPELOEHABAeZEBBDCBAGABCBABTBdEBfIIgJBbLCAGbOcTbAEDbTbQbJBBdUBAPBHBKCCAQABb",
    "DbDdKLAYbGJBEAFVEAJADAXYHKFXBFRbPcGcBDASAHJPPEHCBCVBGBADDDAQANBBCOBKAIFEBCVBGBBBBBBbFDBATCQI",
    "BCBVBGBBBEDASAPBXALHCBCVBGBBBEDAbEBBCPARABFDCBDDBBABBDBDCDLWAcAHBCBWBPDAbACCACBbEAEHBCBWBJBE",
    "DAbFBBBPBRIBCBbOCAQAFCICYFFRDXBIBACGcGbVBANGcGBBABEBXBABJBAKACEBAVDbGAcLHBbJbBEeLbQUAQFEDDAD",
    "BHCEMMARbLBAFACbQBmUBDCGBABDCbOBDCbGBDCGBABDCOBcEBDCcObLPQdHCFDxVCQBZFcWDKHRNSOROMBCPbZbJAEA",
    "cPdKHbOBAFcRKbEbXbDCELbREZcCWJcAdEAdPbURHcCbDNBKbRbAbJbPCKbJCKFbQCCbPDBFBBDAFhJcMkRCFCbLCFCH",
    "BABABABbECcABGBADCBGDDCFEMFCBGeMANAQMdXAEACJBACFGABABABPCDFEEARbOdzBiUGDDBMbLBAFACcDHAQWJGBG",
    "BGBGBGBGBGBGvECZIHECEEdHGCBdLBDFbQBdPRbFbWPtSjtNcMbguEcPbTCkIDPKBUbUQbECdBbNICdYCcOCBBABHVPB",
    "CBDBWbDbZObXcKFDABBLbBKWZbCHbUbCAQEBJKEBbOXCBHUWDADbXBADBCECABAYCCKHCMFCFCFJGBGBbQBNGeKbDqnR",
    "MWEbWmnCoBCeBbMGMEFABJBMBEBABBBBBeDbHfIGiJScLCcBbOJePABADABABABABeVbKZGZLcDCbEDFCFCFCCbJLBZB",
    "SBBBOCNbIeScRcAkHbCDbWbVbFNbDFbLKbDCbJEHBEbQgBSbJEbJEbNIbZMKBOBGBBBKBOBGBBDbZMlYJVKHYFBbPBIc",
    "RFCABbRBBDACWKWJbEcNSBBKVKZcScDGBcMAPDBCBbCbQbCDbCbJHBbBbBcBKVKSNReGcUcDbYNbYNbJbMbBJWjQbPGB",
    "QCcHbCKAIVbQRbUUbBWMcAcFBCANbSbGYbAbJbDACAIbIDAMbVODVABAbJRBYTBcLGBABDBOBJHbUbMHCBCVBGBBBEDA",
    "SAMEbEJBACABbLBAZABAbScASDUCbEbVUBBAhCbUbPDbKbVUAcHbQNAcTbAbLGhDbReMcLbFHCACHBBBXPABAdQHCbMQ",
    "ABAbCAKbNHAVALbTTAScUhRbGbFIBbKRAbXbDeIGBBBbLVAZFBBBbFOAmPSPABMBbHeUAdBbjLdYeGRhNdxKdSPbpFRF",
    "ZfxQFwKkdDbDcpUvWHbERdARbDSbVQDbFUFSqQbSiDcLeYcWFAcOMcMBBAbCjbZIbvPbPJnfRDBGBBBlEPAbDCCAODIp",
    "FdkUeCFMDIHJiwKdGBcSBBCACBCDBLBABGBcMBDCHBGBbBBDBEBADGBnBCYBYBbEBYBbEBYBbEBYBbEBYBHcsYbEGFkB",
    "cJfQbSKGQAmJbDSbRsQbBiUbDCAtBGBDBBBOBhOcHcPHAbuIDBbABBBACABJBDBABAGAEABABABCBBBACABABABABABB",
    "BACDBGBDBDBABJBQFCBEBQgoAclfBbGgdTGiNCinPOlbKPxXdqWuVcfYhhYFgfF"]⟩]

end CodeAtlas
