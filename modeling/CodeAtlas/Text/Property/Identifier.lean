/-
  CodeAtlas.Text.Property.Identifier — the characters of names.

  A name starts with a letter of any script or an underscore; numbers may follow.
-/
import CodeAtlas.Text.Property.Partition

namespace CodeAtlas

/-- Letters. -/
def letterCode : List String := [
    "cNZGZbVAKAEAFWBbEBrPELOEHABAdIAbDRBBCDBAGABCBABTBdEBfIIgJBbLCAGbObNNBABBBBBAIbAEDbDKFcDBGOdX",
    "BHEHECKCCAQbVNdWYbGJBEAFXCSTYHKFXBGHAIbPKLDGGcXBPBCEONSBHCBCVBGBADDDHCBCBBAIAEBBEMBKAECBFEBC",
    "VBGBBBBBBEEEBCBEAHDBARFLCBIBCBVBGBBBEDIBCBBDAPDVDECBHCBCVBGBBBEDHCBCBJBEBBENAQBBFDCBDDBBABBD",
    "BDCDLEEDCBCDAGAbOMBCBWBPDHBCBCIBBCBBCDbCDBHBCBWBJBEDHBCBCIBFCBDNCMMBCBbOCHBCBCBAFDHEWFBCBRDX",
    "BIBACGIFBABHSBNcFFGGAbZBBABEBXBABSBCCEBAGAODbGAcLHBbJESEPBbJcPcCBACEQcLKDCbLBAFACbQBmUBDCGBA",
    "BDCbOBDCbGBDCGBABDCOBcEBDCcObLPQdHCFDxVCQBZFcWDKHTLUMTMMBCBBMbZCSOAEAcPdKHbQFcRKbEBLEIXbDCEL",
    "bREZcCbBEcKCTbYAXBLCbXbZBOBHbZbPCDKbRBKOcCWCKbJCKFbQCCbPDBFBBDAFhJTbHLkRCFCbLCFCHBABABABbECc",
    "ABGBADCBGDDCFEMFCBGeMANAQMdXAEACJBADEGABABABDBKCDFEEARbObfHbZcrUiUGDDBMbLBAFACcDHAQWJGBGBGBG",
    "BGBGBGBGBbFbVAsBCZIHECEEdHGCBdLBDFbQBdPRbFbWPtSjtNcMbguEcPbTCkIDPKBUbUFHDeIbNICdYCdDUUBbGYbZ",
    "McPBAbSFDABCKbGFbINbCDbYBLPAQPKEBcCJNSWDcQBABAYCCPCDLFCFCFJGBGBbQBNGeSVqnRMWEbWmnCoBCeBbMGME",
    "FLBMBEBABBBBBeDbHnYScLCcBbOLeMEBfEbKZGZLdKDFCFCFCCbJLBZBSBBBOCNbIeScRcAkHbCDbWbVbFNbDFbQFbDC",
    "bJEHBEbQgBSbJEbJEbNIbZMKBOBGBBBKBOBGBBDbZMlYJVKHYFBbPBIcRFCABbRBBDACWKWJbEcNSBBKVKZGZbMcDGBc",
    "MDBBFHBCBbCbQbCDbCbJHBbBbBcBKVKSNReGcUcDbYNbYNbNbIbBDAFWjQbPBBDBQFbYCDbCKAIVbQRbUUbBWJcRbREK",
    "cEJANYXbYRDIbIDAJcLBDJBKABAbJRBbHCAGDcKGBABDBOBJHcEXDBHCBCVBGBBBEDHCBCBDAGAFGbCJBACABbLBJBAC",
    "ABDBBDABAbScNBCBDUCbEcNCBBAhCcBCGZFbIcKBADAcHcBCAcTbACNVGhDcEdZcLbFHCACHBBBbDBBCBCDdPHCbTCFB",
    "ABBbBbYCJRcTFAScUdZHdKbGbFIBbSBGBAbXbDCVBNcVGBBBbRDABBBCBACBYFBBBbKBBBDBAXbRkAWJQBbODCeHAdBb",
    "jLdYeGRhNdxKdSPbpFRFZfxQFwKkdDbUcpDvWHbERdARbDSbVQDbFUFSqQbSiDcLbGYCYbScWEcEHQcMBBAMGJkxXbPb",
    "FdTeKmwRDBGBBBlEPAbDCCAODIpFdkUeCFMDIHJEAiwFdGBcSBBCACBCDBLBABGBcMBDCHBGBbBBDBEBADGBnBCYBYBb",
    "EBYBbEBYBbEBYBbEBYBHcsYbEGFiFGBQCGBBBEFcJbHAeIbSKGQAmJbDSbRsQbBiUbDCAhZbEBVIBiQGBDBBBOBhOcHc",
    "PDADAbuIDBbABBBACABJBDBABAGAEABABABCBBBACABABABABABBBACDBGBDBDBABJBQFCBEBQyEZGZGZfmKclfBbGgm",
    "NCioBClbKPxXdqWuVcfYhhYFmoN"]

/-- Digits and numbers. -/
def numberCode : List String := [
    "bWJeQBFACCcdLJfEJhQJpWJeOJEFeEJeOJeOJCFeGMeLJIGdZJeAGHSeFJdSJeOJcSTkIJcSJbbRTbhXCjFJGJWJlOJe",
    "YKgJJGJhAJdIJfEJGJboGADFGJhQbYCEbbYcHdAVyGbDcbHAbdXAZIOCnFDfIJbEHBObGJbNObrsAJhGJmIFfYJbMJhQ",
    "JWJdIJpQJbfmCJsZbSMcERBnDbAbKDbDAIAfEEhUJbkGHZGbNIcXEWFgEBCPCbTcMIcABbECcXEeAHYHbPGmSFbWJGJk",
    "SbEgCJbQDeIGfEbDeYJcIJfOJHTjRJnEJeOJoKJdYJGTcYLqESdPJzMJdIbCiTJcSJcCJnUJdYUbpBeGxaFJdmCJdIJf",
    "EJBGuGJkCWnLCbjfLJceWTMTeEYbqRbXdnCJqGJtIJjNJbbOIeYJbeLcGBCBDcYbSBOblAMedFJ"]

/-- Whether a name may start with a character. -/
def startsIdentifier (c : Char) : Bool := c == '_' || (Compact.set letterCode).mem c

/-- Whether a character may stand in a name. -/
def continuesIdentifier (c : Char) : Bool := startsIdentifier c || (Compact.set numberCode).mem c

end CodeAtlas
