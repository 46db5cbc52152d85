import BracketQuery.Text.Property.Coded

namespace BracketQuery.Text.Property

/-- The scripts, each with the characters that belong to it alone. -/
def scripts : List Coded :=
  [
    ⟨["adlm", "adlam"],
      ["hdeUcXEJEB"]⟩,
    ⟨["ahom"],
      ["ebrCbACOEW"]⟩,
    ⟨["hluw", "anatolianhieroglyphs"],
      ["essEwK"]⟩,
    ⟨["arab", "arabic"],
      ["chCEBFBNBCBbFBJLZBeDBbHdCbVjGbEBBFcWBbCdntWeKQnYCdBCcBHAbGPeIEBfEfvNbEcPCcDDdglSDBbABBBA",
       "CABJBDBABAGAEABABABCBBBACABABABABABBBACDBGBDBDBABJBQFCBEBQcAB"]⟩,
    ⟨["armn", "armenian"],
      ["bzDbLCbXCCdozJE"]⟩,
    ⟨["avst", "avestan"],
      ["dxcYcBDG"]⟩,
    ⟨["bali", "balinese"],
      ["kfWcYBbX"]⟩,
    ⟨["bamu", "bamum"],
      ["clcQdJcvcQvW"]⟩,
    ⟨["bass", "bassavah"],
      ["fhkIbDCF"]⟩,
    ⟨["batk", "batak"],
      ["knGbZID"]⟩,
    ⟨["beng", "bengali"],
      ["dpODBHCBCVBGBADDCICBCDIAEBBECY"]⟩,
    ⟨["bhks", "bhaiksuki"],
      ["edoIIBbSBNKbC"]⟩,
    ⟨["bopo", "bopomofo"],
      ["bcSBrlXbQeIbF"]⟩,
    ⟨["brah", "brahmi"],
      ["dzaEcZEbJJA"]⟩,
    ⟨["brai", "braille"],
      ["pdWjV"]⟩,
    ⟨["bugi", "buginese"],
      ["jwAbBCB"]⟩,
    ⟨["buhd", "buhid"],
      ["iuYT"]⟩,
    ⟨["cans", "canadianaboriginal"],
      ["hoYyPvOcRdtpQP"]⟩,
    ⟨["cari", "carian"],
      ["dtyMbW"]⟩,
    ⟨["aghb", "caucasianalbanian"],
      ["duxSbZLA"]⟩,
    ⟨["cakm", "chakma"],
      ["dzkAcABR"]⟩,
    ⟨["cham"],
      ["cmjWcCJNCJCD"]⟩,
    ⟨["cher", "cherokee"],
      ["hlGdHCFcfjEdB"]⟩,
    ⟨["chrs", "chorasmian"],
      ["dyxCbB"]⟩,
    ⟨["zyyy", "common"],
      ["AcMbAFbAbUBOBEXAbFArHbMFECTeMAJAGABAyNAGAOADAbGAgAAtWAeZBbvTApPDlEAcgLCcTBhVBBAbvHANAHDB",
       "FBCCAbdTLCdIBKDKBORbGcLbLBCCFBbABQbPCEzPWKVbjRjWyDCbFBeAtSdPpMUBABYPHEDdNBDAdMBfRPbGbLJA",
       "bWcLbFdCbVAdKgLjtOcLbhsIbHdYCgJJjKAgEApFAOBbezQBiAJWbIBSBDfRABbFbAFbAKKAbTBcMGBGKEjYCEbS",
       "DIdCMbZbSiUbAcshWDfvGjPGqTgAeLcIjLKbMCcJDQIBHbDEcIiFTMTMdIJYfFdGBcSBBCACBCDBLBABGBcMBDCH",
       "BGBbBBDBEBADGBnBClFCbXhtHcPcYcIbbEbREdVMOCOBOBbKKgRcEZBBNbREIHBOFfYblVEQDMDeOEdQGLEAPLEc",
       "DIJGbNIbDCLEBcKnBMNCMDJFcDHOCKGIHfQBdXbsuxBAbEdR"]⟩,
    ⟨["copt", "qaac", "coptic"],
      ["bmGNpjKeLFG"]⟩,
    ⟨["xsux", "cuneiform"],
      ["efbSbjLdYeGBELhN"]⟩,
    ⟨["cprt", "cypriot"],
      ["dvzKFCABbRBBDACA"]⟩,
    ⟨["cpmn", "cyprominoan"],
      ["ekyYdU"]⟩,
    ⟨["cyrl", "cyrillic"],
      ["bnKfCCgMivOKgEAcYAgfNbFbtoAdRbheCBdhpGcJbHA"]⟩,
    ⟨["dsrt", "deseret"],
      ["dumAdB"]⟩,
    ⟨["deva", "devanagari"],
      ["dkQdCEOCZcijGbFbreMJ"]⟩,
    ⟨["diak", "divesakuru"],
      ["eckUGCACHBBBbDBBCLJJ"]⟩,
    ⟨["dogr", "dogra"],
      ["ecaYcH"]⟩,
    ⟨["dupl", "duployan"],
      ["gmdSeCFMDIHJCD"]⟩,
    ⟨["egyp", "egyptianhieroglyphs"],
      ["eldGbqRKfxQ"]⟩,
    ⟨["elba", "elbasan"],
      ["duvWbN"]⟩,
    ⟨["elym", "elymaic"],
      ["dyyYW"]⟩,
    ⟨["ethi", "ethiopic"],
      ["gvGcUBDCGBABDCbOBDCbGBDCGBABDCOBcEBDCcOCbFDZjvAWJGBGBGBGBGBGBGBGbvkCFCFCFJGBGepyFGBDBBBO"]⟩,
    ⟨["gara", "garay"],
      ["dxzCbLDbCIB"]⟩,
    ⟨["geor", "georgian"],
      ["ghSbLBAFACbQBDejWbQCCgeAbLBAFA"]⟩,
    ⟨["glag", "glagolitic"],
      ["qrGdRgizGGBQCGBBBE"]⟩,
    ⟨["goth", "gothic"],
      ["dueAbA"]⟩,
    ⟨["gran", "grantha"],
      ["eadSDBHCBCVBGBBBECICBCCCAGAFGCGDE"]⟩,
    ⟨["grek", "greek"],
      ["bhWDBCCDBAEABABCBABTBcKOPjnQEbYEEEdGAmIVCFCbLCFCHBABABABbECcABOBNCFBSCCBIlJAcajEAbgnIdAR",
       "AdaxRcR"]⟩,
    ⟨["gujr", "gujarati"],
      ["dzLCBIBCBVBGBBBECJBCBCCAPDCLHG"]⟩,
    ⟨["gong", "gunjalagondi"],
      ["eebWFBBBbKBBBFHJ"]⟩,
    ⟨["guru", "gurmukhi"],
      ["duNCBFEBCVBGBBBBBBCABEEBCCDAHDBAHQ"]⟩,
    ⟨["gukh", "gurungkhema"],
      ["fdrScF"]⟩,
    ⟨["hani", "han"],
      ["rpWZBdKMiFbVABAZIODblCjtNcMbfbJbhsIoBCeBbsiIBMBccoKclfBbGgdTGiNCinPOlbKPxXdqWuVcfYhhYFgf",
       "F"]⟩,
    ⟨["hang", "hangul"],
      ["glKjVllEBjXdPeJbEcNbEbtaNbCyTqnRMWEbWpaIbEDFCFCFCC"]⟩,
    ⟨["rohg", "hanifirohingya"],
      ["dxwQbNIJ"]⟩,
    ⟨["hano", "hanunoo"],
      ["itSU"]⟩,
    ⟨["hatr", "hatran"],
      ["dwiASBBFE"]⟩,
    ⟨["hebr", "hebrew"],
      ["ccVcCIbAEFdovWZBEBABBBBBJ"]⟩,
    ⟨["hira", "hiragana"],
      ["shDdHGCfpeVlASAbDCymVA"]⟩,
    ⟨["armi", "imperialaramaic"],
      ["dwbWVBI"]⟩,
    ⟨["qaai", "zinh", "inherited"],
      ["bdOeHkRBrKKbAAbcIDgoXbEtTCBMBGEAGADBhQcLuEBhMbGftXDeDBczuJPQNblNAiSAgfAActcUbTCWuYCRHCGb",
       "EDbtlhIjF"]⟩,
    ⟨["phli", "inscriptionalpahlavi"],
      ["dxgQSFH"]⟩,
    ⟨["prti", "inscriptionalparthian"],
      ["dxfKVCH"]⟩,
    ⟨["java", "javanese"],
      ["cmeYcZCJEB"]⟩,
    ⟨["kthi", "kaithi"],
      ["dzfCcOKA"]⟩,
    ⟨["knda", "kannada"],
      ["etCMBCBWBJBECIBCBDHBGBBDCJBC"]⟩,
    ⟨["kana", "katakana"],
      ["skVdLCCjGPiAbUBdJczhEJBbScouCDBGBBBAlBCbYAOD"]⟩,
    ⟨["kawi"],
      ["eerWQBbODbC"]⟩,
    ⟨["kali", "kayahli"],
      ["cmaAbTBA"]⟩,
    ⟨["khar", "kharoshthi"],
      ["dwtCDBBFHBCBbCCCEJHI"]⟩,
    ⟨["kits", "khitansmallscript"],
      ["fjiIAkgXsBbPA"]⟩,
    ⟨["khmr", "khmer"],
      ["ixKdPCJGJsSbF"]⟩,
    ⟨["khoj", "khojki"],
      ["dztWRBbU"]⟩,
    ⟨["sind", "khudawadi"],
      ["eaaQcGFJ"]⟩,
    ⟨["krai", "kiratrai"],
      ["fiiIcF"]⟩,
    ⟨["laoo", "lao"],
      ["fmVBBABEBXBABWCEBABGBJCD"]⟩,
    ⟨["latn", "latin"],
      ["cNZGZbVAPAFWBbEBrGbNEjxBbLGbWFDFMBcRcNjVoFANAQMfLBGAbBARbOecTbFbulMdXDcOCBBABHVNbfKbQBIB",
       "DbedQGboKZGZdcFFBbPBIddnPbEGF"]⟩,
    ⟨["lepc", "lepcha"],
      ["kpScDDODC"]⟩,
    ⟨["limb", "limbu"],
      ["jmEbEBLELEADL"]⟩,
    ⟨["lina", "lineara"],
      ["dvfSlYJVKH"]⟩,
    ⟨["linb", "linearb"],
      ["dsyQLBZBSBBBOCNbIeS"]⟩,
    ⟨["lisu"],
      ["ckkUbVbumAA"]⟩,
    ⟨["lyci", "lycian"],
      ["dtxGbC"]⟩,
    ⟨["lydi", "lydian"],
      ["dwkMZFA"]⟩,
    ⟨["mahj", "mahajani"],
      ["dznCbM"]⟩,
    ⟨["maka", "makasar"],
      ["eeqQY"]⟩,
    ⟨["mlym", "malayalam"],
      ["eyAMBCBbYBCBFEPCZ"]⟩,
    ⟨["mand", "mandaic"],
      ["ddGbBCA"]⟩,
    ⟨["mani", "manichaean"],
      ["dxaMbMEL"]⟩,
    ⟨["marc", "marchen"],
      ["edsQbFCVBN"]⟩,
    ⟨["gonm", "masaramgondi"],
      ["edyEGBBBbRDABBBIIJ"]⟩,
    ⟨["medf", "medefaidrin"],
      ["fisEdM"]⟩,
    ⟨["mtei", "meeteimayek"],
      ["cmsMWhTbTCJ"]⟩,
    ⟨["mend", "mendekikakui"],
      ["hcuYhOCP"]⟩,
    ⟨["merc", "meroiticcursive"],
      ["dwpKXETCbT"]⟩,
    ⟨["mero", "meroitichieroglyphs"],
      ["dwoEbF"]⟩,
    ⟨["plrd", "miao"],
      ["fizOcWEcEHQ"]⟩,
    ⟨["modi"],
      ["ebhGcQLJ"]⟩,
    ⟨["mong", "mongolian"],
      ["jcIBCABTGdKHbQdscBM"]⟩,
    ⟨["mroo", "mro"],
      ["fheUbEBJEB"]⟩,
    ⟨["mult", "multani"],
      ["dzyUGBABDBOBK"]⟩,
    ⟨["mymr", "myanmar"],
      ["gbOgDcgaYbEdTbFbpaMT"]⟩,
    ⟨["nbat", "nabataean"],
      ["dweIbEII"]⟩,
    ⟨["nagm", "nagmundari"],
      ["hbpObP"]⟩,
    ⟨["nand", "nandinagari"],
      ["ecqYHCbTCK"]⟩,
    ⟨["talu", "newtailue"],
      ["jrCbREZGKDB"]⟩,
    ⟨["newa"],
      ["eanOdNBE"]⟩,
    ⟨["nkoo", "nko"],
      ["cyIcGCC"]⟩,
    ⟨["nshu", "nushu"],
      ["fjiFAyvMpF"]⟩,
    ⟨["hmnp", "nyiakengpuachuehmong"],
      ["haeAbSDNCJEB"]⟩,
    ⟨["ogam", "ogham"],
      ["inObC"]⟩,
    ⟨["olck", "olchiki"],
      ["ksUbV"]⟩,
    ⟨["onao", "olonal"],
      ["hbzKbQEA"]⟩,
    ⟨["hung", "oldhungarian"],
      ["dxrSbYNbYHF"]⟩,
    ⟨["ital", "olditalic"],
      ["ducEbJJC"]⟩,
    ⟨["narb", "oldnortharabian"],
      ["dwyAbF"]⟩,
    ⟨["perm", "oldpermic"],
      ["dufGbQ"]⟩,
    ⟨["xpeo", "oldpersian"],
      ["duiIbJEN"]⟩,
    ⟨["sogo", "oldsogdian"],
      ["dyqIbN"]⟩,
    ⟨["sarb", "oldsoutharabian"],
      ["dwwUbF"]⟩,
    ⟨["orkh", "oldturkic"],
      ["dxmUcU"]⟩,
    ⟨["ougr", "olduyghur"],
      ["dyuQZ"]⟩,
    ⟨["orya", "oriya"],
      ["eeJCBHCBCVBGBBBECICBCCHCEBBECR"]⟩,
    ⟨["osge", "osage"],
      ["dusUbJEbJ"]⟩,
    ⟨["osma", "osmanya"],
      ["duqYbDCJ"]⟩,
    ⟨["hmng", "pahawhhmong"],
      ["fhmEcRKJBGBUFS"]⟩,
    ⟨["palm", "palmyrene"],
      ["dwdCbF"]⟩,
    ⟨["pauc", "paucinhau"],
      ["edcAcE"]⟩,
    ⟨["phag", "phagspa"],
      ["clsQcD"]⟩,
    ⟨["phnx", "phoenician"],
      ["dwjGbBDA"]⟩,
    ⟨["phlp", "psalterpahlavi"],
      ["dxhWRHDMG"]⟩,
    ⟨["rjng", "rejang"],
      ["cmbWbJLA"]⟩,
    ⟨["runr", "runic"],
      ["ioUcWDK"]⟩,
    ⟨["samr", "samaritan"],
      ["daUbTCO"]⟩,
    ⟨["saur", "saurashtra"],
      ["clvCcRIL"]⟩,
    ⟨["shrd", "sharada"],
      ["dzoYdR"]⟩,
    ⟨["shaw", "shavian"],
      ["dupCbV"]⟩,
    ⟨["sidd", "siddham"],
      ["ebcIcBCbL"]⟩,
    ⟨["sgnw", "signwriting"],
      ["gwtKzBPEBO"]⟩,
    ⟨["sinh", "sinhala"],
      ["fcZCBRDXBIBACGDAEFBABHGJCCdulGT"]⟩,
    ⟨["sogd", "sogdian"],
      ["dysEbP"]⟩,
    ⟨["sora", "sorasompeng"],
      ["dziEYHJ"]⟩,
    ⟨["soyo", "soyombo"],
      ["ecxSdE"]⟩,
    ⟨["sund", "sundanese"],
      ["kkUcLjWH"]⟩,
    ⟨["sunu", "sunuwar"],
      ["edlWbHOJ"]⟩,
    ⟨["sylo", "sylotinagri"],
      ["clqEbS"]⟩,
    ⟨["syrc", "syriac"],
      ["cqYNBcHCCkMK"]⟩,
    ⟨["tglg", "tagalog"],
      ["isMVJA"]⟩,
    ⟨["tagb", "tagbanwa"],
      ["iwEMBCBB"]⟩,
    ⟨["tale", "taile"],
      ["jpGbDCE"]⟩,
    ⟨["lana", "taitham"],
      ["jxGcKBbCCKGJGN"]⟩,
    ⟨["tavt", "taiviet"],
      ["cmoUcOYE"]⟩,
    ⟨["takr", "takri"],
      ["ebmEcFGJ"]⟩,
    ⟨["taml", "tamil"],
      ["ejIBBFDCBDDBBABBDBDCDLEEDCBDCAGAOUealHbXNA"]⟩,
    ⟨["tnsa", "tangsa"],
      ["fhgQdABJ"]⟩,
    ⟨["tang", "tangut"],
      ["fjiEAbFjbZIbdNtSI"]⟩,
    ⟨["telu", "telugu"],
      ["eoEMBCBWBPCIBCBDHBBCCACDCJHI"]⟩,
    ⟨["thaa", "thaana"],
      ["cvWbX"]⟩,
    ⟨["thai"],
      ["fhXcFFbB"]⟩,
    ⟨["tibt", "tibetan"],
      ["frScTBbJEbMBbJBOBGEB"]⟩,
    ⟨["tfng", "tifinagh"],
      ["rcYcDHBOA"]⟩,
    ⟨["tirh", "tirhuta"],
      ["easMcTIJ"]⟩,
    ⟨["todr", "todhri"],
      ["dvdGbZ"]⟩,
    ⟨["toto"],
      ["hatKbE"]⟩,
    ⟨["tutg", "tulutigalari"],
      ["eaiQJBACABbLBJBACABDBJBBIB"]⟩,
    ⟨["ugar", "ugaritic"],
      ["duhCbDBA"]⟩,
    ⟨["vaii", "vai"],
      ["ckmQlN"]⟩,
    ⟨["vith", "vithkuqi"],
      ["dvaEKBOBGBBBKBOBGBB"]⟩,
    ⟨["wcho", "wancho"],
      ["havGcFFA"]⟩,
    ⟨["wara", "warangciti"],
      ["echCdEMA"]⟩,
    ⟨["yezi", "yezidi"],
      ["dylKbPBCCB"]⟩,
    ⟨["yiii", "yi"],
      ["cipKbsUDcC"]⟩,
    ⟨["zanb", "zanabazarsquare"],
      ["ecuQcT"]⟩
  ]

end BracketQuery.Text.Property
