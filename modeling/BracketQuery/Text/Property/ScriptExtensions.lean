import BracketQuery.Text.Property.Coded

namespace BracketQuery.Text.Property

/-- The scripts, each with all characters that are used in it. -/
def scriptExtensions : List Coded :=
  [
    ⟨["adlm", "adlam"],
      ["ciHAbGAjwOAfhHAglrIcXEJEB"]⟩,
    ⟨["ahom"],
      ["ebrCbACOEW"]⟩,
    ⟨["hluw", "anatolianhieroglyphs"],
      ["essEwK"]⟩,
    ⟨["arab", "arabic"],
      ["chCEBiGBbHdCbVjGbEBBFcWBbCivNAfhHAczrAeKQrCCcBHAbGPeIEBfEbmHbBeiEbEcPCcDDdglSDBbABBBACAB",
       "JBDBABAGAEABABABCBBBACABABABABABBBACDBGBDBDBABJBQFCBEBQcAB"]⟩,
    ⟨["armn", "armenian"],
      ["bdWAvGbLCbXCCdozJE"]⟩,
    ⟨["avst", "avestan"],
      ["hBArfSBdfqCcBDG"]⟩,
    ⟨["bali", "balinese"],
      ["kfWcYBbX"]⟩,
    ⟨["bamu", "bamum"],
      ["clcQdJcvcQvW"]⟩,
    ⟨["bass", "bassavah"],
      ["fhkIbDCF"]⟩,
    ⟨["batk", "batak"],
      ["knGbZID"]⟩,
    ⟨["beng", "bengali"],
      ["baYAcmUBRBbADBHCBCVBGBADDCICBCDIAEBBECYhdHABACBBAIAIACAEACCcbaFA"]⟩,
    ⟨["bhks", "bhaiksuki"],
      ["edoIIBbSBNKbC"]⟩,
    ⟨["bopo", "bopomofo"],
      ["bbJABCNAQBrbXCEJBMKDCAGAhNAJbQeIbFczlTBkWE"]⟩,
    ⟨["brah", "brahmi"],
      ["dzaEcZEbJJA"]⟩,
    ⟨["brai", "braille"],
      ["pdWjV"]⟩,
    ⟨["bugi", "buginese"],
      ["jwAbBCBcckTA"]⟩,
    ⟨["buhd", "buhid"],
      ["iuNBJT"]⟩,
    ⟨["cans", "canadianaboriginal"],
      ["hoYyPvOcRdtpQP"]⟩,
    ⟨["cari", "carian"],
      ["hBAlzMACAfgDAdclQbW"]⟩,
    ⟨["aghb", "caucasianalbanian"],
      ["bdSAbSAbSAdtqNbZLA"]⟩,
    ⟨["cakm", "chakma"],
      ["dtMJckEJdtfQcABR"]⟩,
    ⟨["cham"],
      ["cmjWcCJNCJCD"]⟩,
    ⟨["cher", "cherokee"],
      ["bdOCBAGBWBLBgfUdHCFcfjEdB"]⟩,
    ⟨["chrs", "chorasmian"],
      ["dyxCbB"]⟩,
    ⟨["zyyy", "common"],
      ["AcMbAFbAbUBLBBBEXAbFArHCBJBADABIBABFFECTeWAGABAyNAiHAtWAcaUApPDgdBLCbGBbEBJBBBGBKDKBORbG",
       "cLbLBCCFBbABQbPCEzPWKVbjRjWyDCbFBeAtSWBXCJBDBABZqCADANANAVAuJXbFAbXOMDgFJFdRbFAjtOcLbhsQ",
       "ZdYCblOAOBbfhSJWUCLBSBDfRABbFbAFbAFeXGBGKEpMMbZbScynBjPGqTgAeLcIjLKbMCcJDQIBHbDEcIiFTMTM",
       "dIbBGfFdGBcSBBCACBCDBLBABGBcMBDCHBGBbBBDBEBADGBnBClFCbXhtHcPcYcIbbEbREdVMOCOBOBbKKgRcEZB",
       "BNbREIXFfYblVEQDMDeOEdQGLEAPLEcDIJGbNIbDCLEBcKnBMNCMDJFcDHOCKGIHfQBdXbsuxBAbEdR"]⟩,
    ⟨["copt", "qaac", "coptic"],
      ["hBAwMADBBAeEBeENpjKeLFGkTAdcpCbB"]⟩,
    ⟨["xsux", "cuneiform"],
      ["efbSbjLdYeGBELhN"]⟩,
    ⟨["cprt", "cypriot"],
      ["dtiMCEbSDIcoMFCABbRBBDACA"]⟩,
    ⟨["cpmn", "cyprominoan"],
      ["dtiMBrqKdU"]⟩,
    ⟨["cyrl", "cyrillic"],
      ["baYAcPCBABABACAFAjElRivOKgEAcYAeXAgaPbFcPAbtlKdRbheCBdhpGcJbHA"]⟩,
    ⟨["dsrt", "deseret"],
      ["dumAdB"]⟩,
    ⟨["deva", "devanagari"],
      ["baYAcjRdECbQhiEbMBBbnAAbzfRJgKbFbreMJ"]⟩,
    ⟨["diak", "divesakuru"],
      ["eckUGCACHBBBbDBBCLJJ"]⟩,
    ⟨["dogr", "dogra"],
      ["doMLcidCJbqiOcH"]⟩,
    ⟨["dupl", "duployan"],
      ["hBAwTBBAYBqiHAfuqLeCFMDIHJCH"]⟩,
    ⟨["egyp", "egyptianhieroglyphs"],
      ["eldGbqRKfxQ"]⟩,
    ⟨["elba", "elbasan"],
      ["hBAwRAdtsCbN"]⟩,
    ⟨["elym", "elymaic"],
      ["dyyYW"]⟩,
    ⟨["ethi", "ethiopic"],
      ["beCAfrDcUBDCGBABDCbOBDCbGBDCGBABDCOBcEBDCcOCbFDZjvAWJGBGBGBGBGBGBGBGbvkCFCFCFJGBGepyFGBD",
       "BBBO"]⟩,
    ⟨["gara", "garay"],
      ["chOAOADAdvqUbLDbCIB"]⟩,
    ⟨["geor", "georgian"],
      ["hBAbvLAefEbLBAFACbVejWbQCCbjMAeuNbLBAFAjZA"]⟩,
    ⟨["glag", "glagolitic"],
      ["hBAwPABAoSACAjXAeiRAfvIAekRdRsPAbtnFAeotKGBQCGBBBE"]⟩,
    ⟨["goth", "gothic"],
      ["hBAwQBCAbOAdsyObA"]⟩,
    ⟨["gran", "grantha"],
      ["dnTBRByQNgkAABBbECDBbnAAdnrJDBHCBCVBGBBBEBJCBCCCAGAFGCGDEerRBBA"]⟩,
    ⟨["grek", "greek"],
      ["hBAwMBCABABAKAbUACAbQHCDBAEABABCBABTBcKOPjnQEbYEEEdGCmGVCFCbLCFCHBABABABbECcABOBNCFBSCCB",
       "IdQAhSAcajEAbgnIdARAdaxRcR"]⟩,
    ⟨["gujr", "gujarati"],
      ["dnTBRBkXCBIBCBVBGBBBECJBCBCCAPDCLHGchnSJ"]⟩,
    ⟨["gong", "gunjalagondi"],
      ["hBAdhKBeanIFBBBbKBBBFHJ"]⟩,
    ⟨["guru", "gurmukhi"],
      ["dnTBRBfZCBFEBCVBGBBBBBBCABEEBCCDAHDBAHQchsZJ"]⟩,
    ⟨["gukh", "gurungkhema"],
      ["doNAfadEcF"]⟩,
    ⟨["hani", "han"],
      ["hBAriUZBdKMiFbAPBCBMBMBMCAGIhFAfSPbGbLJAbWbNcEbWPLbZAdKYKEdSbEBjtNcMbfbJcqYHbfbCoBCeBbhR",
       "BkWEbqpOBMBblrARlrYBfeSclfBbGgdTGiNCinPOlbKPxXdqWuVcfYhhYFgfF"]⟩,
    ⟨["hang", "hangul"],
      ["glKjVljLCEJBMOCGAhNAcBdPeJbEcNbEbtaNbCyTqnRMWEbWomZBkWEcGbEDFCFCFCC"]⟩,
    ⟨["rohg", "hanifirohingya"],
      ["chOAOADAbGAfRAdvhJbNIJ"]⟩,
    ⟨["hano", "hanunoo"],
      ["itSW"]⟩,
    ⟨["hatr", "hatran"],
      ["dwiASBBFE"]⟩,
    ⟨["hebr", "hebrew"],
      ["bdVByYcCIbAEFdovWZBEBABBBBBJ"]⟩,
    ⟨["hira", "hiragana"],
      ["seRCEJBMQFBAEBDdHCHdMBcztGBkWEKAbTBcouRlASAbDCymVA"]⟩,
    ⟨["armi", "imperialaramaic"],
      ["dwbWVBI"]⟩,
    ⟨["qaai", "zinh", "inherited"],
      ["beDACABLBBDGCACPBBBRBEBDcgMBgoXbEbdBcBBABEuEBhMbFdfsQPQNblNAczqObTCWuYCRHCGbEDbtlhIjF"]⟩,
    ⟨["phli", "inscriptionalpahlavi"],
      ["dxgQSFH"]⟩,
    ⟨["prti", "inscriptionalparthian"],
      ["dxfKVCH"]⟩,
    ⟨["java", "javanese"],
      ["cmeYcZBKEB"]⟩,
    ⟨["kthi", "kaithi"],
      ["doOJnxXAbufEJbnmScOKA"]⟩,
    ⟨["knda", "kannada"],
      ["dnTBRBbeOMBCBWBJBECIBCBDHBGBBDCJBCgaEABBGAXABAcasXF"]⟩,
    ⟨["kana", "katakana"],
      ["bdTAbDAqzTCEJBMQFBAEBdNDDdRjGPiAbUBdJcywBBkWcKcouADBGBBBAlBCbYAOD"]⟩,
    ⟨["kawi"],
      ["eerWQBbODbC"]⟩,
    ⟨["kali", "kayahli"],
      ["cmaAbV"]⟩,
    ⟨["khar", "kharoshthi"],
      ["dwtCDBBFHBCBbCCCEJHI"]⟩,
    ⟨["kits", "khitansmallscript"],
      ["fjiIAkgXsBbPA"]⟩,
    ⟨["khmr", "khmer"],
      ["ixKdPCJGJsSbF"]⟩,
    ⟨["khoj", "khojki"],
      ["edIJchoIJbobMRBbU"]⟩,
    ⟨["sind", "khudawadi"],
      ["doMBcidMJboiGcGFJ"]⟩,
    ⟨["krai", "kiratrai"],
      ["fiiIcF"]⟩,
    ⟨["laoo", "lao"],
      ["fmVBBABEBXBABWCEBABGBJCD"]⟩,
    ⟨["latn", "latin"],
      ["cNZGZbVAMACAFWBbEBrGDAKABCBAJABAGEbBOBBBAMACCHBBBbMAFAEMkRBbvEBcxKAeoIbLGbWFDFMBcRcFAHjV",
       "lRAcNANAQMdFAcFBGAbBARbOecTbFpRAbtuMHbAdXDcOCBBABHVNlQAtTbQBIBDbedQGboKZGZdcFFBbPBIddnPb",
       "EGF"]⟩,
    ⟨["lepc", "lepcha"],
      ["kpScDDODC"]⟩,
    ⟨["limb", "limbu"],
      ["doNAfxQbEBLELEADL"]⟩,
    ⟨["lina", "lineara"],
      ["dtiTbSbvGlYJVKH"]⟩,
    ⟨["linb", "linearb"],
      ["dsyQLBZBSBBBOCNbIeSFCEbSDI"]⟩,
    ⟨["lisu"],
      ["baYAQArdKBbsfSbVbumAA"]⟩,
    ⟨["lyci", "lycian"],
      ["mgOAdhqRbC"]⟩,
    ⟨["lydi", "lydian"],
      ["hBArfTAdexQZFA"]⟩,
    ⟨["mahj", "mahajani"],
      ["hBAdhKLcidCJbnuSbM"]⟩,
    ⟨["maka", "makasar"],
      ["eeqQY"]⟩,
    ⟨["mlym", "malayalam"],
      ["dnTBRBbjMMBCBbYBCBFEPCZfvEAXAcasZC"]⟩,
    ⟨["mand", "mandaic"],
      ["cjOAtRbBCA"]⟩,
    ⟨["mani", "manichaean"],
      ["cjOAduqXbMEL"]⟩,
    ⟨["marc", "marchen"],
      ["edsQbFCVBN"]⟩,
    ⟨["gonm", "masaramgondi"],
      ["doMBeajQGBBBbRDABBBIIJ"]⟩,
    ⟨["medf", "medefaidrin"],
      ["fisEdM"]⟩,
    ⟨["mtei", "meeteimayek"],
      ["cmsMWhTbTCJ"]⟩,
    ⟨["mend", "mendekikakui"],
      ["hcuYhOCP"]⟩,
    ⟨["merc", "meroiticcursive"],
      ["dwpKXETCbT"]⟩,
    ⟨["mero", "meroitichieroglyphs"],
      ["mgRAdkhMbF"]⟩,
    ⟨["plrd", "miao"],
      ["fizOcWEcEHQ"]⟩,
    ⟨["modi"],
      ["clsAJbpoWcQLJ"]⟩,
    ⟨["mong", "mongolian"],
      ["jcIZGdKHbQcwAAfzTBFDdjfWM"]⟩,
    ⟨["mroo", "mro"],
      ["fheUbEBJEB"]⟩,
    ⟨["mult", "multani"],
      ["dyKJdwaAGBABDBOBK"]⟩,
    ⟨["mymr", "myanmar"],
      ["gbOgDcfuCAgVbEdTbFbpaMT"]⟩,
    ⟨["nbat", "nabataean"],
      ["dweIbEII"]⟩,
    ⟨["nagm", "nagmundari"],
      ["hbpObP"]⟩,
    ⟨["nand", "nandinagari"],
      ["doMBbiMJgbHAIAHAcasRFbqySHCbTCK"]⟩,
    ⟨["talu", "newtailue"],
      ["jrCbREZGKDB"]⟩,
    ⟨["newa"],
      ["eanOdNBE"]⟩,
    ⟨["nkoo", "nko"],
      ["chOAOADAqAcGCCdowSB"]⟩,
    ⟨["nshu", "nushu"],
      ["fjiFAyvMpF"]⟩,
    ⟨["hmnp", "nyiakengpuachuehmong"],
      ["haeAbSDNCJEB"]⟩,
    ⟨["ogam", "ogham"],
      ["inObC"]⟩,
    ⟨["olck", "olchiki"],
      ["ksUbV"]⟩,
    ⟨["onao", "olonal"],
      ["doMBgykWbQEA"]⟩,
    ⟨["hung", "oldhungarian"],
      ["mgOACAfgDAPAdgeGbYNbYHF"]⟩,
    ⟨["ital", "olditalic"],
      ["ducEbJJC"]⟩,
    ⟨["narb", "oldnortharabian"],
      ["dwyAbF"]⟩,
    ⟨["perm", "oldpermic"],
      ["hBAwMAFCKAoDAdsmUbQ"]⟩,
    ⟨["xpeo", "oldpersian"],
      ["duiIbJEN"]⟩,
    ⟨["sogo", "oldsogdian"],
      ["dyqIbN"]⟩,
    ⟨["sarb", "oldsoutharabian"],
      ["dwwUbF"]⟩,
    ⟨["orkh", "oldturkic"],
      ["mgOAfgFAdfzZcU"]⟩,
    ⟨["ougr", "olduyghur"],
      ["cjOAdusVAbsFZ"]⟩,
    ⟨["orya", "oriya"],
      ["dnTBRBpVCBHCBCVBGBBBECICBCCHCEBBECRgpEAXA"]⟩,
    ⟨["osge", "osage"],
      ["bdPACAGAcYAdtlVbJEbJ"]⟩,
    ⟨["osma", "osmanya"],
      ["duqYbDCJ"]⟩,
    ⟨["hmng", "pahawhhmong"],
      ["fhmEcRKJBGBUFS"]⟩,
    ⟨["palm", "palmyrene"],
      ["dwdCbF"]⟩,
    ⟨["pauc", "paucinhau"],
      ["edcAcE"]⟩,
    ⟨["phag", "phagspa"],
      ["jcKBBAdcJAfzUAbtnXcD"]⟩,
    ⟨["phnx", "phoenician"],
      ["dwjGbBDA"]⟩,
    ⟨["phlp", "psalterpahlavi"],
      ["cjOAduyHRHDMG"]⟩,
    ⟨["rjng", "rejang"],
      ["cmbWbJLA"]⟩,
    ⟨["runr", "runic"],
      ["ioUdK"]⟩,
    ⟨["samr", "samaritan"],
      ["daUbTCOojQA"]⟩,
    ⟨["saur", "saurashtra"],
      ["clvCcRIL"]⟩,
    ⟨["shrd", "sharada"],
      ["dnTAhkFABACBCAcatRFCAbnwPdR"]⟩,
    ⟨["shaw", "shavian"],
      ["hBAduiAbV"]⟩,
    ⟨["sidd", "siddham"],
      ["ebcIcBCbL"]⟩,
    ⟨["sgnw", "signwriting"],
      ["gwtKzBPEBO"]⟩,
    ⟨["sinh", "sinhala"],
      ["doMBboLCBRDXBIBACGDAEFBABHGJCCfrPAdotQT"]⟩,
    ⟨["sogd", "sogdian"],
      ["cjOAdwiPbP"]⟩,
    ⟨["sora", "sorasompeng"],
      ["dziEYHJ"]⟩,
    ⟨["soyo", "soyombo"],
      ["ecxSdE"]⟩,
    ⟨["sund", "sundanese"],
      ["kkUcLjWH"]⟩,
    ⟨["sunu", "sunuwar"],
      ["bdOBBAJACAbCADAecgKbHOJ"]⟩,
    ⟨["sylo", "sylotinagri"],
      ["doMBeYJchwIbS"]⟩,
    ⟨["syrc", "syriac"],
      ["bdRBCBBAVACCHBBAbcDAOBCAbGAKKbAAfNNBcHCCkMKieFABA"]⟩,
    ⟨["tglg", "tagalog"],
      ["isMVJAVB"]⟩,
    ⟨["tagb", "tagbanwa"],
      ["iuNBbPMBCBB"]⟩,
    ⟨["tale", "taile"],
      ["bdOBFBDAezZJdkWbDCE"]⟩,
    ⟨["lana", "taitham"],
      ["jxGcKBbCCKGJGN"]⟩,
    ⟨["tavt", "taiviet"],
      ["cmoUcOYE"]⟩,
    ⟨["takr", "takri"],
      ["doMBcidMJbptUcFGJ"]⟩,
    ⟨["taml", "tamil"],
      ["dnTBRBuUBBFDCBDDBBABBDBDCDLEEDCBDCAGAOUgkDAcbbKAboeFABAcDBetFbXNA"]⟩,
    ⟨["tnsa", "tangsa"],
      ["fhgQdABJ"]⟩,
    ⟨["tang", "tangut"],
      ["seAPtBAeqkMAbFjbZIbdNtSI"]⟩,
    ⟨["telu", "telugu"],
      ["dnTBRBzQMBCBWBPCIBCBDHBBCCACDCJHIgfAAXA"]⟩,
    ⟨["thaa", "thaana"],
      ["chOAOBCAcMJkSbXdpgQAKA"]⟩,
    ⟨["thai"],
      ["baYAbAAbRAbTAecLcFFbB"]⟩,
    ⟨["tibt", "tibetan"],
      ["frScTBbJEbMBbJBOBGEBmeVD"]⟩,
    ⟨["tfng", "tifinagh"],
      ["bdQABACABApzAcDHBOA"]⟩,
    ⟨["tirh", "tirhuta"],
      ["dnTBRBhkMAcasZJbpaCcTIJ"]⟩,
    ⟨["todr", "todhri"],
      ["bdPACACAJABAcWAdtwBbZ"]⟩,
    ⟨["toto"],
      ["baYAgzsLbE"]⟩,
    ⟨["tutg", "tulutigalari"],
      ["exAJgbQABAcasXFhFAbojEJBACABbLBJBACABDBJBBIB"]⟩,
    ⟨["ugar", "ugaritic"],
      ["duhCbDBA"]⟩,
    ⟨["vaii", "vai"],
      ["ckmQlN"]⟩,
    ⟨["vith", "vithkuqi"],
      ["dvaEKBOBGBBBKBOBGBB"]⟩,
    ⟨["wcho", "wancho"],
      ["havGcFFA"]⟩,
    ⟨["wara", "warangciti"],
      ["echCdEMA"]⟩,
    ⟨["yezi", "yezidi"],
      ["chOAOADAcMJdwaGbPBCCB"]⟩,
    ⟨["yiii", "yi"],
      ["seRBFJCHiPAbqbCbsUDcCbiiCE"]⟩,
    ⟨["zanb", "zanabazarsquare"],
      ["ecuQcT"]⟩
  ]

end BracketQuery.Text.Property
