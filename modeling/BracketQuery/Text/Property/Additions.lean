import BracketQuery.Text.Property.Coded

namespace BracketQuery.Text.Property

/--
The characters that the edition after the one of the other tables adds, by what they are there.
The quoting of texts and the names of captures know them; what a pattern matches does not.
-/
def additions : List Coded :=
  [
    ⟨["assigned"],
      ["dgHAblKAeXAfhIOCLcfLAecQAbvbBBCABAbCAbftHPrDBcCGeiRZcbJCIIbHBesAHwMbREJbeoSYCYlAEjcJHbxP",
       "VdTeKxwPCrDWPQjaLbEBVIBgaAAgCDnDIoPDbYADAcFAEAbCAEAkGAcsxRFiwGLbgfAgjH"]⟩,
    ⟨["alphabetic"],
      ["dgHAblKAeXAcgrPBCABAbCAbkwCZcbJCbYBesAHwMbRbepGYCYlAEjcJHbxPVdTeKbhqJbEBVIBdawGFiwGLbgfA",
       "gjH"]⟩,
    ⟨["number"],
      ["eegUJbfbUC"]⟩,
    ⟨["graphemeextend"],
      ["kdZOCLdolABesAABCBAczbOACAHBFA"]⟩
  ]

end BracketQuery.Text.Property
