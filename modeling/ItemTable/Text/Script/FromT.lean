import ItemTable.Text.Runs

set_option autoImplicit false

/-! # Scripts from T to Z

The short and the long names of scripts, in small letters and without separators, with the
characters of each. -/

namespace ItemTable

namespace Script

/-- The scripts from T to Z. -/
def fromT : List (List String × Runs) :=
  [
    (["tglg", "tagalog"],
      [(0x1700, 0x1715, 1), (0x171f, 0x171f, 1)]),
    (["tagb", "tagbanwa"],
      [(0x1760, 0x176c, 1), (0x176e, 0x1770, 1), (0x1772, 0x1773, 1)]),
    (["tale", "taile"],
      [(0x1950, 0x196d, 1), (0x1970, 0x1974, 1)]),
    (["lana", "taitham"],
      [(0x1a20, 0x1a5e, 1), (0x1a60, 0x1a7c, 1), (0x1a7f, 0x1a89, 1), (0x1a90, 0x1a99, 1),
       (0x1aa0, 0x1aad, 1)]),
    (["tavt", "taiviet"],
      [(0xaa80, 0xaac2, 1), (0xaadb, 0xaadf, 1)]),
    (["tayo", "taiyo"],
      [(0x1e6c0, 0x1e6de, 1), (0x1e6e0, 0x1e6f5, 1), (0x1e6fe, 0x1e6ff, 1)]),
    (["takr", "takri"],
      [(0x11680, 0x116b9, 1), (0x116c0, 0x116c9, 1)]),
    (["taml", "tamil"],
      [(0xb82, 0xb83, 1), (0xb85, 0xb8a, 1), (0xb8e, 0xb90, 1), (0xb92, 0xb95, 1),
       (0xb99, 0xb9a, 1), (0xb9c, 0xb9c, 1), (0xb9e, 0xb9f, 1), (0xba3, 0xba4, 1),
       (0xba8, 0xbaa, 1), (0xbae, 0xbb9, 1), (0xbbe, 0xbc2, 1), (0xbc6, 0xbc8, 1),
       (0xbca, 0xbcd, 1), (0xbd0, 0xbd0, 1), (0xbd7, 0xbd7, 1), (0xbe6, 0xbfa, 1),
       (0x11fc0, 0x11ff1, 1), (0x11fff, 0x11fff, 1)]),
    (["tnsa", "tangsa"],
      [(0x16a70, 0x16abe, 1), (0x16ac0, 0x16ac9, 1)]),
    (["tang", "tangut"],
      [(0x16fe0, 0x16fe0, 1), (0x17000, 0x18aff, 1), (0x18d00, 0x18d1e, 1), (0x18d80, 0x18df2, 1)]),
    (["telu", "telugu"],
      [(0xc00, 0xc0c, 1), (0xc0e, 0xc10, 1), (0xc12, 0xc28, 1), (0xc2a, 0xc39, 1),
       (0xc3c, 0xc44, 1), (0xc46, 0xc48, 1), (0xc4a, 0xc4d, 1), (0xc55, 0xc56, 1),
       (0xc58, 0xc5a, 1), (0xc5c, 0xc5d, 1), (0xc60, 0xc63, 1), (0xc66, 0xc6f, 1),
       (0xc77, 0xc7f, 1)]),
    (["thaa", "thaana"],
      [(0x780, 0x7b1, 1)]),
    (["thai"],
      [(0xe01, 0xe3a, 1), (0xe40, 0xe5b, 1)]),
    (["tibt", "tibetan"],
      [(0xf00, 0xf47, 1), (0xf49, 0xf6c, 1), (0xf71, 0xf97, 1), (0xf99, 0xfbc, 1),
       (0xfbe, 0xfcc, 1), (0xfce, 0xfd4, 1), (0xfd9, 0xfda, 1)]),
    (["tfng", "tifinagh"],
      [(0x2d30, 0x2d67, 1), (0x2d6f, 0x2d70, 1), (0x2d7f, 0x2d7f, 1)]),
    (["tirh", "tirhuta"],
      [(0x11480, 0x114c7, 1), (0x114d0, 0x114d9, 1)]),
    (["todr", "todhri"],
      [(0x105c0, 0x105f3, 1)]),
    (["tols", "tolongsiki"],
      [(0x11db0, 0x11ddb, 1), (0x11de0, 0x11de9, 1)]),
    (["toto"],
      [(0x1e290, 0x1e2ae, 1)]),
    (["tutg", "tulutigalari"],
      [(0x11380, 0x11389, 1), (0x1138b, 0x1138b, 1), (0x1138e, 0x1138e, 1), (0x11390, 0x113b5, 1),
       (0x113b7, 0x113c0, 1), (0x113c2, 0x113c2, 1), (0x113c5, 0x113c5, 1), (0x113c7, 0x113ca, 1),
       (0x113cc, 0x113d5, 1), (0x113d7, 0x113d8, 1), (0x113e1, 0x113e2, 1)]),
    (["ugar", "ugaritic"],
      [(0x10380, 0x1039d, 1), (0x1039f, 0x1039f, 1)]),
    (["vaii", "vai"],
      [(0xa500, 0xa62b, 1)]),
    (["vith", "vithkuqi"],
      [(0x10570, 0x1057a, 1), (0x1057c, 0x1058a, 1), (0x1058c, 0x10592, 1), (0x10594, 0x10595, 1),
       (0x10597, 0x105a1, 1), (0x105a3, 0x105b1, 1), (0x105b3, 0x105b9, 1), (0x105bb, 0x105bc, 1)]),
    (["wcho", "wancho"],
      [(0x1e2c0, 0x1e2f9, 1), (0x1e2ff, 0x1e2ff, 1)]),
    (["wara", "warangciti"],
      [(0x118a0, 0x118f2, 1), (0x118ff, 0x118ff, 1)]),
    (["yezi", "yezidi"],
      [(0x10e80, 0x10ea9, 1), (0x10eab, 0x10ead, 1), (0x10eb0, 0x10eb1, 1)]),
    (["yiii", "yi"],
      [(0xa000, 0xa48c, 1), (0xa490, 0xa4c6, 1)]),
    (["zanb", "zanabazarsquare"],
      [(0x11a00, 0x11a47, 1)])
  ]

end Script

end ItemTable
