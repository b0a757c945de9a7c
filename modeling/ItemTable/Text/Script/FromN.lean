import ItemTable.Text.Runs

set_option autoImplicit false

/-! # Scripts from N to S

The short and the long names of scripts, in small letters and without separators, with the
characters of each. -/

namespace ItemTable

namespace Script

/-- The scripts from N to S. -/
def fromN : List (List String × Runs) :=
  [
    (["nbat", "nabataean"],
      [(0x10880, 0x1089e, 1), (0x108a7, 0x108af, 1)]),
    (["nagm", "nagmundari"],
      [(0x1e4d0, 0x1e4f9, 1)]),
    (["nand", "nandinagari"],
      [(0x119a0, 0x119a7, 1), (0x119aa, 0x119d7, 1), (0x119da, 0x119e4, 1)]),
    (["newa"],
      [(0x11400, 0x1145b, 1), (0x1145d, 0x11461, 1)]),
    (["talu", "newtailue"],
      [(0x1980, 0x19ab, 1), (0x19b0, 0x19c9, 1), (0x19d0, 0x19da, 1), (0x19de, 0x19df, 1)]),
    (["nkoo", "nko"],
      [(0x7c0, 0x7fa, 1), (0x7fd, 0x7ff, 1)]),
    (["nshu", "nushu"],
      [(0x16fe1, 0x16fe1, 1), (0x1b170, 0x1b2fb, 1)]),
    (["hmnp", "nyiakengpuachuehmong"],
      [(0x1e100, 0x1e12c, 1), (0x1e130, 0x1e13d, 1), (0x1e140, 0x1e149, 1), (0x1e14e, 0x1e14f, 1)]),
    (["ogam", "ogham"],
      [(0x1680, 0x169c, 1)]),
    (["olck", "olchiki"],
      [(0x1c50, 0x1c7f, 1)]),
    (["hung", "oldhungarian"],
      [(0x10c80, 0x10cb2, 1), (0x10cc0, 0x10cf2, 1), (0x10cfa, 0x10cff, 1)]),
    (["ital", "olditalic"],
      [(0x10300, 0x10323, 1), (0x1032d, 0x1032f, 1)]),
    (["narb", "oldnortharabian"],
      [(0x10a80, 0x10a9f, 1)]),
    (["perm", "oldpermic"],
      [(0x10350, 0x1037a, 1)]),
    (["xpeo", "oldpersian"],
      [(0x103a0, 0x103c3, 1), (0x103c8, 0x103d5, 1)]),
    (["sogo", "oldsogdian"],
      [(0x10f00, 0x10f27, 1)]),
    (["sarb", "oldsoutharabian"],
      [(0x10a60, 0x10a7f, 1)]),
    (["orkh", "oldturkic"],
      [(0x10c00, 0x10c48, 1)]),
    (["ougr", "olduyghur"],
      [(0x10f70, 0x10f89, 1)]),
    (["onao", "olonal"],
      [(0x1e5d0, 0x1e5fa, 1), (0x1e5ff, 0x1e5ff, 1)]),
    (["orya", "oriya"],
      [(0xb01, 0xb03, 1), (0xb05, 0xb0c, 1), (0xb0f, 0xb10, 1), (0xb13, 0xb28, 1),
       (0xb2a, 0xb30, 1), (0xb32, 0xb33, 1), (0xb35, 0xb39, 1), (0xb3c, 0xb44, 1),
       (0xb47, 0xb48, 1), (0xb4b, 0xb4d, 1), (0xb55, 0xb57, 1), (0xb5c, 0xb5d, 1),
       (0xb5f, 0xb63, 1), (0xb66, 0xb77, 1)]),
    (["osge", "osage"],
      [(0x104b0, 0x104d3, 1), (0x104d8, 0x104fb, 1)]),
    (["osma", "osmanya"],
      [(0x10480, 0x1049d, 1), (0x104a0, 0x104a9, 1)]),
    (["hmng", "pahawhhmong"],
      [(0x16b00, 0x16b45, 1), (0x16b50, 0x16b59, 1), (0x16b5b, 0x16b61, 1), (0x16b63, 0x16b77, 1),
       (0x16b7d, 0x16b8f, 1)]),
    (["palm", "palmyrene"],
      [(0x10860, 0x1087f, 1)]),
    (["pauc", "paucinhau"],
      [(0x11ac0, 0x11af8, 1)]),
    (["phag", "phagspa"],
      [(0xa840, 0xa877, 1)]),
    (["phnx", "phoenician"],
      [(0x10900, 0x1091b, 1), (0x1091f, 0x1091f, 1)]),
    (["phlp", "psalterpahlavi"],
      [(0x10b80, 0x10b91, 1), (0x10b99, 0x10b9c, 1), (0x10ba9, 0x10baf, 1)]),
    (["rjng", "rejang"],
      [(0xa930, 0xa953, 1), (0xa95f, 0xa95f, 1)]),
    (["runr", "runic"],
      [(0x16a0, 0x16ea, 1), (0x16ee, 0x16f8, 1)]),
    (["samr", "samaritan"],
      [(0x800, 0x82d, 1), (0x830, 0x83e, 1)]),
    (["saur", "saurashtra"],
      [(0xa880, 0xa8c5, 1), (0xa8ce, 0xa8d9, 1)]),
    (["shrd", "sharada"],
      [(0x11180, 0x111df, 1), (0x11b60, 0x11b67, 1)]),
    (["shaw", "shavian"],
      [(0x10450, 0x1047f, 1)]),
    (["sidd", "siddham"],
      [(0x11580, 0x115b5, 1), (0x115b8, 0x115dd, 1)]),
    (["sidt", "sidetic"],
      [(0x10940, 0x10959, 1)]),
    (["sgnw", "signwriting"],
      [(0x1d800, 0x1da8b, 1), (0x1da9b, 0x1da9f, 1), (0x1daa1, 0x1daaf, 1)]),
    (["sinh", "sinhala"],
      [(0xd81, 0xd83, 1), (0xd85, 0xd96, 1), (0xd9a, 0xdb1, 1), (0xdb3, 0xdbb, 1),
       (0xdbd, 0xdbd, 1), (0xdc0, 0xdc6, 1), (0xdca, 0xdca, 1), (0xdcf, 0xdd4, 1),
       (0xdd6, 0xdd6, 1), (0xdd8, 0xddf, 1), (0xde6, 0xdef, 1), (0xdf2, 0xdf4, 1),
       (0x111e1, 0x111f4, 1)]),
    (["sogd", "sogdian"],
      [(0x10f30, 0x10f59, 1)]),
    (["sora", "sorasompeng"],
      [(0x110d0, 0x110e8, 1), (0x110f0, 0x110f9, 1)]),
    (["soyo", "soyombo"],
      [(0x11a50, 0x11aa2, 1)]),
    (["sund", "sundanese"],
      [(0x1b80, 0x1bbf, 1), (0x1cc0, 0x1cc7, 1)]),
    (["sunu", "sunuwar"],
      [(0x11bc0, 0x11be1, 1), (0x11bf0, 0x11bf9, 1)]),
    (["sylo", "sylotinagri"],
      [(0xa800, 0xa82c, 1)]),
    (["syrc", "syriac"],
      [(0x700, 0x70d, 1), (0x70f, 0x74a, 1), (0x74d, 0x74f, 1), (0x860, 0x86a, 1)])
  ]

end Script

end ItemTable
