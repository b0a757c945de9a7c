import ItemTable.Text.Runs

set_option autoImplicit false

/-! # Scripts from K to M

The short and the long names of scripts, in small letters and without separators, with the
characters of each. -/

namespace ItemTable

namespace Script

/-- The scripts from K to M. -/
def fromK : List (List String × Runs) :=
  [
    (["kthi", "kaithi"],
      [(0x11080, 0x110c2, 1), (0x110cd, 0x110cd, 1)]),
    (["knda", "kannada"],
      [(0xc80, 0xc8c, 1), (0xc8e, 0xc90, 1), (0xc92, 0xca8, 1), (0xcaa, 0xcb3, 1),
       (0xcb5, 0xcb9, 1), (0xcbc, 0xcc4, 1), (0xcc6, 0xcc8, 1), (0xcca, 0xccd, 1),
       (0xcd5, 0xcd6, 1), (0xcdc, 0xcde, 1), (0xce0, 0xce3, 1), (0xce6, 0xcef, 1),
       (0xcf1, 0xcf3, 1)]),
    (["kana", "katakana"],
      [(0x30a1, 0x30fa, 1), (0x30fd, 0x30ff, 1), (0x31f0, 0x31ff, 1), (0x32d0, 0x32fe, 1),
       (0x3300, 0x3357, 1), (0xff66, 0xff6f, 1), (0xff71, 0xff9d, 1), (0x1aff0, 0x1aff3, 1),
       (0x1aff5, 0x1affb, 1), (0x1affd, 0x1affe, 1), (0x1b000, 0x1b000, 1), (0x1b120, 0x1b122, 1),
       (0x1b155, 0x1b155, 1), (0x1b164, 0x1b167, 1)]),
    (["kawi"],
      [(0x11f00, 0x11f10, 1), (0x11f12, 0x11f3a, 1), (0x11f3e, 0x11f5a, 1)]),
    (["kali", "kayahli"],
      [(0xa900, 0xa92d, 1), (0xa92f, 0xa92f, 1)]),
    (["khar", "kharoshthi"],
      [(0x10a00, 0x10a03, 1), (0x10a05, 0x10a06, 1), (0x10a0c, 0x10a13, 1), (0x10a15, 0x10a17, 1),
       (0x10a19, 0x10a35, 1), (0x10a38, 0x10a3a, 1), (0x10a3f, 0x10a48, 1), (0x10a50, 0x10a58, 1)]),
    (["kits", "khitansmallscript"],
      [(0x16fe4, 0x16fe4, 1), (0x18b00, 0x18cd5, 1), (0x18cff, 0x18cff, 1)]),
    (["khmr", "khmer"],
      [(0x1780, 0x17dd, 1), (0x17e0, 0x17e9, 1), (0x17f0, 0x17f9, 1), (0x19e0, 0x19ff, 1)]),
    (["khoj", "khojki"],
      [(0x11200, 0x11211, 1), (0x11213, 0x11241, 1)]),
    (["sind", "khudawadi"],
      [(0x112b0, 0x112ea, 1), (0x112f0, 0x112f9, 1)]),
    (["krai", "kiratrai"],
      [(0x16d40, 0x16d79, 1)]),
    (["laoo", "lao"],
      [(0xe81, 0xe82, 1), (0xe84, 0xe84, 1), (0xe86, 0xe8a, 1), (0xe8c, 0xea3, 1),
       (0xea5, 0xea5, 1), (0xea7, 0xebd, 1), (0xec0, 0xec4, 1), (0xec6, 0xec6, 1),
       (0xec8, 0xece, 1), (0xed0, 0xed9, 1), (0xedc, 0xedf, 1)]),
    (["latn", "latin"],
      [(0x41, 0x5a, 1), (0x61, 0x7a, 1), (0xaa, 0xaa, 1), (0xba, 0xba, 1), (0xc0, 0xd6, 1),
       (0xd8, 0xf6, 1), (0xf8, 0x2b8, 1), (0x2e0, 0x2e4, 1), (0x1d00, 0x1d25, 1),
       (0x1d2c, 0x1d5c, 1), (0x1d62, 0x1d65, 1), (0x1d6b, 0x1d77, 1), (0x1d79, 0x1dbe, 1),
       (0x1e00, 0x1eff, 1), (0x2071, 0x2071, 1), (0x207f, 0x207f, 1), (0x2090, 0x209c, 1),
       (0x212a, 0x212b, 1), (0x2132, 0x2132, 1), (0x214e, 0x214e, 1), (0x2160, 0x2188, 1),
       (0x2c60, 0x2c7f, 1), (0xa722, 0xa787, 1), (0xa78b, 0xa7dc, 1), (0xa7f1, 0xa7ff, 1),
       (0xab30, 0xab5a, 1), (0xab5c, 0xab64, 1), (0xab66, 0xab69, 1), (0xfb00, 0xfb06, 1),
       (0xff21, 0xff3a, 1), (0xff41, 0xff5a, 1), (0x10780, 0x10785, 1), (0x10787, 0x107b0, 1),
       (0x107b2, 0x107ba, 1), (0x1df00, 0x1df1e, 1), (0x1df25, 0x1df2a, 1)]),
    (["lepc", "lepcha"],
      [(0x1c00, 0x1c37, 1), (0x1c3b, 0x1c49, 1), (0x1c4d, 0x1c4f, 1)]),
    (["limb", "limbu"],
      [(0x1900, 0x191e, 1), (0x1920, 0x192b, 1), (0x1930, 0x193b, 1), (0x1940, 0x1940, 1),
       (0x1944, 0x194f, 1)]),
    (["lina", "lineara"],
      [(0x10600, 0x10736, 1), (0x10740, 0x10755, 1), (0x10760, 0x10767, 1)]),
    (["linb", "linearb"],
      [(0x10000, 0x1000b, 1), (0x1000d, 0x10026, 1), (0x10028, 0x1003a, 1), (0x1003c, 0x1003d, 1),
       (0x1003f, 0x1004d, 1), (0x10050, 0x1005d, 1), (0x10080, 0x100fa, 1)]),
    (["lisu"],
      [(0xa4d0, 0xa4ff, 1), (0x11fb0, 0x11fb0, 1)]),
    (["lyci", "lycian"],
      [(0x10280, 0x1029c, 1)]),
    (["lydi", "lydian"],
      [(0x10920, 0x10939, 1), (0x1093f, 0x1093f, 1)]),
    (["mahj", "mahajani"],
      [(0x11150, 0x11176, 1)]),
    (["maka", "makasar"],
      [(0x11ee0, 0x11ef8, 1)]),
    (["mlym", "malayalam"],
      [(0xd00, 0xd0c, 1), (0xd0e, 0xd10, 1), (0xd12, 0xd44, 1), (0xd46, 0xd48, 1),
       (0xd4a, 0xd4f, 1), (0xd54, 0xd63, 1), (0xd66, 0xd7f, 1)]),
    (["mand", "mandaic"],
      [(0x840, 0x85b, 1), (0x85e, 0x85e, 1)]),
    (["mani", "manichaean"],
      [(0x10ac0, 0x10ae6, 1), (0x10aeb, 0x10af6, 1)]),
    (["marc", "marchen"],
      [(0x11c70, 0x11c8f, 1), (0x11c92, 0x11ca7, 1), (0x11ca9, 0x11cb6, 1)]),
    (["gonm", "masaramgondi"],
      [(0x11d00, 0x11d06, 1), (0x11d08, 0x11d09, 1), (0x11d0b, 0x11d36, 1), (0x11d3a, 0x11d3a, 1),
       (0x11d3c, 0x11d3d, 1), (0x11d3f, 0x11d47, 1), (0x11d50, 0x11d59, 1)]),
    (["medf", "medefaidrin"],
      [(0x16e40, 0x16e9a, 1)]),
    (["mtei", "meeteimayek"],
      [(0xaae0, 0xaaf6, 1), (0xabc0, 0xabed, 1), (0xabf0, 0xabf9, 1)]),
    (["mend", "mendekikakui"],
      [(0x1e800, 0x1e8c4, 1), (0x1e8c7, 0x1e8d6, 1)]),
    (["merc", "meroiticcursive"],
      [(0x109a0, 0x109b7, 1), (0x109bc, 0x109cf, 1), (0x109d2, 0x109ff, 1)]),
    (["mero", "meroitichieroglyphs"],
      [(0x10980, 0x1099f, 1)]),
    (["plrd", "miao"],
      [(0x16f00, 0x16f4a, 1), (0x16f4f, 0x16f87, 1), (0x16f8f, 0x16f9f, 1)]),
    (["modi"],
      [(0x11600, 0x11644, 1), (0x11650, 0x11659, 1)]),
    (["mong", "mongolian"],
      [(0x1800, 0x1801, 1), (0x1804, 0x1804, 1), (0x1806, 0x1819, 1), (0x1820, 0x1878, 1),
       (0x1880, 0x18aa, 1), (0x11660, 0x1166c, 1)]),
    (["mroo", "mro"],
      [(0x16a40, 0x16a5e, 1), (0x16a60, 0x16a69, 1), (0x16a6e, 0x16a6f, 1)]),
    (["mult", "multani"],
      [(0x11280, 0x11286, 1), (0x11288, 0x11288, 1), (0x1128a, 0x1128d, 1), (0x1128f, 0x1129d, 1),
       (0x1129f, 0x112a9, 1)]),
    (["mymr", "myanmar"],
      [(0x1000, 0x109f, 1), (0xa9e0, 0xa9fe, 1), (0xaa60, 0xaa7f, 1), (0x116d0, 0x116e3, 1)])
  ]

end Script

end ItemTable
