import ItemTable.Text.Runs

set_option autoImplicit false

/-! # Traits across categories

Characters that share a trait and belong to several categories. -/

namespace ItemTable

namespace Category

/-- Characters besides marks that join the character before them. -/
def joiningCharacters : Runs :=
  [(0x9be, 0x9be, 1), (0x9d7, 0x9d7, 1), (0xb3e, 0xb3e, 1), (0xb57, 0xb57, 1), (0xbbe, 0xbbe, 1),
   (0xbd7, 0xbd7, 1), (0xcc0, 0xcc2, 2), (0xcc7, 0xcc8, 1), (0xcca, 0xccb, 1), (0xcd5, 0xcd6, 1),
   (0xd3e, 0xd3e, 1), (0xd57, 0xd57, 1), (0xdcf, 0xdcf, 1), (0xddf, 0xddf, 1), (0x1715, 0x1715, 1),
   (0x1734, 0x1734, 1), (0x1b35, 0x1b35, 1), (0x1b3b, 0x1b3d, 2), (0x1b43, 0x1b44, 1),
   (0x1baa, 0x1baa, 1), (0x1bf2, 0x1bf3, 1), (0x200c, 0x200c, 1), (0x302e, 0x302f, 1),
   (0xa953, 0xa953, 1), (0xa9c0, 0xa9c0, 1), (0xff9e, 0xff9f, 1), (0x111c0, 0x111c0, 1),
   (0x11235, 0x11235, 1), (0x1133e, 0x1133e, 1), (0x1134d, 0x1134d, 1), (0x11357, 0x11357, 1),
   (0x113b8, 0x113b8, 1), (0x113c2, 0x113c2, 1), (0x113c5, 0x113c5, 1), (0x113c7, 0x113c9, 1),
   (0x113cf, 0x113cf, 1), (0x114b0, 0x114b0, 1), (0x114bd, 0x114bd, 1), (0x115af, 0x115af, 1),
   (0x116b6, 0x116b6, 1), (0x11930, 0x11930, 1), (0x1193d, 0x1193d, 1), (0x11f41, 0x11f41, 1),
   (0x16ff0, 0x16ff1, 1), (0x1d165, 0x1d166, 1), (0x1d16d, 0x1d172, 1), (0xe0020, 0xe007f, 1)]

/-- Characters besides letters that count as alphabetic. -/
def otherAlphabetic : Runs :=
  [(0x345, 0x345, 1), (0x363, 0x36f, 1), (0x5b0, 0x5bd, 1), (0x5bf, 0x5bf, 1), (0x5c1, 0x5c2, 1),
   (0x5c4, 0x5c5, 1), (0x5c7, 0x5c7, 1), (0x610, 0x61a, 1), (0x64b, 0x657, 1), (0x659, 0x65f, 1),
   (0x670, 0x670, 1), (0x6d6, 0x6dc, 1), (0x6e1, 0x6e4, 1), (0x6e7, 0x6e8, 1), (0x6ed, 0x6ed, 1),
   (0x711, 0x711, 1), (0x730, 0x73f, 1), (0x7a6, 0x7b0, 1), (0x816, 0x817, 1), (0x81b, 0x823, 1),
   (0x825, 0x827, 1), (0x829, 0x82c, 1), (0x897, 0x897, 1), (0x8d4, 0x8df, 1), (0x8e3, 0x8e9, 1),
   (0x8f0, 0x903, 1), (0x93a, 0x93b, 1), (0x93e, 0x94c, 1), (0x94e, 0x94f, 1), (0x955, 0x957, 1),
   (0x962, 0x963, 1), (0x981, 0x983, 1), (0x9be, 0x9c4, 1), (0x9c7, 0x9c8, 1), (0x9cb, 0x9cc, 1),
   (0x9d7, 0x9d7, 1), (0x9e2, 0x9e3, 1), (0xa01, 0xa03, 1), (0xa3e, 0xa42, 1), (0xa47, 0xa48, 1),
   (0xa4b, 0xa4c, 1), (0xa51, 0xa51, 1), (0xa70, 0xa71, 1), (0xa75, 0xa75, 1), (0xa81, 0xa83, 1),
   (0xabe, 0xac5, 1), (0xac7, 0xac9, 1), (0xacb, 0xacc, 1), (0xae2, 0xae3, 1), (0xafa, 0xafc, 1),
   (0xb01, 0xb03, 1), (0xb3e, 0xb44, 1), (0xb47, 0xb48, 1), (0xb4b, 0xb4c, 1), (0xb56, 0xb57, 1),
   (0xb62, 0xb63, 1), (0xb82, 0xb82, 1), (0xbbe, 0xbc2, 1), (0xbc6, 0xbc8, 1), (0xbca, 0xbcc, 1),
   (0xbd7, 0xbd7, 1), (0xc00, 0xc04, 1), (0xc3e, 0xc44, 1), (0xc46, 0xc48, 1), (0xc4a, 0xc4c, 1),
   (0xc55, 0xc56, 1), (0xc62, 0xc63, 1), (0xc81, 0xc83, 1), (0xcbe, 0xcc4, 1), (0xcc6, 0xcc8, 1),
   (0xcca, 0xccc, 1), (0xcd5, 0xcd6, 1), (0xce2, 0xce3, 1), (0xcf3, 0xcf3, 1), (0xd00, 0xd03, 1),
   (0xd3e, 0xd44, 1), (0xd46, 0xd48, 1), (0xd4a, 0xd4c, 1), (0xd57, 0xd57, 1), (0xd62, 0xd63, 1),
   (0xd81, 0xd83, 1), (0xdcf, 0xdd4, 1), (0xdd6, 0xdd6, 1), (0xdd8, 0xddf, 1), (0xdf2, 0xdf3, 1),
   (0xe31, 0xe31, 1), (0xe34, 0xe3a, 1), (0xe4d, 0xe4d, 1), (0xeb1, 0xeb1, 1), (0xeb4, 0xeb9, 1),
   (0xebb, 0xebc, 1), (0xecd, 0xecd, 1), (0xf71, 0xf83, 1), (0xf8d, 0xf97, 1), (0xf99, 0xfbc, 1),
   (0x102b, 0x1036, 1), (0x1038, 0x1038, 1), (0x103b, 0x103e, 1), (0x1056, 0x1059, 1),
   (0x105e, 0x1060, 1), (0x1062, 0x1064, 1), (0x1067, 0x106d, 1), (0x1071, 0x1074, 1),
   (0x1082, 0x108d, 1), (0x108f, 0x108f, 1), (0x109a, 0x109d, 1), (0x1712, 0x1713, 1),
   (0x1732, 0x1733, 1), (0x1752, 0x1753, 1), (0x1772, 0x1773, 1), (0x17b6, 0x17c8, 1),
   (0x1885, 0x1886, 1), (0x18a9, 0x18a9, 1), (0x1920, 0x192b, 1), (0x1930, 0x1938, 1),
   (0x1a17, 0x1a1b, 1), (0x1a55, 0x1a5e, 1), (0x1a61, 0x1a74, 1), (0x1abf, 0x1ac0, 1),
   (0x1acc, 0x1ace, 1), (0x1b00, 0x1b04, 1), (0x1b35, 0x1b43, 1), (0x1b80, 0x1b82, 1),
   (0x1ba1, 0x1ba9, 1), (0x1bac, 0x1bad, 1), (0x1be7, 0x1bf1, 1), (0x1c24, 0x1c36, 1),
   (0x1dd3, 0x1df4, 1), (0x24b6, 0x24e9, 1), (0x2de0, 0x2dff, 1), (0xa674, 0xa67b, 1),
   (0xa69e, 0xa69f, 1), (0xa802, 0xa802, 1), (0xa80b, 0xa80b, 1), (0xa823, 0xa827, 1),
   (0xa880, 0xa881, 1), (0xa8b4, 0xa8c3, 1), (0xa8c5, 0xa8c5, 1), (0xa8ff, 0xa8ff, 1),
   (0xa926, 0xa92a, 1), (0xa947, 0xa952, 1), (0xa980, 0xa983, 1), (0xa9b4, 0xa9bf, 1),
   (0xa9e5, 0xa9e5, 1), (0xaa29, 0xaa36, 1), (0xaa43, 0xaa43, 1), (0xaa4c, 0xaa4d, 1),
   (0xaa7b, 0xaa7d, 1), (0xaab0, 0xaab0, 1), (0xaab2, 0xaab4, 1), (0xaab7, 0xaab8, 1),
   (0xaabe, 0xaabe, 1), (0xaaeb, 0xaaef, 1), (0xaaf5, 0xaaf5, 1), (0xabe3, 0xabea, 1),
   (0xfb1e, 0xfb1e, 1), (0x10376, 0x1037a, 1), (0x10a01, 0x10a03, 1), (0x10a05, 0x10a06, 1),
   (0x10a0c, 0x10a0f, 1), (0x10d24, 0x10d27, 1), (0x10d69, 0x10d69, 1), (0x10eab, 0x10eac, 1),
   (0x10efa, 0x10efc, 1), (0x11000, 0x11002, 1), (0x11038, 0x11045, 1), (0x11073, 0x11074, 1),
   (0x11080, 0x11082, 1), (0x110b0, 0x110b8, 1), (0x110c2, 0x110c2, 1), (0x11100, 0x11102, 1),
   (0x11127, 0x11132, 1), (0x11145, 0x11146, 1), (0x11180, 0x11182, 1), (0x111b3, 0x111bf, 1),
   (0x111ce, 0x111cf, 1), (0x1122c, 0x11234, 1), (0x11237, 0x11237, 1), (0x1123e, 0x1123e, 1),
   (0x11241, 0x11241, 1), (0x112df, 0x112e8, 1), (0x11300, 0x11303, 1), (0x1133e, 0x11344, 1),
   (0x11347, 0x11348, 1), (0x1134b, 0x1134c, 1), (0x11357, 0x11357, 1), (0x11362, 0x11363, 1),
   (0x113b8, 0x113c0, 1), (0x113c2, 0x113c2, 1), (0x113c5, 0x113c5, 1), (0x113c7, 0x113ca, 1),
   (0x113cc, 0x113cd, 1), (0x11435, 0x11441, 1), (0x11443, 0x11445, 1), (0x114b0, 0x114c1, 1),
   (0x115af, 0x115b5, 1), (0x115b8, 0x115be, 1), (0x115dc, 0x115dd, 1), (0x11630, 0x1163e, 1),
   (0x11640, 0x11640, 1), (0x116ab, 0x116b5, 1), (0x1171d, 0x1172a, 1), (0x1182c, 0x11838, 1),
   (0x11930, 0x11935, 1), (0x11937, 0x11938, 1), (0x1193b, 0x1193c, 1), (0x11940, 0x11942, 2),
   (0x119d1, 0x119d7, 1), (0x119da, 0x119df, 1), (0x119e4, 0x119e4, 1), (0x11a01, 0x11a0a, 1),
   (0x11a35, 0x11a39, 1), (0x11a3b, 0x11a3e, 1), (0x11a51, 0x11a5b, 1), (0x11a8a, 0x11a97, 1),
   (0x11b60, 0x11b67, 1), (0x11c2f, 0x11c36, 1), (0x11c38, 0x11c3e, 1), (0x11c92, 0x11ca7, 1),
   (0x11ca9, 0x11cb6, 1), (0x11d31, 0x11d36, 1), (0x11d3a, 0x11d3a, 1), (0x11d3c, 0x11d3d, 1),
   (0x11d3f, 0x11d41, 1), (0x11d43, 0x11d43, 1), (0x11d47, 0x11d47, 1), (0x11d8a, 0x11d8e, 1),
   (0x11d90, 0x11d91, 1), (0x11d93, 0x11d96, 1), (0x11ef3, 0x11ef6, 1), (0x11f00, 0x11f01, 1),
   (0x11f03, 0x11f03, 1), (0x11f34, 0x11f3a, 1), (0x11f3e, 0x11f40, 1), (0x1611e, 0x1612e, 1),
   (0x16f4f, 0x16f4f, 1), (0x16f51, 0x16f87, 1), (0x16f8f, 0x16f92, 1), (0x16ff0, 0x16ff1, 1),
   (0x1bc9e, 0x1bc9e, 1), (0x1e000, 0x1e006, 1), (0x1e008, 0x1e018, 1), (0x1e01b, 0x1e021, 1),
   (0x1e023, 0x1e024, 1), (0x1e026, 0x1e02a, 1), (0x1e08f, 0x1e08f, 1), (0x1e6e3, 0x1e6e3, 1),
   (0x1e6e6, 0x1e6e6, 1), (0x1e6ee, 0x1e6ef, 1), (0x1e6f5, 0x1e6f5, 1), (0x1e947, 0x1e947, 1),
   (0x1f130, 0x1f149, 1), (0x1f150, 0x1f169, 1), (0x1f170, 0x1f189, 1)]

/-- Characters besides letters in lower case that count as such. -/
def otherLowercase : Runs :=
  [(0xaa, 0xaa, 1), (0xba, 0xba, 1), (0x2b0, 0x2b8, 1), (0x2c0, 0x2c1, 1), (0x2e0, 0x2e4, 1),
   (0x345, 0x345, 1), (0x37a, 0x37a, 1), (0x10fc, 0x10fc, 1), (0x1d2c, 0x1d6a, 1),
   (0x1d78, 0x1d78, 1), (0x1d9b, 0x1dbf, 1), (0x2071, 0x2071, 1), (0x207f, 0x207f, 1),
   (0x2090, 0x209c, 1), (0x2170, 0x217f, 1), (0x24d0, 0x24e9, 1), (0x2c7c, 0x2c7d, 1),
   (0xa69c, 0xa69d, 1), (0xa770, 0xa770, 1), (0xa7f1, 0xa7f4, 1), (0xa7f8, 0xa7f9, 1),
   (0xab5c, 0xab5f, 1), (0xab69, 0xab69, 1), (0x10780, 0x10780, 1), (0x10783, 0x10785, 1),
   (0x10787, 0x107b0, 1), (0x107b2, 0x107ba, 1), (0x1e030, 0x1e06d, 1)]

/-- Characters besides letters in upper case that count as such. -/
def otherUppercase : Runs :=
  [(0x2160, 0x216f, 1), (0x24b6, 0x24cf, 1), (0x1f130, 0x1f149, 1), (0x1f150, 0x1f169, 1),
   (0x1f170, 0x1f189, 1)]

/-- White space. -/
def whiteSpace : Runs :=
  [(0x9, 0xd, 1), (0x20, 0x20, 1), (0x85, 0x85, 1), (0xa0, 0xa0, 1), (0x1680, 0x1680, 1),
   (0x2000, 0x200a, 1), (0x2028, 0x2029, 1), (0x202f, 0x202f, 1), (0x205f, 0x205f, 1),
   (0x3000, 0x3000, 1)]

/-- Hexadecimal digits of any width. -/
def hexDigits : Runs :=
  [(0x30, 0x39, 1), (0x41, 0x46, 1), (0x61, 0x66, 1), (0xff10, 0xff19, 1), (0xff21, 0xff26, 1),
   (0xff41, 0xff46, 1)]

/-- Signs that serve as dashes. -/
def dashSigns : Runs :=
  [(0x2d, 0x2d, 1), (0x58a, 0x58a, 1), (0x5be, 0x5be, 1), (0x1400, 0x1400, 1), (0x1806, 0x1806, 1),
   (0x2010, 0x2015, 1), (0x2053, 0x2053, 1), (0x207b, 0x207b, 1), (0x208b, 0x208b, 1),
   (0x2212, 0x2212, 1), (0x2e17, 0x2e17, 1), (0x2e1a, 0x2e1a, 1), (0x2e3a, 0x2e3b, 1),
   (0x2e40, 0x2e40, 1), (0x2e5d, 0x2e5d, 1), (0x301c, 0x301c, 1), (0x3030, 0x3030, 1),
   (0x30a0, 0x30a0, 1), (0xfe31, 0xfe32, 1), (0xfe58, 0xfe58, 1), (0xfe63, 0xfe63, 1),
   (0xff0d, 0xff0d, 1), (0x10d6e, 0x10d6e, 1), (0x10ead, 0x10ead, 1)]

/-- Ideographs. -/
def ideographs : Runs :=
  [(0x3006, 0x3007, 1), (0x3021, 0x3029, 1), (0x3038, 0x303a, 1), (0x3400, 0x4dbf, 1),
   (0x4e00, 0x9fff, 1), (0xf900, 0xfa6d, 1), (0xfa70, 0xfad9, 1), (0x16fe4, 0x16fe4, 1),
   (0x16ff2, 0x16ff6, 1), (0x17000, 0x18cd5, 1), (0x18cff, 0x18d1e, 1), (0x18d80, 0x18df2, 1),
   (0x1b170, 0x1b2fb, 1), (0x20000, 0x2a6df, 1), (0x2a700, 0x2b81d, 1), (0x2b820, 0x2cead, 1),
   (0x2ceb0, 0x2ebe0, 1), (0x2ebf0, 0x2ee5d, 1), (0x2f800, 0x2fa1d, 1), (0x30000, 0x3134a, 1),
   (0x31350, 0x33479, 1)]

/-- Characters besides symbols of mathematics that serve in it. -/
def otherMath : Runs :=
  [(0x5e, 0x5e, 1), (0x3d0, 0x3d2, 1), (0x3d5, 0x3d5, 1), (0x3f0, 0x3f1, 1), (0x3f4, 0x3f5, 1),
   (0x2016, 0x2016, 1), (0x2032, 0x2034, 1), (0x2040, 0x2040, 1), (0x2061, 0x2064, 1),
   (0x207d, 0x207e, 1), (0x208d, 0x208e, 1), (0x20d0, 0x20dc, 1), (0x20e1, 0x20e1, 1),
   (0x20e5, 0x20e6, 1), (0x20eb, 0x20ef, 1), (0x2102, 0x2102, 1), (0x2107, 0x2107, 1),
   (0x210a, 0x2113, 1), (0x2115, 0x2115, 1), (0x2119, 0x211d, 1), (0x2124, 0x2124, 1),
   (0x2128, 0x2129, 1), (0x212c, 0x212d, 1), (0x212f, 0x2131, 1), (0x2133, 0x2138, 1),
   (0x213c, 0x213f, 1), (0x2145, 0x2149, 1), (0x2195, 0x2199, 1), (0x219c, 0x219f, 1),
   (0x21a1, 0x21a2, 1), (0x21a4, 0x21a5, 1), (0x21a7, 0x21a7, 1), (0x21a9, 0x21ad, 1),
   (0x21b0, 0x21b1, 1), (0x21b6, 0x21b7, 1), (0x21bc, 0x21cd, 1), (0x21d0, 0x21d1, 1),
   (0x21d3, 0x21d3, 1), (0x21d5, 0x21db, 1), (0x21dd, 0x21dd, 1), (0x21e4, 0x21e5, 1),
   (0x2308, 0x230b, 1), (0x23b4, 0x23b5, 1), (0x23b7, 0x23b7, 1), (0x23d0, 0x23d0, 1),
   (0x23e2, 0x23e2, 1), (0x25a0, 0x25a1, 1), (0x25ae, 0x25b6, 1), (0x25bc, 0x25c0, 1),
   (0x25c6, 0x25c7, 1), (0x25ca, 0x25cb, 1), (0x25cf, 0x25d3, 1), (0x25e2, 0x25e4, 2),
   (0x25e7, 0x25ec, 1), (0x2605, 0x2606, 1), (0x2640, 0x2642, 2), (0x2660, 0x2663, 1),
   (0x266d, 0x266e, 1), (0x27c5, 0x27c6, 1), (0x27e6, 0x27ef, 1), (0x2983, 0x2998, 1),
   (0x29d8, 0x29db, 1), (0x29fc, 0x29fd, 1), (0xfe61, 0xfe63, 2), (0xfe68, 0xfe68, 1),
   (0xff3c, 0xff3e, 2), (0x1d400, 0x1d454, 1), (0x1d456, 0x1d49c, 1), (0x1d49e, 0x1d49f, 1),
   (0x1d4a2, 0x1d4a2, 1), (0x1d4a5, 0x1d4a6, 1), (0x1d4a9, 0x1d4ac, 1), (0x1d4ae, 0x1d4b9, 1),
   (0x1d4bb, 0x1d4bb, 1), (0x1d4bd, 0x1d4c3, 1), (0x1d4c5, 0x1d505, 1), (0x1d507, 0x1d50a, 1),
   (0x1d50d, 0x1d514, 1), (0x1d516, 0x1d51c, 1), (0x1d51e, 0x1d539, 1), (0x1d53b, 0x1d53e, 1),
   (0x1d540, 0x1d544, 1), (0x1d546, 0x1d546, 1), (0x1d54a, 0x1d550, 1), (0x1d552, 0x1d6a5, 1),
   (0x1d6a8, 0x1d6c0, 1), (0x1d6c2, 0x1d6da, 1), (0x1d6dc, 0x1d6fa, 1), (0x1d6fc, 0x1d714, 1),
   (0x1d716, 0x1d734, 1), (0x1d736, 0x1d74e, 1), (0x1d750, 0x1d76e, 1), (0x1d770, 0x1d788, 1),
   (0x1d78a, 0x1d7a8, 1), (0x1d7aa, 0x1d7c2, 1), (0x1d7c4, 0x1d7cb, 1), (0x1d7ce, 0x1d7ff, 1),
   (0x1ee00, 0x1ee03, 1), (0x1ee05, 0x1ee1f, 1), (0x1ee21, 0x1ee22, 1), (0x1ee24, 0x1ee24, 1),
   (0x1ee27, 0x1ee27, 1), (0x1ee29, 0x1ee32, 1), (0x1ee34, 0x1ee37, 1), (0x1ee39, 0x1ee3b, 2),
   (0x1ee42, 0x1ee42, 1), (0x1ee47, 0x1ee4b, 2), (0x1ee4d, 0x1ee4f, 1), (0x1ee51, 0x1ee52, 1),
   (0x1ee54, 0x1ee54, 1), (0x1ee57, 0x1ee5f, 2), (0x1ee61, 0x1ee62, 1), (0x1ee64, 0x1ee64, 1),
   (0x1ee67, 0x1ee6a, 1), (0x1ee6c, 0x1ee72, 1), (0x1ee74, 0x1ee77, 1), (0x1ee79, 0x1ee7c, 1),
   (0x1ee7e, 0x1ee7e, 1), (0x1ee80, 0x1ee89, 1), (0x1ee8b, 0x1ee9b, 1), (0x1eea1, 0x1eea3, 1),
   (0x1eea5, 0x1eea9, 1), (0x1eeab, 0x1eebb, 1)]

/-- Characters besides letters that may start a name. -/
def otherNameStart : Runs :=
  [(0x1885, 0x1886, 1), (0x2118, 0x2118, 1), (0x212e, 0x212e, 1), (0x309b, 0x309c, 1)]

/-- Characters besides letters, marks, digits and connectors that may go on a name. -/
def otherNamePart : Runs :=
  [(0xb7, 0xb7, 1), (0x387, 0x387, 1), (0x1369, 0x1371, 1), (0x19da, 0x19da, 1),
   (0x200c, 0x200d, 1), (0x30fb, 0x30fb, 1), (0xff65, 0xff65, 1)]

/-- Emoji. -/
def emoji : Runs :=
  [(0x23, 0x23, 1), (0x2a, 0x2a, 1), (0x30, 0x39, 1), (0xa9, 0xa9, 1), (0xae, 0xae, 1),
   (0x203c, 0x203c, 1), (0x2049, 0x2049, 1), (0x2122, 0x2122, 1), (0x2139, 0x2139, 1),
   (0x2194, 0x2199, 1), (0x21a9, 0x21aa, 1), (0x231a, 0x231b, 1), (0x2328, 0x2328, 1),
   (0x23cf, 0x23cf, 1), (0x23e9, 0x23f3, 1), (0x23f8, 0x23fa, 1), (0x24c2, 0x24c2, 1),
   (0x25aa, 0x25ab, 1), (0x25b6, 0x25b6, 1), (0x25c0, 0x25c0, 1), (0x25fb, 0x25fe, 1),
   (0x2600, 0x2604, 1), (0x260e, 0x260e, 1), (0x2611, 0x2611, 1), (0x2614, 0x2615, 1),
   (0x2618, 0x2618, 1), (0x261d, 0x261d, 1), (0x2620, 0x2620, 1), (0x2622, 0x2623, 1),
   (0x2626, 0x2626, 1), (0x262a, 0x262a, 1), (0x262e, 0x262f, 1), (0x2638, 0x263a, 1),
   (0x2640, 0x2642, 2), (0x2648, 0x2653, 1), (0x265f, 0x2660, 1), (0x2663, 0x2663, 1),
   (0x2665, 0x2666, 1), (0x2668, 0x2668, 1), (0x267b, 0x267b, 1), (0x267e, 0x267f, 1),
   (0x2692, 0x2697, 1), (0x2699, 0x2699, 1), (0x269b, 0x269c, 1), (0x26a0, 0x26a1, 1),
   (0x26a7, 0x26a7, 1), (0x26aa, 0x26ab, 1), (0x26b0, 0x26b1, 1), (0x26bd, 0x26be, 1),
   (0x26c4, 0x26c5, 1), (0x26c8, 0x26c8, 1), (0x26ce, 0x26cf, 1), (0x26d1, 0x26d1, 1),
   (0x26d3, 0x26d4, 1), (0x26e9, 0x26ea, 1), (0x26f0, 0x26f5, 1), (0x26f7, 0x26fa, 1),
   (0x26fd, 0x26fd, 1), (0x2702, 0x2702, 1), (0x2705, 0x2705, 1), (0x2708, 0x270d, 1),
   (0x270f, 0x270f, 1), (0x2712, 0x2716, 2), (0x271d, 0x271d, 1), (0x2721, 0x2721, 1),
   (0x2728, 0x2728, 1), (0x2733, 0x2734, 1), (0x2744, 0x2744, 1), (0x2747, 0x2747, 1),
   (0x274c, 0x274e, 2), (0x2753, 0x2755, 1), (0x2757, 0x2757, 1), (0x2763, 0x2764, 1),
   (0x2795, 0x2797, 1), (0x27a1, 0x27a1, 1), (0x27b0, 0x27b0, 1), (0x27bf, 0x27bf, 1),
   (0x2934, 0x2935, 1), (0x2b05, 0x2b07, 1), (0x2b1b, 0x2b1c, 1), (0x2b50, 0x2b50, 1),
   (0x2b55, 0x2b55, 1), (0x3030, 0x3030, 1), (0x303d, 0x303d, 1), (0x3297, 0x3299, 2),
   (0x1f004, 0x1f004, 1), (0x1f0cf, 0x1f0cf, 1), (0x1f170, 0x1f171, 1), (0x1f17e, 0x1f17f, 1),
   (0x1f18e, 0x1f18e, 1), (0x1f191, 0x1f19a, 1), (0x1f1e6, 0x1f1ff, 1), (0x1f201, 0x1f202, 1),
   (0x1f21a, 0x1f21a, 1), (0x1f22f, 0x1f22f, 1), (0x1f232, 0x1f23a, 1), (0x1f250, 0x1f251, 1),
   (0x1f300, 0x1f321, 1), (0x1f324, 0x1f393, 1), (0x1f396, 0x1f397, 1), (0x1f399, 0x1f39b, 1),
   (0x1f39e, 0x1f3f0, 1), (0x1f3f3, 0x1f3f5, 1), (0x1f3f7, 0x1f4fd, 1), (0x1f4ff, 0x1f53d, 1),
   (0x1f549, 0x1f54e, 1), (0x1f550, 0x1f567, 1), (0x1f56f, 0x1f570, 1), (0x1f573, 0x1f57a, 1),
   (0x1f587, 0x1f587, 1), (0x1f58a, 0x1f58d, 1), (0x1f590, 0x1f590, 1), (0x1f595, 0x1f596, 1),
   (0x1f5a4, 0x1f5a5, 1), (0x1f5a8, 0x1f5a8, 1), (0x1f5b1, 0x1f5b2, 1), (0x1f5bc, 0x1f5bc, 1),
   (0x1f5c2, 0x1f5c4, 1), (0x1f5d1, 0x1f5d3, 1), (0x1f5dc, 0x1f5de, 1), (0x1f5e1, 0x1f5e3, 2),
   (0x1f5e8, 0x1f5e8, 1), (0x1f5ef, 0x1f5ef, 1), (0x1f5f3, 0x1f5f3, 1), (0x1f5fa, 0x1f64f, 1),
   (0x1f680, 0x1f6c5, 1), (0x1f6cb, 0x1f6d2, 1), (0x1f6d5, 0x1f6d8, 1), (0x1f6dc, 0x1f6e5, 1),
   (0x1f6e9, 0x1f6e9, 1), (0x1f6eb, 0x1f6ec, 1), (0x1f6f0, 0x1f6f0, 1), (0x1f6f3, 0x1f6fc, 1),
   (0x1f7e0, 0x1f7eb, 1), (0x1f7f0, 0x1f7f0, 1), (0x1f90c, 0x1f93a, 1), (0x1f93c, 0x1f945, 1),
   (0x1f947, 0x1f9ff, 1), (0x1fa70, 0x1fa7c, 1), (0x1fa80, 0x1fa8a, 1), (0x1fa8e, 0x1fac6, 1),
   (0x1fac8, 0x1fac8, 1), (0x1facd, 0x1fadc, 1), (0x1fadf, 0x1faea, 1), (0x1faef, 0x1faf8, 1)]

/-- Emoji that are shown as such by default. -/
def emojiPresentation : Runs :=
  [(0x231a, 0x231b, 1), (0x23e9, 0x23ec, 1), (0x23f0, 0x23f0, 1), (0x23f3, 0x23f3, 1),
   (0x25fd, 0x25fe, 1), (0x2614, 0x2615, 1), (0x2648, 0x2653, 1), (0x267f, 0x267f, 1),
   (0x2693, 0x2693, 1), (0x26a1, 0x26a1, 1), (0x26aa, 0x26ab, 1), (0x26bd, 0x26be, 1),
   (0x26c4, 0x26c5, 1), (0x26ce, 0x26ce, 1), (0x26d4, 0x26d4, 1), (0x26ea, 0x26ea, 1),
   (0x26f2, 0x26f3, 1), (0x26f5, 0x26f5, 1), (0x26fa, 0x26fa, 1), (0x26fd, 0x26fd, 1),
   (0x2705, 0x2705, 1), (0x270a, 0x270b, 1), (0x2728, 0x2728, 1), (0x274c, 0x274e, 2),
   (0x2753, 0x2755, 1), (0x2757, 0x2757, 1), (0x2795, 0x2797, 1), (0x27b0, 0x27b0, 1),
   (0x27bf, 0x27bf, 1), (0x2b1b, 0x2b1c, 1), (0x2b50, 0x2b50, 1), (0x2b55, 0x2b55, 1),
   (0x1f004, 0x1f004, 1), (0x1f0cf, 0x1f0cf, 1), (0x1f18e, 0x1f18e, 1), (0x1f191, 0x1f19a, 1),
   (0x1f1e6, 0x1f1ff, 1), (0x1f201, 0x1f201, 1), (0x1f21a, 0x1f21a, 1), (0x1f22f, 0x1f22f, 1),
   (0x1f232, 0x1f236, 1), (0x1f238, 0x1f23a, 1), (0x1f250, 0x1f251, 1), (0x1f300, 0x1f320, 1),
   (0x1f32d, 0x1f335, 1), (0x1f337, 0x1f37c, 1), (0x1f37e, 0x1f393, 1), (0x1f3a0, 0x1f3ca, 1),
   (0x1f3cf, 0x1f3d3, 1), (0x1f3e0, 0x1f3f0, 1), (0x1f3f4, 0x1f3f4, 1), (0x1f3f8, 0x1f43e, 1),
   (0x1f440, 0x1f440, 1), (0x1f442, 0x1f4fc, 1), (0x1f4ff, 0x1f53d, 1), (0x1f54b, 0x1f54e, 1),
   (0x1f550, 0x1f567, 1), (0x1f57a, 0x1f57a, 1), (0x1f595, 0x1f596, 1), (0x1f5a4, 0x1f5a4, 1),
   (0x1f5fb, 0x1f64f, 1), (0x1f680, 0x1f6c5, 1), (0x1f6cc, 0x1f6cc, 1), (0x1f6d0, 0x1f6d2, 1),
   (0x1f6d5, 0x1f6d8, 1), (0x1f6dc, 0x1f6df, 1), (0x1f6eb, 0x1f6ec, 1), (0x1f6f4, 0x1f6fc, 1),
   (0x1f7e0, 0x1f7eb, 1), (0x1f7f0, 0x1f7f0, 1), (0x1f90c, 0x1f93a, 1), (0x1f93c, 0x1f945, 1),
   (0x1f947, 0x1f9ff, 1), (0x1fa70, 0x1fa7c, 1), (0x1fa80, 0x1fa8a, 1), (0x1fa8e, 0x1fac6, 1),
   (0x1fac8, 0x1fac8, 1), (0x1facd, 0x1fadc, 1), (0x1fadf, 0x1faea, 1), (0x1faef, 0x1faf8, 1)]

/-- Emoji that take a modifier. -/
def emojiModifierBase : Runs :=
  [(0x261d, 0x261d, 1), (0x26f9, 0x26f9, 1), (0x270a, 0x270d, 1), (0x1f385, 0x1f385, 1),
   (0x1f3c2, 0x1f3c4, 1), (0x1f3c7, 0x1f3c7, 1), (0x1f3ca, 0x1f3cc, 1), (0x1f442, 0x1f443, 1),
   (0x1f446, 0x1f450, 1), (0x1f466, 0x1f478, 1), (0x1f47c, 0x1f47c, 1), (0x1f481, 0x1f483, 1),
   (0x1f485, 0x1f487, 1), (0x1f48f, 0x1f491, 2), (0x1f4aa, 0x1f4aa, 1), (0x1f574, 0x1f575, 1),
   (0x1f57a, 0x1f57a, 1), (0x1f590, 0x1f590, 1), (0x1f595, 0x1f596, 1), (0x1f645, 0x1f647, 1),
   (0x1f64b, 0x1f64f, 1), (0x1f6a3, 0x1f6a3, 1), (0x1f6b4, 0x1f6b6, 1), (0x1f6c0, 0x1f6c0, 1),
   (0x1f6cc, 0x1f6cc, 1), (0x1f90c, 0x1f90c, 1), (0x1f90f, 0x1f90f, 1), (0x1f918, 0x1f91f, 1),
   (0x1f926, 0x1f926, 1), (0x1f930, 0x1f939, 1), (0x1f93c, 0x1f93e, 1), (0x1f977, 0x1f977, 1),
   (0x1f9b5, 0x1f9b6, 1), (0x1f9b8, 0x1f9b9, 1), (0x1f9bb, 0x1f9bb, 1), (0x1f9cd, 0x1f9cf, 1),
   (0x1f9d1, 0x1f9dd, 1), (0x1fac3, 0x1fac5, 1), (0x1faf0, 0x1faf8, 1)]

/-- Parts of emoji. -/
def emojiComponent : Runs :=
  [(0x23, 0x23, 1), (0x2a, 0x2a, 1), (0x30, 0x39, 1), (0x200d, 0x200d, 1), (0x20e3, 0x20e3, 1),
   (0xfe0f, 0xfe0f, 1), (0x1f1e6, 0x1f1ff, 1), (0x1f3fb, 0x1f3ff, 1), (0x1f9b0, 0x1f9b3, 1),
   (0xe0020, 0xe007f, 1)]

/-- Pictographs, also those to come. -/
def pictographs : Runs :=
  [(0xa9, 0xa9, 1), (0xae, 0xae, 1), (0x203c, 0x203c, 1), (0x2049, 0x2049, 1), (0x2122, 0x2122, 1),
   (0x2139, 0x2139, 1), (0x2194, 0x2199, 1), (0x21a9, 0x21aa, 1), (0x231a, 0x231b, 1),
   (0x2328, 0x2328, 1), (0x23cf, 0x23cf, 1), (0x23e9, 0x23f3, 1), (0x23f8, 0x23fa, 1),
   (0x24c2, 0x24c2, 1), (0x25aa, 0x25ab, 1), (0x25b6, 0x25b6, 1), (0x25c0, 0x25c0, 1),
   (0x25fb, 0x25fe, 1), (0x2600, 0x2604, 1), (0x260e, 0x260e, 1), (0x2611, 0x2611, 1),
   (0x2614, 0x2615, 1), (0x2618, 0x2618, 1), (0x261d, 0x261d, 1), (0x2620, 0x2620, 1),
   (0x2622, 0x2623, 1), (0x2626, 0x2626, 1), (0x262a, 0x262a, 1), (0x262e, 0x262f, 1),
   (0x2638, 0x263a, 1), (0x2640, 0x2642, 2), (0x2648, 0x2653, 1), (0x265f, 0x2660, 1),
   (0x2663, 0x2663, 1), (0x2665, 0x2666, 1), (0x2668, 0x2668, 1), (0x267b, 0x267b, 1),
   (0x267e, 0x267f, 1), (0x2692, 0x2697, 1), (0x2699, 0x2699, 1), (0x269b, 0x269c, 1),
   (0x26a0, 0x26a1, 1), (0x26a7, 0x26a7, 1), (0x26aa, 0x26ab, 1), (0x26b0, 0x26b1, 1),
   (0x26bd, 0x26be, 1), (0x26c4, 0x26c5, 1), (0x26c8, 0x26c8, 1), (0x26ce, 0x26cf, 1),
   (0x26d1, 0x26d1, 1), (0x26d3, 0x26d4, 1), (0x26e9, 0x26ea, 1), (0x26f0, 0x26f5, 1),
   (0x26f7, 0x26fa, 1), (0x26fd, 0x26fd, 1), (0x2702, 0x2702, 1), (0x2705, 0x2705, 1),
   (0x2708, 0x270d, 1), (0x270f, 0x270f, 1), (0x2712, 0x2716, 2), (0x271d, 0x271d, 1),
   (0x2721, 0x2721, 1), (0x2728, 0x2728, 1), (0x2733, 0x2734, 1), (0x2744, 0x2744, 1),
   (0x2747, 0x2747, 1), (0x274c, 0x274e, 2), (0x2753, 0x2755, 1), (0x2757, 0x2757, 1),
   (0x2763, 0x2764, 1), (0x2795, 0x2797, 1), (0x27a1, 0x27a1, 1), (0x27b0, 0x27b0, 1),
   (0x27bf, 0x27bf, 1), (0x2934, 0x2935, 1), (0x2b05, 0x2b07, 1), (0x2b1b, 0x2b1c, 1),
   (0x2b50, 0x2b50, 1), (0x2b55, 0x2b55, 1), (0x3030, 0x3030, 1), (0x303d, 0x303d, 1),
   (0x3297, 0x3299, 2), (0x1f004, 0x1f004, 1), (0x1f02c, 0x1f02f, 1), (0x1f094, 0x1f09f, 1),
   (0x1f0af, 0x1f0b0, 1), (0x1f0c0, 0x1f0c0, 1), (0x1f0cf, 0x1f0d0, 1), (0x1f0f6, 0x1f0ff, 1),
   (0x1f170, 0x1f171, 1), (0x1f17e, 0x1f17f, 1), (0x1f18e, 0x1f18e, 1), (0x1f191, 0x1f19a, 1),
   (0x1f1ae, 0x1f1e5, 1), (0x1f201, 0x1f20f, 1), (0x1f21a, 0x1f21a, 1), (0x1f22f, 0x1f22f, 1),
   (0x1f232, 0x1f23a, 1), (0x1f23c, 0x1f23f, 1), (0x1f249, 0x1f25f, 1), (0x1f266, 0x1f321, 1),
   (0x1f324, 0x1f393, 1), (0x1f396, 0x1f397, 1), (0x1f399, 0x1f39b, 1), (0x1f39e, 0x1f3f0, 1),
   (0x1f3f3, 0x1f3f5, 1), (0x1f3f7, 0x1f3fa, 1), (0x1f400, 0x1f4fd, 1), (0x1f4ff, 0x1f53d, 1),
   (0x1f549, 0x1f54e, 1), (0x1f550, 0x1f567, 1), (0x1f56f, 0x1f570, 1), (0x1f573, 0x1f57a, 1),
   (0x1f587, 0x1f587, 1), (0x1f58a, 0x1f58d, 1), (0x1f590, 0x1f590, 1), (0x1f595, 0x1f596, 1),
   (0x1f5a4, 0x1f5a5, 1), (0x1f5a8, 0x1f5a8, 1), (0x1f5b1, 0x1f5b2, 1), (0x1f5bc, 0x1f5bc, 1),
   (0x1f5c2, 0x1f5c4, 1), (0x1f5d1, 0x1f5d3, 1), (0x1f5dc, 0x1f5de, 1), (0x1f5e1, 0x1f5e3, 2),
   (0x1f5e8, 0x1f5e8, 1), (0x1f5ef, 0x1f5ef, 1), (0x1f5f3, 0x1f5f3, 1), (0x1f5fa, 0x1f64f, 1),
   (0x1f680, 0x1f6c5, 1), (0x1f6cb, 0x1f6d2, 1), (0x1f6d5, 0x1f6e5, 1), (0x1f6e9, 0x1f6e9, 1),
   (0x1f6eb, 0x1f6f0, 1), (0x1f6f3, 0x1f6ff, 1), (0x1f7da, 0x1f7ff, 1), (0x1f80c, 0x1f80f, 1),
   (0x1f848, 0x1f84f, 1), (0x1f85a, 0x1f85f, 1), (0x1f888, 0x1f88f, 1), (0x1f8ae, 0x1f8af, 1),
   (0x1f8bc, 0x1f8bf, 1), (0x1f8c2, 0x1f8cf, 1), (0x1f8d9, 0x1f8ff, 1), (0x1f90c, 0x1f93a, 1),
   (0x1f93c, 0x1f945, 1), (0x1f947, 0x1f9ff, 1), (0x1fa58, 0x1fa5f, 1), (0x1fa6e, 0x1faff, 1),
   (0x1fc00, 0x1fffd, 1)]

/-- Characters kept for the notation of patterns. -/
def patternSyntax : Runs :=
  [(0x21, 0x2f, 1), (0x3a, 0x40, 1), (0x5b, 0x5e, 1), (0x60, 0x60, 1), (0x7b, 0x7e, 1),
   (0xa1, 0xa7, 1), (0xa9, 0xa9, 1), (0xab, 0xac, 1), (0xae, 0xae, 1), (0xb0, 0xb1, 1),
   (0xb6, 0xb6, 1), (0xbb, 0xbb, 1), (0xbf, 0xbf, 1), (0xd7, 0xd7, 1), (0xf7, 0xf7, 1),
   (0x2010, 0x2027, 1), (0x2030, 0x203e, 1), (0x2041, 0x2053, 1), (0x2055, 0x205e, 1),
   (0x2190, 0x245f, 1), (0x2500, 0x2775, 1), (0x2794, 0x2bff, 1), (0x2e00, 0x2e7f, 1),
   (0x3001, 0x3003, 1), (0x3008, 0x3020, 1), (0x3030, 0x3030, 1), (0xfd3e, 0xfd3f, 1),
   (0xfe45, 0xfe46, 1)]

/-- Quotation marks. -/
def quotationMarks : Runs :=
  [(0x22, 0x22, 1), (0x27, 0x27, 1), (0xab, 0xab, 1), (0xbb, 0xbb, 1), (0x2018, 0x201f, 1),
   (0x2039, 0x203a, 1), (0x2e42, 0x2e42, 1), (0x300c, 0x300f, 1), (0x301d, 0x301f, 1),
   (0xfe41, 0xfe44, 1), (0xff02, 0xff02, 1), (0xff07, 0xff07, 1), (0xff62, 0xff63, 1)]

/-- Diacritics. -/
def diacritics : Runs :=
  [(0x5e, 0x60, 2), (0xa8, 0xa8, 1), (0xaf, 0xaf, 1), (0xb4, 0xb4, 1), (0xb7, 0xb8, 1),
   (0x2b0, 0x34e, 1), (0x350, 0x357, 1), (0x35d, 0x362, 1), (0x374, 0x375, 1), (0x37a, 0x37a, 1),
   (0x384, 0x385, 1), (0x483, 0x487, 1), (0x559, 0x559, 1), (0x591, 0x5bd, 1), (0x5bf, 0x5bf, 1),
   (0x5c1, 0x5c2, 1), (0x5c4, 0x5c5, 1), (0x5c7, 0x5c7, 1), (0x64b, 0x652, 1), (0x657, 0x658, 1),
   (0x6df, 0x6e0, 1), (0x6e5, 0x6e6, 1), (0x6ea, 0x6ec, 1), (0x730, 0x74a, 1), (0x7a6, 0x7b0, 1),
   (0x7eb, 0x7f5, 1), (0x818, 0x819, 1), (0x898, 0x89f, 1), (0x8c9, 0x8d2, 1), (0x8e3, 0x8fe, 1),
   (0x93c, 0x93c, 1), (0x94d, 0x94d, 1), (0x951, 0x954, 1), (0x971, 0x971, 1), (0x9bc, 0x9bc, 1),
   (0x9cd, 0x9cd, 1), (0xa3c, 0xa3c, 1), (0xa4d, 0xa4d, 1), (0xabc, 0xabc, 1), (0xacd, 0xacd, 1),
   (0xafd, 0xaff, 1), (0xb3c, 0xb3c, 1), (0xb4d, 0xb4d, 1), (0xb55, 0xb55, 1), (0xbcd, 0xbcd, 1),
   (0xc3c, 0xc3c, 1), (0xc4d, 0xc4d, 1), (0xcbc, 0xcbc, 1), (0xccd, 0xccd, 1), (0xd3b, 0xd3c, 1),
   (0xd4d, 0xd4d, 1), (0xdca, 0xdca, 1), (0xe3a, 0xe3a, 1), (0xe47, 0xe4c, 1), (0xe4e, 0xe4e, 1),
   (0xeba, 0xeba, 1), (0xec8, 0xecc, 1), (0xf18, 0xf19, 1), (0xf35, 0xf39, 2), (0xf3e, 0xf3f, 1),
   (0xf82, 0xf84, 1), (0xf86, 0xf87, 1), (0xfc6, 0xfc6, 1), (0x1037, 0x1037, 1),
   (0x1039, 0x103a, 1), (0x1063, 0x1064, 1), (0x1069, 0x106d, 1), (0x1087, 0x108d, 1),
   (0x108f, 0x108f, 1), (0x109a, 0x109b, 1), (0x135d, 0x135f, 1), (0x1714, 0x1715, 1),
   (0x1734, 0x1734, 1), (0x17c9, 0x17d3, 1), (0x17dd, 0x17dd, 1), (0x1939, 0x193b, 1),
   (0x1a60, 0x1a60, 1), (0x1a75, 0x1a7c, 1), (0x1a7f, 0x1a7f, 1), (0x1ab0, 0x1abe, 1),
   (0x1ac1, 0x1acb, 1), (0x1acf, 0x1add, 1), (0x1ae0, 0x1aeb, 1), (0x1b34, 0x1b34, 1),
   (0x1b44, 0x1b44, 1), (0x1b6b, 0x1b73, 1), (0x1baa, 0x1bab, 1), (0x1be6, 0x1be6, 1),
   (0x1bf2, 0x1bf3, 1), (0x1c36, 0x1c37, 1), (0x1c78, 0x1c7d, 1), (0x1cd0, 0x1ce8, 1),
   (0x1ced, 0x1ced, 1), (0x1cf4, 0x1cf4, 1), (0x1cf7, 0x1cf9, 1), (0x1d2c, 0x1d6a, 1),
   (0x1d9b, 0x1dbe, 1), (0x1dc4, 0x1dcf, 1), (0x1df5, 0x1dff, 1), (0x1fbd, 0x1fbd, 1),
   (0x1fbf, 0x1fc1, 1), (0x1fcd, 0x1fcf, 1), (0x1fdd, 0x1fdf, 1), (0x1fed, 0x1fef, 1),
   (0x1ffd, 0x1ffe, 1), (0x2cef, 0x2cf1, 1), (0x2e2f, 0x2e2f, 1), (0x302a, 0x302f, 1),
   (0x3099, 0x309c, 1), (0x30fc, 0x30fc, 1), (0xa66f, 0xa66f, 1), (0xa67c, 0xa67d, 1),
   (0xa67f, 0xa67f, 1), (0xa69c, 0xa69d, 1), (0xa6f0, 0xa6f1, 1), (0xa700, 0xa721, 1),
   (0xa788, 0xa78a, 1), (0xa7f1, 0xa7f1, 1), (0xa7f8, 0xa7f9, 1), (0xa806, 0xa806, 1),
   (0xa82c, 0xa82c, 1), (0xa8c4, 0xa8c4, 1), (0xa8e0, 0xa8f1, 1), (0xa92b, 0xa92e, 1),
   (0xa953, 0xa953, 1), (0xa9b3, 0xa9b3, 1), (0xa9c0, 0xa9c0, 1), (0xa9e5, 0xa9e5, 1),
   (0xaa7b, 0xaa7d, 1), (0xaabf, 0xaac2, 1), (0xaaf6, 0xaaf6, 1), (0xab5b, 0xab5f, 1),
   (0xab69, 0xab6b, 1), (0xabec, 0xabed, 1), (0xfb1e, 0xfb1e, 1), (0xfe20, 0xfe2f, 1),
   (0xff3e, 0xff40, 2), (0xff70, 0xff70, 1), (0xff9e, 0xff9f, 1), (0xffe3, 0xffe3, 1),
   (0x102e0, 0x102e0, 1), (0x10780, 0x10785, 1), (0x10787, 0x107b0, 1), (0x107b2, 0x107ba, 1),
   (0x10a38, 0x10a3a, 1), (0x10a3f, 0x10a3f, 1), (0x10ae5, 0x10ae6, 1), (0x10d22, 0x10d27, 1),
   (0x10d4e, 0x10d4e, 1), (0x10d69, 0x10d6d, 1), (0x10efa, 0x10efa, 1), (0x10efd, 0x10eff, 1),
   (0x10f46, 0x10f50, 1), (0x10f82, 0x10f85, 1), (0x11046, 0x11046, 1), (0x11070, 0x11070, 1),
   (0x110b9, 0x110ba, 1), (0x11133, 0x11134, 1), (0x11173, 0x11173, 1), (0x111c0, 0x111c0, 1),
   (0x111ca, 0x111cc, 1), (0x11235, 0x11236, 1), (0x112e9, 0x112ea, 1), (0x1133b, 0x1133c, 1),
   (0x1134d, 0x1134d, 1), (0x11366, 0x1136c, 1), (0x11370, 0x11374, 1), (0x113ce, 0x113d0, 1),
   (0x113d2, 0x113d3, 1), (0x113e1, 0x113e2, 1), (0x11442, 0x11442, 1), (0x11446, 0x11446, 1),
   (0x114c2, 0x114c3, 1), (0x115bf, 0x115c0, 1), (0x1163f, 0x1163f, 1), (0x116b6, 0x116b7, 1),
   (0x1172b, 0x1172b, 1), (0x11839, 0x1183a, 1), (0x1193d, 0x1193e, 1), (0x11943, 0x11943, 1),
   (0x119e0, 0x119e0, 1), (0x11a34, 0x11a34, 1), (0x11a47, 0x11a47, 1), (0x11a99, 0x11a99, 1),
   (0x11c3f, 0x11c3f, 1), (0x11d42, 0x11d42, 1), (0x11d44, 0x11d45, 1), (0x11d97, 0x11d97, 1),
   (0x11dd9, 0x11dd9, 1), (0x11f41, 0x11f42, 1), (0x11f5a, 0x11f5a, 1), (0x13447, 0x13455, 1),
   (0x1612f, 0x1612f, 1), (0x16af0, 0x16af4, 1), (0x16b30, 0x16b36, 1), (0x16d6b, 0x16d6c, 1),
   (0x16f8f, 0x16f9f, 1), (0x16ff0, 0x16ff1, 1), (0x1aff0, 0x1aff3, 1), (0x1aff5, 0x1affb, 1),
   (0x1affd, 0x1affe, 1), (0x1cf00, 0x1cf2d, 1), (0x1cf30, 0x1cf46, 1), (0x1d167, 0x1d169, 1),
   (0x1d16d, 0x1d172, 1), (0x1d17b, 0x1d182, 1), (0x1d185, 0x1d18b, 1), (0x1d1aa, 0x1d1ad, 1),
   (0x1e030, 0x1e06d, 1), (0x1e130, 0x1e136, 1), (0x1e2ae, 0x1e2ae, 1), (0x1e2ec, 0x1e2ef, 1),
   (0x1e5ee, 0x1e5ef, 1), (0x1e8d0, 0x1e8d6, 1), (0x1e944, 0x1e946, 1), (0x1e948, 0x1e94a, 1)]

/-- Characters that extend the one before them. -/
def extenders : Runs :=
  [(0xb7, 0xb7, 1), (0x2d0, 0x2d1, 1), (0x640, 0x640, 1), (0x7fa, 0x7fa, 1), (0xa71, 0xa71, 1),
   (0xafb, 0xafb, 1), (0xb55, 0xb55, 1), (0xe46, 0xe46, 1), (0xec6, 0xec6, 1), (0x180a, 0x180a, 1),
   (0x1843, 0x1843, 1), (0x1aa7, 0x1aa7, 1), (0x1c36, 0x1c36, 1), (0x1c7b, 0x1c7b, 1),
   (0x3005, 0x3005, 1), (0x3031, 0x3035, 1), (0x309d, 0x309e, 1), (0x30fc, 0x30fe, 1),
   (0xa015, 0xa015, 1), (0xa60c, 0xa60c, 1), (0xa9cf, 0xa9cf, 1), (0xa9e6, 0xa9e6, 1),
   (0xaa70, 0xaa70, 1), (0xaadd, 0xaadd, 1), (0xaaf3, 0xaaf4, 1), (0xff70, 0xff70, 1),
   (0x10781, 0x10782, 1), (0x10d4e, 0x10d4e, 1), (0x10d6a, 0x10d6a, 1), (0x10d6f, 0x10d6f, 1),
   (0x11237, 0x11237, 1), (0x1135d, 0x1135d, 1), (0x113d2, 0x113d3, 1), (0x115c6, 0x115c8, 1),
   (0x11a98, 0x11a98, 1), (0x11dd9, 0x11dd9, 1), (0x16b42, 0x16b43, 1), (0x16fe0, 0x16fe1, 1),
   (0x16fe3, 0x16fe3, 1), (0x16ff2, 0x16ff3, 1), (0x1e13c, 0x1e13d, 1), (0x1e5ef, 0x1e5ef, 1),
   (0x1e944, 0x1e946, 1)]

end Category

end ItemTable
