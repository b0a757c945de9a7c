import ItemTable.Text.Runs

set_option autoImplicit false

/-! # Scripts from D to J

The short and the long names of scripts, in small letters and without separators, with the
characters of each. -/

namespace ItemTable

namespace Script

/-- The scripts from D to J. -/
def fromD : List (List String × Runs) :=
  [
    (["dsrt", "deseret"],
      [(0x10400, 0x1044f, 1)]),
    (["deva", "devanagari"],
      [(0x900, 0x950, 1), (0x955, 0x963, 1), (0x966, 0x97f, 1), (0xa8e0, 0xa8ff, 1),
       (0x11b00, 0x11b09, 1)]),
    (["diak", "divesakuru"],
      [(0x11900, 0x11906, 1), (0x11909, 0x11909, 1), (0x1190c, 0x11913, 1), (0x11915, 0x11916, 1),
       (0x11918, 0x11935, 1), (0x11937, 0x11938, 1), (0x1193b, 0x11946, 1), (0x11950, 0x11959, 1)]),
    (["dogr", "dogra"],
      [(0x11800, 0x1183b, 1)]),
    (["dupl", "duployan"],
      [(0x1bc00, 0x1bc6a, 1), (0x1bc70, 0x1bc7c, 1), (0x1bc80, 0x1bc88, 1), (0x1bc90, 0x1bc99, 1),
       (0x1bc9c, 0x1bc9f, 1)]),
    (["egyp", "egyptianhieroglyphs"],
      [(0x13000, 0x13455, 1), (0x13460, 0x143fa, 1)]),
    (["elba", "elbasan"],
      [(0x10500, 0x10527, 1)]),
    (["elym", "elymaic"],
      [(0x10fe0, 0x10ff6, 1)]),
    (["ethi", "ethiopic"],
      [(0x1200, 0x1248, 1), (0x124a, 0x124d, 1), (0x1250, 0x1256, 1), (0x1258, 0x1258, 1),
       (0x125a, 0x125d, 1), (0x1260, 0x1288, 1), (0x128a, 0x128d, 1), (0x1290, 0x12b0, 1),
       (0x12b2, 0x12b5, 1), (0x12b8, 0x12be, 1), (0x12c0, 0x12c0, 1), (0x12c2, 0x12c5, 1),
       (0x12c8, 0x12d6, 1), (0x12d8, 0x1310, 1), (0x1312, 0x1315, 1), (0x1318, 0x135a, 1),
       (0x135d, 0x137c, 1), (0x1380, 0x1399, 1), (0x2d80, 0x2d96, 1), (0x2da0, 0x2da6, 1),
       (0x2da8, 0x2dae, 1), (0x2db0, 0x2db6, 1), (0x2db8, 0x2dbe, 1), (0x2dc0, 0x2dc6, 1),
       (0x2dc8, 0x2dce, 1), (0x2dd0, 0x2dd6, 1), (0x2dd8, 0x2dde, 1), (0xab01, 0xab06, 1),
       (0xab09, 0xab0e, 1), (0xab11, 0xab16, 1), (0xab20, 0xab26, 1), (0xab28, 0xab2e, 1),
       (0x1e7e0, 0x1e7e6, 1), (0x1e7e8, 0x1e7eb, 1), (0x1e7ed, 0x1e7ee, 1), (0x1e7f0, 0x1e7fe, 1)]),
    (["gara", "garay"],
      [(0x10d40, 0x10d65, 1), (0x10d69, 0x10d85, 1), (0x10d8e, 0x10d8f, 1)]),
    (["geor", "georgian"],
      [(0x10a0, 0x10c5, 1), (0x10c7, 0x10c7, 1), (0x10cd, 0x10cd, 1), (0x10d0, 0x10fa, 1),
       (0x10fc, 0x10ff, 1), (0x1c90, 0x1cba, 1), (0x1cbd, 0x1cbf, 1), (0x2d00, 0x2d25, 1),
       (0x2d27, 0x2d27, 1), (0x2d2d, 0x2d2d, 1)]),
    (["glag", "glagolitic"],
      [(0x2c00, 0x2c5f, 1), (0x1e000, 0x1e006, 1), (0x1e008, 0x1e018, 1), (0x1e01b, 0x1e021, 1),
       (0x1e023, 0x1e024, 1), (0x1e026, 0x1e02a, 1)]),
    (["goth", "gothic"],
      [(0x10330, 0x1034a, 1)]),
    (["gran", "grantha"],
      [(0x11300, 0x11303, 1), (0x11305, 0x1130c, 1), (0x1130f, 0x11310, 1), (0x11313, 0x11328, 1),
       (0x1132a, 0x11330, 1), (0x11332, 0x11333, 1), (0x11335, 0x11339, 1), (0x1133c, 0x11344, 1),
       (0x11347, 0x11348, 1), (0x1134b, 0x1134d, 1), (0x11350, 0x11350, 1), (0x11357, 0x11357, 1),
       (0x1135d, 0x11363, 1), (0x11366, 0x1136c, 1), (0x11370, 0x11374, 1)]),
    (["grek", "greek"],
      [(0x370, 0x373, 1), (0x375, 0x377, 1), (0x37a, 0x37d, 1), (0x37f, 0x37f, 1),
       (0x384, 0x386, 2), (0x388, 0x38a, 1), (0x38c, 0x38c, 1), (0x38e, 0x3a1, 1),
       (0x3a3, 0x3e1, 1), (0x3f0, 0x3ff, 1), (0x1d26, 0x1d2a, 1), (0x1d5d, 0x1d61, 1),
       (0x1d66, 0x1d6a, 1), (0x1dbf, 0x1dbf, 1), (0x1f00, 0x1f15, 1), (0x1f18, 0x1f1d, 1),
       (0x1f20, 0x1f45, 1), (0x1f48, 0x1f4d, 1), (0x1f50, 0x1f57, 1), (0x1f59, 0x1f5d, 2),
       (0x1f5f, 0x1f7d, 1), (0x1f80, 0x1fb4, 1), (0x1fb6, 0x1fc4, 1), (0x1fc6, 0x1fd3, 1),
       (0x1fd6, 0x1fdb, 1), (0x1fdd, 0x1fef, 1), (0x1ff2, 0x1ff4, 1), (0x1ff6, 0x1ffe, 1),
       (0x2126, 0x2126, 1), (0xab65, 0xab65, 1), (0x10140, 0x1018e, 1), (0x101a0, 0x101a0, 1),
       (0x1d200, 0x1d245, 1)]),
    (["gujr", "gujarati"],
      [(0xa81, 0xa83, 1), (0xa85, 0xa8d, 1), (0xa8f, 0xa91, 1), (0xa93, 0xaa8, 1),
       (0xaaa, 0xab0, 1), (0xab2, 0xab3, 1), (0xab5, 0xab9, 1), (0xabc, 0xac5, 1),
       (0xac7, 0xac9, 1), (0xacb, 0xacd, 1), (0xad0, 0xad0, 1), (0xae0, 0xae3, 1),
       (0xae6, 0xaf1, 1), (0xaf9, 0xaff, 1)]),
    (["gong", "gunjalagondi"],
      [(0x11d60, 0x11d65, 1), (0x11d67, 0x11d68, 1), (0x11d6a, 0x11d8e, 1), (0x11d90, 0x11d91, 1),
       (0x11d93, 0x11d98, 1), (0x11da0, 0x11da9, 1)]),
    (["guru", "gurmukhi"],
      [(0xa01, 0xa03, 1), (0xa05, 0xa0a, 1), (0xa0f, 0xa10, 1), (0xa13, 0xa28, 1),
       (0xa2a, 0xa30, 1), (0xa32, 0xa33, 1), (0xa35, 0xa36, 1), (0xa38, 0xa39, 1),
       (0xa3c, 0xa3c, 1), (0xa3e, 0xa42, 1), (0xa47, 0xa48, 1), (0xa4b, 0xa4d, 1),
       (0xa51, 0xa51, 1), (0xa59, 0xa5c, 1), (0xa5e, 0xa5e, 1), (0xa66, 0xa76, 1)]),
    (["gukh", "gurungkhema"],
      [(0x16100, 0x16139, 1)]),
    (["hani", "han"],
      [(0x2e80, 0x2e99, 1), (0x2e9b, 0x2ef3, 1), (0x2f00, 0x2fd5, 1), (0x3005, 0x3007, 2),
       (0x3021, 0x3029, 1), (0x3038, 0x303b, 1), (0x3400, 0x4dbf, 1), (0x4e00, 0x9fff, 1),
       (0xf900, 0xfa6d, 1), (0xfa70, 0xfad9, 1), (0x16fe2, 0x16fe3, 1), (0x16ff0, 0x16ff6, 1),
       (0x20000, 0x2a6df, 1), (0x2a700, 0x2b81d, 1), (0x2b820, 0x2cead, 1), (0x2ceb0, 0x2ebe0, 1),
       (0x2ebf0, 0x2ee5d, 1), (0x2f800, 0x2fa1d, 1), (0x30000, 0x3134a, 1), (0x31350, 0x33479, 1)]),
    (["hang", "hangul"],
      [(0x1100, 0x11ff, 1), (0x302e, 0x302f, 1), (0x3131, 0x318e, 1), (0x3200, 0x321e, 1),
       (0x3260, 0x327e, 1), (0xa960, 0xa97c, 1), (0xac00, 0xd7a3, 1), (0xd7b0, 0xd7c6, 1),
       (0xd7cb, 0xd7fb, 1), (0xffa0, 0xffbe, 1), (0xffc2, 0xffc7, 1), (0xffca, 0xffcf, 1),
       (0xffd2, 0xffd7, 1), (0xffda, 0xffdc, 1)]),
    (["rohg", "hanifirohingya"],
      [(0x10d00, 0x10d27, 1), (0x10d30, 0x10d39, 1)]),
    (["hano", "hanunoo"],
      [(0x1720, 0x1734, 1)]),
    (["hatr", "hatran"],
      [(0x108e0, 0x108f2, 1), (0x108f4, 0x108f5, 1), (0x108fb, 0x108ff, 1)]),
    (["hebr", "hebrew"],
      [(0x591, 0x5c7, 1), (0x5d0, 0x5ea, 1), (0x5ef, 0x5f4, 1), (0xfb1d, 0xfb36, 1),
       (0xfb38, 0xfb3c, 1), (0xfb3e, 0xfb3e, 1), (0xfb40, 0xfb41, 1), (0xfb43, 0xfb44, 1),
       (0xfb46, 0xfb4f, 1)]),
    (["hira", "hiragana"],
      [(0x3041, 0x3096, 1), (0x309d, 0x309f, 1), (0x1b001, 0x1b11f, 1), (0x1b132, 0x1b132, 1),
       (0x1b150, 0x1b152, 1), (0x1f200, 0x1f200, 1)]),
    (["armi", "imperialaramaic"],
      [(0x10840, 0x10855, 1), (0x10857, 0x1085f, 1)]),
    (["zinh", "inherited", "qaai"],
      [(0x300, 0x36f, 1), (0x485, 0x486, 1), (0x64b, 0x655, 1), (0x670, 0x670, 1),
       (0x951, 0x954, 1), (0x1ab0, 0x1add, 1), (0x1ae0, 0x1aeb, 1), (0x1cd0, 0x1cd2, 1),
       (0x1cd4, 0x1ce0, 1), (0x1ce2, 0x1ce8, 1), (0x1ced, 0x1ced, 1), (0x1cf4, 0x1cf4, 1),
       (0x1cf8, 0x1cf9, 1), (0x1dc0, 0x1dff, 1), (0x200c, 0x200d, 1), (0x20d0, 0x20f0, 1),
       (0x302a, 0x302d, 1), (0x3099, 0x309a, 1), (0xfe00, 0xfe0f, 1), (0xfe20, 0xfe2d, 1),
       (0x101fd, 0x101fd, 1), (0x102e0, 0x102e0, 1), (0x1133b, 0x1133b, 1), (0x1cf00, 0x1cf2d, 1),
       (0x1cf30, 0x1cf46, 1), (0x1d167, 0x1d169, 1), (0x1d17b, 0x1d182, 1), (0x1d185, 0x1d18b, 1),
       (0x1d1aa, 0x1d1ad, 1), (0xe0100, 0xe01ef, 1)]),
    (["phli", "inscriptionalpahlavi"],
      [(0x10b60, 0x10b72, 1), (0x10b78, 0x10b7f, 1)]),
    (["prti", "inscriptionalparthian"],
      [(0x10b40, 0x10b55, 1), (0x10b58, 0x10b5f, 1)]),
    (["java", "javanese"],
      [(0xa980, 0xa9cd, 1), (0xa9d0, 0xa9d9, 1), (0xa9de, 0xa9df, 1)])
  ]

end Script

end ItemTable
