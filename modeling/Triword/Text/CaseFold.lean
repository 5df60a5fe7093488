/-!
Letter case. Two characters that differ in case only fold to the same character; each such character is
listed with every other one that folds alike.
-/

namespace Triword.Text

inductive CaseRun where
  /-- Each character from `first` to `last` folds like the one `shift` further on. -/
  | shifted (first last : Nat) (shift : Int)
  /-- Of the characters from `first` to `last`, each two that follow each other fold alike. -/
  | pairs (first last : Nat)

def CaseRun.variants : CaseRun → List (Nat × Nat)
  | shifted first last shift =>
    (List.range (last + 1 - first)).map fun i => (first + i, ((first + i : Nat) + shift : Int).toNat)
  | pairs first last =>
    (List.range ((last + 1 - first) / 2)).flatMap fun i =>
      let n := first + 2 * i
      [(n, n + 1), (n + 1, n)]

def caseRuns : List CaseRun := [
  .shifted 0x41 0x4B 32, .shifted 0x4B 0x4B 8415, .shifted 0x4C 0x53 32, .shifted 0x53 0x53 300,
  .shifted 0x54 0x5A 32, .shifted 0x61 0x6B (-32), .shifted 0x6B 0x6B 8383,
  .shifted 0x6C 0x73 (-32), .shifted 0x73 0x73 268, .shifted 0x74 0x7A (-32),
  .shifted 0xB5 0xB5 743, .shifted 0xB5 0xB5 775, .shifted 0xC0 0xC5 32, .shifted 0xC5 0xC5 8294,
  .shifted 0xC6 0xD6 32, .shifted 0xD8 0xDE 32, .shifted 0xDF 0xDF 7615, .shifted 0xE0 0xE5 (-32),
  .shifted 0xE5 0xE5 8262, .shifted 0xE6 0xF6 (-32), .shifted 0xF8 0xFE (-32),
  .shifted 0xFF 0xFF 121, .pairs 0x100 0x12F, .pairs 0x132 0x137, .pairs 0x139 0x148,
  .pairs 0x14A 0x177, .shifted 0x178 0x178 (-121), .pairs 0x179 0x17E, .shifted 0x17F 0x17F (-300),
  .shifted 0x17F 0x17F (-268), .shifted 0x180 0x180 195, .shifted 0x181 0x181 210,
  .pairs 0x182 0x185, .shifted 0x186 0x186 206, .pairs 0x187 0x188, .shifted 0x189 0x18A 205,
  .pairs 0x18B 0x18C, .shifted 0x18E 0x18E 79, .shifted 0x18F 0x18F 202, .shifted 0x190 0x190 203,
  .pairs 0x191 0x192, .shifted 0x193 0x193 205, .shifted 0x194 0x194 207, .shifted 0x195 0x195 97,
  .shifted 0x196 0x196 211, .shifted 0x197 0x197 209, .pairs 0x198 0x199, .shifted 0x19A 0x19A 163,
  .shifted 0x19B 0x19B 42561, .shifted 0x19C 0x19C 211, .shifted 0x19D 0x19D 213,
  .shifted 0x19E 0x19E 130, .shifted 0x19F 0x19F 214, .pairs 0x1A0 0x1A5, .shifted 0x1A6 0x1A6 218,
  .pairs 0x1A7 0x1A8, .shifted 0x1A9 0x1A9 218, .pairs 0x1AC 0x1AD, .shifted 0x1AE 0x1AE 218,
  .pairs 0x1AF 0x1B0, .shifted 0x1B1 0x1B2 217, .pairs 0x1B3 0x1B6, .shifted 0x1B7 0x1B7 219,
  .pairs 0x1B8 0x1B9, .pairs 0x1BC 0x1BD, .shifted 0x1BF 0x1BF 56, .shifted 0x1C4 0x1C4 1,
  .shifted 0x1C4 0x1C4 2, .shifted 0x1C5 0x1C5 (-1), .shifted 0x1C5 0x1C5 1,
  .shifted 0x1C6 0x1C6 (-2), .shifted 0x1C6 0x1C6 (-1), .shifted 0x1C7 0x1C7 1,
  .shifted 0x1C7 0x1C7 2, .shifted 0x1C8 0x1C8 (-1), .shifted 0x1C8 0x1C8 1,
  .shifted 0x1C9 0x1C9 (-2), .shifted 0x1C9 0x1C9 (-1), .shifted 0x1CA 0x1CA 1,
  .shifted 0x1CA 0x1CA 2, .shifted 0x1CB 0x1CB (-1), .shifted 0x1CB 0x1CB 1,
  .shifted 0x1CC 0x1CC (-2), .shifted 0x1CC 0x1CC (-1), .pairs 0x1CD 0x1DC,
  .shifted 0x1DD 0x1DD (-79), .pairs 0x1DE 0x1EF, .shifted 0x1F1 0x1F1 1, .shifted 0x1F1 0x1F1 2,
  .shifted 0x1F2 0x1F2 (-1), .shifted 0x1F2 0x1F2 1, .shifted 0x1F3 0x1F3 (-2),
  .shifted 0x1F3 0x1F3 (-1), .pairs 0x1F4 0x1F5, .shifted 0x1F6 0x1F6 (-97),
  .shifted 0x1F7 0x1F7 (-56), .pairs 0x1F8 0x21F, .shifted 0x220 0x220 (-130), .pairs 0x222 0x233,
  .shifted 0x23A 0x23A 10795, .pairs 0x23B 0x23C, .shifted 0x23D 0x23D (-163),
  .shifted 0x23E 0x23E 10792, .shifted 0x23F 0x240 10815, .pairs 0x241 0x242,
  .shifted 0x243 0x243 (-195), .shifted 0x244 0x244 69, .shifted 0x245 0x245 71,
  .pairs 0x246 0x24F, .shifted 0x250 0x250 10783, .shifted 0x251 0x251 10780,
  .shifted 0x252 0x252 10782, .shifted 0x253 0x253 (-210), .shifted 0x254 0x254 (-206),
  .shifted 0x256 0x257 (-205), .shifted 0x259 0x259 (-202), .shifted 0x25B 0x25B (-203),
  .shifted 0x25C 0x25C 42319, .shifted 0x260 0x260 (-205), .shifted 0x261 0x261 42315,
  .shifted 0x263 0x263 (-207), .shifted 0x264 0x264 42343, .shifted 0x265 0x265 42280,
  .shifted 0x266 0x266 42308, .shifted 0x268 0x268 (-209), .shifted 0x269 0x269 (-211),
  .shifted 0x26A 0x26A 42308, .shifted 0x26B 0x26B 10743, .shifted 0x26C 0x26C 42305,
  .shifted 0x26F 0x26F (-211), .shifted 0x271 0x271 10749, .shifted 0x272 0x272 (-213),
  .shifted 0x275 0x275 (-214), .shifted 0x27D 0x27D 10727, .shifted 0x280 0x280 (-218),
  .shifted 0x282 0x282 42307, .shifted 0x283 0x283 (-218), .shifted 0x287 0x287 42282,
  .shifted 0x288 0x288 (-218), .shifted 0x289 0x289 (-69), .shifted 0x28A 0x28B (-217),
  .shifted 0x28C 0x28C (-71), .shifted 0x292 0x292 (-219), .shifted 0x29D 0x29D 42261,
  .shifted 0x29E 0x29E 42258, .shifted 0x345 0x345 84, .shifted 0x345 0x345 116,
  .shifted 0x345 0x345 7289, .pairs 0x370 0x373, .pairs 0x376 0x377, .shifted 0x37B 0x37D 130,
  .shifted 0x37F 0x37F 116, .shifted 0x386 0x386 38, .shifted 0x388 0x38A 37,
  .shifted 0x38C 0x38C 64, .shifted 0x38E 0x38F 63, .shifted 0x390 0x390 7235,
  .shifted 0x391 0x392 32, .shifted 0x392 0x392 62, .shifted 0x393 0x395 32,
  .shifted 0x395 0x395 96, .shifted 0x396 0x398 32, .shifted 0x398 0x398 57,
  .shifted 0x398 0x398 92, .shifted 0x399 0x399 (-84), .shifted 0x399 0x399 32,
  .shifted 0x399 0x399 7205, .shifted 0x39A 0x39A 32, .shifted 0x39A 0x39A 86,
  .shifted 0x39B 0x39B 32, .shifted 0x39C 0x39C (-743), .shifted 0x39C 0x3A0 32,
  .shifted 0x3A0 0x3A0 54, .shifted 0x3A1 0x3A1 32, .shifted 0x3A1 0x3A1 80,
  .shifted 0x3A3 0x3A3 31, .shifted 0x3A3 0x3A6 32, .shifted 0x3A6 0x3A6 47,
  .shifted 0x3A7 0x3A9 32, .shifted 0x3A9 0x3A9 7549, .shifted 0x3AA 0x3AB 32,
  .shifted 0x3AC 0x3AC (-38), .shifted 0x3AD 0x3AF (-37), .shifted 0x3B0 0x3B0 7219,
  .shifted 0x3B1 0x3B2 (-32), .shifted 0x3B2 0x3B2 30, .shifted 0x3B3 0x3B5 (-32),
  .shifted 0x3B5 0x3B5 64, .shifted 0x3B6 0x3B8 (-32), .shifted 0x3B8 0x3B8 25,
  .shifted 0x3B8 0x3B8 60, .shifted 0x3B9 0x3B9 (-116), .shifted 0x3B9 0x3B9 (-32),
  .shifted 0x3B9 0x3B9 7173, .shifted 0x3BA 0x3BA (-32), .shifted 0x3BA 0x3BA 54,
  .shifted 0x3BB 0x3BB (-32), .shifted 0x3BC 0x3BC (-775), .shifted 0x3BC 0x3C0 (-32),
  .shifted 0x3C0 0x3C0 22, .shifted 0x3C1 0x3C1 (-32), .shifted 0x3C1 0x3C1 48,
  .shifted 0x3C2 0x3C2 (-31), .shifted 0x3C2 0x3C2 1, .shifted 0x3C3 0x3C3 (-32),
  .shifted 0x3C3 0x3C3 (-1), .shifted 0x3C4 0x3C6 (-32), .shifted 0x3C6 0x3C6 15,
  .shifted 0x3C7 0x3C9 (-32), .shifted 0x3C9 0x3C9 7517, .shifted 0x3CA 0x3CB (-32),
  .shifted 0x3CC 0x3CC (-64), .shifted 0x3CD 0x3CE (-63), .shifted 0x3CF 0x3CF 8,
  .shifted 0x3D0 0x3D0 (-62), .shifted 0x3D0 0x3D0 (-30), .shifted 0x3D1 0x3D1 (-57),
  .shifted 0x3D1 0x3D1 (-25), .shifted 0x3D1 0x3D1 35, .shifted 0x3D5 0x3D5 (-47),
  .shifted 0x3D5 0x3D5 (-15), .shifted 0x3D6 0x3D6 (-54), .shifted 0x3D6 0x3D6 (-22),
  .shifted 0x3D7 0x3D7 (-8), .pairs 0x3D8 0x3EF, .shifted 0x3F0 0x3F0 (-86),
  .shifted 0x3F0 0x3F0 (-54), .shifted 0x3F1 0x3F1 (-80), .shifted 0x3F1 0x3F1 (-48),
  .shifted 0x3F2 0x3F2 7, .shifted 0x3F3 0x3F3 (-116), .shifted 0x3F4 0x3F4 (-92),
  .shifted 0x3F4 0x3F4 (-60), .shifted 0x3F4 0x3F4 (-35), .shifted 0x3F5 0x3F5 (-96),
  .shifted 0x3F5 0x3F5 (-64), .pairs 0x3F7 0x3F8, .shifted 0x3F9 0x3F9 (-7), .pairs 0x3FA 0x3FB,
  .shifted 0x3FD 0x3FF (-130), .shifted 0x400 0x40F 80, .shifted 0x410 0x412 32,
  .shifted 0x412 0x412 6254, .shifted 0x413 0x414 32, .shifted 0x414 0x414 6253,
  .shifted 0x415 0x41E 32, .shifted 0x41E 0x41E 6244, .shifted 0x41F 0x421 32,
  .shifted 0x421 0x421 6242, .shifted 0x422 0x422 32, .shifted 0x422 0x422 6242,
  .shifted 0x422 0x422 6243, .shifted 0x423 0x42A 32, .shifted 0x42A 0x42A 6236,
  .shifted 0x42B 0x42F 32, .shifted 0x430 0x432 (-32), .shifted 0x432 0x432 6222,
  .shifted 0x433 0x434 (-32), .shifted 0x434 0x434 6221, .shifted 0x435 0x43E (-32),
  .shifted 0x43E 0x43E 6212, .shifted 0x43F 0x441 (-32), .shifted 0x441 0x441 6210,
  .shifted 0x442 0x442 (-32), .shifted 0x442 0x442 6210, .shifted 0x442 0x442 6211,
  .shifted 0x443 0x44A (-32), .shifted 0x44A 0x44A 6204, .shifted 0x44B 0x44F (-32),
  .shifted 0x450 0x45F (-80), .pairs 0x460 0x461, .shifted 0x462 0x462 1,
  .shifted 0x462 0x462 6181, .shifted 0x463 0x463 (-1), .shifted 0x463 0x463 6180,
  .pairs 0x464 0x481, .pairs 0x48A 0x4BF, .shifted 0x4C0 0x4C0 15, .pairs 0x4C1 0x4CE,
  .shifted 0x4CF 0x4CF (-15), .pairs 0x4D0 0x52F, .shifted 0x531 0x556 48,
  .shifted 0x561 0x586 (-48), .shifted 0x10A0 0x10C5 7264, .shifted 0x10C7 0x10C7 7264,
  .shifted 0x10CD 0x10CD 7264, .shifted 0x10D0 0x10FA 3008, .shifted 0x10FD 0x10FF 3008,
  .shifted 0x13A0 0x13EF 38864, .shifted 0x13F0 0x13F5 8, .shifted 0x13F8 0x13FD (-8),
  .shifted 0x1C80 0x1C80 (-6254), .shifted 0x1C80 0x1C80 (-6222), .shifted 0x1C81 0x1C81 (-6253),
  .shifted 0x1C81 0x1C81 (-6221), .shifted 0x1C82 0x1C82 (-6244), .shifted 0x1C82 0x1C82 (-6212),
  .shifted 0x1C83 0x1C83 (-6242), .shifted 0x1C83 0x1C83 (-6210), .shifted 0x1C84 0x1C84 (-6242),
  .shifted 0x1C84 0x1C84 (-6210), .shifted 0x1C84 0x1C84 1, .shifted 0x1C85 0x1C85 (-6243),
  .shifted 0x1C85 0x1C85 (-6211), .shifted 0x1C85 0x1C85 (-1), .shifted 0x1C86 0x1C86 (-6236),
  .shifted 0x1C86 0x1C86 (-6204), .shifted 0x1C87 0x1C87 (-6181), .shifted 0x1C87 0x1C87 (-6180),
  .shifted 0x1C88 0x1C88 35266, .shifted 0x1C88 0x1C88 35267, .pairs 0x1C89 0x1C8A,
  .shifted 0x1C90 0x1CBA (-3008), .shifted 0x1CBD 0x1CBF (-3008), .shifted 0x1D79 0x1D79 35332,
  .shifted 0x1D7D 0x1D7D 3814, .shifted 0x1D8E 0x1D8E 35384, .pairs 0x1E00 0x1E5F,
  .shifted 0x1E60 0x1E60 1, .shifted 0x1E60 0x1E60 59, .shifted 0x1E61 0x1E61 (-1),
  .shifted 0x1E61 0x1E61 58, .pairs 0x1E62 0x1E95, .shifted 0x1E9B 0x1E9B (-59),
  .shifted 0x1E9B 0x1E9B (-58), .shifted 0x1E9E 0x1E9E (-7615), .pairs 0x1EA0 0x1EFF,
  .shifted 0x1F00 0x1F07 8, .shifted 0x1F08 0x1F0F (-8), .shifted 0x1F10 0x1F15 8,
  .shifted 0x1F18 0x1F1D (-8), .shifted 0x1F20 0x1F27 8, .shifted 0x1F28 0x1F2F (-8),
  .shifted 0x1F30 0x1F37 8, .shifted 0x1F38 0x1F3F (-8), .shifted 0x1F40 0x1F45 8,
  .shifted 0x1F48 0x1F4D (-8), .shifted 0x1F51 0x1F51 8, .shifted 0x1F53 0x1F53 8,
  .shifted 0x1F55 0x1F55 8, .shifted 0x1F57 0x1F57 8, .shifted 0x1F59 0x1F59 (-8),
  .shifted 0x1F5B 0x1F5B (-8), .shifted 0x1F5D 0x1F5D (-8), .shifted 0x1F5F 0x1F5F (-8),
  .shifted 0x1F60 0x1F67 8, .shifted 0x1F68 0x1F6F (-8), .shifted 0x1F70 0x1F71 74,
  .shifted 0x1F72 0x1F75 86, .shifted 0x1F76 0x1F77 100, .shifted 0x1F78 0x1F79 128,
  .shifted 0x1F7A 0x1F7B 112, .shifted 0x1F7C 0x1F7D 126, .shifted 0x1F80 0x1F87 8,
  .shifted 0x1F88 0x1F8F (-8), .shifted 0x1F90 0x1F97 8, .shifted 0x1F98 0x1F9F (-8),
  .shifted 0x1FA0 0x1FA7 8, .shifted 0x1FA8 0x1FAF (-8), .shifted 0x1FB0 0x1FB1 8,
  .shifted 0x1FB3 0x1FB3 9, .shifted 0x1FB8 0x1FB9 (-8), .shifted 0x1FBA 0x1FBB (-74),
  .shifted 0x1FBC 0x1FBC (-9), .shifted 0x1FBE 0x1FBE (-7289), .shifted 0x1FBE 0x1FBE (-7205),
  .shifted 0x1FBE 0x1FBE (-7173), .shifted 0x1FC3 0x1FC3 9, .shifted 0x1FC8 0x1FCB (-86),
  .shifted 0x1FCC 0x1FCC (-9), .shifted 0x1FD0 0x1FD1 8, .shifted 0x1FD3 0x1FD3 (-7235),
  .shifted 0x1FD8 0x1FD9 (-8), .shifted 0x1FDA 0x1FDB (-100), .shifted 0x1FE0 0x1FE1 8,
  .shifted 0x1FE3 0x1FE3 (-7219), .shifted 0x1FE5 0x1FE5 7, .shifted 0x1FE8 0x1FE9 (-8),
  .shifted 0x1FEA 0x1FEB (-112), .shifted 0x1FEC 0x1FEC (-7), .shifted 0x1FF3 0x1FF3 9,
  .shifted 0x1FF8 0x1FF9 (-128), .shifted 0x1FFA 0x1FFB (-126), .shifted 0x1FFC 0x1FFC (-9),
  .shifted 0x2126 0x2126 (-7549), .shifted 0x2126 0x2126 (-7517), .shifted 0x212A 0x212A (-8415),
  .shifted 0x212A 0x212A (-8383), .shifted 0x212B 0x212B (-8294), .shifted 0x212B 0x212B (-8262),
  .shifted 0x2132 0x2132 28, .shifted 0x214E 0x214E (-28), .shifted 0x2160 0x216F 16,
  .shifted 0x2170 0x217F (-16), .pairs 0x2183 0x2184, .shifted 0x24B6 0x24CF 26,
  .shifted 0x24D0 0x24E9 (-26), .shifted 0x2C00 0x2C2F 48, .shifted 0x2C30 0x2C5F (-48),
  .pairs 0x2C60 0x2C61, .shifted 0x2C62 0x2C62 (-10743), .shifted 0x2C63 0x2C63 (-3814),
  .shifted 0x2C64 0x2C64 (-10727), .shifted 0x2C65 0x2C65 (-10795),
  .shifted 0x2C66 0x2C66 (-10792), .pairs 0x2C67 0x2C6C, .shifted 0x2C6D 0x2C6D (-10780),
  .shifted 0x2C6E 0x2C6E (-10749), .shifted 0x2C6F 0x2C6F (-10783),
  .shifted 0x2C70 0x2C70 (-10782), .pairs 0x2C72 0x2C73, .pairs 0x2C75 0x2C76,
  .shifted 0x2C7E 0x2C7F (-10815), .pairs 0x2C80 0x2CE3, .pairs 0x2CEB 0x2CEE,
  .pairs 0x2CF2 0x2CF3, .shifted 0x2D00 0x2D25 (-7264), .shifted 0x2D27 0x2D27 (-7264),
  .shifted 0x2D2D 0x2D2D (-7264), .pairs 0xA640 0xA649, .shifted 0xA64A 0xA64A (-35266),
  .shifted 0xA64A 0xA64A 1, .shifted 0xA64B 0xA64B (-35267), .shifted 0xA64B 0xA64B (-1),
  .pairs 0xA64C 0xA66D, .pairs 0xA680 0xA69B, .pairs 0xA722 0xA72F, .pairs 0xA732 0xA76F,
  .pairs 0xA779 0xA77C, .shifted 0xA77D 0xA77D (-35332), .pairs 0xA77E 0xA787,
  .pairs 0xA78B 0xA78C, .shifted 0xA78D 0xA78D (-42280), .pairs 0xA790 0xA793,
  .shifted 0xA794 0xA794 48, .pairs 0xA796 0xA7A9, .shifted 0xA7AA 0xA7AA (-42308),
  .shifted 0xA7AB 0xA7AB (-42319), .shifted 0xA7AC 0xA7AC (-42315),
  .shifted 0xA7AD 0xA7AD (-42305), .shifted 0xA7AE 0xA7AE (-42308),
  .shifted 0xA7B0 0xA7B0 (-42258), .shifted 0xA7B1 0xA7B1 (-42282),
  .shifted 0xA7B2 0xA7B2 (-42261), .shifted 0xA7B3 0xA7B3 928, .pairs 0xA7B4 0xA7C3,
  .shifted 0xA7C4 0xA7C4 (-48), .shifted 0xA7C5 0xA7C5 (-42307), .shifted 0xA7C6 0xA7C6 (-35384),
  .pairs 0xA7C7 0xA7CA, .shifted 0xA7CB 0xA7CB (-42343), .pairs 0xA7CC 0xA7CD,
  .pairs 0xA7D0 0xA7D1, .pairs 0xA7D6 0xA7DB, .shifted 0xA7DC 0xA7DC (-42561),
  .pairs 0xA7F5 0xA7F6, .shifted 0xAB53 0xAB53 (-928), .shifted 0xAB70 0xABBF (-38864),
  .pairs 0xFB05 0xFB06, .shifted 0xFF21 0xFF3A 32, .shifted 0xFF41 0xFF5A (-32),
  .shifted 0x10400 0x10427 40, .shifted 0x10428 0x1044F (-40), .shifted 0x104B0 0x104D3 40,
  .shifted 0x104D8 0x104FB (-40), .shifted 0x10570 0x1057A 39, .shifted 0x1057C 0x1058A 39,
  .shifted 0x1058C 0x10592 39, .shifted 0x10594 0x10595 39, .shifted 0x10597 0x105A1 (-39),
  .shifted 0x105A3 0x105B1 (-39), .shifted 0x105B3 0x105B9 (-39), .shifted 0x105BB 0x105BC (-39),
  .shifted 0x10C80 0x10CB2 64, .shifted 0x10CC0 0x10CF2 (-64), .shifted 0x10D50 0x10D65 32,
  .shifted 0x10D70 0x10D85 (-32), .shifted 0x118A0 0x118BF 32, .shifted 0x118C0 0x118DF (-32),
  .shifted 0x16E40 0x16E5F 32, .shifted 0x16E60 0x16E7F (-32), .shifted 0x1E900 0x1E921 34,
  .shifted 0x1E922 0x1E943 (-34)]

def caseVariants : List (Nat × Nat) :=
  caseRuns.flatMap CaseRun.variants

def asciiCaseVariants : List (Nat × Nat) :=
  CaseRun.variants (.shifted 0x41 0x5A 32) ++ CaseRun.variants (.shifted 0x61 0x7A (-32))

end Triword.Text
