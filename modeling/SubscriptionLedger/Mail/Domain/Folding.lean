import SubscriptionLedger.Text.Normal

namespace SubscriptionLedger.Mail.Domain

-- Rows of pairs of letters: every other one, from the first to the last, folds to the next.
def pairRanges : Array (Nat × Nat) := #[
  (0x100, 0x12E), (0x134, 0x136), (0x139, 0x13D), (0x141, 0x147), (0x14A, 0x176), (0x179, 0x17D),
  (0x182, 0x184), (0x187, 0x187), (0x18B, 0x18B), (0x191, 0x191), (0x198, 0x198), (0x1A0, 0x1A4),
  (0x1A7, 0x1A7), (0x1AC, 0x1AC), (0x1AF, 0x1AF), (0x1B3, 0x1B5), (0x1B8, 0x1B8), (0x1BC, 0x1BC),
  (0x1CD, 0x1DB), (0x1DE, 0x1EE), (0x1F4, 0x1F4), (0x1F8, 0x21E), (0x222, 0x232), (0x23B, 0x23B),
  (0x241, 0x241), (0x246, 0x24E), (0x370, 0x372), (0x376, 0x376), (0x3D8, 0x3EE), (0x3F7, 0x3F7),
  (0x3FA, 0x3FA), (0x460, 0x480), (0x48A, 0x4BE), (0x4C1, 0x4CD), (0x4D0, 0x52E), (0x1E00, 0x1E94),
  (0x1EA0, 0x1EFE), (0x2183, 0x2183), (0x2C60, 0x2C60), (0x2C67, 0x2C6B), (0x2C72, 0x2C72), (0x2C75, 0x2C75),
  (0x2C80, 0x2CE2), (0x2CEB, 0x2CED), (0x2CF2, 0x2CF2), (0xA640, 0xA66C), (0xA680, 0xA69A), (0xA722, 0xA72E),
  (0xA732, 0xA76E), (0xA779, 0xA77B), (0xA77E, 0xA786), (0xA78B, 0xA78B), (0xA790, 0xA792), (0xA796, 0xA7A8),
  (0xA7B4, 0xA7C2), (0xA7C7, 0xA7C9), (0xA7D0, 0xA7D0), (0xA7D6, 0xA7D8), (0xA7F5, 0xA7F5)]

-- Runs of letters of the scripts below U+2000 that fold to one character each: first and last code point, and
-- what the first one folds to.
def letterRuns : Array (Nat × Nat × Nat) := #[
  (0x41, 0x5A, 0x61), (0xAA, 0xAA, 0x61), (0xB2, 0xB3, 0x32), (0xB5, 0xB5, 0x3BC), (0xB9, 0xB9, 0x31),
  (0xBA, 0xBA, 0x6F), (0xC0, 0xD6, 0xE0), (0xD8, 0xDE, 0xF8), (0x178, 0x178, 0xFF), (0x17F, 0x17F, 0x73),
  (0x181, 0x181, 0x253), (0x186, 0x186, 0x254), (0x189, 0x18A, 0x256), (0x18E, 0x18E, 0x1DD),
  (0x18F, 0x18F, 0x259), (0x190, 0x190, 0x25B), (0x193, 0x193, 0x260), (0x194, 0x194, 0x263),
  (0x196, 0x196, 0x269), (0x197, 0x197, 0x268), (0x19C, 0x19C, 0x26F), (0x19D, 0x19D, 0x272),
  (0x19F, 0x19F, 0x275), (0x1A6, 0x1A6, 0x280), (0x1A9, 0x1A9, 0x283), (0x1AE, 0x1AE, 0x288),
  (0x1B1, 0x1B2, 0x28A), (0x1B7, 0x1B7, 0x292), (0x1F6, 0x1F6, 0x195), (0x1F7, 0x1F7, 0x1BF),
  (0x220, 0x220, 0x19E), (0x23A, 0x23A, 0x2C65), (0x23D, 0x23D, 0x19A), (0x23E, 0x23E, 0x2C66),
  (0x243, 0x243, 0x180), (0x244, 0x244, 0x289), (0x245, 0x245, 0x28C), (0x2B0, 0x2B0, 0x68),
  (0x2B1, 0x2B1, 0x266), (0x2B2, 0x2B2, 0x6A), (0x2B3, 0x2B3, 0x72), (0x2B4, 0x2B4, 0x279),
  (0x2B5, 0x2B5, 0x27B), (0x2B6, 0x2B6, 0x281), (0x2B7, 0x2B7, 0x77), (0x2B8, 0x2B8, 0x79),
  (0x2E0, 0x2E0, 0x263), (0x2E1, 0x2E1, 0x6C), (0x2E2, 0x2E2, 0x73), (0x2E3, 0x2E3, 0x78),
  (0x2E4, 0x2E4, 0x295), (0x345, 0x345, 0x3B9), (0x37F, 0x37F, 0x3F3), (0x386, 0x386, 0x3AC),
  (0x388, 0x38A, 0x3AD), (0x38C, 0x38C, 0x3CC), (0x38E, 0x38F, 0x3CD), (0x391, 0x3A1, 0x3B1),
  (0x3A3, 0x3AB, 0x3C3), (0x3CF, 0x3CF, 0x3D7), (0x3D0, 0x3D0, 0x3B2), (0x3D1, 0x3D1, 0x3B8),
  (0x3D2, 0x3D2, 0x3C5), (0x3D3, 0x3D3, 0x3CD), (0x3D4, 0x3D4, 0x3CB), (0x3D5, 0x3D5, 0x3C6),
  (0x3D6, 0x3D6, 0x3C0), (0x3F0, 0x3F0, 0x3BA), (0x3F1, 0x3F1, 0x3C1), (0x3F2, 0x3F2, 0x3C3),
  (0x3F4, 0x3F4, 0x3B8), (0x3F5, 0x3F5, 0x3B5), (0x3F9, 0x3F9, 0x3C3), (0x3FD, 0x3FF, 0x37B),
  (0x400, 0x40F, 0x450), (0x410, 0x42F, 0x430), (0x4C0, 0x4C0, 0x4CF), (0x531, 0x556, 0x561),
  (0xF0C, 0xF0C, 0xF0B), (0x10A0, 0x10C5, 0x2D00), (0x10C7, 0x10C7, 0x2D27), (0x10CD, 0x10CD, 0x2D2D),
  (0x10FC, 0x10FC, 0x10DC), (0x13F8, 0x13FD, 0x13F0), (0x1C80, 0x1C80, 0x432), (0x1C81, 0x1C81, 0x434),
  (0x1C82, 0x1C82, 0x43E), (0x1C83, 0x1C84, 0x441), (0x1C85, 0x1C85, 0x442), (0x1C86, 0x1C86, 0x44A),
  (0x1C87, 0x1C87, 0x463), (0x1C88, 0x1C88, 0xA64B), (0x1C90, 0x1CBA, 0x10D0), (0x1CBD, 0x1CBF, 0x10FD),
  (0x1D2C, 0x1D2C, 0x61), (0x1D2D, 0x1D2D, 0xE6), (0x1D2E, 0x1D2E, 0x62), (0x1D30, 0x1D31, 0x64),
  (0x1D32, 0x1D32, 0x1DD), (0x1D33, 0x1D3A, 0x67), (0x1D3C, 0x1D3C, 0x6F), (0x1D3D, 0x1D3D, 0x223),
  (0x1D3E, 0x1D3E, 0x70), (0x1D3F, 0x1D3F, 0x72), (0x1D40, 0x1D41, 0x74), (0x1D42, 0x1D42, 0x77),
  (0x1D43, 0x1D43, 0x61), (0x1D44, 0x1D45, 0x250), (0x1D46, 0x1D46, 0x1D02), (0x1D47, 0x1D47, 0x62),
  (0x1D48, 0x1D49, 0x64), (0x1D4A, 0x1D4A, 0x259), (0x1D4B, 0x1D4C, 0x25B), (0x1D4D, 0x1D4D, 0x67),
  (0x1D4F, 0x1D4F, 0x6B), (0x1D50, 0x1D50, 0x6D), (0x1D51, 0x1D51, 0x14B), (0x1D52, 0x1D52, 0x6F),
  (0x1D53, 0x1D53, 0x254), (0x1D54, 0x1D55, 0x1D16), (0x1D56, 0x1D56, 0x70), (0x1D57, 0x1D58, 0x74),
  (0x1D59, 0x1D59, 0x1D1D), (0x1D5A, 0x1D5A, 0x26F), (0x1D5B, 0x1D5B, 0x76), (0x1D5C, 0x1D5C, 0x1D25),
  (0x1D5D, 0x1D5F, 0x3B2), (0x1D60, 0x1D61, 0x3C6), (0x1D62, 0x1D62, 0x69), (0x1D63, 0x1D63, 0x72),
  (0x1D64, 0x1D65, 0x75), (0x1D66, 0x1D67, 0x3B2), (0x1D68, 0x1D68, 0x3C1), (0x1D69, 0x1D6A, 0x3C6),
  (0x1D78, 0x1D78, 0x43D), (0x1D9B, 0x1D9B, 0x252), (0x1D9C, 0x1D9C, 0x63), (0x1D9D, 0x1D9D, 0x255),
  (0x1D9E, 0x1D9E, 0xF0), (0x1D9F, 0x1D9F, 0x25C), (0x1DA0, 0x1DA0, 0x66), (0x1DA1, 0x1DA1, 0x25F),
  (0x1DA2, 0x1DA2, 0x261), (0x1DA3, 0x1DA3, 0x265), (0x1DA4, 0x1DA6, 0x268), (0x1DA7, 0x1DA7, 0x1D7B),
  (0x1DA8, 0x1DA8, 0x29D), (0x1DA9, 0x1DA9, 0x26D), (0x1DAA, 0x1DAA, 0x1D85), (0x1DAB, 0x1DAB, 0x29F),
  (0x1DAC, 0x1DAC, 0x271), (0x1DAD, 0x1DAD, 0x270), (0x1DAE, 0x1DB1, 0x272), (0x1DB2, 0x1DB2, 0x278),
  (0x1DB3, 0x1DB4, 0x282), (0x1DB5, 0x1DB5, 0x1AB), (0x1DB6, 0x1DB7, 0x289), (0x1DB8, 0x1DB8, 0x1D1C),
  (0x1DB9, 0x1DBA, 0x28B), (0x1DBB, 0x1DBB, 0x7A), (0x1DBC, 0x1DBE, 0x290), (0x1DBF, 0x1DBF, 0x3B8),
  (0x1E9B, 0x1E9B, 0x1E61), (0x1E9E, 0x1E9E, 0xDF), (0x1F08, 0x1F0F, 0x1F00), (0x1F18, 0x1F1D, 0x1F10),
  (0x1F28, 0x1F2F, 0x1F20), (0x1F38, 0x1F3F, 0x1F30), (0x1F48, 0x1F4D, 0x1F40), (0x1F59, 0x1F59, 0x1F51),
  (0x1F5B, 0x1F5B, 0x1F53), (0x1F5D, 0x1F5D, 0x1F55), (0x1F5F, 0x1F5F, 0x1F57), (0x1F68, 0x1F6F, 0x1F60),
  (0x1FB8, 0x1FB9, 0x1FB0), (0x1FBA, 0x1FBA, 0x1F70), (0x1FBB, 0x1FBB, 0x3AC), (0x1FC8, 0x1FC8, 0x1F72),
  (0x1FC9, 0x1FC9, 0x3AD), (0x1FCA, 0x1FCA, 0x1F74), (0x1FCB, 0x1FCB, 0x3AE), (0x1FD8, 0x1FD9, 0x1FD0),
  (0x1FDA, 0x1FDA, 0x1F76), (0x1FDB, 0x1FDB, 0x3AF), (0x1FE8, 0x1FE9, 0x1FE0), (0x1FEA, 0x1FEA, 0x1F7A),
  (0x1FEB, 0x1FEB, 0x3CD), (0x1FEC, 0x1FEC, 0x1FE5), (0x1FF8, 0x1FF8, 0x1F78), (0x1FF9, 0x1FF9, 0x3CC),
  (0x1FFA, 0x1FFA, 0x1F7C), (0x1FFB, 0x1FFB, 0x3CE)]

-- The same for letters and signs from U+2000 on.
def signRuns : Array (Nat × Nat × Nat) := #[
  (0x2011, 0x2011, 0x2010), (0x2070, 0x2070, 0x30), (0x2071, 0x2071, 0x69), (0x2074, 0x2079, 0x34),
  (0x207A, 0x207A, 0x2B), (0x207B, 0x207B, 0x2212), (0x207C, 0x207C, 0x3D), (0x207D, 0x207E, 0x28),
  (0x207F, 0x207F, 0x6E), (0x2080, 0x2089, 0x30), (0x208A, 0x208A, 0x2B), (0x208B, 0x208B, 0x2212),
  (0x208C, 0x208C, 0x3D), (0x208D, 0x208E, 0x28), (0x2090, 0x2090, 0x61), (0x2091, 0x2091, 0x65),
  (0x2092, 0x2092, 0x6F), (0x2093, 0x2093, 0x78), (0x2094, 0x2094, 0x259), (0x2095, 0x2095, 0x68),
  (0x2096, 0x2099, 0x6B), (0x209A, 0x209A, 0x70), (0x209B, 0x209C, 0x73), (0x2102, 0x2102, 0x63),
  (0x2107, 0x2107, 0x25B), (0x210A, 0x210B, 0x67), (0x210C, 0x210C, 0x68), (0x210D, 0x210D, 0x68),
  (0x210E, 0x210E, 0x68), (0x210F, 0x210F, 0x127), (0x2110, 0x2110, 0x69), (0x2111, 0x2111, 0x69),
  (0x2112, 0x2112, 0x6C), (0x2113, 0x2113, 0x6C), (0x2115, 0x2115, 0x6E), (0x2119, 0x211B, 0x70),
  (0x211C, 0x211C, 0x72), (0x211D, 0x211D, 0x72), (0x2124, 0x2124, 0x7A), (0x2126, 0x2126, 0x3C9),
  (0x2128, 0x2128, 0x7A), (0x212A, 0x212A, 0x6B), (0x212B, 0x212B, 0xE5), (0x212C, 0x212D, 0x62),
  (0x212F, 0x212F, 0x65), (0x2130, 0x2131, 0x65), (0x2132, 0x2132, 0x214E), (0x2133, 0x2133, 0x6D),
  (0x2134, 0x2134, 0x6F), (0x2135, 0x2138, 0x5D0), (0x2139, 0x2139, 0x69), (0x213C, 0x213C, 0x3C0),
  (0x213D, 0x213D, 0x3B3), (0x213E, 0x213E, 0x3B3), (0x213F, 0x213F, 0x3C0), (0x2140, 0x2140, 0x2211),
  (0x2145, 0x2145, 0x64), (0x2146, 0x2147, 0x64), (0x2148, 0x2149, 0x69), (0x2160, 0x2160, 0x69),
  (0x2164, 0x2164, 0x76), (0x2169, 0x2169, 0x78), (0x216C, 0x216C, 0x6C), (0x216D, 0x216E, 0x63),
  (0x216F, 0x216F, 0x6D), (0x2170, 0x2170, 0x69), (0x2174, 0x2174, 0x76), (0x2179, 0x2179, 0x78),
  (0x217C, 0x217C, 0x6C), (0x217D, 0x217E, 0x63), (0x217F, 0x217F, 0x6D), (0x2460, 0x2468, 0x31),
  (0x24B6, 0x24CF, 0x61), (0x24D0, 0x24E9, 0x61), (0x24EA, 0x24EA, 0x30), (0x2C00, 0x2C2F, 0x2C30),
  (0x2C62, 0x2C62, 0x26B), (0x2C63, 0x2C63, 0x1D7D), (0x2C64, 0x2C64, 0x27D), (0x2C6D, 0x2C6D, 0x251),
  (0x2C6E, 0x2C6E, 0x271), (0x2C6F, 0x2C6F, 0x250), (0x2C70, 0x2C70, 0x252), (0x2C7C, 0x2C7C, 0x6A),
  (0x2C7D, 0x2C7D, 0x76), (0x2C7E, 0x2C7F, 0x23F), (0x2D6F, 0x2D6F, 0x2D61), (0x2E9F, 0x2E9F, 0x6BCD),
  (0x2EF3, 0x2EF3, 0x9F9F), (0x2F00, 0x2F00, 0x4E00), (0x2F01, 0x2F01, 0x4E28), (0x2F02, 0x2F02, 0x4E36),
  (0x2F03, 0x2F03, 0x4E3F), (0x2F04, 0x2F04, 0x4E59), (0x2F05, 0x2F05, 0x4E85), (0x2F06, 0x2F06, 0x4E8C),
  (0x2F07, 0x2F07, 0x4EA0), (0x2F08, 0x2F08, 0x4EBA), (0x2F09, 0x2F09, 0x513F), (0x2F0A, 0x2F0A, 0x5165),
  (0x2F0B, 0x2F0B, 0x516B), (0x2F0C, 0x2F0C, 0x5182), (0x2F0D, 0x2F0D, 0x5196), (0x2F0E, 0x2F0E, 0x51AB),
  (0x2F0F, 0x2F0F, 0x51E0), (0x2F10, 0x2F10, 0x51F5), (0x2F11, 0x2F11, 0x5200), (0x2F12, 0x2F12, 0x529B),
  (0x2F13, 0x2F13, 0x52F9), (0x2F14, 0x2F14, 0x5315), (0x2F15, 0x2F15, 0x531A), (0x2F16, 0x2F16, 0x5338),
  (0x2F17, 0x2F17, 0x5341), (0x2F18, 0x2F18, 0x535C), (0x2F19, 0x2F19, 0x5369), (0x2F1A, 0x2F1A, 0x5382),
  (0x2F1B, 0x2F1B, 0x53B6), (0x2F1C, 0x2F1C, 0x53C8), (0x2F1D, 0x2F1D, 0x53E3), (0x2F1E, 0x2F1E, 0x56D7),
  (0x2F1F, 0x2F1F, 0x571F), (0x2F20, 0x2F20, 0x58EB), (0x2F21, 0x2F21, 0x5902), (0x2F22, 0x2F22, 0x590A),
  (0x2F23, 0x2F23, 0x5915), (0x2F24, 0x2F24, 0x5927), (0x2F25, 0x2F25, 0x5973), (0x2F26, 0x2F26, 0x5B50),
  (0x2F27, 0x2F27, 0x5B80), (0x2F28, 0x2F28, 0x5BF8), (0x2F29, 0x2F29, 0x5C0F), (0x2F2A, 0x2F2A, 0x5C22),
  (0x2F2B, 0x2F2B, 0x5C38), (0x2F2C, 0x2F2C, 0x5C6E), (0x2F2D, 0x2F2D, 0x5C71), (0x2F2E, 0x2F2E, 0x5DDB),
  (0x2F2F, 0x2F2F, 0x5DE5), (0x2F30, 0x2F30, 0x5DF1), (0x2F31, 0x2F31, 0x5DFE), (0x2F32, 0x2F32, 0x5E72),
  (0x2F33, 0x2F33, 0x5E7A), (0x2F34, 0x2F34, 0x5E7F), (0x2F35, 0x2F35, 0x5EF4), (0x2F36, 0x2F36, 0x5EFE),
  (0x2F37, 0x2F37, 0x5F0B), (0x2F38, 0x2F38, 0x5F13), (0x2F39, 0x2F39, 0x5F50), (0x2F3A, 0x2F3A, 0x5F61),
  (0x2F3B, 0x2F3B, 0x5F73), (0x2F3C, 0x2F3C, 0x5FC3), (0x2F3D, 0x2F3D, 0x6208), (0x2F3E, 0x2F3E, 0x6236),
  (0x2F3F, 0x2F3F, 0x624B), (0x2F40, 0x2F40, 0x652F), (0x2F41, 0x2F41, 0x6534), (0x2F42, 0x2F42, 0x6587),
  (0x2F43, 0x2F43, 0x6597), (0x2F44, 0x2F44, 0x65A4), (0x2F45, 0x2F45, 0x65B9), (0x2F46, 0x2F46, 0x65E0),
  (0x2F47, 0x2F47, 0x65E5), (0x2F48, 0x2F48, 0x66F0), (0x2F49, 0x2F49, 0x6708), (0x2F4A, 0x2F4A, 0x6728),
  (0x2F4B, 0x2F4B, 0x6B20), (0x2F4C, 0x2F4C, 0x6B62), (0x2F4D, 0x2F4D, 0x6B79), (0x2F4E, 0x2F4E, 0x6BB3),
  (0x2F4F, 0x2F4F, 0x6BCB), (0x2F50, 0x2F50, 0x6BD4), (0x2F51, 0x2F51, 0x6BDB), (0x2F52, 0x2F52, 0x6C0F),
  (0x2F53, 0x2F53, 0x6C14), (0x2F54, 0x2F54, 0x6C34), (0x2F55, 0x2F55, 0x706B), (0x2F56, 0x2F56, 0x722A),
  (0x2F57, 0x2F57, 0x7236), (0x2F58, 0x2F58, 0x723B), (0x2F59, 0x2F59, 0x723F), (0x2F5A, 0x2F5A, 0x7247),
  (0x2F5B, 0x2F5B, 0x7259), (0x2F5C, 0x2F5C, 0x725B), (0x2F5D, 0x2F5D, 0x72AC), (0x2F5E, 0x2F5E, 0x7384),
  (0x2F5F, 0x2F5F, 0x7389), (0x2F60, 0x2F60, 0x74DC), (0x2F61, 0x2F61, 0x74E6), (0x2F62, 0x2F62, 0x7518),
  (0x2F63, 0x2F63, 0x751F), (0x2F64, 0x2F64, 0x7528), (0x2F65, 0x2F65, 0x7530), (0x2F66, 0x2F66, 0x758B),
  (0x2F67, 0x2F67, 0x7592), (0x2F68, 0x2F68, 0x7676), (0x2F69, 0x2F69, 0x767D), (0x2F6A, 0x2F6A, 0x76AE),
  (0x2F6B, 0x2F6B, 0x76BF), (0x2F6C, 0x2F6C, 0x76EE), (0x2F6D, 0x2F6D, 0x77DB), (0x2F6E, 0x2F6E, 0x77E2),
  (0x2F6F, 0x2F6F, 0x77F3), (0x2F70, 0x2F70, 0x793A), (0x2F71, 0x2F71, 0x79B8), (0x2F72, 0x2F72, 0x79BE),
  (0x2F73, 0x2F73, 0x7A74), (0x2F74, 0x2F74, 0x7ACB), (0x2F75, 0x2F75, 0x7AF9), (0x2F76, 0x2F76, 0x7C73),
  (0x2F77, 0x2F77, 0x7CF8), (0x2F78, 0x2F78, 0x7F36), (0x2F79, 0x2F79, 0x7F51), (0x2F7A, 0x2F7A, 0x7F8A),
  (0x2F7B, 0x2F7B, 0x7FBD), (0x2F7C, 0x2F7C, 0x8001), (0x2F7D, 0x2F7D, 0x800C), (0x2F7E, 0x2F7E, 0x8012),
  (0x2F7F, 0x2F7F, 0x8033), (0x2F80, 0x2F80, 0x807F), (0x2F81, 0x2F81, 0x8089), (0x2F82, 0x2F82, 0x81E3),
  (0x2F83, 0x2F83, 0x81EA), (0x2F84, 0x2F84, 0x81F3), (0x2F85, 0x2F85, 0x81FC), (0x2F86, 0x2F86, 0x820C),
  (0x2F87, 0x2F87, 0x821B), (0x2F88, 0x2F88, 0x821F), (0x2F89, 0x2F89, 0x826E), (0x2F8A, 0x2F8A, 0x8272),
  (0x2F8B, 0x2F8B, 0x8278), (0x2F8C, 0x2F8C, 0x864D), (0x2F8D, 0x2F8D, 0x866B), (0x2F8E, 0x2F8E, 0x8840),
  (0x2F8F, 0x2F8F, 0x884C), (0x2F90, 0x2F90, 0x8863), (0x2F91, 0x2F91, 0x897E), (0x2F92, 0x2F92, 0x898B),
  (0x2F93, 0x2F93, 0x89D2), (0x2F94, 0x2F94, 0x8A00), (0x2F95, 0x2F95, 0x8C37), (0x2F96, 0x2F96, 0x8C46),
  (0x2F97, 0x2F97, 0x8C55), (0x2F98, 0x2F98, 0x8C78), (0x2F99, 0x2F99, 0x8C9D), (0x2F9A, 0x2F9A, 0x8D64),
  (0x2F9B, 0x2F9B, 0x8D70), (0x2F9C, 0x2F9C, 0x8DB3), (0x2F9D, 0x2F9D, 0x8EAB), (0x2F9E, 0x2F9E, 0x8ECA),
  (0x2F9F, 0x2F9F, 0x8F9B), (0x2FA0, 0x2FA0, 0x8FB0), (0x2FA1, 0x2FA1, 0x8FB5), (0x2FA2, 0x2FA2, 0x9091),
  (0x2FA3, 0x2FA3, 0x9149), (0x2FA4, 0x2FA4, 0x91C6), (0x2FA5, 0x2FA5, 0x91CC), (0x2FA6, 0x2FA6, 0x91D1),
  (0x2FA7, 0x2FA7, 0x9577), (0x2FA8, 0x2FA8, 0x9580), (0x2FA9, 0x2FA9, 0x961C), (0x2FAA, 0x2FAA, 0x96B6),
  (0x2FAB, 0x2FAB, 0x96B9), (0x2FAC, 0x2FAC, 0x96E8), (0x2FAD, 0x2FAD, 0x9751), (0x2FAE, 0x2FAE, 0x975E),
  (0x2FAF, 0x2FAF, 0x9762), (0x2FB0, 0x2FB0, 0x9769), (0x2FB1, 0x2FB1, 0x97CB), (0x2FB2, 0x2FB2, 0x97ED),
  (0x2FB3, 0x2FB3, 0x97F3), (0x2FB4, 0x2FB4, 0x9801), (0x2FB5, 0x2FB5, 0x98A8), (0x2FB6, 0x2FB6, 0x98DB),
  (0x2FB7, 0x2FB7, 0x98DF), (0x2FB8, 0x2FB8, 0x9996), (0x2FB9, 0x2FB9, 0x9999), (0x2FBA, 0x2FBA, 0x99AC),
  (0x2FBB, 0x2FBB, 0x9AA8), (0x2FBC, 0x2FBC, 0x9AD8), (0x2FBD, 0x2FBD, 0x9ADF), (0x2FBE, 0x2FBE, 0x9B25),
  (0x2FBF, 0x2FBF, 0x9B2F), (0x2FC0, 0x2FC0, 0x9B32), (0x2FC1, 0x2FC1, 0x9B3C), (0x2FC2, 0x2FC2, 0x9B5A),
  (0x2FC3, 0x2FC3, 0x9CE5), (0x2FC4, 0x2FC4, 0x9E75), (0x2FC5, 0x2FC5, 0x9E7F), (0x2FC6, 0x2FC6, 0x9EA5),
  (0x2FC7, 0x2FC7, 0x9EBB), (0x2FC8, 0x2FC8, 0x9EC3), (0x2FC9, 0x2FC9, 0x9ECD), (0x2FCA, 0x2FCA, 0x9ED1),
  (0x2FCB, 0x2FCB, 0x9EF9), (0x2FCC, 0x2FCC, 0x9EFD), (0x2FCD, 0x2FCD, 0x9F0E), (0x2FCE, 0x2FCE, 0x9F13),
  (0x2FCF, 0x2FCF, 0x9F20), (0x2FD0, 0x2FD0, 0x9F3B), (0x2FD1, 0x2FD1, 0x9F4A), (0x2FD2, 0x2FD2, 0x9F52),
  (0x2FD3, 0x2FD3, 0x9F8D), (0x2FD4, 0x2FD4, 0x9F9C), (0x2FD5, 0x2FD5, 0x9FA0), (0x3002, 0x3002, 0x2E),
  (0x3036, 0x3036, 0x3012), (0x3038, 0x3038, 0x5341), (0x3039, 0x303A, 0x5344), (0x3131, 0x3132, 0x1100),
  (0x3133, 0x3133, 0x11AA), (0x3134, 0x3134, 0x1102), (0x3135, 0x3136, 0x11AC), (0x3137, 0x3139, 0x1103),
  (0x313A, 0x313F, 0x11B0), (0x3140, 0x3140, 0x111A), (0x3141, 0x3143, 0x1106), (0x3144, 0x3144, 0x1121),
  (0x3145, 0x314E, 0x1109), (0x314F, 0x3163, 0x1161), (0x3165, 0x3166, 0x1114), (0x3167, 0x3168, 0x11C7),
  (0x3169, 0x3169, 0x11CC), (0x316A, 0x316A, 0x11CE), (0x316B, 0x316B, 0x11D3), (0x316C, 0x316C, 0x11D7),
  (0x316D, 0x316D, 0x11D9), (0x316E, 0x316E, 0x111C), (0x316F, 0x316F, 0x11DD), (0x3170, 0x3170, 0x11DF),
  (0x3171, 0x3172, 0x111D), (0x3173, 0x3173, 0x1120), (0x3174, 0x3175, 0x1122), (0x3176, 0x3176, 0x1127),
  (0x3177, 0x3177, 0x1129), (0x3178, 0x317C, 0x112B), (0x317D, 0x317D, 0x1132), (0x317E, 0x317E, 0x1136),
  (0x317F, 0x317F, 0x1140), (0x3180, 0x3180, 0x1147), (0x3181, 0x3181, 0x114C), (0x3182, 0x3183, 0x11F1),
  (0x3184, 0x3186, 0x1157), (0x3187, 0x3188, 0x1184), (0x3189, 0x3189, 0x1188), (0x318A, 0x318B, 0x1191),
  (0x318C, 0x318C, 0x1194), (0x318D, 0x318D, 0x119E), (0x318E, 0x318E, 0x11A1), (0x3192, 0x3192, 0x4E00),
  (0x3193, 0x3193, 0x4E8C), (0x3194, 0x3194, 0x4E09), (0x3195, 0x3195, 0x56DB), (0x3196, 0x3196, 0x4E0A),
  (0x3197, 0x3197, 0x4E2D), (0x3198, 0x3198, 0x4E0B), (0x3199, 0x3199, 0x7532), (0x319A, 0x319A, 0x4E59),
  (0x319B, 0x319B, 0x4E19), (0x319C, 0x319C, 0x4E01), (0x319D, 0x319D, 0x5929), (0x319E, 0x319E, 0x5730),
  (0x319F, 0x319F, 0x4EBA), (0x3244, 0x3244, 0x554F), (0x3245, 0x3245, 0x5E7C), (0x3246, 0x3246, 0x6587),
  (0x3247, 0x3247, 0x7B8F), (0x3260, 0x3260, 0x1100), (0x3261, 0x3262, 0x1102), (0x3263, 0x3265, 0x1105),
  (0x3266, 0x3266, 0x1109), (0x3267, 0x3268, 0x110B), (0x3269, 0x326D, 0x110E), (0x326E, 0x326E, 0xAC00),
  (0x326F, 0x326F, 0xB098), (0x3270, 0x3270, 0xB2E4), (0x3271, 0x3271, 0xB77C), (0x3272, 0x3272, 0xB9C8),
  (0x3273, 0x3273, 0xBC14), (0x3274, 0x3274, 0xC0AC), (0x3275, 0x3275, 0xC544), (0x3276, 0x3276, 0xC790),
  (0x3277, 0x3277, 0xCC28), (0x3278, 0x3278, 0xCE74), (0x3279, 0x3279, 0xD0C0), (0x327A, 0x327A, 0xD30C),
  (0x327B, 0x327B, 0xD558), (0x327E, 0x327E, 0xC6B0), (0x3280, 0x3280, 0x4E00), (0x3281, 0x3281, 0x4E8C),
  (0x3282, 0x3282, 0x4E09), (0x3283, 0x3283, 0x56DB), (0x3284, 0x3284, 0x4E94), (0x3285, 0x3285, 0x516D),
  (0x3286, 0x3286, 0x4E03), (0x3287, 0x3287, 0x516B), (0x3288, 0x3288, 0x4E5D), (0x3289, 0x3289, 0x5341),
  (0x328A, 0x328A, 0x6708), (0x328B, 0x328B, 0x706B), (0x328C, 0x328C, 0x6C34), (0x328D, 0x328D, 0x6728),
  (0x328E, 0x328E, 0x91D1), (0x328F, 0x328F, 0x571F), (0x3290, 0x3290, 0x65E5), (0x3291, 0x3291, 0x682A),
  (0x3292, 0x3292, 0x6709), (0x3293, 0x3293, 0x793E), (0x3294, 0x3294, 0x540D), (0x3295, 0x3295, 0x7279),
  (0x3296, 0x3296, 0x8CA1), (0x3297, 0x3297, 0x795D), (0x3298, 0x3298, 0x52B4), (0x3299, 0x3299, 0x79D8),
  (0x329A, 0x329A, 0x7537), (0x329B, 0x329B, 0x5973), (0x329C, 0x329C, 0x9069), (0x329D, 0x329D, 0x512A),
  (0x329E, 0x329E, 0x5370), (0x329F, 0x329F, 0x6CE8), (0x32A0, 0x32A0, 0x9805), (0x32A1, 0x32A1, 0x4F11),
  (0x32A2, 0x32A2, 0x5199), (0x32A3, 0x32A3, 0x6B63), (0x32A4, 0x32A4, 0x4E0A), (0x32A5, 0x32A5, 0x4E2D),
  (0x32A6, 0x32A6, 0x4E0B), (0x32A7, 0x32A7, 0x5DE6), (0x32A8, 0x32A8, 0x53F3), (0x32A9, 0x32A9, 0x533B),
  (0x32AA, 0x32AA, 0x5B97), (0x32AB, 0x32AB, 0x5B66), (0x32AC, 0x32AC, 0x76E3), (0x32AD, 0x32AD, 0x4F01),
  (0x32AE, 0x32AE, 0x8CC7), (0x32AF, 0x32AF, 0x5354), (0x32B0, 0x32B0, 0x591C), (0x32D0, 0x32D0, 0x30A2),
  (0x32D1, 0x32D1, 0x30A4), (0x32D2, 0x32D2, 0x30A6), (0x32D3, 0x32D3, 0x30A8), (0x32D4, 0x32D5, 0x30AA),
  (0x32D6, 0x32D6, 0x30AD), (0x32D7, 0x32D7, 0x30AF), (0x32D8, 0x32D8, 0x30B1), (0x32D9, 0x32D9, 0x30B3),
  (0x32DA, 0x32DA, 0x30B5), (0x32DB, 0x32DB, 0x30B7), (0x32DC, 0x32DC, 0x30B9), (0x32DD, 0x32DD, 0x30BB),
  (0x32DE, 0x32DE, 0x30BD), (0x32DF, 0x32DF, 0x30BF), (0x32E0, 0x32E0, 0x30C1), (0x32E1, 0x32E1, 0x30C4),
  (0x32E2, 0x32E2, 0x30C6), (0x32E3, 0x32E3, 0x30C8), (0x32E4, 0x32E9, 0x30CA), (0x32EA, 0x32EA, 0x30D2),
  (0x32EB, 0x32EB, 0x30D5), (0x32EC, 0x32EC, 0x30D8), (0x32ED, 0x32ED, 0x30DB), (0x32EE, 0x32F2, 0x30DE),
  (0x32F3, 0x32F3, 0x30E4), (0x32F4, 0x32F4, 0x30E6), (0x32F5, 0x32FA, 0x30E8), (0x32FB, 0x32FE, 0x30EF),
  (0xA69C, 0xA69C, 0x44A), (0xA69D, 0xA69D, 0x44C), (0xA770, 0xA770, 0xA76F), (0xA77D, 0xA77D, 0x1D79),
  (0xA78D, 0xA78D, 0x265), (0xA7AA, 0xA7AA, 0x266), (0xA7AB, 0xA7AB, 0x25C), (0xA7AC, 0xA7AC, 0x261),
  (0xA7AD, 0xA7AD, 0x26C), (0xA7AE, 0xA7AE, 0x26A), (0xA7B0, 0xA7B0, 0x29E), (0xA7B1, 0xA7B1, 0x287),
  (0xA7B2, 0xA7B2, 0x29D), (0xA7B3, 0xA7B3, 0xAB53), (0xA7C4, 0xA7C4, 0xA794), (0xA7C5, 0xA7C5, 0x282),
  (0xA7C6, 0xA7C6, 0x1D8E), (0xA7F2, 0xA7F2, 0x63), (0xA7F3, 0xA7F3, 0x66), (0xA7F4, 0xA7F4, 0x71),
  (0xA7F8, 0xA7F8, 0x127), (0xA7F9, 0xA7F9, 0x153), (0xAB5C, 0xAB5C, 0xA727), (0xAB5D, 0xAB5D, 0xAB37),
  (0xAB5E, 0xAB5E, 0x26B), (0xAB5F, 0xAB5F, 0xAB52), (0xAB69, 0xAB69, 0x28D), (0xAB70, 0xABBF, 0x13A0)]

-- The same for shapes of letters.
def shapeRuns : Array (Nat × Nat × Nat) := #[
  (0xFB20, 0xFB20, 0x5E2), (0xFB21, 0xFB21, 0x5D0), (0xFB22, 0xFB23, 0x5D3), (0xFB24, 0xFB26, 0x5DB),
  (0xFB27, 0xFB27, 0x5E8), (0xFB28, 0xFB28, 0x5EA), (0xFB29, 0xFB29, 0x2B), (0xFB50, 0xFB50, 0x671),
  (0xFB51, 0xFB51, 0x671), (0xFB52, 0xFB52, 0x67B), (0xFB53, 0xFB53, 0x67B), (0xFB54, 0xFB54, 0x67B),
  (0xFB55, 0xFB55, 0x67B), (0xFB56, 0xFB56, 0x67E), (0xFB57, 0xFB57, 0x67E), (0xFB58, 0xFB58, 0x67E),
  (0xFB59, 0xFB59, 0x67E), (0xFB5A, 0xFB5A, 0x680), (0xFB5B, 0xFB5B, 0x680), (0xFB5C, 0xFB5C, 0x680),
  (0xFB5D, 0xFB5D, 0x680), (0xFB5E, 0xFB5E, 0x67A), (0xFB5F, 0xFB5F, 0x67A), (0xFB60, 0xFB60, 0x67A),
  (0xFB61, 0xFB61, 0x67A), (0xFB62, 0xFB62, 0x67F), (0xFB63, 0xFB63, 0x67F), (0xFB64, 0xFB64, 0x67F),
  (0xFB65, 0xFB65, 0x67F), (0xFB66, 0xFB66, 0x679), (0xFB67, 0xFB67, 0x679), (0xFB68, 0xFB68, 0x679),
  (0xFB69, 0xFB69, 0x679), (0xFB6A, 0xFB6A, 0x6A4), (0xFB6B, 0xFB6B, 0x6A4), (0xFB6C, 0xFB6C, 0x6A4),
  (0xFB6D, 0xFB6D, 0x6A4), (0xFB6E, 0xFB6E, 0x6A6), (0xFB6F, 0xFB6F, 0x6A6), (0xFB70, 0xFB70, 0x6A6),
  (0xFB71, 0xFB71, 0x6A6), (0xFB72, 0xFB72, 0x684), (0xFB73, 0xFB73, 0x684), (0xFB74, 0xFB74, 0x684),
  (0xFB75, 0xFB75, 0x684), (0xFB76, 0xFB76, 0x683), (0xFB77, 0xFB77, 0x683), (0xFB78, 0xFB78, 0x683),
  (0xFB79, 0xFB79, 0x683), (0xFB7A, 0xFB7A, 0x686), (0xFB7B, 0xFB7B, 0x686), (0xFB7C, 0xFB7C, 0x686),
  (0xFB7D, 0xFB7E, 0x686), (0xFB7F, 0xFB7F, 0x687), (0xFB80, 0xFB80, 0x687), (0xFB81, 0xFB81, 0x687),
  (0xFB82, 0xFB82, 0x68D), (0xFB83, 0xFB83, 0x68D), (0xFB84, 0xFB84, 0x68C), (0xFB85, 0xFB85, 0x68C),
  (0xFB86, 0xFB86, 0x68E), (0xFB87, 0xFB87, 0x68E), (0xFB88, 0xFB88, 0x688), (0xFB89, 0xFB89, 0x688),
  (0xFB8A, 0xFB8A, 0x698), (0xFB8B, 0xFB8B, 0x698), (0xFB8C, 0xFB8C, 0x691), (0xFB8D, 0xFB8D, 0x691),
  (0xFB8E, 0xFB8E, 0x6A9), (0xFB8F, 0xFB8F, 0x6A9), (0xFB90, 0xFB90, 0x6A9), (0xFB91, 0xFB91, 0x6A9),
  (0xFB92, 0xFB92, 0x6AF), (0xFB93, 0xFB93, 0x6AF), (0xFB94, 0xFB94, 0x6AF), (0xFB95, 0xFB95, 0x6AF),
  (0xFB96, 0xFB96, 0x6B3), (0xFB97, 0xFB97, 0x6B3), (0xFB98, 0xFB98, 0x6B3), (0xFB99, 0xFB99, 0x6B3),
  (0xFB9A, 0xFB9A, 0x6B1), (0xFB9B, 0xFB9B, 0x6B1), (0xFB9C, 0xFB9C, 0x6B1), (0xFB9D, 0xFB9D, 0x6B1),
  (0xFB9E, 0xFB9E, 0x6BA), (0xFB9F, 0xFBA0, 0x6BA), (0xFBA1, 0xFBA1, 0x6BB), (0xFBA2, 0xFBA2, 0x6BB),
  (0xFBA3, 0xFBA3, 0x6BB), (0xFBA4, 0xFBA4, 0x6C0), (0xFBA5, 0xFBA6, 0x6C0), (0xFBA7, 0xFBA7, 0x6C1),
  (0xFBA8, 0xFBA8, 0x6C1), (0xFBA9, 0xFBA9, 0x6C1), (0xFBAA, 0xFBAA, 0x6BE), (0xFBAB, 0xFBAB, 0x6BE),
  (0xFBAC, 0xFBAC, 0x6BE), (0xFBAD, 0xFBAD, 0x6BE), (0xFBAE, 0xFBAE, 0x6D2), (0xFBAF, 0xFBB0, 0x6D2),
  (0xFBB1, 0xFBB1, 0x6D3), (0xFBD3, 0xFBD3, 0x6AD), (0xFBD4, 0xFBD4, 0x6AD), (0xFBD5, 0xFBD5, 0x6AD),
  (0xFBD6, 0xFBD6, 0x6AD), (0xFBD7, 0xFBD7, 0x6C7), (0xFBD8, 0xFBD8, 0x6C7), (0xFBD9, 0xFBD9, 0x6C6),
  (0xFBDA, 0xFBDA, 0x6C6), (0xFBDB, 0xFBDB, 0x6C8), (0xFBDC, 0xFBDC, 0x6C8), (0xFBDE, 0xFBDE, 0x6CB),
  (0xFBDF, 0xFBDF, 0x6CB), (0xFBE0, 0xFBE0, 0x6C5), (0xFBE1, 0xFBE1, 0x6C5), (0xFBE2, 0xFBE2, 0x6C9),
  (0xFBE3, 0xFBE3, 0x6C9), (0xFBE4, 0xFBE4, 0x6D0), (0xFBE5, 0xFBE5, 0x6D0), (0xFBE6, 0xFBE6, 0x6D0),
  (0xFBE7, 0xFBE7, 0x6D0), (0xFBE8, 0xFBE8, 0x649), (0xFBE9, 0xFBE9, 0x649), (0xFBFC, 0xFBFC, 0x6CC),
  (0xFBFD, 0xFBFD, 0x6CC), (0xFBFE, 0xFBFE, 0x6CC), (0xFBFF, 0xFBFF, 0x6CC), (0xFE10, 0xFE10, 0x2C),
  (0xFE11, 0xFE11, 0x3001), (0xFE13, 0xFE14, 0x3A), (0xFE15, 0xFE15, 0x21), (0xFE16, 0xFE16, 0x3F),
  (0xFE17, 0xFE18, 0x3016), (0xFE31, 0xFE31, 0x2014), (0xFE32, 0xFE32, 0x2013), (0xFE33, 0xFE33, 0x5F),
  (0xFE34, 0xFE34, 0x5F), (0xFE35, 0xFE36, 0x28), (0xFE37, 0xFE37, 0x7B), (0xFE38, 0xFE38, 0x7D),
  (0xFE39, 0xFE3A, 0x3014), (0xFE3B, 0xFE3C, 0x3010), (0xFE3D, 0xFE3E, 0x300A), (0xFE3F, 0xFE40, 0x3008),
  (0xFE41, 0xFE44, 0x300C), (0xFE47, 0xFE47, 0x5B), (0xFE48, 0xFE48, 0x5D), (0xFE4D, 0xFE4D, 0x5F),
  (0xFE4E, 0xFE4E, 0x5F), (0xFE4F, 0xFE4F, 0x5F), (0xFE50, 0xFE50, 0x2C), (0xFE51, 0xFE51, 0x3001),
  (0xFE54, 0xFE54, 0x3B), (0xFE55, 0xFE55, 0x3A), (0xFE56, 0xFE56, 0x3F), (0xFE57, 0xFE57, 0x21),
  (0xFE58, 0xFE58, 0x2014), (0xFE59, 0xFE5A, 0x28), (0xFE5B, 0xFE5B, 0x7B), (0xFE5C, 0xFE5C, 0x7D),
  (0xFE5D, 0xFE5E, 0x3014), (0xFE5F, 0xFE5F, 0x23), (0xFE60, 0xFE60, 0x26), (0xFE61, 0xFE62, 0x2A),
  (0xFE63, 0xFE63, 0x2D), (0xFE64, 0xFE64, 0x3C), (0xFE65, 0xFE65, 0x3E), (0xFE66, 0xFE66, 0x3D),
  (0xFE68, 0xFE68, 0x5C), (0xFE69, 0xFE6A, 0x24), (0xFE6B, 0xFE6B, 0x40), (0xFE80, 0xFE81, 0x621),
  (0xFE82, 0xFE83, 0x622), (0xFE84, 0xFE85, 0x623), (0xFE86, 0xFE87, 0x624), (0xFE88, 0xFE89, 0x625),
  (0xFE8A, 0xFE8A, 0x626), (0xFE8B, 0xFE8B, 0x626), (0xFE8C, 0xFE8D, 0x626), (0xFE8E, 0xFE8F, 0x627),
  (0xFE90, 0xFE90, 0x628), (0xFE91, 0xFE91, 0x628), (0xFE92, 0xFE93, 0x628), (0xFE94, 0xFE95, 0x629),
  (0xFE96, 0xFE96, 0x62A), (0xFE97, 0xFE97, 0x62A), (0xFE98, 0xFE99, 0x62A), (0xFE9A, 0xFE9A, 0x62B),
  (0xFE9B, 0xFE9B, 0x62B), (0xFE9C, 0xFE9D, 0x62B), (0xFE9E, 0xFE9E, 0x62C), (0xFE9F, 0xFE9F, 0x62C),
  (0xFEA0, 0xFEA1, 0x62C), (0xFEA2, 0xFEA2, 0x62D), (0xFEA3, 0xFEA3, 0x62D), (0xFEA4, 0xFEA5, 0x62D),
  (0xFEA6, 0xFEA6, 0x62E), (0xFEA7, 0xFEA7, 0x62E), (0xFEA8, 0xFEA9, 0x62E), (0xFEAA, 0xFEAB, 0x62F),
  (0xFEAC, 0xFEAD, 0x630), (0xFEAE, 0xFEAF, 0x631), (0xFEB0, 0xFEB1, 0x632), (0xFEB2, 0xFEB2, 0x633),
  (0xFEB3, 0xFEB3, 0x633), (0xFEB4, 0xFEB5, 0x633), (0xFEB6, 0xFEB6, 0x634), (0xFEB7, 0xFEB7, 0x634),
  (0xFEB8, 0xFEB9, 0x634), (0xFEBA, 0xFEBA, 0x635), (0xFEBB, 0xFEBB, 0x635), (0xFEBC, 0xFEBD, 0x635),
  (0xFEBE, 0xFEBE, 0x636), (0xFEBF, 0xFEBF, 0x636), (0xFEC0, 0xFEC1, 0x636), (0xFEC2, 0xFEC2, 0x637),
  (0xFEC3, 0xFEC3, 0x637), (0xFEC4, 0xFEC5, 0x637), (0xFEC6, 0xFEC6, 0x638), (0xFEC7, 0xFEC7, 0x638),
  (0xFEC8, 0xFEC9, 0x638), (0xFECA, 0xFECA, 0x639), (0xFECB, 0xFECB, 0x639), (0xFECC, 0xFECD, 0x639),
  (0xFECE, 0xFECE, 0x63A), (0xFECF, 0xFECF, 0x63A), (0xFED0, 0xFED0, 0x63A), (0xFED1, 0xFED1, 0x641),
  (0xFED2, 0xFED2, 0x641), (0xFED3, 0xFED3, 0x641), (0xFED4, 0xFED5, 0x641), (0xFED6, 0xFED6, 0x642),
  (0xFED7, 0xFED7, 0x642), (0xFED8, 0xFED9, 0x642), (0xFEDA, 0xFEDA, 0x643), (0xFEDB, 0xFEDB, 0x643),
  (0xFEDC, 0xFEDD, 0x643), (0xFEDE, 0xFEDE, 0x644), (0xFEDF, 0xFEDF, 0x644), (0xFEE0, 0xFEE1, 0x644),
  (0xFEE2, 0xFEE2, 0x645), (0xFEE3, 0xFEE3, 0x645), (0xFEE4, 0xFEE5, 0x645), (0xFEE6, 0xFEE6, 0x646),
  (0xFEE7, 0xFEE7, 0x646), (0xFEE8, 0xFEE9, 0x646), (0xFEEA, 0xFEEA, 0x647), (0xFEEB, 0xFEEB, 0x647),
  (0xFEEC, 0xFEED, 0x647), (0xFEEE, 0xFEEF, 0x648), (0xFEF0, 0xFEF1, 0x649), (0xFEF2, 0xFEF2, 0x64A),
  (0xFEF3, 0xFEF3, 0x64A), (0xFEF4, 0xFEF4, 0x64A), (0xFF01, 0xFF20, 0x21), (0xFF21, 0xFF3A, 0x61),
  (0xFF3B, 0xFF5E, 0x5B), (0xFF5F, 0xFF60, 0x2985), (0xFF61, 0xFF61, 0x2E), (0xFF62, 0xFF63, 0x300C),
  (0xFF64, 0xFF64, 0x3001), (0xFF65, 0xFF65, 0x30FB), (0xFF66, 0xFF66, 0x30F2), (0xFF67, 0xFF67, 0x30A1),
  (0xFF68, 0xFF68, 0x30A3), (0xFF69, 0xFF69, 0x30A5), (0xFF6A, 0xFF6A, 0x30A7), (0xFF6B, 0xFF6B, 0x30A9),
  (0xFF6C, 0xFF6C, 0x30E3), (0xFF6D, 0xFF6D, 0x30E5), (0xFF6E, 0xFF6E, 0x30E7), (0xFF6F, 0xFF6F, 0x30C3),
  (0xFF70, 0xFF70, 0x30FC), (0xFF71, 0xFF71, 0x30A2), (0xFF72, 0xFF72, 0x30A4), (0xFF73, 0xFF73, 0x30A6),
  (0xFF74, 0xFF74, 0x30A8), (0xFF75, 0xFF76, 0x30AA), (0xFF77, 0xFF77, 0x30AD), (0xFF78, 0xFF78, 0x30AF),
  (0xFF79, 0xFF79, 0x30B1), (0xFF7A, 0xFF7A, 0x30B3), (0xFF7B, 0xFF7B, 0x30B5), (0xFF7C, 0xFF7C, 0x30B7),
  (0xFF7D, 0xFF7D, 0x30B9), (0xFF7E, 0xFF7E, 0x30BB), (0xFF7F, 0xFF7F, 0x30BD), (0xFF80, 0xFF80, 0x30BF),
  (0xFF81, 0xFF81, 0x30C1), (0xFF82, 0xFF82, 0x30C4), (0xFF83, 0xFF83, 0x30C6), (0xFF84, 0xFF84, 0x30C8),
  (0xFF85, 0xFF8A, 0x30CA), (0xFF8B, 0xFF8B, 0x30D2), (0xFF8C, 0xFF8C, 0x30D5), (0xFF8D, 0xFF8D, 0x30D8),
  (0xFF8E, 0xFF8E, 0x30DB), (0xFF8F, 0xFF93, 0x30DE), (0xFF94, 0xFF94, 0x30E4), (0xFF95, 0xFF95, 0x30E6),
  (0xFF96, 0xFF9B, 0x30E8), (0xFF9C, 0xFF9C, 0x30EF), (0xFF9D, 0xFF9D, 0x30F3), (0xFF9E, 0xFF9F, 0x3099),
  (0xFFA1, 0xFFA2, 0x1100), (0xFFA3, 0xFFA3, 0x11AA), (0xFFA4, 0xFFA4, 0x1102), (0xFFA5, 0xFFA6, 0x11AC),
  (0xFFA7, 0xFFA9, 0x1103), (0xFFAA, 0xFFAF, 0x11B0), (0xFFB0, 0xFFB0, 0x111A), (0xFFB1, 0xFFB3, 0x1106),
  (0xFFB4, 0xFFB4, 0x1121), (0xFFB5, 0xFFBE, 0x1109), (0xFFC2, 0xFFC7, 0x1161), (0xFFCA, 0xFFCF, 0x1167),
  (0xFFD2, 0xFFD7, 0x116D), (0xFFDA, 0xFFDC, 0x1173), (0xFFE0, 0xFFE1, 0xA2), (0xFFE2, 0xFFE2, 0xAC),
  (0xFFE4, 0xFFE4, 0xA6), (0xFFE5, 0xFFE5, 0xA5), (0xFFE6, 0xFFE6, 0x20A9), (0xFFE8, 0xFFE8, 0x2502),
  (0xFFE9, 0xFFEC, 0x2190), (0xFFED, 0xFFED, 0x25A0), (0xFFEE, 0xFFEE, 0x25CB)]

-- The same beyond U+FFFF.
def rareRuns : Array (Nat × Nat × Nat) := #[
  (0x10400, 0x10427, 0x10428), (0x104B0, 0x104D3, 0x104D8), (0x10570, 0x1057A, 0x10597),
  (0x1057C, 0x1058A, 0x105A3), (0x1058C, 0x10592, 0x105B3), (0x10594, 0x10595, 0x105BB),
  (0x10781, 0x10782, 0x2D0), (0x10783, 0x10783, 0xE6), (0x10784, 0x10784, 0x299), (0x10785, 0x10785, 0x253),
  (0x10787, 0x10787, 0x2A3), (0x10788, 0x10788, 0xAB66), (0x10789, 0x10789, 0x2A5),
  (0x1078A, 0x1078A, 0x2A4), (0x1078B, 0x1078C, 0x256), (0x1078D, 0x1078D, 0x1D91),
  (0x1078E, 0x1078E, 0x258), (0x1078F, 0x1078F, 0x25E), (0x10790, 0x10790, 0x2A9), (0x10791, 0x10791, 0x264),
  (0x10792, 0x10792, 0x262), (0x10793, 0x10793, 0x260), (0x10794, 0x10794, 0x29B), (0x10795, 0x10795, 0x127),
  (0x10796, 0x10796, 0x29C), (0x10797, 0x10797, 0x267), (0x10798, 0x10798, 0x284), (0x10799, 0x1079A, 0x2AA),
  (0x1079B, 0x1079B, 0x26C), (0x1079C, 0x1079C, 0x1DF04), (0x1079D, 0x1079D, 0xA78E),
  (0x1079E, 0x1079E, 0x26E), (0x1079F, 0x1079F, 0x1DF05), (0x107A0, 0x107A0, 0x28E),
  (0x107A1, 0x107A1, 0x1DF06), (0x107A2, 0x107A2, 0xF8), (0x107A3, 0x107A4, 0x276), (0x107A5, 0x107A5, 0x71),
  (0x107A6, 0x107A6, 0x27A), (0x107A7, 0x107A7, 0x1DF08), (0x107A8, 0x107A9, 0x27D),
  (0x107AA, 0x107AA, 0x280), (0x107AB, 0x107AB, 0x2A8), (0x107AC, 0x107AC, 0x2A6),
  (0x107AD, 0x107AD, 0xAB67), (0x107AE, 0x107AE, 0x2A7), (0x107AF, 0x107AF, 0x288),
  (0x107B0, 0x107B0, 0x2C71), (0x107B2, 0x107B2, 0x28F), (0x107B3, 0x107B4, 0x2A1),
  (0x107B5, 0x107B5, 0x298), (0x107B6, 0x107B8, 0x1C0), (0x107B9, 0x107B9, 0x1DF0A),
  (0x107BA, 0x107BA, 0x1DF1E), (0x10C80, 0x10CB2, 0x10CC0), (0x118A0, 0x118BF, 0x118C0),
  (0x16E40, 0x16E5F, 0x16E60), (0x1D400, 0x1D419, 0x61), (0x1D41A, 0x1D433, 0x61), (0x1D434, 0x1D44D, 0x61),
  (0x1D44E, 0x1D454, 0x61), (0x1D456, 0x1D467, 0x69), (0x1D468, 0x1D481, 0x61), (0x1D482, 0x1D49B, 0x61),
  (0x1D49C, 0x1D49C, 0x61), (0x1D49E, 0x1D49F, 0x63), (0x1D4A2, 0x1D4A2, 0x67), (0x1D4A5, 0x1D4A6, 0x6A),
  (0x1D4A9, 0x1D4AC, 0x6E), (0x1D4AE, 0x1D4B5, 0x73), (0x1D4B6, 0x1D4B9, 0x61), (0x1D4BB, 0x1D4BB, 0x66),
  (0x1D4BD, 0x1D4C3, 0x68), (0x1D4C5, 0x1D4CF, 0x70), (0x1D4D0, 0x1D4E9, 0x61), (0x1D4EA, 0x1D503, 0x61),
  (0x1D504, 0x1D505, 0x61), (0x1D507, 0x1D50A, 0x64), (0x1D50D, 0x1D514, 0x6A), (0x1D516, 0x1D51C, 0x73),
  (0x1D51E, 0x1D537, 0x61), (0x1D538, 0x1D539, 0x61), (0x1D53B, 0x1D53E, 0x64), (0x1D540, 0x1D544, 0x69),
  (0x1D546, 0x1D546, 0x6F), (0x1D54A, 0x1D550, 0x73), (0x1D552, 0x1D56B, 0x61), (0x1D56C, 0x1D585, 0x61),
  (0x1D586, 0x1D59F, 0x61), (0x1D5A0, 0x1D5B9, 0x61), (0x1D5BA, 0x1D5D3, 0x61), (0x1D5D4, 0x1D5ED, 0x61),
  (0x1D5EE, 0x1D607, 0x61), (0x1D608, 0x1D621, 0x61), (0x1D622, 0x1D63B, 0x61), (0x1D63C, 0x1D655, 0x61),
  (0x1D656, 0x1D66F, 0x61), (0x1D670, 0x1D689, 0x61), (0x1D68A, 0x1D6A3, 0x61), (0x1D6A4, 0x1D6A4, 0x131),
  (0x1D6A5, 0x1D6A5, 0x237), (0x1D6A8, 0x1D6B8, 0x3B1), (0x1D6B9, 0x1D6B9, 0x3B8), (0x1D6BA, 0x1D6C0, 0x3C3),
  (0x1D6C1, 0x1D6C1, 0x2207), (0x1D6C2, 0x1D6D2, 0x3B1), (0x1D6D3, 0x1D6D3, 0x3C3),
  (0x1D6D4, 0x1D6DA, 0x3C3), (0x1D6DB, 0x1D6DB, 0x2202), (0x1D6DC, 0x1D6DC, 0x3B5),
  (0x1D6DD, 0x1D6DD, 0x3B8), (0x1D6DE, 0x1D6DE, 0x3BA), (0x1D6DF, 0x1D6DF, 0x3C6), (0x1D6E0, 0x1D6E0, 0x3C1),
  (0x1D6E1, 0x1D6E1, 0x3C0), (0x1D6E2, 0x1D6F2, 0x3B1), (0x1D6F3, 0x1D6F3, 0x3B8), (0x1D6F4, 0x1D6FA, 0x3C3),
  (0x1D6FB, 0x1D6FB, 0x2207), (0x1D6FC, 0x1D70C, 0x3B1), (0x1D70D, 0x1D70D, 0x3C3),
  (0x1D70E, 0x1D714, 0x3C3), (0x1D715, 0x1D715, 0x2202), (0x1D716, 0x1D716, 0x3B5),
  (0x1D717, 0x1D717, 0x3B8), (0x1D718, 0x1D718, 0x3BA), (0x1D719, 0x1D719, 0x3C6), (0x1D71A, 0x1D71A, 0x3C1),
  (0x1D71B, 0x1D71B, 0x3C0), (0x1D71C, 0x1D72C, 0x3B1), (0x1D72D, 0x1D72D, 0x3B8), (0x1D72E, 0x1D734, 0x3C3),
  (0x1D735, 0x1D735, 0x2207), (0x1D736, 0x1D746, 0x3B1), (0x1D747, 0x1D747, 0x3C3),
  (0x1D748, 0x1D74E, 0x3C3), (0x1D74F, 0x1D74F, 0x2202), (0x1D750, 0x1D750, 0x3B5),
  (0x1D751, 0x1D751, 0x3B8), (0x1D752, 0x1D752, 0x3BA), (0x1D753, 0x1D753, 0x3C6), (0x1D754, 0x1D754, 0x3C1),
  (0x1D755, 0x1D755, 0x3C0), (0x1D756, 0x1D766, 0x3B1), (0x1D767, 0x1D767, 0x3B8), (0x1D768, 0x1D76E, 0x3C3),
  (0x1D76F, 0x1D76F, 0x2207), (0x1D770, 0x1D780, 0x3B1), (0x1D781, 0x1D781, 0x3C3),
  (0x1D782, 0x1D788, 0x3C3), (0x1D789, 0x1D789, 0x2202), (0x1D78A, 0x1D78A, 0x3B5),
  (0x1D78B, 0x1D78B, 0x3B8), (0x1D78C, 0x1D78C, 0x3BA), (0x1D78D, 0x1D78D, 0x3C6), (0x1D78E, 0x1D78E, 0x3C1),
  (0x1D78F, 0x1D78F, 0x3C0), (0x1D790, 0x1D7A0, 0x3B1), (0x1D7A1, 0x1D7A1, 0x3B8), (0x1D7A2, 0x1D7A8, 0x3C3),
  (0x1D7A9, 0x1D7A9, 0x2207), (0x1D7AA, 0x1D7BA, 0x3B1), (0x1D7BB, 0x1D7BB, 0x3C3),
  (0x1D7BC, 0x1D7C2, 0x3C3), (0x1D7C3, 0x1D7C3, 0x2202), (0x1D7C4, 0x1D7C4, 0x3B5),
  (0x1D7C5, 0x1D7C5, 0x3B8), (0x1D7C6, 0x1D7C6, 0x3BA), (0x1D7C7, 0x1D7C7, 0x3C6), (0x1D7C8, 0x1D7C8, 0x3C1),
  (0x1D7C9, 0x1D7C9, 0x3C0), (0x1D7CA, 0x1D7CA, 0x3DD), (0x1D7CB, 0x1D7CB, 0x3DD), (0x1D7CE, 0x1D7D7, 0x30),
  (0x1D7D8, 0x1D7E1, 0x30), (0x1D7E2, 0x1D7EB, 0x30), (0x1D7EC, 0x1D7F5, 0x30), (0x1D7F6, 0x1D7FF, 0x30),
  (0x1E900, 0x1E921, 0x1E922), (0x1EE00, 0x1EE01, 0x627), (0x1EE02, 0x1EE02, 0x62C),
  (0x1EE03, 0x1EE03, 0x62F), (0x1EE05, 0x1EE05, 0x648), (0x1EE06, 0x1EE06, 0x632), (0x1EE07, 0x1EE07, 0x62D),
  (0x1EE08, 0x1EE08, 0x637), (0x1EE09, 0x1EE09, 0x64A), (0x1EE0A, 0x1EE0D, 0x643), (0x1EE0E, 0x1EE0E, 0x633),
  (0x1EE0F, 0x1EE0F, 0x639), (0x1EE10, 0x1EE10, 0x641), (0x1EE11, 0x1EE11, 0x635), (0x1EE12, 0x1EE12, 0x642),
  (0x1EE13, 0x1EE13, 0x631), (0x1EE14, 0x1EE14, 0x634), (0x1EE15, 0x1EE16, 0x62A), (0x1EE17, 0x1EE17, 0x62E),
  (0x1EE18, 0x1EE18, 0x630), (0x1EE19, 0x1EE19, 0x636), (0x1EE1A, 0x1EE1A, 0x638), (0x1EE1B, 0x1EE1B, 0x63A),
  (0x1EE1C, 0x1EE1C, 0x66E), (0x1EE1D, 0x1EE1D, 0x6BA), (0x1EE1E, 0x1EE1E, 0x6A1), (0x1EE1F, 0x1EE1F, 0x66F),
  (0x1EE21, 0x1EE21, 0x628), (0x1EE22, 0x1EE22, 0x62C), (0x1EE24, 0x1EE24, 0x647), (0x1EE27, 0x1EE27, 0x62D),
  (0x1EE29, 0x1EE29, 0x64A), (0x1EE2A, 0x1EE2D, 0x643), (0x1EE2E, 0x1EE2E, 0x633), (0x1EE2F, 0x1EE2F, 0x639),
  (0x1EE30, 0x1EE30, 0x641), (0x1EE31, 0x1EE31, 0x635), (0x1EE32, 0x1EE32, 0x642), (0x1EE34, 0x1EE34, 0x634),
  (0x1EE35, 0x1EE36, 0x62A), (0x1EE37, 0x1EE37, 0x62E), (0x1EE39, 0x1EE39, 0x636), (0x1EE3B, 0x1EE3B, 0x63A),
  (0x1EE42, 0x1EE42, 0x62C), (0x1EE47, 0x1EE47, 0x62D), (0x1EE49, 0x1EE49, 0x64A), (0x1EE4B, 0x1EE4B, 0x644),
  (0x1EE4D, 0x1EE4D, 0x646), (0x1EE4E, 0x1EE4E, 0x633), (0x1EE4F, 0x1EE4F, 0x639), (0x1EE51, 0x1EE51, 0x635),
  (0x1EE52, 0x1EE52, 0x642), (0x1EE54, 0x1EE54, 0x634), (0x1EE57, 0x1EE57, 0x62E), (0x1EE59, 0x1EE59, 0x636),
  (0x1EE5B, 0x1EE5B, 0x63A), (0x1EE5D, 0x1EE5D, 0x6BA), (0x1EE5F, 0x1EE5F, 0x66F), (0x1EE61, 0x1EE61, 0x628),
  (0x1EE62, 0x1EE62, 0x62C), (0x1EE64, 0x1EE64, 0x647), (0x1EE67, 0x1EE67, 0x62D), (0x1EE68, 0x1EE68, 0x637),
  (0x1EE69, 0x1EE69, 0x64A), (0x1EE6A, 0x1EE6A, 0x643), (0x1EE6C, 0x1EE6D, 0x645), (0x1EE6E, 0x1EE6E, 0x633),
  (0x1EE6F, 0x1EE6F, 0x639), (0x1EE70, 0x1EE70, 0x641), (0x1EE71, 0x1EE71, 0x635), (0x1EE72, 0x1EE72, 0x642),
  (0x1EE74, 0x1EE74, 0x634), (0x1EE75, 0x1EE76, 0x62A), (0x1EE77, 0x1EE77, 0x62E), (0x1EE79, 0x1EE79, 0x636),
  (0x1EE7A, 0x1EE7A, 0x638), (0x1EE7B, 0x1EE7B, 0x63A), (0x1EE7C, 0x1EE7C, 0x66E), (0x1EE7E, 0x1EE7E, 0x6A1),
  (0x1EE80, 0x1EE81, 0x627), (0x1EE82, 0x1EE82, 0x62C), (0x1EE83, 0x1EE83, 0x62F), (0x1EE84, 0x1EE85, 0x647),
  (0x1EE86, 0x1EE86, 0x632), (0x1EE87, 0x1EE87, 0x62D), (0x1EE88, 0x1EE88, 0x637), (0x1EE89, 0x1EE89, 0x64A),
  (0x1EE8B, 0x1EE8D, 0x644), (0x1EE8E, 0x1EE8E, 0x633), (0x1EE8F, 0x1EE8F, 0x639), (0x1EE90, 0x1EE90, 0x641),
  (0x1EE91, 0x1EE91, 0x635), (0x1EE92, 0x1EE92, 0x642), (0x1EE93, 0x1EE93, 0x631), (0x1EE94, 0x1EE94, 0x634),
  (0x1EE95, 0x1EE96, 0x62A), (0x1EE97, 0x1EE97, 0x62E), (0x1EE98, 0x1EE98, 0x630), (0x1EE99, 0x1EE99, 0x636),
  (0x1EE9A, 0x1EE9A, 0x638), (0x1EE9B, 0x1EE9B, 0x63A), (0x1EEA1, 0x1EEA1, 0x628), (0x1EEA2, 0x1EEA2, 0x62C),
  (0x1EEA3, 0x1EEA3, 0x62F), (0x1EEA5, 0x1EEA5, 0x648), (0x1EEA6, 0x1EEA6, 0x632), (0x1EEA7, 0x1EEA7, 0x62D),
  (0x1EEA8, 0x1EEA8, 0x637), (0x1EEA9, 0x1EEA9, 0x64A), (0x1EEAB, 0x1EEAD, 0x644), (0x1EEAE, 0x1EEAE, 0x633),
  (0x1EEAF, 0x1EEAF, 0x639), (0x1EEB0, 0x1EEB0, 0x641), (0x1EEB1, 0x1EEB1, 0x635), (0x1EEB2, 0x1EEB2, 0x642),
  (0x1EEB3, 0x1EEB3, 0x631), (0x1EEB4, 0x1EEB4, 0x634), (0x1EEB5, 0x1EEB6, 0x62A), (0x1EEB7, 0x1EEB7, 0x62E),
  (0x1EEB8, 0x1EEB8, 0x630), (0x1EEB9, 0x1EEB9, 0x636), (0x1EEBA, 0x1EEBA, 0x638), (0x1EEBB, 0x1EEBB, 0x63A),
  (0x1F12B, 0x1F12B, 0x63), (0x1F12C, 0x1F12C, 0x72), (0x1F130, 0x1F149, 0x61), (0x1F202, 0x1F202, 0x30B5),
  (0x1F210, 0x1F210, 0x624B), (0x1F211, 0x1F211, 0x5B57), (0x1F212, 0x1F212, 0x53CC),
  (0x1F213, 0x1F213, 0x30C7), (0x1F214, 0x1F214, 0x4E8C), (0x1F215, 0x1F215, 0x591A),
  (0x1F216, 0x1F216, 0x89E3), (0x1F217, 0x1F217, 0x5929), (0x1F218, 0x1F218, 0x4EA4),
  (0x1F219, 0x1F219, 0x6620), (0x1F21A, 0x1F21A, 0x7121), (0x1F21B, 0x1F21B, 0x6599),
  (0x1F21C, 0x1F21C, 0x524D), (0x1F21D, 0x1F21D, 0x5F8C), (0x1F21E, 0x1F21E, 0x518D),
  (0x1F21F, 0x1F21F, 0x65B0), (0x1F220, 0x1F220, 0x521D), (0x1F221, 0x1F221, 0x7D42),
  (0x1F222, 0x1F222, 0x751F), (0x1F223, 0x1F223, 0x8CA9), (0x1F224, 0x1F224, 0x58F0),
  (0x1F225, 0x1F225, 0x5439), (0x1F226, 0x1F226, 0x6F14), (0x1F227, 0x1F227, 0x6295),
  (0x1F228, 0x1F228, 0x6355), (0x1F229, 0x1F229, 0x4E00), (0x1F22A, 0x1F22A, 0x4E09),
  (0x1F22B, 0x1F22B, 0x904A), (0x1F22C, 0x1F22C, 0x5DE6), (0x1F22D, 0x1F22D, 0x4E2D),
  (0x1F22E, 0x1F22E, 0x53F3), (0x1F22F, 0x1F22F, 0x6307), (0x1F230, 0x1F230, 0x8D70),
  (0x1F231, 0x1F231, 0x6253), (0x1F232, 0x1F232, 0x7981), (0x1F233, 0x1F233, 0x7A7A),
  (0x1F234, 0x1F234, 0x5408), (0x1F235, 0x1F235, 0x6E80), (0x1F236, 0x1F236, 0x6709),
  (0x1F237, 0x1F237, 0x6708), (0x1F238, 0x1F238, 0x7533), (0x1F239, 0x1F239, 0x5272),
  (0x1F23A, 0x1F23A, 0x55B6), (0x1F23B, 0x1F23B, 0x914D), (0x1F250, 0x1F250, 0x5F97),
  (0x1F251, 0x1F251, 0x53EF), (0x1FBF0, 0x1FBF9, 0x30)]

def severalLetters : Array (Nat × String) := #[
  (0xA8, " \u0308"), (0xAF, " \u0304"), (0xB4, " \u0301"), (0xB8, " \u0327"), (0xBC, "1\u20444"),
  (0xBD, "1\u20442"), (0xBE, "3\u20444"), (0x130, "i\u0307"), (0x132, "ij"), (0x133, "ij"), (0x13F, "l\xb7"),
  (0x140, "l\xb7"), (0x149, "\u02bcn"), (0x1C4, "d\u017e"), (0x1C5, "d\u017e"), (0x1C6, "d\u017e"),
  (0x1C7, "lj"), (0x1C8, "lj"), (0x1C9, "lj"), (0x1CA, "nj"), (0x1CB, "nj"), (0x1CC, "nj"), (0x1F1, "dz"),
  (0x1F2, "dz"), (0x1F3, "dz"), (0x2D8, " \u0306"), (0x2D9, " \u0307"), (0x2DA, " \u030a"),
  (0x2DB, " \u0328"), (0x2DC, " \u0303"), (0x2DD, " \u030b"), (0x37A, " \u03b9"), (0x384, " \u0301"),
  (0x385, " \u0308\u0301"), (0x587, "\u0565\u0582"), (0x675, "\u0627\u0674"), (0x676, "\u0648\u0674"),
  (0x677, "\u06c7\u0674"), (0x678, "\u064a\u0674"), (0xE33, "\u0e4d\u0e32"), (0xEB3, "\u0ecd\u0eb2"),
  (0xEDC, "\u0eab\u0e99"), (0xEDD, "\u0eab\u0ea1"), (0xF77, "\u0fb2\u0f71\u0f80"),
  (0xF79, "\u0fb3\u0f71\u0f80"), (0x1E9A, "a\u02be"), (0x1F80, "\u1f00\u03b9"), (0x1F81, "\u1f01\u03b9"),
  (0x1F82, "\u1f02\u03b9"), (0x1F83, "\u1f03\u03b9"), (0x1F84, "\u1f04\u03b9"), (0x1F85, "\u1f05\u03b9"),
  (0x1F86, "\u1f06\u03b9"), (0x1F87, "\u1f07\u03b9"), (0x1F88, "\u1f00\u03b9"), (0x1F89, "\u1f01\u03b9"),
  (0x1F8A, "\u1f02\u03b9"), (0x1F8B, "\u1f03\u03b9"), (0x1F8C, "\u1f04\u03b9"), (0x1F8D, "\u1f05\u03b9"),
  (0x1F8E, "\u1f06\u03b9"), (0x1F8F, "\u1f07\u03b9"), (0x1F90, "\u1f20\u03b9"), (0x1F91, "\u1f21\u03b9"),
  (0x1F92, "\u1f22\u03b9"), (0x1F93, "\u1f23\u03b9"), (0x1F94, "\u1f24\u03b9"), (0x1F95, "\u1f25\u03b9"),
  (0x1F96, "\u1f26\u03b9"), (0x1F97, "\u1f27\u03b9"), (0x1F98, "\u1f20\u03b9"), (0x1F99, "\u1f21\u03b9"),
  (0x1F9A, "\u1f22\u03b9"), (0x1F9B, "\u1f23\u03b9"), (0x1F9C, "\u1f24\u03b9"), (0x1F9D, "\u1f25\u03b9"),
  (0x1F9E, "\u1f26\u03b9"), (0x1F9F, "\u1f27\u03b9"), (0x1FA0, "\u1f60\u03b9"), (0x1FA1, "\u1f61\u03b9"),
  (0x1FA2, "\u1f62\u03b9"), (0x1FA3, "\u1f63\u03b9"), (0x1FA4, "\u1f64\u03b9"), (0x1FA5, "\u1f65\u03b9"),
  (0x1FA6, "\u1f66\u03b9"), (0x1FA7, "\u1f67\u03b9"), (0x1FA8, "\u1f60\u03b9"), (0x1FA9, "\u1f61\u03b9"),
  (0x1FAA, "\u1f62\u03b9"), (0x1FAB, "\u1f63\u03b9"), (0x1FAC, "\u1f64\u03b9"), (0x1FAD, "\u1f65\u03b9"),
  (0x1FAE, "\u1f66\u03b9"), (0x1FAF, "\u1f67\u03b9"), (0x1FB2, "\u1f70\u03b9"), (0x1FB3, "\u03b1\u03b9"),
  (0x1FB4, "\u03ac\u03b9"), (0x1FB7, "\u1fb6\u03b9"), (0x1FBC, "\u03b1\u03b9"), (0x1FBD, " \u0313"),
  (0x1FBF, " \u0313"), (0x1FC0, " \u0342"), (0x1FC1, " \u0308\u0342"), (0x1FC2, "\u1f74\u03b9"),
  (0x1FC3, "\u03b7\u03b9"), (0x1FC4, "\u03ae\u03b9"), (0x1FC7, "\u1fc6\u03b9"), (0x1FCC, "\u03b7\u03b9"),
  (0x1FCD, " \u0313\u0300"), (0x1FCE, " \u0313\u0301"), (0x1FCF, " \u0313\u0342"), (0x1FDD, " \u0314\u0300"),
  (0x1FDE, " \u0314\u0301"), (0x1FDF, " \u0314\u0342"), (0x1FED, " \u0308\u0300"), (0x1FEE, " \u0308\u0301"),
  (0x1FF2, "\u1f7c\u03b9"), (0x1FF3, "\u03c9\u03b9"), (0x1FF4, "\u03ce\u03b9"), (0x1FF7, "\u1ff6\u03b9"),
  (0x1FFC, "\u03c9\u03b9"), (0x1FFD, " \u0301"), (0x1FFE, " \u0314"), (0x2017, " \u0333"),
  (0x2033, "\u2032\u2032"), (0x2034, "\u2032\u2032\u2032"), (0x2036, "\u2035\u2035"),
  (0x2037, "\u2035\u2035\u2035"), (0x203C, "!!"), (0x203E, " \u0305"), (0x2047, "??"), (0x2048, "?!"),
  (0x2049, "!?"), (0x2057, "\u2032\u2032\u2032\u2032"), (0x20A8, "rs"), (0x2100, "a/c"), (0x2101, "a/s"),
  (0x2103, "\xb0c"), (0x2105, "c/o"), (0x2106, "c/u"), (0x2109, "\xb0f"), (0x2116, "no"), (0x2120, "sm"),
  (0x2121, "tel"), (0x2122, "tm"), (0x213B, "fax"), (0x2150, "1\u20447"), (0x2151, "1\u20449"),
  (0x2152, "1\u204410"), (0x2153, "1\u20443"), (0x2154, "2\u20443"), (0x2155, "1\u20445"),
  (0x2156, "2\u20445"), (0x2157, "3\u20445"), (0x2158, "4\u20445"), (0x2159, "1\u20446"),
  (0x215A, "5\u20446"), (0x215B, "1\u20448"), (0x215C, "3\u20448"), (0x215D, "5\u20448"),
  (0x215E, "7\u20448"), (0x215F, "1\u2044"), (0x2161, "ii"), (0x2162, "iii"), (0x2163, "iv"), (0x2165, "vi"),
  (0x2166, "vii"), (0x2167, "viii"), (0x2168, "ix"), (0x216A, "xi"), (0x216B, "xii"), (0x2171, "ii"),
  (0x2172, "iii"), (0x2173, "iv"), (0x2175, "vi"), (0x2176, "vii"), (0x2177, "viii"), (0x2178, "ix"),
  (0x217A, "xi"), (0x217B, "xii"), (0x2189, "0\u20443"), (0x222C, "\u222b\u222b"),
  (0x222D, "\u222b\u222b\u222b"), (0x222F, "\u222e\u222e"), (0x2230, "\u222e\u222e\u222e"), (0x2469, "10"),
  (0x246A, "11"), (0x246B, "12"), (0x246C, "13"), (0x246D, "14"), (0x246E, "15"), (0x246F, "16"),
  (0x2470, "17"), (0x2471, "18"), (0x2472, "19"), (0x2473, "20"), (0x2474, "(1)"), (0x2475, "(2)"),
  (0x2476, "(3)"), (0x2477, "(4)"), (0x2478, "(5)"), (0x2479, "(6)"), (0x247A, "(7)"), (0x247B, "(8)"),
  (0x247C, "(9)"), (0x247D, "(10)"), (0x247E, "(11)"), (0x247F, "(12)"), (0x2480, "(13)"), (0x2481, "(14)"),
  (0x2482, "(15)"), (0x2483, "(16)"), (0x2484, "(17)"), (0x2485, "(18)"), (0x2486, "(19)"), (0x2487, "(20)"),
  (0x249C, "(a)"), (0x249D, "(b)"), (0x249E, "(c)"), (0x249F, "(d)"), (0x24A0, "(e)"), (0x24A1, "(f)"),
  (0x24A2, "(g)"), (0x24A3, "(h)"), (0x24A4, "(i)"), (0x24A5, "(j)"), (0x24A6, "(k)"), (0x24A7, "(l)"),
  (0x24A8, "(m)"), (0x24A9, "(n)"), (0x24AA, "(o)"), (0x24AB, "(p)"), (0x24AC, "(q)"), (0x24AD, "(r)"),
  (0x24AE, "(s)"), (0x24AF, "(t)"), (0x24B0, "(u)"), (0x24B1, "(v)"), (0x24B2, "(w)"), (0x24B3, "(x)"),
  (0x24B4, "(y)"), (0x24B5, "(z)"), (0x2A0C, "\u222b\u222b\u222b\u222b"), (0x2A74, "::="), (0x2A75, "=="),
  (0x2A76, "==="), (0x309B, " \u3099"), (0x309C, " \u309a"), (0x309F, "\u3088\u308a"),
  (0x30FF, "\u30b3\u30c8"), (0x3200, "(\u1100)"), (0x3201, "(\u1102)"), (0x3202, "(\u1103)"),
  (0x3203, "(\u1105)"), (0x3204, "(\u1106)"), (0x3205, "(\u1107)"), (0x3206, "(\u1109)"),
  (0x3207, "(\u110b)"), (0x3208, "(\u110c)"), (0x3209, "(\u110e)"), (0x320A, "(\u110f)"),
  (0x320B, "(\u1110)"), (0x320C, "(\u1111)"), (0x320D, "(\u1112)"), (0x320E, "(\uac00)"),
  (0x320F, "(\ub098)"), (0x3210, "(\ub2e4)"), (0x3211, "(\ub77c)"), (0x3212, "(\ub9c8)"),
  (0x3213, "(\ubc14)"), (0x3214, "(\uc0ac)"), (0x3215, "(\uc544)"), (0x3216, "(\uc790)"),
  (0x3217, "(\ucc28)"), (0x3218, "(\uce74)"), (0x3219, "(\ud0c0)"), (0x321A, "(\ud30c)"),
  (0x321B, "(\ud558)"), (0x321C, "(\uc8fc)"), (0x321D, "(\uc624\uc804)"), (0x321E, "(\uc624\ud6c4)"),
  (0x3220, "(\u4e00)"), (0x3221, "(\u4e8c)"), (0x3222, "(\u4e09)"), (0x3223, "(\u56db)"),
  (0x3224, "(\u4e94)"), (0x3225, "(\u516d)"), (0x3226, "(\u4e03)"), (0x3227, "(\u516b)"),
  (0x3228, "(\u4e5d)"), (0x3229, "(\u5341)"), (0x322A, "(\u6708)"), (0x322B, "(\u706b)"),
  (0x322C, "(\u6c34)"), (0x322D, "(\u6728)"), (0x322E, "(\u91d1)"), (0x322F, "(\u571f)"),
  (0x3230, "(\u65e5)"), (0x3231, "(\u682a)"), (0x3232, "(\u6709)"), (0x3233, "(\u793e)"),
  (0x3234, "(\u540d)"), (0x3235, "(\u7279)"), (0x3236, "(\u8ca1)"), (0x3237, "(\u795d)"),
  (0x3238, "(\u52b4)"), (0x3239, "(\u4ee3)"), (0x323A, "(\u547c)"), (0x323B, "(\u5b66)"),
  (0x323C, "(\u76e3)"), (0x323D, "(\u4f01)"), (0x323E, "(\u8cc7)"), (0x323F, "(\u5354)"),
  (0x3240, "(\u796d)"), (0x3241, "(\u4f11)"), (0x3242, "(\u81ea)"), (0x3243, "(\u81f3)"), (0x3250, "pte"),
  (0x3251, "21"), (0x3252, "22"), (0x3253, "23"), (0x3254, "24"), (0x3255, "25"), (0x3256, "26"),
  (0x3257, "27"), (0x3258, "28"), (0x3259, "29"), (0x325A, "30"), (0x325B, "31"), (0x325C, "32"),
  (0x325D, "33"), (0x325E, "34"), (0x325F, "35"), (0x327C, "\ucc38\uace0"), (0x327D, "\uc8fc\uc758"),
  (0x32B1, "36"), (0x32B2, "37"), (0x32B3, "38"), (0x32B4, "39"), (0x32B5, "40"), (0x32B6, "41"),
  (0x32B7, "42"), (0x32B8, "43"), (0x32B9, "44"), (0x32BA, "45"), (0x32BB, "46"), (0x32BC, "47"),
  (0x32BD, "48"), (0x32BE, "49"), (0x32BF, "50"), (0x32C0, "1\u6708"), (0x32C1, "2\u6708"),
  (0x32C2, "3\u6708"), (0x32C3, "4\u6708"), (0x32C4, "5\u6708"), (0x32C5, "6\u6708"), (0x32C6, "7\u6708"),
  (0x32C7, "8\u6708"), (0x32C8, "9\u6708"), (0x32C9, "10\u6708"), (0x32CA, "11\u6708"), (0x32CB, "12\u6708"),
  (0x32CC, "hg"), (0x32CD, "erg"), (0x32CE, "ev"), (0x32CF, "ltd"), (0x32FF, "\u4ee4\u548c"),
  (0x3300, "\u30a2\u30d1\u30fc\u30c8"), (0x3301, "\u30a2\u30eb\u30d5\u30a1"),
  (0x3302, "\u30a2\u30f3\u30da\u30a2"), (0x3303, "\u30a2\u30fc\u30eb"), (0x3304, "\u30a4\u30cb\u30f3\u30b0"),
  (0x3305, "\u30a4\u30f3\u30c1"), (0x3306, "\u30a6\u30a9\u30f3"), (0x3307, "\u30a8\u30b9\u30af\u30fc\u30c9"),
  (0x3308, "\u30a8\u30fc\u30ab\u30fc"), (0x3309, "\u30aa\u30f3\u30b9"), (0x330A, "\u30aa\u30fc\u30e0"),
  (0x330B, "\u30ab\u30a4\u30ea"), (0x330C, "\u30ab\u30e9\u30c3\u30c8"), (0x330D, "\u30ab\u30ed\u30ea\u30fc"),
  (0x330E, "\u30ac\u30ed\u30f3"), (0x330F, "\u30ac\u30f3\u30de"), (0x3310, "\u30ae\u30ac"),
  (0x3311, "\u30ae\u30cb\u30fc"), (0x3312, "\u30ad\u30e5\u30ea\u30fc"), (0x3313, "\u30ae\u30eb\u30c0\u30fc"),
  (0x3314, "\u30ad\u30ed"), (0x3315, "\u30ad\u30ed\u30b0\u30e9\u30e0"),
  (0x3316, "\u30ad\u30ed\u30e1\u30fc\u30c8\u30eb"), (0x3317, "\u30ad\u30ed\u30ef\u30c3\u30c8"),
  (0x3318, "\u30b0\u30e9\u30e0"), (0x3319, "\u30b0\u30e9\u30e0\u30c8\u30f3"),
  (0x331A, "\u30af\u30eb\u30bc\u30a4\u30ed"), (0x331B, "\u30af\u30ed\u30fc\u30cd"),
  (0x331C, "\u30b1\u30fc\u30b9"), (0x331D, "\u30b3\u30eb\u30ca"), (0x331E, "\u30b3\u30fc\u30dd"),
  (0x331F, "\u30b5\u30a4\u30af\u30eb"), (0x3320, "\u30b5\u30f3\u30c1\u30fc\u30e0"),
  (0x3321, "\u30b7\u30ea\u30f3\u30b0"), (0x3322, "\u30bb\u30f3\u30c1"), (0x3323, "\u30bb\u30f3\u30c8"),
  (0x3324, "\u30c0\u30fc\u30b9"), (0x3325, "\u30c7\u30b7"), (0x3326, "\u30c9\u30eb"),
  (0x3327, "\u30c8\u30f3"), (0x3328, "\u30ca\u30ce"), (0x3329, "\u30ce\u30c3\u30c8"),
  (0x332A, "\u30cf\u30a4\u30c4"), (0x332B, "\u30d1\u30fc\u30bb\u30f3\u30c8"), (0x332C, "\u30d1\u30fc\u30c4"),
  (0x332D, "\u30d0\u30fc\u30ec\u30eb"), (0x332E, "\u30d4\u30a2\u30b9\u30c8\u30eb"),
  (0x332F, "\u30d4\u30af\u30eb"), (0x3330, "\u30d4\u30b3"), (0x3331, "\u30d3\u30eb"),
  (0x3332, "\u30d5\u30a1\u30e9\u30c3\u30c9"), (0x3333, "\u30d5\u30a3\u30fc\u30c8"),
  (0x3334, "\u30d6\u30c3\u30b7\u30a7\u30eb"), (0x3335, "\u30d5\u30e9\u30f3"),
  (0x3336, "\u30d8\u30af\u30bf\u30fc\u30eb"), (0x3337, "\u30da\u30bd"), (0x3338, "\u30da\u30cb\u30d2"),
  (0x3339, "\u30d8\u30eb\u30c4"), (0x333A, "\u30da\u30f3\u30b9"), (0x333B, "\u30da\u30fc\u30b8"),
  (0x333C, "\u30d9\u30fc\u30bf"), (0x333D, "\u30dd\u30a4\u30f3\u30c8"), (0x333E, "\u30dc\u30eb\u30c8"),
  (0x333F, "\u30db\u30f3"), (0x3340, "\u30dd\u30f3\u30c9"), (0x3341, "\u30db\u30fc\u30eb"),
  (0x3342, "\u30db\u30fc\u30f3"), (0x3343, "\u30de\u30a4\u30af\u30ed"), (0x3344, "\u30de\u30a4\u30eb"),
  (0x3345, "\u30de\u30c3\u30cf"), (0x3346, "\u30de\u30eb\u30af"), (0x3347, "\u30de\u30f3\u30b7\u30e7\u30f3"),
  (0x3348, "\u30df\u30af\u30ed\u30f3"), (0x3349, "\u30df\u30ea"), (0x334A, "\u30df\u30ea\u30d0\u30fc\u30eb"),
  (0x334B, "\u30e1\u30ac"), (0x334C, "\u30e1\u30ac\u30c8\u30f3"), (0x334D, "\u30e1\u30fc\u30c8\u30eb"),
  (0x334E, "\u30e4\u30fc\u30c9"), (0x334F, "\u30e4\u30fc\u30eb"), (0x3350, "\u30e6\u30a2\u30f3"),
  (0x3351, "\u30ea\u30c3\u30c8\u30eb"), (0x3352, "\u30ea\u30e9"), (0x3353, "\u30eb\u30d4\u30fc"),
  (0x3354, "\u30eb\u30fc\u30d6\u30eb"), (0x3355, "\u30ec\u30e0"), (0x3356, "\u30ec\u30f3\u30c8\u30b2\u30f3"),
  (0x3357, "\u30ef\u30c3\u30c8"), (0x3358, "0\u70b9"), (0x3359, "1\u70b9"), (0x335A, "2\u70b9"),
  (0x335B, "3\u70b9"), (0x335C, "4\u70b9"), (0x335D, "5\u70b9"), (0x335E, "6\u70b9"), (0x335F, "7\u70b9"),
  (0x3360, "8\u70b9"), (0x3361, "9\u70b9"), (0x3362, "10\u70b9"), (0x3363, "11\u70b9"), (0x3364, "12\u70b9"),
  (0x3365, "13\u70b9"), (0x3366, "14\u70b9"), (0x3367, "15\u70b9"), (0x3368, "16\u70b9"),
  (0x3369, "17\u70b9"), (0x336A, "18\u70b9"), (0x336B, "19\u70b9"), (0x336C, "20\u70b9"),
  (0x336D, "21\u70b9"), (0x336E, "22\u70b9"), (0x336F, "23\u70b9"), (0x3370, "24\u70b9"), (0x3371, "hpa"),
  (0x3372, "da"), (0x3373, "au"), (0x3374, "bar"), (0x3375, "ov"), (0x3376, "pc"), (0x3377, "dm"),
  (0x3378, "dm2"), (0x3379, "dm3"), (0x337A, "iu"), (0x337B, "\u5e73\u6210"), (0x337C, "\u662d\u548c"),
  (0x337D, "\u5927\u6b63"), (0x337E, "\u660e\u6cbb"), (0x337F, "\u682a\u5f0f\u4f1a\u793e"), (0x3380, "pa"),
  (0x3381, "na"), (0x3382, "\u03bca"), (0x3383, "ma"), (0x3384, "ka"), (0x3385, "kb"), (0x3386, "mb"),
  (0x3387, "gb"), (0x3388, "cal"), (0x3389, "kcal"), (0x338A, "pf"), (0x338B, "nf"), (0x338C, "\u03bcf"),
  (0x338D, "\u03bcg"), (0x338E, "mg"), (0x338F, "kg"), (0x3390, "hz"), (0x3391, "khz"), (0x3392, "mhz"),
  (0x3393, "ghz"), (0x3394, "thz"), (0x3395, "\u03bcl"), (0x3396, "ml"), (0x3397, "dl"), (0x3398, "kl"),
  (0x3399, "fm"), (0x339A, "nm"), (0x339B, "\u03bcm"), (0x339C, "mm"), (0x339D, "cm"), (0x339E, "km"),
  (0x339F, "mm2"), (0x33A0, "cm2"), (0x33A1, "m2"), (0x33A2, "km2"), (0x33A3, "mm3"), (0x33A4, "cm3"),
  (0x33A5, "m3"), (0x33A6, "km3"), (0x33A7, "m\u2215s"), (0x33A8, "m\u2215s2"), (0x33A9, "pa"),
  (0x33AA, "kpa"), (0x33AB, "mpa"), (0x33AC, "gpa"), (0x33AD, "rad"), (0x33AE, "rad\u2215s"),
  (0x33AF, "rad\u2215s2"), (0x33B0, "ps"), (0x33B1, "ns"), (0x33B2, "\u03bcs"), (0x33B3, "ms"),
  (0x33B4, "pv"), (0x33B5, "nv"), (0x33B6, "\u03bcv"), (0x33B7, "mv"), (0x33B8, "kv"), (0x33B9, "mv"),
  (0x33BA, "pw"), (0x33BB, "nw"), (0x33BC, "\u03bcw"), (0x33BD, "mw"), (0x33BE, "kw"), (0x33BF, "mw"),
  (0x33C0, "k\u03c9"), (0x33C1, "m\u03c9"), (0x33C3, "bq"), (0x33C4, "cc"), (0x33C5, "cd"),
  (0x33C6, "c\u2215kg"), (0x33C8, "db"), (0x33C9, "gy"), (0x33CA, "ha"), (0x33CB, "hp"), (0x33CC, "in"),
  (0x33CD, "kk"), (0x33CE, "km"), (0x33CF, "kt"), (0x33D0, "lm"), (0x33D1, "ln"), (0x33D2, "log"),
  (0x33D3, "lx"), (0x33D4, "mb"), (0x33D5, "mil"), (0x33D6, "mol"), (0x33D7, "ph"), (0x33D9, "ppm"),
  (0x33DA, "pr"), (0x33DB, "sr"), (0x33DC, "sv"), (0x33DD, "wb"), (0x33DE, "v\u2215m"), (0x33DF, "a\u2215m"),
  (0x33E0, "1\u65e5"), (0x33E1, "2\u65e5"), (0x33E2, "3\u65e5"), (0x33E3, "4\u65e5"), (0x33E4, "5\u65e5"),
  (0x33E5, "6\u65e5"), (0x33E6, "7\u65e5"), (0x33E7, "8\u65e5"), (0x33E8, "9\u65e5"), (0x33E9, "10\u65e5"),
  (0x33EA, "11\u65e5"), (0x33EB, "12\u65e5"), (0x33EC, "13\u65e5"), (0x33ED, "14\u65e5"),
  (0x33EE, "15\u65e5"), (0x33EF, "16\u65e5"), (0x33F0, "17\u65e5"), (0x33F1, "18\u65e5"),
  (0x33F2, "19\u65e5"), (0x33F3, "20\u65e5"), (0x33F4, "21\u65e5"), (0x33F5, "22\u65e5"),
  (0x33F6, "23\u65e5"), (0x33F7, "24\u65e5"), (0x33F8, "25\u65e5"), (0x33F9, "26\u65e5"),
  (0x33FA, "27\u65e5"), (0x33FB, "28\u65e5"), (0x33FC, "29\u65e5"), (0x33FD, "30\u65e5"),
  (0x33FE, "31\u65e5"), (0x33FF, "gal")]

def severalShapes : Array (Nat × String) := #[
  (0xFB00, "ff"), (0xFB01, "fi"), (0xFB02, "fl"), (0xFB03, "ffi"), (0xFB04, "ffl"), (0xFB05, "st"),
  (0xFB06, "st"), (0xFB13, "\u0574\u0576"), (0xFB14, "\u0574\u0565"), (0xFB15, "\u0574\u056b"),
  (0xFB16, "\u057e\u0576"), (0xFB17, "\u0574\u056d"), (0xFB4F, "\u05d0\u05dc"), (0xFBDD, "\u06c7\u0674"),
  (0xFBEA, "\u0626\u0627"), (0xFBEB, "\u0626\u0627"), (0xFBEC, "\u0626\u06d5"), (0xFBED, "\u0626\u06d5"),
  (0xFBEE, "\u0626\u0648"), (0xFBEF, "\u0626\u0648"), (0xFBF0, "\u0626\u06c7"), (0xFBF1, "\u0626\u06c7"),
  (0xFBF2, "\u0626\u06c6"), (0xFBF3, "\u0626\u06c6"), (0xFBF4, "\u0626\u06c8"), (0xFBF5, "\u0626\u06c8"),
  (0xFBF6, "\u0626\u06d0"), (0xFBF7, "\u0626\u06d0"), (0xFBF8, "\u0626\u06d0"), (0xFBF9, "\u0626\u0649"),
  (0xFBFA, "\u0626\u0649"), (0xFBFB, "\u0626\u0649"), (0xFC00, "\u0626\u062c"), (0xFC01, "\u0626\u062d"),
  (0xFC02, "\u0626\u0645"), (0xFC03, "\u0626\u0649"), (0xFC04, "\u0626\u064a"), (0xFC05, "\u0628\u062c"),
  (0xFC06, "\u0628\u062d"), (0xFC07, "\u0628\u062e"), (0xFC08, "\u0628\u0645"), (0xFC09, "\u0628\u0649"),
  (0xFC0A, "\u0628\u064a"), (0xFC0B, "\u062a\u062c"), (0xFC0C, "\u062a\u062d"), (0xFC0D, "\u062a\u062e"),
  (0xFC0E, "\u062a\u0645"), (0xFC0F, "\u062a\u0649"), (0xFC10, "\u062a\u064a"), (0xFC11, "\u062b\u062c"),
  (0xFC12, "\u062b\u0645"), (0xFC13, "\u062b\u0649"), (0xFC14, "\u062b\u064a"), (0xFC15, "\u062c\u062d"),
  (0xFC16, "\u062c\u0645"), (0xFC17, "\u062d\u062c"), (0xFC18, "\u062d\u0645"), (0xFC19, "\u062e\u062c"),
  (0xFC1A, "\u062e\u062d"), (0xFC1B, "\u062e\u0645"), (0xFC1C, "\u0633\u062c"), (0xFC1D, "\u0633\u062d"),
  (0xFC1E, "\u0633\u062e"), (0xFC1F, "\u0633\u0645"), (0xFC20, "\u0635\u062d"), (0xFC21, "\u0635\u0645"),
  (0xFC22, "\u0636\u062c"), (0xFC23, "\u0636\u062d"), (0xFC24, "\u0636\u062e"), (0xFC25, "\u0636\u0645"),
  (0xFC26, "\u0637\u062d"), (0xFC27, "\u0637\u0645"), (0xFC28, "\u0638\u0645"), (0xFC29, "\u0639\u062c"),
  (0xFC2A, "\u0639\u0645"), (0xFC2B, "\u063a\u062c"), (0xFC2C, "\u063a\u0645"), (0xFC2D, "\u0641\u062c"),
  (0xFC2E, "\u0641\u062d"), (0xFC2F, "\u0641\u062e"), (0xFC30, "\u0641\u0645"), (0xFC31, "\u0641\u0649"),
  (0xFC32, "\u0641\u064a"), (0xFC33, "\u0642\u062d"), (0xFC34, "\u0642\u0645"), (0xFC35, "\u0642\u0649"),
  (0xFC36, "\u0642\u064a"), (0xFC37, "\u0643\u0627"), (0xFC38, "\u0643\u062c"), (0xFC39, "\u0643\u062d"),
  (0xFC3A, "\u0643\u062e"), (0xFC3B, "\u0643\u0644"), (0xFC3C, "\u0643\u0645"), (0xFC3D, "\u0643\u0649"),
  (0xFC3E, "\u0643\u064a"), (0xFC3F, "\u0644\u062c"), (0xFC40, "\u0644\u062d"), (0xFC41, "\u0644\u062e"),
  (0xFC42, "\u0644\u0645"), (0xFC43, "\u0644\u0649"), (0xFC44, "\u0644\u064a"), (0xFC45, "\u0645\u062c"),
  (0xFC46, "\u0645\u062d"), (0xFC47, "\u0645\u062e"), (0xFC48, "\u0645\u0645"), (0xFC49, "\u0645\u0649"),
  (0xFC4A, "\u0645\u064a"), (0xFC4B, "\u0646\u062c"), (0xFC4C, "\u0646\u062d"), (0xFC4D, "\u0646\u062e"),
  (0xFC4E, "\u0646\u0645"), (0xFC4F, "\u0646\u0649"), (0xFC50, "\u0646\u064a"), (0xFC51, "\u0647\u062c"),
  (0xFC52, "\u0647\u0645"), (0xFC53, "\u0647\u0649"), (0xFC54, "\u0647\u064a"), (0xFC55, "\u064a\u062c"),
  (0xFC56, "\u064a\u062d"), (0xFC57, "\u064a\u062e"), (0xFC58, "\u064a\u0645"), (0xFC59, "\u064a\u0649"),
  (0xFC5A, "\u064a\u064a"), (0xFC5B, "\u0630\u0670"), (0xFC5C, "\u0631\u0670"), (0xFC5D, "\u0649\u0670"),
  (0xFC5E, " \u064c\u0651"), (0xFC5F, " \u064d\u0651"), (0xFC60, " \u064e\u0651"), (0xFC61, " \u064f\u0651"),
  (0xFC62, " \u0650\u0651"), (0xFC63, " \u0651\u0670"), (0xFC64, "\u0626\u0631"), (0xFC65, "\u0626\u0632"),
  (0xFC66, "\u0626\u0645"), (0xFC67, "\u0626\u0646"), (0xFC68, "\u0626\u0649"), (0xFC69, "\u0626\u064a"),
  (0xFC6A, "\u0628\u0631"), (0xFC6B, "\u0628\u0632"), (0xFC6C, "\u0628\u0645"), (0xFC6D, "\u0628\u0646"),
  (0xFC6E, "\u0628\u0649"), (0xFC6F, "\u0628\u064a"), (0xFC70, "\u062a\u0631"), (0xFC71, "\u062a\u0632"),
  (0xFC72, "\u062a\u0645"), (0xFC73, "\u062a\u0646"), (0xFC74, "\u062a\u0649"), (0xFC75, "\u062a\u064a"),
  (0xFC76, "\u062b\u0631"), (0xFC77, "\u062b\u0632"), (0xFC78, "\u062b\u0645"), (0xFC79, "\u062b\u0646"),
  (0xFC7A, "\u062b\u0649"), (0xFC7B, "\u062b\u064a"), (0xFC7C, "\u0641\u0649"), (0xFC7D, "\u0641\u064a"),
  (0xFC7E, "\u0642\u0649"), (0xFC7F, "\u0642\u064a"), (0xFC80, "\u0643\u0627"), (0xFC81, "\u0643\u0644"),
  (0xFC82, "\u0643\u0645"), (0xFC83, "\u0643\u0649"), (0xFC84, "\u0643\u064a"), (0xFC85, "\u0644\u0645"),
  (0xFC86, "\u0644\u0649"), (0xFC87, "\u0644\u064a"), (0xFC88, "\u0645\u0627"), (0xFC89, "\u0645\u0645"),
  (0xFC8A, "\u0646\u0631"), (0xFC8B, "\u0646\u0632"), (0xFC8C, "\u0646\u0645"), (0xFC8D, "\u0646\u0646"),
  (0xFC8E, "\u0646\u0649"), (0xFC8F, "\u0646\u064a"), (0xFC90, "\u0649\u0670"), (0xFC91, "\u064a\u0631"),
  (0xFC92, "\u064a\u0632"), (0xFC93, "\u064a\u0645"), (0xFC94, "\u064a\u0646"), (0xFC95, "\u064a\u0649"),
  (0xFC96, "\u064a\u064a"), (0xFC97, "\u0626\u062c"), (0xFC98, "\u0626\u062d"), (0xFC99, "\u0626\u062e"),
  (0xFC9A, "\u0626\u0645"), (0xFC9B, "\u0626\u0647"), (0xFC9C, "\u0628\u062c"), (0xFC9D, "\u0628\u062d"),
  (0xFC9E, "\u0628\u062e"), (0xFC9F, "\u0628\u0645"), (0xFCA0, "\u0628\u0647"), (0xFCA1, "\u062a\u062c"),
  (0xFCA2, "\u062a\u062d"), (0xFCA3, "\u062a\u062e"), (0xFCA4, "\u062a\u0645"), (0xFCA5, "\u062a\u0647"),
  (0xFCA6, "\u062b\u0645"), (0xFCA7, "\u062c\u062d"), (0xFCA8, "\u062c\u0645"), (0xFCA9, "\u062d\u062c"),
  (0xFCAA, "\u062d\u0645"), (0xFCAB, "\u062e\u062c"), (0xFCAC, "\u062e\u0645"), (0xFCAD, "\u0633\u062c"),
  (0xFCAE, "\u0633\u062d"), (0xFCAF, "\u0633\u062e"), (0xFCB0, "\u0633\u0645"), (0xFCB1, "\u0635\u062d"),
  (0xFCB2, "\u0635\u062e"), (0xFCB3, "\u0635\u0645"), (0xFCB4, "\u0636\u062c"), (0xFCB5, "\u0636\u062d"),
  (0xFCB6, "\u0636\u062e"), (0xFCB7, "\u0636\u0645"), (0xFCB8, "\u0637\u062d"), (0xFCB9, "\u0638\u0645"),
  (0xFCBA, "\u0639\u062c"), (0xFCBB, "\u0639\u0645"), (0xFCBC, "\u063a\u062c"), (0xFCBD, "\u063a\u0645"),
  (0xFCBE, "\u0641\u062c"), (0xFCBF, "\u0641\u062d"), (0xFCC0, "\u0641\u062e"), (0xFCC1, "\u0641\u0645"),
  (0xFCC2, "\u0642\u062d"), (0xFCC3, "\u0642\u0645"), (0xFCC4, "\u0643\u062c"), (0xFCC5, "\u0643\u062d"),
  (0xFCC6, "\u0643\u062e"), (0xFCC7, "\u0643\u0644"), (0xFCC8, "\u0643\u0645"), (0xFCC9, "\u0644\u062c"),
  (0xFCCA, "\u0644\u062d"), (0xFCCB, "\u0644\u062e"), (0xFCCC, "\u0644\u0645"), (0xFCCD, "\u0644\u0647"),
  (0xFCCE, "\u0645\u062c"), (0xFCCF, "\u0645\u062d"), (0xFCD0, "\u0645\u062e"), (0xFCD1, "\u0645\u0645"),
  (0xFCD2, "\u0646\u062c"), (0xFCD3, "\u0646\u062d"), (0xFCD4, "\u0646\u062e"), (0xFCD5, "\u0646\u0645"),
  (0xFCD6, "\u0646\u0647"), (0xFCD7, "\u0647\u062c"), (0xFCD8, "\u0647\u0645"), (0xFCD9, "\u0647\u0670"),
  (0xFCDA, "\u064a\u062c"), (0xFCDB, "\u064a\u062d"), (0xFCDC, "\u064a\u062e"), (0xFCDD, "\u064a\u0645"),
  (0xFCDE, "\u064a\u0647"), (0xFCDF, "\u0626\u0645"), (0xFCE0, "\u0626\u0647"), (0xFCE1, "\u0628\u0645"),
  (0xFCE2, "\u0628\u0647"), (0xFCE3, "\u062a\u0645"), (0xFCE4, "\u062a\u0647"), (0xFCE5, "\u062b\u0645"),
  (0xFCE6, "\u062b\u0647"), (0xFCE7, "\u0633\u0645"), (0xFCE8, "\u0633\u0647"), (0xFCE9, "\u0634\u0645"),
  (0xFCEA, "\u0634\u0647"), (0xFCEB, "\u0643\u0644"), (0xFCEC, "\u0643\u0645"), (0xFCED, "\u0644\u0645"),
  (0xFCEE, "\u0646\u0645"), (0xFCEF, "\u0646\u0647"), (0xFCF0, "\u064a\u0645"), (0xFCF1, "\u064a\u0647"),
  (0xFCF2, "\u0640\u064e\u0651"), (0xFCF3, "\u0640\u064f\u0651"), (0xFCF4, "\u0640\u0650\u0651"),
  (0xFCF5, "\u0637\u0649"), (0xFCF6, "\u0637\u064a"), (0xFCF7, "\u0639\u0649"), (0xFCF8, "\u0639\u064a"),
  (0xFCF9, "\u063a\u0649"), (0xFCFA, "\u063a\u064a"), (0xFCFB, "\u0633\u0649"), (0xFCFC, "\u0633\u064a"),
  (0xFCFD, "\u0634\u0649"), (0xFCFE, "\u0634\u064a"), (0xFCFF, "\u062d\u0649"), (0xFD00, "\u062d\u064a"),
  (0xFD01, "\u062c\u0649"), (0xFD02, "\u062c\u064a"), (0xFD03, "\u062e\u0649"), (0xFD04, "\u062e\u064a"),
  (0xFD05, "\u0635\u0649"), (0xFD06, "\u0635\u064a"), (0xFD07, "\u0636\u0649"), (0xFD08, "\u0636\u064a"),
  (0xFD09, "\u0634\u062c"), (0xFD0A, "\u0634\u062d"), (0xFD0B, "\u0634\u062e"), (0xFD0C, "\u0634\u0645"),
  (0xFD0D, "\u0634\u0631"), (0xFD0E, "\u0633\u0631"), (0xFD0F, "\u0635\u0631"), (0xFD10, "\u0636\u0631"),
  (0xFD11, "\u0637\u0649"), (0xFD12, "\u0637\u064a"), (0xFD13, "\u0639\u0649"), (0xFD14, "\u0639\u064a"),
  (0xFD15, "\u063a\u0649"), (0xFD16, "\u063a\u064a"), (0xFD17, "\u0633\u0649"), (0xFD18, "\u0633\u064a"),
  (0xFD19, "\u0634\u0649"), (0xFD1A, "\u0634\u064a"), (0xFD1B, "\u062d\u0649"), (0xFD1C, "\u062d\u064a"),
  (0xFD1D, "\u062c\u0649"), (0xFD1E, "\u062c\u064a"), (0xFD1F, "\u062e\u0649"), (0xFD20, "\u062e\u064a"),
  (0xFD21, "\u0635\u0649"), (0xFD22, "\u0635\u064a"), (0xFD23, "\u0636\u0649"), (0xFD24, "\u0636\u064a"),
  (0xFD25, "\u0634\u062c"), (0xFD26, "\u0634\u062d"), (0xFD27, "\u0634\u062e"), (0xFD28, "\u0634\u0645"),
  (0xFD29, "\u0634\u0631"), (0xFD2A, "\u0633\u0631"), (0xFD2B, "\u0635\u0631"), (0xFD2C, "\u0636\u0631"),
  (0xFD2D, "\u0634\u062c"), (0xFD2E, "\u0634\u062d"), (0xFD2F, "\u0634\u062e"), (0xFD30, "\u0634\u0645"),
  (0xFD31, "\u0633\u0647"), (0xFD32, "\u0634\u0647"), (0xFD33, "\u0637\u0645"), (0xFD34, "\u0633\u062c"),
  (0xFD35, "\u0633\u062d"), (0xFD36, "\u0633\u062e"), (0xFD37, "\u0634\u062c"), (0xFD38, "\u0634\u062d"),
  (0xFD39, "\u0634\u062e"), (0xFD3A, "\u0637\u0645"), (0xFD3B, "\u0638\u0645"), (0xFD3C, "\u0627\u064b"),
  (0xFD3D, "\u0627\u064b"), (0xFD50, "\u062a\u062c\u0645"), (0xFD51, "\u062a\u062d\u062c"),
  (0xFD52, "\u062a\u062d\u062c"), (0xFD53, "\u062a\u062d\u0645"), (0xFD54, "\u062a\u062e\u0645"),
  (0xFD55, "\u062a\u0645\u062c"), (0xFD56, "\u062a\u0645\u062d"), (0xFD57, "\u062a\u0645\u062e"),
  (0xFD58, "\u062c\u0645\u062d"), (0xFD59, "\u062c\u0645\u062d"), (0xFD5A, "\u062d\u0645\u064a"),
  (0xFD5B, "\u062d\u0645\u0649"), (0xFD5C, "\u0633\u062d\u062c"), (0xFD5D, "\u0633\u062c\u062d"),
  (0xFD5E, "\u0633\u062c\u0649"), (0xFD5F, "\u0633\u0645\u062d"), (0xFD60, "\u0633\u0645\u062d"),
  (0xFD61, "\u0633\u0645\u062c"), (0xFD62, "\u0633\u0645\u0645"), (0xFD63, "\u0633\u0645\u0645"),
  (0xFD64, "\u0635\u062d\u062d"), (0xFD65, "\u0635\u062d\u062d"), (0xFD66, "\u0635\u0645\u0645"),
  (0xFD67, "\u0634\u062d\u0645"), (0xFD68, "\u0634\u062d\u0645"), (0xFD69, "\u0634\u062c\u064a"),
  (0xFD6A, "\u0634\u0645\u062e"), (0xFD6B, "\u0634\u0645\u062e"), (0xFD6C, "\u0634\u0645\u0645"),
  (0xFD6D, "\u0634\u0645\u0645"), (0xFD6E, "\u0636\u062d\u0649"), (0xFD6F, "\u0636\u062e\u0645"),
  (0xFD70, "\u0636\u062e\u0645"), (0xFD71, "\u0637\u0645\u062d"), (0xFD72, "\u0637\u0645\u062d"),
  (0xFD73, "\u0637\u0645\u0645"), (0xFD74, "\u0637\u0645\u064a"), (0xFD75, "\u0639\u062c\u0645"),
  (0xFD76, "\u0639\u0645\u0645"), (0xFD77, "\u0639\u0645\u0645"), (0xFD78, "\u0639\u0645\u0649"),
  (0xFD79, "\u063a\u0645\u0645"), (0xFD7A, "\u063a\u0645\u064a"), (0xFD7B, "\u063a\u0645\u0649"),
  (0xFD7C, "\u0641\u062e\u0645"), (0xFD7D, "\u0641\u062e\u0645"), (0xFD7E, "\u0642\u0645\u062d"),
  (0xFD7F, "\u0642\u0645\u0645"), (0xFD80, "\u0644\u062d\u0645"), (0xFD81, "\u0644\u062d\u064a"),
  (0xFD82, "\u0644\u062d\u0649"), (0xFD83, "\u0644\u062c\u062c"), (0xFD84, "\u0644\u062c\u062c"),
  (0xFD85, "\u0644\u062e\u0645"), (0xFD86, "\u0644\u062e\u0645"), (0xFD87, "\u0644\u0645\u062d"),
  (0xFD88, "\u0644\u0645\u062d"), (0xFD89, "\u0645\u062d\u062c"), (0xFD8A, "\u0645\u062d\u0645"),
  (0xFD8B, "\u0645\u062d\u064a"), (0xFD8C, "\u0645\u062c\u062d"), (0xFD8D, "\u0645\u062c\u0645"),
  (0xFD8E, "\u0645\u062e\u062c"), (0xFD8F, "\u0645\u062e\u0645"), (0xFD92, "\u0645\u062c\u062e"),
  (0xFD93, "\u0647\u0645\u062c"), (0xFD94, "\u0647\u0645\u0645"), (0xFD95, "\u0646\u062d\u0645"),
  (0xFD96, "\u0646\u062d\u0649"), (0xFD97, "\u0646\u062c\u0645"), (0xFD98, "\u0646\u062c\u0645"),
  (0xFD99, "\u0646\u062c\u0649"), (0xFD9A, "\u0646\u0645\u064a"), (0xFD9B, "\u0646\u0645\u0649"),
  (0xFD9C, "\u064a\u0645\u0645"), (0xFD9D, "\u064a\u0645\u0645"), (0xFD9E, "\u0628\u062e\u064a"),
  (0xFD9F, "\u062a\u062c\u064a"), (0xFDA0, "\u062a\u062c\u0649"), (0xFDA1, "\u062a\u062e\u064a"),
  (0xFDA2, "\u062a\u062e\u0649"), (0xFDA3, "\u062a\u0645\u064a"), (0xFDA4, "\u062a\u0645\u0649"),
  (0xFDA5, "\u062c\u0645\u064a"), (0xFDA6, "\u062c\u062d\u0649"), (0xFDA7, "\u062c\u0645\u0649"),
  (0xFDA8, "\u0633\u062e\u0649"), (0xFDA9, "\u0635\u062d\u064a"), (0xFDAA, "\u0634\u062d\u064a"),
  (0xFDAB, "\u0636\u062d\u064a"), (0xFDAC, "\u0644\u062c\u064a"), (0xFDAD, "\u0644\u0645\u064a"),
  (0xFDAE, "\u064a\u062d\u064a"), (0xFDAF, "\u064a\u062c\u064a"), (0xFDB0, "\u064a\u0645\u064a"),
  (0xFDB1, "\u0645\u0645\u064a"), (0xFDB2, "\u0642\u0645\u064a"), (0xFDB3, "\u0646\u062d\u064a"),
  (0xFDB4, "\u0642\u0645\u062d"), (0xFDB5, "\u0644\u062d\u0645"), (0xFDB6, "\u0639\u0645\u064a"),
  (0xFDB7, "\u0643\u0645\u064a"), (0xFDB8, "\u0646\u062c\u062d"), (0xFDB9, "\u0645\u062e\u064a"),
  (0xFDBA, "\u0644\u062c\u0645"), (0xFDBB, "\u0643\u0645\u0645"), (0xFDBC, "\u0644\u062c\u0645"),
  (0xFDBD, "\u0646\u062c\u062d"), (0xFDBE, "\u062c\u062d\u064a"), (0xFDBF, "\u062d\u062c\u064a"),
  (0xFDC0, "\u0645\u062c\u064a"), (0xFDC1, "\u0641\u0645\u064a"), (0xFDC2, "\u0628\u062d\u064a"),
  (0xFDC3, "\u0643\u0645\u0645"), (0xFDC4, "\u0639\u062c\u0645"), (0xFDC5, "\u0635\u0645\u0645"),
  (0xFDC6, "\u0633\u062e\u064a"), (0xFDC7, "\u0646\u062c\u064a"), (0xFDF0, "\u0635\u0644\u06d2"),
  (0xFDF1, "\u0642\u0644\u06d2"), (0xFDF2, "\u0627\u0644\u0644\u0647"), (0xFDF3, "\u0627\u0643\u0628\u0631"),
  (0xFDF4, "\u0645\u062d\u0645\u062f"), (0xFDF5, "\u0635\u0644\u0639\u0645"),
  (0xFDF6, "\u0631\u0633\u0648\u0644"), (0xFDF7, "\u0639\u0644\u064a\u0647"),
  (0xFDF8, "\u0648\u0633\u0644\u0645"), (0xFDF9, "\u0635\u0644\u0649"),
  (0xFDFA, "\u0635\u0644\u0649 \u0627\u0644\u0644\u0647 \u0639\u0644\u064a\u0647 \u0648\u0633\u0644\u0645"),
  (0xFDFB, "\u062c\u0644 \u062c\u0644\u0627\u0644\u0647"), (0xFDFC, "\u0631\u06cc\u0627\u0644"),
  (0xFE49, " \u0305"), (0xFE4A, " \u0305"), (0xFE4B, " \u0305"), (0xFE4C, " \u0305"), (0xFE70, " \u064b"),
  (0xFE71, "\u0640\u064b"), (0xFE72, " \u064c"), (0xFE74, " \u064d"), (0xFE76, " \u064e"),
  (0xFE77, "\u0640\u064e"), (0xFE78, " \u064f"), (0xFE79, "\u0640\u064f"), (0xFE7A, " \u0650"),
  (0xFE7B, "\u0640\u0650"), (0xFE7C, " \u0651"), (0xFE7D, "\u0640\u0651"), (0xFE7E, " \u0652"),
  (0xFE7F, "\u0640\u0652"), (0xFEF5, "\u0644\u0622"), (0xFEF6, "\u0644\u0622"), (0xFEF7, "\u0644\u0623"),
  (0xFEF8, "\u0644\u0623"), (0xFEF9, "\u0644\u0625"), (0xFEFA, "\u0644\u0625"), (0xFEFB, "\u0644\u0627"),
  (0xFEFC, "\u0644\u0627"), (0xFFE3, " \u0304"), (0x1F101, "0,"), (0x1F102, "1,"), (0x1F103, "2,"),
  (0x1F104, "3,"), (0x1F105, "4,"), (0x1F106, "5,"), (0x1F107, "6,"), (0x1F108, "7,"), (0x1F109, "8,"),
  (0x1F10A, "9,"), (0x1F110, "(a)"), (0x1F111, "(b)"), (0x1F112, "(c)"), (0x1F113, "(d)"), (0x1F114, "(e)"),
  (0x1F115, "(f)"), (0x1F116, "(g)"), (0x1F117, "(h)"), (0x1F118, "(i)"), (0x1F119, "(j)"), (0x1F11A, "(k)"),
  (0x1F11B, "(l)"), (0x1F11C, "(m)"), (0x1F11D, "(n)"), (0x1F11E, "(o)"), (0x1F11F, "(p)"), (0x1F120, "(q)"),
  (0x1F121, "(r)"), (0x1F122, "(s)"), (0x1F123, "(t)"), (0x1F124, "(u)"), (0x1F125, "(v)"), (0x1F126, "(w)"),
  (0x1F127, "(x)"), (0x1F128, "(y)"), (0x1F129, "(z)"), (0x1F12A, "\u3014s\u3015"), (0x1F12D, "cd"),
  (0x1F12E, "wz"), (0x1F14A, "hv"), (0x1F14B, "mv"), (0x1F14C, "sd"), (0x1F14D, "ss"), (0x1F14E, "ppv"),
  (0x1F14F, "wc"), (0x1F16A, "mc"), (0x1F16B, "md"), (0x1F16C, "mr"), (0x1F190, "dj"),
  (0x1F200, "\u307b\u304b"), (0x1F201, "\u30b3\u30b3"), (0x1F240, "\u3014\u672c\u3015"),
  (0x1F241, "\u3014\u4e09\u3015"), (0x1F242, "\u3014\u4e8c\u3015"), (0x1F243, "\u3014\u5b89\u3015"),
  (0x1F244, "\u3014\u70b9\u3015"), (0x1F245, "\u3014\u6253\u3015"), (0x1F246, "\u3014\u76d7\u3015"),
  (0x1F247, "\u3014\u52dd\u3015"), (0x1F248, "\u3014\u6557\u3015")]

def droppedRanges : Array (Nat × Nat) := #[
  (0x34F, 0x34F), (0x115F, 0x1160), (0x17B4, 0x17B5), (0x180B, 0x180D), (0x180F, 0x180F), (0x3164, 0x3164),
  (0xFE00, 0xFE0F), (0xFFA0, 0xFFA0), (0xE0100, 0xE01EF)]

-- Visible characters that no name may hold.
def refusedRanges : Array (Nat × Nat) := #[
  (0x2024, 0x2026), (0x2488, 0x249B), (0x2FF0, 0x2FFB), (0x33C2, 0x33C2), (0x33C7, 0x33C7), (0x33D8, 0x33D8),
  (0xFE12, 0xFE12), (0xFE19, 0xFE19), (0xFE30, 0xFE30), (0xFE52, 0xFE52), (0xFFFC, 0xFFFD),
  (0x1F100, 0x1F100)]

def pairFold? (c : Char) : Option Char :=
  (Text.search? pairRanges (Text.side c.toNat)).bind fun (a, _) =>
    if (c.toNat - a) % 2 = 0 then some (Char.ofNat (c.toNat + 1)) else none

def runFold? (runs : Array (Nat × Nat × Nat)) (c : Char) : Option Char :=
  (Text.search? runs fun (a, b, _) => Text.side c.toNat (a, b)).map fun (a, _, folded) =>
    Char.ofNat (folded + (c.toNat - a))

def singleFold? (c : Char) : Option Char :=
  (pairFold? c).orElse fun _ => [letterRuns, signRuns, shapeRuns, rareRuns].findSome? (runFold? · c)

def severalFold? (table : Array (Nat × String)) (c : Char) : Option (List Char) :=
  (Text.search? table fun (n, _) => Text.side c.toNat (n, n)).map fun (_, folded) => folded.toList

def foldChar (c : Char) : Option (List Char) :=
  if Text.isInRanges refusedRanges c then none
  else if Text.isInRanges droppedRanges c then some []
  else match (severalFold? severalLetters c).orElse fun _ => severalFold? severalShapes c with
    | some folded => some folded
    | none => some [(singleFold? c).getD c]

def fold? (cs : List Char) : Option (List Char) := (cs.mapM foldChar).map fun folded => Text.normal folded.flatten

end SubscriptionLedger.Mail.Domain
