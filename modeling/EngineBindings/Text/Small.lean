/-! Small letters.

For comparing names without regard to case every letter has a small form, which may be several
characters. -/
namespace EngineBindings.Text

/-- Runs of letters whose small forms are as far behind all of them: the first and the last code
point, the step from one to the next, and the distance. -/
def smallRuns : List (Nat × Nat × Nat × Int) := [
    (0x41, 0x5A, 1, 32), (0xB5, 0xB5, 1, 775), (0xC0, 0xD6, 1, 32), (0xD8, 0xDE, 1, 32),
    (0x100, 0x12E, 2, 1), (0x132, 0x136, 2, 1), (0x139, 0x147, 2, 1), (0x14A, 0x176, 2, 1),
    (0x178, 0x178, 1, -121), (0x179, 0x17D, 2, 1), (0x17F, 0x17F, 1, -268),
    (0x181, 0x181, 1, 210), (0x182, 0x184, 2, 1), (0x186, 0x186, 1, 206), (0x187, 0x187, 1, 1),
    (0x189, 0x18A, 1, 205), (0x18B, 0x18B, 1, 1), (0x18E, 0x18E, 1, 79), (0x18F, 0x18F, 1, 202),
    (0x190, 0x190, 1, 203), (0x191, 0x191, 1, 1), (0x193, 0x193, 1, 205), (0x194, 0x194, 1, 207),
    (0x196, 0x196, 1, 211), (0x197, 0x197, 1, 209), (0x198, 0x198, 1, 1), (0x19C, 0x19C, 1, 211),
    (0x19D, 0x19D, 1, 213), (0x19F, 0x19F, 1, 214), (0x1A0, 0x1A4, 2, 1), (0x1A6, 0x1A6, 1, 218),
    (0x1A7, 0x1A7, 1, 1), (0x1A9, 0x1A9, 1, 218), (0x1AC, 0x1AC, 1, 1), (0x1AE, 0x1AE, 1, 218),
    (0x1AF, 0x1AF, 1, 1), (0x1B1, 0x1B2, 1, 217), (0x1B3, 0x1B5, 2, 1), (0x1B7, 0x1B7, 1, 219),
    (0x1B8, 0x1B8, 1, 1), (0x1BC, 0x1BC, 1, 1), (0x1C4, 0x1C4, 1, 2), (0x1C5, 0x1C5, 1, 1),
    (0x1C7, 0x1C7, 1, 2), (0x1C8, 0x1C8, 1, 1), (0x1CA, 0x1CA, 1, 2), (0x1CB, 0x1DB, 2, 1),
    (0x1DE, 0x1EE, 2, 1), (0x1F1, 0x1F1, 1, 2), (0x1F2, 0x1F4, 2, 1), (0x1F6, 0x1F6, 1, -97),
    (0x1F7, 0x1F7, 1, -56), (0x1F8, 0x21E, 2, 1), (0x220, 0x220, 1, -130), (0x222, 0x232, 2, 1),
    (0x23A, 0x23A, 1, 10795), (0x23B, 0x23B, 1, 1), (0x23D, 0x23D, 1, -163),
    (0x23E, 0x23E, 1, 10792), (0x241, 0x241, 1, 1), (0x243, 0x243, 1, -195),
    (0x244, 0x244, 1, 69), (0x245, 0x245, 1, 71), (0x246, 0x24E, 2, 1), (0x345, 0x345, 1, 116),
    (0x370, 0x372, 2, 1), (0x376, 0x376, 1, 1), (0x37F, 0x37F, 1, 116), (0x386, 0x386, 1, 38),
    (0x388, 0x38A, 1, 37), (0x38C, 0x38C, 1, 64), (0x38E, 0x38F, 1, 63), (0x391, 0x3A1, 1, 32),
    (0x3A3, 0x3AB, 1, 32), (0x3C2, 0x3C2, 1, 1), (0x3CF, 0x3CF, 1, 8), (0x3D0, 0x3D0, 1, -30),
    (0x3D1, 0x3D1, 1, -25), (0x3D2, 0x3D2, 1, -13), (0x3D3, 0x3D3, 1, -6), (0x3D4, 0x3D4, 1, -9),
    (0x3D5, 0x3D5, 1, -15), (0x3D6, 0x3D6, 1, -22), (0x3D8, 0x3EE, 2, 1), (0x3F0, 0x3F0, 1, -54),
    (0x3F1, 0x3F1, 1, -48), (0x3F2, 0x3F2, 1, -47), (0x3F4, 0x3F4, 1, -60),
    (0x3F5, 0x3F5, 1, -64), (0x3F7, 0x3F7, 1, 1), (0x3F9, 0x3F9, 1, -7), (0x3FA, 0x3FA, 1, 1),
    (0x3FD, 0x3FF, 1, -130), (0x400, 0x40F, 1, 80), (0x410, 0x42F, 1, 32), (0x460, 0x480, 2, 1),
    (0x48A, 0x4BE, 2, 1), (0x4C0, 0x4C0, 1, 15), (0x4C1, 0x4CD, 2, 1), (0x4D0, 0x52E, 2, 1),
    (0x531, 0x556, 1, 48), (0x10A0, 0x10C5, 1, 7264), (0x10C7, 0x10C7, 1, 7264),
    (0x10CD, 0x10CD, 1, 7264), (0x13A0, 0x13EF, 1, 38864), (0x13F0, 0x13F5, 1, 8),
    (0x1C90, 0x1CBA, 1, -3008), (0x1CBD, 0x1CBF, 1, -3008), (0x1E00, 0x1E94, 2, 1),
    (0x1E9B, 0x1E9B, 1, -58), (0x1E9E, 0x1E9E, 1, -7615), (0x1EA0, 0x1EFE, 2, 1),
    (0x1F08, 0x1F0F, 1, -8), (0x1F18, 0x1F1D, 1, -8), (0x1F28, 0x1F2F, 1, -8),
    (0x1F38, 0x1F3F, 1, -8), (0x1F48, 0x1F4D, 1, -8), (0x1F59, 0x1F5F, 2, -8),
    (0x1F68, 0x1F6F, 1, -8), (0x1FB8, 0x1FB9, 1, -8), (0x1FBA, 0x1FBB, 1, -74),
    (0x1FBE, 0x1FBE, 1, -7173), (0x1FC8, 0x1FCB, 1, -86), (0x1FD8, 0x1FD9, 1, -8),
    (0x1FDA, 0x1FDB, 1, -100), (0x1FE8, 0x1FE9, 1, -8), (0x1FEA, 0x1FEB, 1, -112),
    (0x1FEC, 0x1FEC, 1, -7), (0x1FF8, 0x1FF9, 1, -128), (0x1FFA, 0x1FFB, 1, -126),
    (0x2102, 0x2102, 1, -8351), (0x2107, 0x2107, 1, -7852), (0x210B, 0x210B, 1, -8355),
    (0x210C, 0x210C, 1, -8356), (0x210D, 0x210D, 1, -8357), (0x2110, 0x2110, 1, -8359),
    (0x2111, 0x2111, 1, -8360), (0x2112, 0x2112, 1, -8358), (0x2115, 0x2115, 1, -8359),
    (0x2119, 0x211B, 1, -8361), (0x211C, 0x211C, 1, -8362), (0x211D, 0x211D, 1, -8363),
    (0x2124, 0x2124, 1, -8362), (0x2126, 0x2126, 1, -7517), (0x2128, 0x2128, 1, -8366),
    (0x212A, 0x212A, 1, -8383), (0x212B, 0x212B, 1, -8262), (0x212C, 0x212D, 1, -8394),
    (0x2130, 0x2131, 1, -8395), (0x2132, 0x2132, 1, 28), (0x2133, 0x2133, 1, -8390),
    (0x213E, 0x213E, 1, -7563), (0x213F, 0x213F, 1, -7551), (0x2145, 0x2145, 1, -8417),
    (0x2160, 0x216F, 1, 16), (0x2183, 0x2183, 1, 1), (0x24B6, 0x24CF, 1, 26),
    (0x2C00, 0x2C2F, 1, 48), (0x2C60, 0x2C60, 1, 1), (0x2C62, 0x2C62, 1, -10743),
    (0x2C63, 0x2C63, 1, -3814), (0x2C64, 0x2C64, 1, -10727), (0x2C67, 0x2C6B, 2, 1),
    (0x2C6D, 0x2C6D, 1, -10780), (0x2C6E, 0x2C6E, 1, -10749), (0x2C6F, 0x2C6F, 1, -10783),
    (0x2C70, 0x2C70, 1, -10782), (0x2C72, 0x2C72, 1, 1), (0x2C75, 0x2C75, 1, 1),
    (0x2C7E, 0x2C7F, 1, -10815), (0x2C80, 0x2CE2, 2, 1), (0x2CEB, 0x2CED, 2, 1),
    (0x2CF2, 0x2CF2, 1, 1), (0xA640, 0xA66C, 2, 1), (0xA680, 0xA69A, 2, 1),
    (0xA722, 0xA72E, 2, 1), (0xA732, 0xA76E, 2, 1), (0xA779, 0xA77B, 2, 1),
    (0xA77D, 0xA77D, 1, -35332), (0xA77E, 0xA786, 2, 1), (0xA78B, 0xA78B, 1, 1),
    (0xA78D, 0xA78D, 1, -42280), (0xA790, 0xA792, 2, 1), (0xA796, 0xA7A8, 2, 1),
    (0xA7AA, 0xA7AA, 1, -42308), (0xA7AB, 0xA7AB, 1, -42319), (0xA7AC, 0xA7AC, 1, -42315),
    (0xA7AD, 0xA7AD, 1, -42305), (0xA7AE, 0xA7AE, 1, -42308), (0xA7B0, 0xA7B0, 1, -42258),
    (0xA7B1, 0xA7B1, 1, -42282), (0xA7B2, 0xA7B2, 1, -42261), (0xA7B3, 0xA7B3, 1, 928),
    (0xA7B4, 0xA7C2, 2, 1), (0xA7C4, 0xA7C4, 1, -48), (0xA7C5, 0xA7C5, 1, -42307),
    (0xA7C6, 0xA7C6, 1, -35384), (0xA7C7, 0xA7C9, 2, 1), (0xA7D0, 0xA7D0, 1, 1),
    (0xA7D6, 0xA7D8, 2, 1), (0xA7F5, 0xA7F5, 1, 1), (0xFF21, 0xFF3A, 1, 32),
    (0x10400, 0x10427, 1, 40), (0x104B0, 0x104D3, 1, 40), (0x10570, 0x10594, 2, 39),
    (0x10571, 0x10579, 2, 39), (0x1057D, 0x10589, 2, 39), (0x1058D, 0x10591, 2, 39),
    (0x10595, 0x10595, 1, 39), (0x10C80, 0x10CB2, 1, 64), (0x118A0, 0x118BF, 1, 32),
    (0x16E40, 0x16E5F, 1, 32), (0x1D400, 0x1D419, 1, -119711), (0x1D434, 0x1D44D, 1, -119763),
    (0x1D468, 0x1D481, 1, -119815), (0x1D49C, 0x1D49E, 2, -119867),
    (0x1D49F, 0x1D49F, 1, -119867), (0x1D4A2, 0x1D4A2, 1, -119867),
    (0x1D4A5, 0x1D4A6, 1, -119867), (0x1D4A9, 0x1D4AC, 1, -119867),
    (0x1D4AE, 0x1D4B5, 1, -119867), (0x1D4D0, 0x1D4E9, 1, -119919),
    (0x1D504, 0x1D505, 1, -119971), (0x1D507, 0x1D50A, 1, -119971),
    (0x1D50D, 0x1D514, 1, -119971), (0x1D516, 0x1D51C, 1, -119971),
    (0x1D538, 0x1D539, 1, -120023), (0x1D53B, 0x1D53E, 1, -120023),
    (0x1D540, 0x1D544, 1, -120023), (0x1D546, 0x1D546, 1, -120023),
    (0x1D54A, 0x1D550, 1, -120023), (0x1D56C, 0x1D585, 1, -120075),
    (0x1D5A0, 0x1D5B9, 1, -120127), (0x1D5D4, 0x1D5ED, 1, -120179),
    (0x1D608, 0x1D621, 1, -120231), (0x1D63C, 0x1D655, 1, -120283),
    (0x1D670, 0x1D689, 1, -120335), (0x1D6A8, 0x1D6B8, 1, -119543),
    (0x1D6B9, 0x1D6B9, 1, -119553), (0x1D6BA, 0x1D6C0, 1, -119543),
    (0x1D6D3, 0x1D6D3, 1, -119568), (0x1D6E2, 0x1D6F2, 1, -119601),
    (0x1D6F3, 0x1D6F3, 1, -119611), (0x1D6F4, 0x1D6FA, 1, -119601),
    (0x1D70D, 0x1D70D, 1, -119626), (0x1D71C, 0x1D72C, 1, -119659),
    (0x1D72D, 0x1D72D, 1, -119669), (0x1D72E, 0x1D734, 1, -119659),
    (0x1D747, 0x1D747, 1, -119684), (0x1D756, 0x1D766, 1, -119717),
    (0x1D767, 0x1D767, 1, -119727), (0x1D768, 0x1D76E, 1, -119717),
    (0x1D781, 0x1D781, 1, -119742), (0x1D790, 0x1D7A0, 1, -119775),
    (0x1D7A1, 0x1D7A1, 1, -119785), (0x1D7A2, 0x1D7A8, 1, -119775),
    (0x1D7BB, 0x1D7BB, 1, -119800), (0x1E900, 0x1E921, 1, 34)]

/-- Letters whose small forms are several characters. -/
def smallTexts : List (Nat × String) := [
    (0xDF, "ss"), (0x130, "i\u0307"), (0x149, "ʼn"), (0x1F0, "j\u030c"), (0x37A, " ι"),
    (0x390, "ι\u0308\u0301"), (0x3B0, "υ\u0308\u0301"), (0x587, "եւ"), (0x1E96, "h\u0331"),
    (0x1E97, "t\u0308"), (0x1E98, "w\u030a"), (0x1E99, "y\u030a"), (0x1E9A, "aʾ"),
    (0x1F50, "υ\u0313"), (0x1F52, "υ\u0313\u0300"), (0x1F54, "υ\u0313\u0301"),
    (0x1F56, "υ\u0313\u0342"), (0x1F80, "ἀι"), (0x1F81, "ἁι"), (0x1F82, "ἂι"), (0x1F83, "ἃι"),
    (0x1F84, "ἄι"), (0x1F85, "ἅι"), (0x1F86, "ἆι"), (0x1F87, "ἇι"), (0x1F88, "ἀι"),
    (0x1F89, "ἁι"), (0x1F8A, "ἂι"), (0x1F8B, "ἃι"), (0x1F8C, "ἄι"), (0x1F8D, "ἅι"),
    (0x1F8E, "ἆι"), (0x1F8F, "ἇι"), (0x1F90, "ἠι"), (0x1F91, "ἡι"), (0x1F92, "ἢι"),
    (0x1F93, "ἣι"), (0x1F94, "ἤι"), (0x1F95, "ἥι"), (0x1F96, "ἦι"), (0x1F97, "ἧι"),
    (0x1F98, "ἠι"), (0x1F99, "ἡι"), (0x1F9A, "ἢι"), (0x1F9B, "ἣι"), (0x1F9C, "ἤι"),
    (0x1F9D, "ἥι"), (0x1F9E, "ἦι"), (0x1F9F, "ἧι"), (0x1FA0, "ὠι"), (0x1FA1, "ὡι"),
    (0x1FA2, "ὢι"), (0x1FA3, "ὣι"), (0x1FA4, "ὤι"), (0x1FA5, "ὥι"), (0x1FA6, "ὦι"),
    (0x1FA7, "ὧι"), (0x1FA8, "ὠι"), (0x1FA9, "ὡι"), (0x1FAA, "ὢι"), (0x1FAB, "ὣι"),
    (0x1FAC, "ὤι"), (0x1FAD, "ὥι"), (0x1FAE, "ὦι"), (0x1FAF, "ὧι"), (0x1FB2, "ὰι"),
    (0x1FB3, "αι"), (0x1FB4, "άι"), (0x1FB6, "α\u0342"), (0x1FB7, "α\u0342ι"), (0x1FBC, "αι"),
    (0x1FC2, "ὴι"), (0x1FC3, "ηι"), (0x1FC4, "ήι"), (0x1FC6, "η\u0342"), (0x1FC7, "η\u0342ι"),
    (0x1FCC, "ηι"), (0x1FD2, "ι\u0308\u0300"), (0x1FD3, "ι\u0308\u0301"), (0x1FD6, "ι\u0342"),
    (0x1FD7, "ι\u0308\u0342"), (0x1FE2, "υ\u0308\u0300"), (0x1FE3, "υ\u0308\u0301"),
    (0x1FE4, "ρ\u0313"), (0x1FE6, "υ\u0342"), (0x1FE7, "υ\u0308\u0342"), (0x1FF2, "ὼι"),
    (0x1FF3, "ωι"), (0x1FF4, "ώι"), (0x1FF6, "ω\u0342"), (0x1FF7, "ω\u0342ι"), (0x1FFC, "ωι"),
    (0x20A8, "rs"), (0x2103, "°c"), (0x2109, "°f"), (0x2116, "no"), (0x2120, "sm"),
    (0x2121, "tel"), (0x2122, "tm"), (0x3371, "hpa"), (0x3373, "au"), (0x3375, "ov"),
    (0x3380, "pa"), (0x3381, "na"), (0x3382, "μa"), (0x3383, "ma"), (0x3384, "ka"),
    (0x3385, "kb"), (0x3386, "mb"), (0x3387, "gb"), (0x338A, "pf"), (0x338B, "nf"),
    (0x338C, "μf"), (0x3390, "hz"), (0x3391, "khz"), (0x3392, "mhz"), (0x3393, "ghz"),
    (0x3394, "thz"), (0x33A9, "pa"), (0x33AA, "kpa"), (0x33AB, "mpa"), (0x33AC, "gpa"),
    (0x33B4, "pv"), (0x33B5, "nv"), (0x33B6, "μv"), (0x33B7, "mv"), (0x33B8, "kv"),
    (0x33B9, "mv"), (0x33BA, "pw"), (0x33BB, "nw"), (0x33BC, "μw"), (0x33BD, "mw"),
    (0x33BE, "kw"), (0x33BF, "mw"), (0x33C0, "kω"), (0x33C1, "mω"), (0x33C3, "bq"),
    (0x33C6, "c∕kg"), (0x33C7, "co."), (0x33C8, "db"), (0x33C9, "gy"), (0x33CB, "hp"),
    (0x33CD, "kk"), (0x33CE, "km"), (0x33D7, "ph"), (0x33D9, "ppm"), (0x33DA, "pr"),
    (0x33DC, "sv"), (0x33DD, "wb"), (0xFB00, "ff"), (0xFB01, "fi"), (0xFB02, "fl"),
    (0xFB03, "ffi"), (0xFB04, "ffl"), (0xFB05, "st"), (0xFB06, "st"), (0xFB13, "մն"),
    (0xFB14, "մե"), (0xFB15, "մի"), (0xFB16, "վն"), (0xFB17, "մխ")]

/-- The small form of a character. -/
def small (c : Char) : List Char :=
  let n := c.toNat
  match smallTexts.lookup n with
  | some form => form.toList
  | none =>
    match smallRuns.find? fun (first, last, step, _) =>
        first ≤ n && n ≤ last && (n - first) % step = 0 with
    | some (_, _, _, distance) => [Char.ofNat (n + distance).toNat]
    | none => [c]

end EngineBindings.Text
