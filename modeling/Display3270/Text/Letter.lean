import Display3270.Text.Ranges

namespace Display3270

/-- Whether a character is of a word or of a number. Letters that are numbers too are letters. -/
inductive LetterClass
  | letter
  | number
  deriving DecidableEq

/-- The code points with the Unicode property Alphabetic, and those of the categories of
numbers. -/
def letterRanges : Ranges LetterClass :=
  #[(0x30, 0x39, .number), (0x41, 0x5A, .letter), (0x61, 0x7A, .letter), (0xAA, 0xAA, .letter),
    (0xB2, 0xB3, .number), (0xB5, 0xB5, .letter), (0xB9, 0xB9, .number), (0xBA, 0xBA, .letter),
    (0xBC, 0xBE, .number), (0xC0, 0xD6, .letter), (0xD8, 0xF6, .letter), (0xF8, 0x2C1, .letter),
    (0x2C6, 0x2D1, .letter), (0x2E0, 0x2E4, .letter), (0x2EC, 0x2EC, .letter),
    (0x2EE, 0x2EE, .letter), (0x345, 0x345, .letter), (0x363, 0x374, .letter),
    (0x376, 0x377, .letter), (0x37A, 0x37D, .letter), (0x37F, 0x37F, .letter),
    (0x386, 0x386, .letter), (0x388, 0x38A, .letter), (0x38C, 0x38C, .letter),
    (0x38E, 0x3A1, .letter), (0x3A3, 0x3F5, .letter), (0x3F7, 0x481, .letter),
    (0x48A, 0x52F, .letter), (0x531, 0x556, .letter), (0x559, 0x559, .letter),
    (0x560, 0x588, .letter), (0x5B0, 0x5BD, .letter), (0x5BF, 0x5BF, .letter),
    (0x5C1, 0x5C2, .letter), (0x5C4, 0x5C5, .letter), (0x5C7, 0x5C7, .letter),
    (0x5D0, 0x5EA, .letter), (0x5EF, 0x5F2, .letter), (0x610, 0x61A, .letter),
    (0x620, 0x657, .letter), (0x659, 0x65F, .letter), (0x660, 0x669, .number),
    (0x66E, 0x6D3, .letter), (0x6D5, 0x6DC, .letter), (0x6E1, 0x6E8, .letter),
    (0x6ED, 0x6EF, .letter), (0x6F0, 0x6F9, .number), (0x6FA, 0x6FC, .letter),
    (0x6FF, 0x6FF, .letter), (0x710, 0x73F, .letter), (0x74D, 0x7B1, .letter),
    (0x7C0, 0x7C9, .number), (0x7CA, 0x7EA, .letter), (0x7F4, 0x7F5, .letter),
    (0x7FA, 0x7FA, .letter), (0x800, 0x817, .letter), (0x81A, 0x82C, .letter),
    (0x840, 0x858, .letter), (0x860, 0x86A, .letter), (0x870, 0x887, .letter),
    (0x889, 0x88F, .letter), (0x897, 0x897, .letter), (0x8A0, 0x8C9, .letter),
    (0x8D4, 0x8DF, .letter), (0x8E3, 0x8E9, .letter), (0x8F0, 0x93B, .letter),
    (0x93D, 0x94C, .letter), (0x94E, 0x950, .letter), (0x955, 0x963, .letter),
    (0x966, 0x96F, .number), (0x971, 0x983, .letter), (0x985, 0x98C, .letter),
    (0x98F, 0x990, .letter), (0x993, 0x9A8, .letter), (0x9AA, 0x9B0, .letter),
    (0x9B2, 0x9B2, .letter), (0x9B6, 0x9B9, .letter), (0x9BD, 0x9C4, .letter),
    (0x9C7, 0x9C8, .letter), (0x9CB, 0x9CC, .letter), (0x9CE, 0x9CE, .letter),
    (0x9D7, 0x9D7, .letter), (0x9DC, 0x9DD, .letter), (0x9DF, 0x9E3, .letter),
    (0x9E6, 0x9EF, .number), (0x9F0, 0x9F1, .letter), (0x9F4, 0x9F9, .number),
    (0x9FC, 0x9FC, .letter), (0xA01, 0xA03, .letter), (0xA05, 0xA0A, .letter),
    (0xA0F, 0xA10, .letter), (0xA13, 0xA28, .letter), (0xA2A, 0xA30, .letter),
    (0xA32, 0xA33, .letter), (0xA35, 0xA36, .letter), (0xA38, 0xA39, .letter),
    (0xA3E, 0xA42, .letter), (0xA47, 0xA48, .letter), (0xA4B, 0xA4C, .letter),
    (0xA51, 0xA51, .letter), (0xA59, 0xA5C, .letter), (0xA5E, 0xA5E, .letter),
    (0xA66, 0xA6F, .number), (0xA70, 0xA75, .letter), (0xA81, 0xA83, .letter),
    (0xA85, 0xA8D, .letter), (0xA8F, 0xA91, .letter), (0xA93, 0xAA8, .letter),
    (0xAAA, 0xAB0, .letter), (0xAB2, 0xAB3, .letter), (0xAB5, 0xAB9, .letter),
    (0xABD, 0xAC5, .letter), (0xAC7, 0xAC9, .letter), (0xACB, 0xACC, .letter),
    (0xAD0, 0xAD0, .letter), (0xAE0, 0xAE3, .letter), (0xAE6, 0xAEF, .number),
    (0xAF9, 0xAFC, .letter), (0xB01, 0xB03, .letter), (0xB05, 0xB0C, .letter),
    (0xB0F, 0xB10, .letter), (0xB13, 0xB28, .letter), (0xB2A, 0xB30, .letter),
    (0xB32, 0xB33, .letter), (0xB35, 0xB39, .letter), (0xB3D, 0xB44, .letter),
    (0xB47, 0xB48, .letter), (0xB4B, 0xB4C, .letter), (0xB56, 0xB57, .letter),
    (0xB5C, 0xB5D, .letter), (0xB5F, 0xB63, .letter), (0xB66, 0xB6F, .number),
    (0xB71, 0xB71, .letter), (0xB72, 0xB77, .number), (0xB82, 0xB83, .letter),
    (0xB85, 0xB8A, .letter), (0xB8E, 0xB90, .letter), (0xB92, 0xB95, .letter),
    (0xB99, 0xB9A, .letter), (0xB9C, 0xB9C, .letter), (0xB9E, 0xB9F, .letter),
    (0xBA3, 0xBA4, .letter), (0xBA8, 0xBAA, .letter), (0xBAE, 0xBB9, .letter),
    (0xBBE, 0xBC2, .letter), (0xBC6, 0xBC8, .letter), (0xBCA, 0xBCC, .letter),
    (0xBD0, 0xBD0, .letter), (0xBD7, 0xBD7, .letter), (0xBE6, 0xBF2, .number),
    (0xC00, 0xC0C, .letter), (0xC0E, 0xC10, .letter), (0xC12, 0xC28, .letter),
    (0xC2A, 0xC39, .letter), (0xC3D, 0xC44, .letter), (0xC46, 0xC48, .letter),
    (0xC4A, 0xC4C, .letter), (0xC55, 0xC56, .letter), (0xC58, 0xC5A, .letter),
    (0xC5C, 0xC5D, .letter), (0xC60, 0xC63, .letter), (0xC66, 0xC6F, .number),
    (0xC78, 0xC7E, .number), (0xC80, 0xC83, .letter), (0xC85, 0xC8C, .letter),
    (0xC8E, 0xC90, .letter), (0xC92, 0xCA8, .letter), (0xCAA, 0xCB3, .letter),
    (0xCB5, 0xCB9, .letter), (0xCBD, 0xCC4, .letter), (0xCC6, 0xCC8, .letter),
    (0xCCA, 0xCCC, .letter), (0xCD5, 0xCD6, .letter), (0xCDC, 0xCDE, .letter),
    (0xCE0, 0xCE3, .letter), (0xCE6, 0xCEF, .number), (0xCF1, 0xCF3, .letter),
    (0xD00, 0xD0C, .letter), (0xD0E, 0xD10, .letter), (0xD12, 0xD3A, .letter),
    (0xD3D, 0xD44, .letter), (0xD46, 0xD48, .letter), (0xD4A, 0xD4C, .letter),
    (0xD4E, 0xD4E, .letter), (0xD54, 0xD57, .letter), (0xD58, 0xD5E, .number),
    (0xD5F, 0xD63, .letter), (0xD66, 0xD78, .number), (0xD7A, 0xD7F, .letter),
    (0xD81, 0xD83, .letter), (0xD85, 0xD96, .letter), (0xD9A, 0xDB1, .letter),
    (0xDB3, 0xDBB, .letter), (0xDBD, 0xDBD, .letter), (0xDC0, 0xDC6, .letter),
    (0xDCF, 0xDD4, .letter), (0xDD6, 0xDD6, .letter), (0xDD8, 0xDDF, .letter),
    (0xDE6, 0xDEF, .number), (0xDF2, 0xDF3, .letter), (0xE01, 0xE3A, .letter),
    (0xE40, 0xE46, .letter), (0xE4D, 0xE4D, .letter), (0xE50, 0xE59, .number),
    (0xE81, 0xE82, .letter), (0xE84, 0xE84, .letter), (0xE86, 0xE8A, .letter),
    (0xE8C, 0xEA3, .letter), (0xEA5, 0xEA5, .letter), (0xEA7, 0xEB9, .letter),
    (0xEBB, 0xEBD, .letter), (0xEC0, 0xEC4, .letter), (0xEC6, 0xEC6, .letter),
    (0xECD, 0xECD, .letter), (0xED0, 0xED9, .number), (0xEDC, 0xEDF, .letter),
    (0xF00, 0xF00, .letter), (0xF20, 0xF33, .number), (0xF40, 0xF47, .letter),
    (0xF49, 0xF6C, .letter), (0xF71, 0xF83, .letter), (0xF88, 0xF97, .letter),
    (0xF99, 0xFBC, .letter), (0x1000, 0x1036, .letter), (0x1038, 0x1038, .letter),
    (0x103B, 0x103F, .letter), (0x1040, 0x1049, .number), (0x1050, 0x108F, .letter),
    (0x1090, 0x1099, .number), (0x109A, 0x109D, .letter), (0x10A0, 0x10C5, .letter),
    (0x10C7, 0x10C7, .letter), (0x10CD, 0x10CD, .letter), (0x10D0, 0x10FA, .letter),
    (0x10FC, 0x1248, .letter), (0x124A, 0x124D, .letter), (0x1250, 0x1256, .letter),
    (0x1258, 0x1258, .letter), (0x125A, 0x125D, .letter), (0x1260, 0x1288, .letter),
    (0x128A, 0x128D, .letter), (0x1290, 0x12B0, .letter), (0x12B2, 0x12B5, .letter),
    (0x12B8, 0x12BE, .letter), (0x12C0, 0x12C0, .letter), (0x12C2, 0x12C5, .letter),
    (0x12C8, 0x12D6, .letter), (0x12D8, 0x1310, .letter), (0x1312, 0x1315, .letter),
    (0x1318, 0x135A, .letter), (0x1369, 0x137C, .number), (0x1380, 0x138F, .letter),
    (0x13A0, 0x13F5, .letter), (0x13F8, 0x13FD, .letter), (0x1401, 0x166C, .letter),
    (0x166F, 0x167F, .letter), (0x1681, 0x169A, .letter), (0x16A0, 0x16EA, .letter),
    (0x16EE, 0x16F8, .letter), (0x1700, 0x1713, .letter), (0x171F, 0x1733, .letter),
    (0x1740, 0x1753, .letter), (0x1760, 0x176C, .letter), (0x176E, 0x1770, .letter),
    (0x1772, 0x1773, .letter), (0x1780, 0x17B3, .letter), (0x17B6, 0x17C8, .letter),
    (0x17D7, 0x17D7, .letter), (0x17DC, 0x17DC, .letter), (0x17E0, 0x17E9, .number),
    (0x17F0, 0x17F9, .number), (0x1810, 0x1819, .number), (0x1820, 0x1878, .letter),
    (0x1880, 0x18AA, .letter), (0x18B0, 0x18F5, .letter), (0x1900, 0x191E, .letter),
    (0x1920, 0x192B, .letter), (0x1930, 0x1938, .letter), (0x1946, 0x194F, .number),
    (0x1950, 0x196D, .letter), (0x1970, 0x1974, .letter), (0x1980, 0x19AB, .letter),
    (0x19B0, 0x19C9, .letter), (0x19D0, 0x19DA, .number), (0x1A00, 0x1A1B, .letter),
    (0x1A20, 0x1A5E, .letter), (0x1A61, 0x1A74, .letter), (0x1A80, 0x1A89, .number),
    (0x1A90, 0x1A99, .number), (0x1AA7, 0x1AA7, .letter), (0x1ABF, 0x1AC0, .letter),
    (0x1ACC, 0x1ACE, .letter), (0x1B00, 0x1B33, .letter), (0x1B35, 0x1B43, .letter),
    (0x1B45, 0x1B4C, .letter), (0x1B50, 0x1B59, .number), (0x1B80, 0x1BA9, .letter),
    (0x1BAC, 0x1BAF, .letter), (0x1BB0, 0x1BB9, .number), (0x1BBA, 0x1BE5, .letter),
    (0x1BE7, 0x1BF1, .letter), (0x1C00, 0x1C36, .letter), (0x1C40, 0x1C49, .number),
    (0x1C4D, 0x1C4F, .letter), (0x1C50, 0x1C59, .number), (0x1C5A, 0x1C7D, .letter),
    (0x1C80, 0x1C8A, .letter), (0x1C90, 0x1CBA, .letter), (0x1CBD, 0x1CBF, .letter),
    (0x1CE9, 0x1CEC, .letter), (0x1CEE, 0x1CF3, .letter), (0x1CF5, 0x1CF6, .letter),
    (0x1CFA, 0x1CFA, .letter), (0x1D00, 0x1DBF, .letter), (0x1DD3, 0x1DF4, .letter),
    (0x1E00, 0x1F15, .letter), (0x1F18, 0x1F1D, .letter), (0x1F20, 0x1F45, .letter),
    (0x1F48, 0x1F4D, .letter), (0x1F50, 0x1F57, .letter), (0x1F59, 0x1F59, .letter),
    (0x1F5B, 0x1F5B, .letter), (0x1F5D, 0x1F5D, .letter), (0x1F5F, 0x1F7D, .letter),
    (0x1F80, 0x1FB4, .letter), (0x1FB6, 0x1FBC, .letter), (0x1FBE, 0x1FBE, .letter),
    (0x1FC2, 0x1FC4, .letter), (0x1FC6, 0x1FCC, .letter), (0x1FD0, 0x1FD3, .letter),
    (0x1FD6, 0x1FDB, .letter), (0x1FE0, 0x1FEC, .letter), (0x1FF2, 0x1FF4, .letter),
    (0x1FF6, 0x1FFC, .letter), (0x2070, 0x2070, .number), (0x2071, 0x2071, .letter),
    (0x2074, 0x2079, .number), (0x207F, 0x207F, .letter), (0x2080, 0x2089, .number),
    (0x2090, 0x209C, .letter), (0x2102, 0x2102, .letter), (0x2107, 0x2107, .letter),
    (0x210A, 0x2113, .letter), (0x2115, 0x2115, .letter), (0x2119, 0x211D, .letter),
    (0x2124, 0x2124, .letter), (0x2126, 0x2126, .letter), (0x2128, 0x2128, .letter),
    (0x212A, 0x212D, .letter), (0x212F, 0x2139, .letter), (0x213C, 0x213F, .letter),
    (0x2145, 0x2149, .letter), (0x214E, 0x214E, .letter), (0x2150, 0x215F, .number),
    (0x2160, 0x2188, .letter), (0x2189, 0x2189, .number), (0x2460, 0x249B, .number),
    (0x24B6, 0x24E9, .letter), (0x24EA, 0x24FF, .number), (0x2776, 0x2793, .number),
    (0x2C00, 0x2CE4, .letter), (0x2CEB, 0x2CEE, .letter), (0x2CF2, 0x2CF3, .letter),
    (0x2CFD, 0x2CFD, .number), (0x2D00, 0x2D25, .letter), (0x2D27, 0x2D27, .letter),
    (0x2D2D, 0x2D2D, .letter), (0x2D30, 0x2D67, .letter), (0x2D6F, 0x2D6F, .letter),
    (0x2D80, 0x2D96, .letter), (0x2DA0, 0x2DA6, .letter), (0x2DA8, 0x2DAE, .letter),
    (0x2DB0, 0x2DB6, .letter), (0x2DB8, 0x2DBE, .letter), (0x2DC0, 0x2DC6, .letter),
    (0x2DC8, 0x2DCE, .letter), (0x2DD0, 0x2DD6, .letter), (0x2DD8, 0x2DDE, .letter),
    (0x2DE0, 0x2DFF, .letter), (0x2E2F, 0x2E2F, .letter), (0x3005, 0x3007, .letter),
    (0x3021, 0x3029, .letter), (0x3031, 0x3035, .letter), (0x3038, 0x303C, .letter),
    (0x3041, 0x3096, .letter), (0x309D, 0x309F, .letter), (0x30A1, 0x30FA, .letter),
    (0x30FC, 0x30FF, .letter), (0x3105, 0x312F, .letter), (0x3131, 0x318E, .letter),
    (0x3192, 0x3195, .number), (0x31A0, 0x31BF, .letter), (0x31F0, 0x31FF, .letter),
    (0x3220, 0x3229, .number), (0x3248, 0x324F, .number), (0x3251, 0x325F, .number),
    (0x3280, 0x3289, .number), (0x32B1, 0x32BF, .number), (0x3400, 0x4DBF, .letter),
    (0x4E00, 0xA48C, .letter), (0xA4D0, 0xA4FD, .letter), (0xA500, 0xA60C, .letter),
    (0xA610, 0xA61F, .letter), (0xA620, 0xA629, .number), (0xA62A, 0xA62B, .letter),
    (0xA640, 0xA66E, .letter), (0xA674, 0xA67B, .letter), (0xA67F, 0xA6EF, .letter),
    (0xA717, 0xA71F, .letter), (0xA722, 0xA788, .letter), (0xA78B, 0xA7DC, .letter),
    (0xA7F1, 0xA805, .letter), (0xA807, 0xA827, .letter), (0xA830, 0xA835, .number),
    (0xA840, 0xA873, .letter), (0xA880, 0xA8C3, .letter), (0xA8C5, 0xA8C5, .letter),
    (0xA8D0, 0xA8D9, .number), (0xA8F2, 0xA8F7, .letter), (0xA8FB, 0xA8FB, .letter),
    (0xA8FD, 0xA8FF, .letter), (0xA900, 0xA909, .number), (0xA90A, 0xA92A, .letter),
    (0xA930, 0xA952, .letter), (0xA960, 0xA97C, .letter), (0xA980, 0xA9B2, .letter),
    (0xA9B4, 0xA9BF, .letter), (0xA9CF, 0xA9CF, .letter), (0xA9D0, 0xA9D9, .number),
    (0xA9E0, 0xA9EF, .letter), (0xA9F0, 0xA9F9, .number), (0xA9FA, 0xA9FE, .letter),
    (0xAA00, 0xAA36, .letter), (0xAA40, 0xAA4D, .letter), (0xAA50, 0xAA59, .number),
    (0xAA60, 0xAA76, .letter), (0xAA7A, 0xAABE, .letter), (0xAAC0, 0xAAC0, .letter),
    (0xAAC2, 0xAAC2, .letter), (0xAADB, 0xAADD, .letter), (0xAAE0, 0xAAEF, .letter),
    (0xAAF2, 0xAAF5, .letter), (0xAB01, 0xAB06, .letter), (0xAB09, 0xAB0E, .letter),
    (0xAB11, 0xAB16, .letter), (0xAB20, 0xAB26, .letter), (0xAB28, 0xAB2E, .letter),
    (0xAB30, 0xAB5A, .letter), (0xAB5C, 0xAB69, .letter), (0xAB70, 0xABEA, .letter),
    (0xABF0, 0xABF9, .number), (0xAC00, 0xD7A3, .letter), (0xD7B0, 0xD7C6, .letter),
    (0xD7CB, 0xD7FB, .letter), (0xF900, 0xFA6D, .letter), (0xFA70, 0xFAD9, .letter),
    (0xFB00, 0xFB06, .letter), (0xFB13, 0xFB17, .letter), (0xFB1D, 0xFB28, .letter),
    (0xFB2A, 0xFB36, .letter), (0xFB38, 0xFB3C, .letter), (0xFB3E, 0xFB3E, .letter),
    (0xFB40, 0xFB41, .letter), (0xFB43, 0xFB44, .letter), (0xFB46, 0xFBB1, .letter),
    (0xFBD3, 0xFD3D, .letter), (0xFD50, 0xFD8F, .letter), (0xFD92, 0xFDC7, .letter),
    (0xFDF0, 0xFDFB, .letter), (0xFE70, 0xFE74, .letter), (0xFE76, 0xFEFC, .letter),
    (0xFF10, 0xFF19, .number), (0xFF21, 0xFF3A, .letter), (0xFF41, 0xFF5A, .letter),
    (0xFF66, 0xFFBE, .letter), (0xFFC2, 0xFFC7, .letter), (0xFFCA, 0xFFCF, .letter),
    (0xFFD2, 0xFFD7, .letter), (0xFFDA, 0xFFDC, .letter), (0x10000, 0x1000B, .letter),
    (0x1000D, 0x10026, .letter), (0x10028, 0x1003A, .letter), (0x1003C, 0x1003D, .letter),
    (0x1003F, 0x1004D, .letter), (0x10050, 0x1005D, .letter), (0x10080, 0x100FA, .letter),
    (0x10107, 0x10133, .number), (0x10140, 0x10174, .letter), (0x10175, 0x10178, .number),
    (0x1018A, 0x1018B, .number), (0x10280, 0x1029C, .letter), (0x102A0, 0x102D0, .letter),
    (0x102E1, 0x102FB, .number), (0x10300, 0x1031F, .letter), (0x10320, 0x10323, .number),
    (0x1032D, 0x1034A, .letter), (0x10350, 0x1037A, .letter), (0x10380, 0x1039D, .letter),
    (0x103A0, 0x103C3, .letter), (0x103C8, 0x103CF, .letter), (0x103D1, 0x103D5, .letter),
    (0x10400, 0x1049D, .letter), (0x104A0, 0x104A9, .number), (0x104B0, 0x104D3, .letter),
    (0x104D8, 0x104FB, .letter), (0x10500, 0x10527, .letter), (0x10530, 0x10563, .letter),
    (0x10570, 0x1057A, .letter), (0x1057C, 0x1058A, .letter), (0x1058C, 0x10592, .letter),
    (0x10594, 0x10595, .letter), (0x10597, 0x105A1, .letter), (0x105A3, 0x105B1, .letter),
    (0x105B3, 0x105B9, .letter), (0x105BB, 0x105BC, .letter), (0x105C0, 0x105F3, .letter),
    (0x10600, 0x10736, .letter), (0x10740, 0x10755, .letter), (0x10760, 0x10767, .letter),
    (0x10780, 0x10785, .letter), (0x10787, 0x107B0, .letter), (0x107B2, 0x107BA, .letter),
    (0x10800, 0x10805, .letter), (0x10808, 0x10808, .letter), (0x1080A, 0x10835, .letter),
    (0x10837, 0x10838, .letter), (0x1083C, 0x1083C, .letter), (0x1083F, 0x10855, .letter),
    (0x10858, 0x1085F, .number), (0x10860, 0x10876, .letter), (0x10879, 0x1087F, .number),
    (0x10880, 0x1089E, .letter), (0x108A7, 0x108AF, .number), (0x108E0, 0x108F2, .letter),
    (0x108F4, 0x108F5, .letter), (0x108FB, 0x108FF, .number), (0x10900, 0x10915, .letter),
    (0x10916, 0x1091B, .number), (0x10920, 0x10939, .letter), (0x10940, 0x10959, .letter),
    (0x10980, 0x109B7, .letter), (0x109BC, 0x109BD, .number), (0x109BE, 0x109BF, .letter),
    (0x109C0, 0x109CF, .number), (0x109D2, 0x109FF, .number), (0x10A00, 0x10A03, .letter),
    (0x10A05, 0x10A06, .letter), (0x10A0C, 0x10A13, .letter), (0x10A15, 0x10A17, .letter),
    (0x10A19, 0x10A35, .letter), (0x10A40, 0x10A48, .number), (0x10A60, 0x10A7C, .letter),
    (0x10A7D, 0x10A7E, .number), (0x10A80, 0x10A9C, .letter), (0x10A9D, 0x10A9F, .number),
    (0x10AC0, 0x10AC7, .letter), (0x10AC9, 0x10AE4, .letter), (0x10AEB, 0x10AEF, .number),
    (0x10B00, 0x10B35, .letter), (0x10B40, 0x10B55, .letter), (0x10B58, 0x10B5F, .number),
    (0x10B60, 0x10B72, .letter), (0x10B78, 0x10B7F, .number), (0x10B80, 0x10B91, .letter),
    (0x10BA9, 0x10BAF, .number), (0x10C00, 0x10C48, .letter), (0x10C80, 0x10CB2, .letter),
    (0x10CC0, 0x10CF2, .letter), (0x10CFA, 0x10CFF, .number), (0x10D00, 0x10D27, .letter),
    (0x10D30, 0x10D39, .number), (0x10D40, 0x10D49, .number), (0x10D4A, 0x10D65, .letter),
    (0x10D69, 0x10D69, .letter), (0x10D6F, 0x10D85, .letter), (0x10E60, 0x10E7E, .number),
    (0x10E80, 0x10EA9, .letter), (0x10EAB, 0x10EAC, .letter), (0x10EB0, 0x10EB1, .letter),
    (0x10EC2, 0x10EC7, .letter), (0x10EFA, 0x10EFC, .letter), (0x10F00, 0x10F1C, .letter),
    (0x10F1D, 0x10F26, .number), (0x10F27, 0x10F27, .letter), (0x10F30, 0x10F45, .letter),
    (0x10F51, 0x10F54, .number), (0x10F70, 0x10F81, .letter), (0x10FB0, 0x10FC4, .letter),
    (0x10FC5, 0x10FCB, .number), (0x10FE0, 0x10FF6, .letter), (0x11000, 0x11045, .letter),
    (0x11052, 0x1106F, .number), (0x11071, 0x11075, .letter), (0x11080, 0x110B8, .letter),
    (0x110C2, 0x110C2, .letter), (0x110D0, 0x110E8, .letter), (0x110F0, 0x110F9, .number),
    (0x11100, 0x11132, .letter), (0x11136, 0x1113F, .number), (0x11144, 0x11147, .letter),
    (0x11150, 0x11172, .letter), (0x11176, 0x11176, .letter), (0x11180, 0x111BF, .letter),
    (0x111C1, 0x111C4, .letter), (0x111CE, 0x111CF, .letter), (0x111D0, 0x111D9, .number),
    (0x111DA, 0x111DA, .letter), (0x111DC, 0x111DC, .letter), (0x111E1, 0x111F4, .number),
    (0x11200, 0x11211, .letter), (0x11213, 0x11234, .letter), (0x11237, 0x11237, .letter),
    (0x1123E, 0x11241, .letter), (0x11280, 0x11286, .letter), (0x11288, 0x11288, .letter),
    (0x1128A, 0x1128D, .letter), (0x1128F, 0x1129D, .letter), (0x1129F, 0x112A8, .letter),
    (0x112B0, 0x112E8, .letter), (0x112F0, 0x112F9, .number), (0x11300, 0x11303, .letter),
    (0x11305, 0x1130C, .letter), (0x1130F, 0x11310, .letter), (0x11313, 0x11328, .letter),
    (0x1132A, 0x11330, .letter), (0x11332, 0x11333, .letter), (0x11335, 0x11339, .letter),
    (0x1133D, 0x11344, .letter), (0x11347, 0x11348, .letter), (0x1134B, 0x1134C, .letter),
    (0x11350, 0x11350, .letter), (0x11357, 0x11357, .letter), (0x1135D, 0x11363, .letter),
    (0x11380, 0x11389, .letter), (0x1138B, 0x1138B, .letter), (0x1138E, 0x1138E, .letter),
    (0x11390, 0x113B5, .letter), (0x113B7, 0x113C0, .letter), (0x113C2, 0x113C2, .letter),
    (0x113C5, 0x113C5, .letter), (0x113C7, 0x113CA, .letter), (0x113CC, 0x113CD, .letter),
    (0x113D1, 0x113D1, .letter), (0x113D3, 0x113D3, .letter), (0x11400, 0x11441, .letter),
    (0x11443, 0x11445, .letter), (0x11447, 0x1144A, .letter), (0x11450, 0x11459, .number),
    (0x1145F, 0x11461, .letter), (0x11480, 0x114C1, .letter), (0x114C4, 0x114C5, .letter),
    (0x114C7, 0x114C7, .letter), (0x114D0, 0x114D9, .number), (0x11580, 0x115B5, .letter),
    (0x115B8, 0x115BE, .letter), (0x115D8, 0x115DD, .letter), (0x11600, 0x1163E, .letter),
    (0x11640, 0x11640, .letter), (0x11644, 0x11644, .letter), (0x11650, 0x11659, .number),
    (0x11680, 0x116B5, .letter), (0x116B8, 0x116B8, .letter), (0x116C0, 0x116C9, .number),
    (0x116D0, 0x116E3, .number), (0x11700, 0x1171A, .letter), (0x1171D, 0x1172A, .letter),
    (0x11730, 0x1173B, .number), (0x11740, 0x11746, .letter), (0x11800, 0x11838, .letter),
    (0x118A0, 0x118DF, .letter), (0x118E0, 0x118F2, .number), (0x118FF, 0x11906, .letter),
    (0x11909, 0x11909, .letter), (0x1190C, 0x11913, .letter), (0x11915, 0x11916, .letter),
    (0x11918, 0x11935, .letter), (0x11937, 0x11938, .letter), (0x1193B, 0x1193C, .letter),
    (0x1193F, 0x11942, .letter), (0x11950, 0x11959, .number), (0x119A0, 0x119A7, .letter),
    (0x119AA, 0x119D7, .letter), (0x119DA, 0x119DF, .letter), (0x119E1, 0x119E1, .letter),
    (0x119E3, 0x119E4, .letter), (0x11A00, 0x11A32, .letter), (0x11A35, 0x11A3E, .letter),
    (0x11A50, 0x11A97, .letter), (0x11A9D, 0x11A9D, .letter), (0x11AB0, 0x11AF8, .letter),
    (0x11B60, 0x11B67, .letter), (0x11BC0, 0x11BE0, .letter), (0x11BF0, 0x11BF9, .number),
    (0x11C00, 0x11C08, .letter), (0x11C0A, 0x11C36, .letter), (0x11C38, 0x11C3E, .letter),
    (0x11C40, 0x11C40, .letter), (0x11C50, 0x11C6C, .number), (0x11C72, 0x11C8F, .letter),
    (0x11C92, 0x11CA7, .letter), (0x11CA9, 0x11CB6, .letter), (0x11D00, 0x11D06, .letter),
    (0x11D08, 0x11D09, .letter), (0x11D0B, 0x11D36, .letter), (0x11D3A, 0x11D3A, .letter),
    (0x11D3C, 0x11D3D, .letter), (0x11D3F, 0x11D41, .letter), (0x11D43, 0x11D43, .letter),
    (0x11D46, 0x11D47, .letter), (0x11D50, 0x11D59, .number), (0x11D60, 0x11D65, .letter),
    (0x11D67, 0x11D68, .letter), (0x11D6A, 0x11D8E, .letter), (0x11D90, 0x11D91, .letter),
    (0x11D93, 0x11D96, .letter), (0x11D98, 0x11D98, .letter), (0x11DA0, 0x11DA9, .number),
    (0x11DB0, 0x11DDB, .letter), (0x11DE0, 0x11DE9, .number), (0x11EE0, 0x11EF6, .letter),
    (0x11F00, 0x11F10, .letter), (0x11F12, 0x11F3A, .letter), (0x11F3E, 0x11F40, .letter),
    (0x11F50, 0x11F59, .number), (0x11FB0, 0x11FB0, .letter), (0x11FC0, 0x11FD4, .number),
    (0x12000, 0x12399, .letter), (0x12400, 0x1246E, .letter), (0x12480, 0x12543, .letter),
    (0x12F90, 0x12FF0, .letter), (0x13000, 0x1342F, .letter), (0x13441, 0x13446, .letter),
    (0x13460, 0x143FA, .letter), (0x14400, 0x14646, .letter), (0x16100, 0x1612E, .letter),
    (0x16130, 0x16139, .number), (0x16800, 0x16A38, .letter), (0x16A40, 0x16A5E, .letter),
    (0x16A60, 0x16A69, .number), (0x16A70, 0x16ABE, .letter), (0x16AC0, 0x16AC9, .number),
    (0x16AD0, 0x16AED, .letter), (0x16B00, 0x16B2F, .letter), (0x16B40, 0x16B43, .letter),
    (0x16B50, 0x16B59, .number), (0x16B5B, 0x16B61, .number), (0x16B63, 0x16B77, .letter),
    (0x16B7D, 0x16B8F, .letter), (0x16D40, 0x16D6C, .letter), (0x16D70, 0x16D79, .number),
    (0x16E40, 0x16E7F, .letter), (0x16E80, 0x16E96, .number), (0x16EA0, 0x16EB8, .letter),
    (0x16EBB, 0x16ED3, .letter), (0x16F00, 0x16F4A, .letter), (0x16F4F, 0x16F87, .letter),
    (0x16F8F, 0x16F9F, .letter), (0x16FE0, 0x16FE1, .letter), (0x16FE3, 0x16FE3, .letter),
    (0x16FF0, 0x16FF6, .letter), (0x17000, 0x18CD5, .letter), (0x18CFF, 0x18D1E, .letter),
    (0x18D80, 0x18DF2, .letter), (0x1AFF0, 0x1AFF3, .letter), (0x1AFF5, 0x1AFFB, .letter),
    (0x1AFFD, 0x1AFFE, .letter), (0x1B000, 0x1B122, .letter), (0x1B132, 0x1B132, .letter),
    (0x1B150, 0x1B152, .letter), (0x1B155, 0x1B155, .letter), (0x1B164, 0x1B167, .letter),
    (0x1B170, 0x1B2FB, .letter), (0x1BC00, 0x1BC6A, .letter), (0x1BC70, 0x1BC7C, .letter),
    (0x1BC80, 0x1BC88, .letter), (0x1BC90, 0x1BC99, .letter), (0x1BC9E, 0x1BC9E, .letter),
    (0x1CCF0, 0x1CCF9, .number), (0x1D2C0, 0x1D2D3, .number), (0x1D2E0, 0x1D2F3, .number),
    (0x1D360, 0x1D378, .number), (0x1D400, 0x1D454, .letter), (0x1D456, 0x1D49C, .letter),
    (0x1D49E, 0x1D49F, .letter), (0x1D4A2, 0x1D4A2, .letter), (0x1D4A5, 0x1D4A6, .letter),
    (0x1D4A9, 0x1D4AC, .letter), (0x1D4AE, 0x1D4B9, .letter), (0x1D4BB, 0x1D4BB, .letter),
    (0x1D4BD, 0x1D4C3, .letter), (0x1D4C5, 0x1D505, .letter), (0x1D507, 0x1D50A, .letter),
    (0x1D50D, 0x1D514, .letter), (0x1D516, 0x1D51C, .letter), (0x1D51E, 0x1D539, .letter),
    (0x1D53B, 0x1D53E, .letter), (0x1D540, 0x1D544, .letter), (0x1D546, 0x1D546, .letter),
    (0x1D54A, 0x1D550, .letter), (0x1D552, 0x1D6A5, .letter), (0x1D6A8, 0x1D6C0, .letter),
    (0x1D6C2, 0x1D6DA, .letter), (0x1D6DC, 0x1D6FA, .letter), (0x1D6FC, 0x1D714, .letter),
    (0x1D716, 0x1D734, .letter), (0x1D736, 0x1D74E, .letter), (0x1D750, 0x1D76E, .letter),
    (0x1D770, 0x1D788, .letter), (0x1D78A, 0x1D7A8, .letter), (0x1D7AA, 0x1D7C2, .letter),
    (0x1D7C4, 0x1D7CB, .letter), (0x1D7CE, 0x1D7FF, .number), (0x1DF00, 0x1DF1E, .letter),
    (0x1DF25, 0x1DF2A, .letter), (0x1E000, 0x1E006, .letter), (0x1E008, 0x1E018, .letter),
    (0x1E01B, 0x1E021, .letter), (0x1E023, 0x1E024, .letter), (0x1E026, 0x1E02A, .letter),
    (0x1E030, 0x1E06D, .letter), (0x1E08F, 0x1E08F, .letter), (0x1E100, 0x1E12C, .letter),
    (0x1E137, 0x1E13D, .letter), (0x1E140, 0x1E149, .number), (0x1E14E, 0x1E14E, .letter),
    (0x1E290, 0x1E2AD, .letter), (0x1E2C0, 0x1E2EB, .letter), (0x1E2F0, 0x1E2F9, .number),
    (0x1E4D0, 0x1E4EB, .letter), (0x1E4F0, 0x1E4F9, .number), (0x1E5D0, 0x1E5ED, .letter),
    (0x1E5F0, 0x1E5F0, .letter), (0x1E5F1, 0x1E5FA, .number), (0x1E6C0, 0x1E6DE, .letter),
    (0x1E6E0, 0x1E6F5, .letter), (0x1E6FE, 0x1E6FF, .letter), (0x1E7E0, 0x1E7E6, .letter),
    (0x1E7E8, 0x1E7EB, .letter), (0x1E7ED, 0x1E7EE, .letter), (0x1E7F0, 0x1E7FE, .letter),
    (0x1E800, 0x1E8C4, .letter), (0x1E8C7, 0x1E8CF, .number), (0x1E900, 0x1E943, .letter),
    (0x1E947, 0x1E947, .letter), (0x1E94B, 0x1E94B, .letter), (0x1E950, 0x1E959, .number),
    (0x1EC71, 0x1ECAB, .number), (0x1ECAD, 0x1ECAF, .number), (0x1ECB1, 0x1ECB4, .number),
    (0x1ED01, 0x1ED2D, .number), (0x1ED2F, 0x1ED3D, .number), (0x1EE00, 0x1EE03, .letter),
    (0x1EE05, 0x1EE1F, .letter), (0x1EE21, 0x1EE22, .letter), (0x1EE24, 0x1EE24, .letter),
    (0x1EE27, 0x1EE27, .letter), (0x1EE29, 0x1EE32, .letter), (0x1EE34, 0x1EE37, .letter),
    (0x1EE39, 0x1EE39, .letter), (0x1EE3B, 0x1EE3B, .letter), (0x1EE42, 0x1EE42, .letter),
    (0x1EE47, 0x1EE47, .letter), (0x1EE49, 0x1EE49, .letter), (0x1EE4B, 0x1EE4B, .letter),
    (0x1EE4D, 0x1EE4F, .letter), (0x1EE51, 0x1EE52, .letter), (0x1EE54, 0x1EE54, .letter),
    (0x1EE57, 0x1EE57, .letter), (0x1EE59, 0x1EE59, .letter), (0x1EE5B, 0x1EE5B, .letter),
    (0x1EE5D, 0x1EE5D, .letter), (0x1EE5F, 0x1EE5F, .letter), (0x1EE61, 0x1EE62, .letter),
    (0x1EE64, 0x1EE64, .letter), (0x1EE67, 0x1EE6A, .letter), (0x1EE6C, 0x1EE72, .letter),
    (0x1EE74, 0x1EE77, .letter), (0x1EE79, 0x1EE7C, .letter), (0x1EE7E, 0x1EE7E, .letter),
    (0x1EE80, 0x1EE89, .letter), (0x1EE8B, 0x1EE9B, .letter), (0x1EEA1, 0x1EEA3, .letter),
    (0x1EEA5, 0x1EEA9, .letter), (0x1EEAB, 0x1EEBB, .letter), (0x1F100, 0x1F10C, .number),
    (0x1F130, 0x1F149, .letter), (0x1F150, 0x1F169, .letter), (0x1F170, 0x1F189, .letter),
    (0x1FBF0, 0x1FBF9, .number), (0x20000, 0x2A6DF, .letter), (0x2A700, 0x2B81D, .letter),
    (0x2B820, 0x2CEAD, .letter), (0x2CEB0, 0x2EBE0, .letter), (0x2EBF0, 0x2EE5D, .letter),
    (0x2F800, 0x2FA1D, .letter), (0x30000, 0x3134A, .letter), (0x31350, 0x33479, .letter)]

def isLetter (c : Char) : Bool :=
  letterRanges.lookup? c.toNat == some .letter

def isLetterOrNumber (c : Char) : Bool :=
  (letterRanges.lookup? c.toNat).isSome

end Display3270
