import PluginBundle.Text.Letter

/-!
# The roles of characters in names

Which characters may stand in the names of a programming language is told by two properties of
Unicode: a name starts with a character that has ID_Start, and goes on with characters that have
ID_Continue.  Being a letter or a number is something else.  Many letters are marks that only go on
with a name, and some letters and numbers have no role in names at all.

The table gives the role of every letter and number, and of all that has one of the two properties.
That no letter and no number is missing from it is proved by one walk through the tables
(`nameRole?_isSome_of_isAlphanumeric`).
-/

namespace PluginBundle

/-- What a character can be in a name. -/
inductive NameRole where
  /-- It has ID_Start, and so ID_Continue. -/
  | start
  /-- It has ID_Continue only. -/
  | part
  /-- It has neither, but it is a letter or a number. -/
  | none
  deriving DecidableEq, Repr

/-- The letters, the numbers and what else has a role in names, up to U+FFFF. -/
def lowerRoleRanges : List (Nat × Nat × NameRole) :=
  [(0x30, 0x39, .part), (0x41, 0x5A, .start), (0x5F, 0x5F, .part), (0x61, 0x7A, .start),
   (0xAA, 0xAA, .start), (0xB2, 0xB3, .none), (0xB5, 0xB5, .start), (0xB7, 0xB7, .part),
   (0xB9, 0xB9, .none), (0xBA, 0xBA, .start), (0xBC, 0xBE, .none), (0xC0, 0xD6, .start),
   (0xD8, 0xF6, .start), (0xF8, 0x2C1, .start), (0x2C6, 0x2D1, .start), (0x2E0, 0x2E4, .start),
   (0x2EC, 0x2EC, .start), (0x2EE, 0x2EE, .start), (0x300, 0x36F, .part), (0x370, 0x374, .start),
   (0x376, 0x377, .start), (0x37A, 0x37D, .start), (0x37F, 0x37F, .start), (0x386, 0x386, .start),
   (0x387, 0x387, .part), (0x388, 0x38A, .start), (0x38C, 0x38C, .start), (0x38E, 0x3A1, .start),
   (0x3A3, 0x3F5, .start), (0x3F7, 0x481, .start), (0x483, 0x487, .part), (0x48A, 0x52F, .start),
   (0x531, 0x556, .start), (0x559, 0x559, .start), (0x560, 0x588, .start), (0x591, 0x5BD, .part),
   (0x5BF, 0x5BF, .part), (0x5C1, 0x5C2, .part), (0x5C4, 0x5C5, .part), (0x5C7, 0x5C7, .part),
   (0x5D0, 0x5EA, .start), (0x5EF, 0x5F2, .start), (0x610, 0x61A, .part), (0x620, 0x64A, .start),
   (0x64B, 0x669, .part), (0x66E, 0x66F, .start), (0x670, 0x670, .part), (0x671, 0x6D3, .start),
   (0x6D5, 0x6D5, .start), (0x6D6, 0x6DC, .part), (0x6DF, 0x6E4, .part), (0x6E5, 0x6E6, .start),
   (0x6E7, 0x6E8, .part), (0x6EA, 0x6ED, .part), (0x6EE, 0x6EF, .start), (0x6F0, 0x6F9, .part),
   (0x6FA, 0x6FC, .start), (0x6FF, 0x6FF, .start), (0x710, 0x710, .start), (0x711, 0x711, .part),
   (0x712, 0x72F, .start), (0x730, 0x74A, .part), (0x74D, 0x7A5, .start), (0x7A6, 0x7B0, .part),
   (0x7B1, 0x7B1, .start), (0x7C0, 0x7C9, .part), (0x7CA, 0x7EA, .start), (0x7EB, 0x7F3, .part),
   (0x7F4, 0x7F5, .start), (0x7FA, 0x7FA, .start), (0x7FD, 0x7FD, .part), (0x800, 0x815, .start),
   (0x816, 0x819, .part), (0x81A, 0x81A, .start), (0x81B, 0x823, .part), (0x824, 0x824, .start),
   (0x825, 0x827, .part), (0x828, 0x828, .start), (0x829, 0x82D, .part), (0x840, 0x858, .start),
   (0x859, 0x85B, .part), (0x860, 0x86A, .start), (0x870, 0x887, .start), (0x889, 0x88F, .start),
   (0x897, 0x89F, .part), (0x8A0, 0x8C9, .start), (0x8CA, 0x8E1, .part), (0x8E3, 0x903, .part),
   (0x904, 0x939, .start), (0x93A, 0x93C, .part), (0x93D, 0x93D, .start), (0x93E, 0x94F, .part),
   (0x950, 0x950, .start), (0x951, 0x957, .part), (0x958, 0x961, .start), (0x962, 0x963, .part),
   (0x966, 0x96F, .part), (0x971, 0x980, .start), (0x981, 0x983, .part), (0x985, 0x98C, .start),
   (0x98F, 0x990, .start), (0x993, 0x9A8, .start), (0x9AA, 0x9B0, .start), (0x9B2, 0x9B2, .start),
   (0x9B6, 0x9B9, .start), (0x9BC, 0x9BC, .part), (0x9BD, 0x9BD, .start), (0x9BE, 0x9C4, .part),
   (0x9C7, 0x9C8, .part), (0x9CB, 0x9CD, .part), (0x9CE, 0x9CE, .start), (0x9D7, 0x9D7, .part),
   (0x9DC, 0x9DD, .start), (0x9DF, 0x9E1, .start), (0x9E2, 0x9E3, .part), (0x9E6, 0x9EF, .part),
   (0x9F0, 0x9F1, .start), (0x9F4, 0x9F9, .none), (0x9FC, 0x9FC, .start), (0x9FE, 0x9FE, .part),
   (0xA01, 0xA03, .part), (0xA05, 0xA0A, .start), (0xA0F, 0xA10, .start), (0xA13, 0xA28, .start),
   (0xA2A, 0xA30, .start), (0xA32, 0xA33, .start), (0xA35, 0xA36, .start), (0xA38, 0xA39, .start),
   (0xA3C, 0xA3C, .part), (0xA3E, 0xA42, .part), (0xA47, 0xA48, .part), (0xA4B, 0xA4D, .part),
   (0xA51, 0xA51, .part), (0xA59, 0xA5C, .start), (0xA5E, 0xA5E, .start), (0xA66, 0xA71, .part),
   (0xA72, 0xA74, .start), (0xA75, 0xA75, .part), (0xA81, 0xA83, .part), (0xA85, 0xA8D, .start),
   (0xA8F, 0xA91, .start), (0xA93, 0xAA8, .start), (0xAAA, 0xAB0, .start), (0xAB2, 0xAB3, .start),
   (0xAB5, 0xAB9, .start), (0xABC, 0xABC, .part), (0xABD, 0xABD, .start), (0xABE, 0xAC5, .part),
   (0xAC7, 0xAC9, .part), (0xACB, 0xACD, .part), (0xAD0, 0xAD0, .start), (0xAE0, 0xAE1, .start),
   (0xAE2, 0xAE3, .part), (0xAE6, 0xAEF, .part), (0xAF9, 0xAF9, .start), (0xAFA, 0xAFF, .part),
   (0xB01, 0xB03, .part), (0xB05, 0xB0C, .start), (0xB0F, 0xB10, .start), (0xB13, 0xB28, .start),
   (0xB2A, 0xB30, .start), (0xB32, 0xB33, .start), (0xB35, 0xB39, .start), (0xB3C, 0xB3C, .part),
   (0xB3D, 0xB3D, .start), (0xB3E, 0xB44, .part), (0xB47, 0xB48, .part), (0xB4B, 0xB4D, .part),
   (0xB55, 0xB57, .part), (0xB5C, 0xB5D, .start), (0xB5F, 0xB61, .start), (0xB62, 0xB63, .part),
   (0xB66, 0xB6F, .part), (0xB71, 0xB71, .start), (0xB72, 0xB77, .none), (0xB82, 0xB82, .part),
   (0xB83, 0xB83, .start), (0xB85, 0xB8A, .start), (0xB8E, 0xB90, .start), (0xB92, 0xB95, .start),
   (0xB99, 0xB9A, .start), (0xB9C, 0xB9C, .start), (0xB9E, 0xB9F, .start), (0xBA3, 0xBA4, .start),
   (0xBA8, 0xBAA, .start), (0xBAE, 0xBB9, .start), (0xBBE, 0xBC2, .part), (0xBC6, 0xBC8, .part),
   (0xBCA, 0xBCD, .part), (0xBD0, 0xBD0, .start), (0xBD7, 0xBD7, .part), (0xBE6, 0xBEF, .part),
   (0xBF0, 0xBF2, .none), (0xC00, 0xC04, .part), (0xC05, 0xC0C, .start), (0xC0E, 0xC10, .start),
   (0xC12, 0xC28, .start), (0xC2A, 0xC39, .start), (0xC3C, 0xC3C, .part), (0xC3D, 0xC3D, .start),
   (0xC3E, 0xC44, .part), (0xC46, 0xC48, .part), (0xC4A, 0xC4D, .part), (0xC55, 0xC56, .part),
   (0xC58, 0xC5A, .start), (0xC5C, 0xC5D, .start), (0xC60, 0xC61, .start), (0xC62, 0xC63, .part),
   (0xC66, 0xC6F, .part), (0xC78, 0xC7E, .none), (0xC80, 0xC80, .start), (0xC81, 0xC83, .part),
   (0xC85, 0xC8C, .start), (0xC8E, 0xC90, .start), (0xC92, 0xCA8, .start), (0xCAA, 0xCB3, .start),
   (0xCB5, 0xCB9, .start), (0xCBC, 0xCBC, .part), (0xCBD, 0xCBD, .start), (0xCBE, 0xCC4, .part),
   (0xCC6, 0xCC8, .part), (0xCCA, 0xCCD, .part), (0xCD5, 0xCD6, .part), (0xCDC, 0xCDE, .start),
   (0xCE0, 0xCE1, .start), (0xCE2, 0xCE3, .part), (0xCE6, 0xCEF, .part), (0xCF1, 0xCF2, .start),
   (0xCF3, 0xCF3, .part), (0xD00, 0xD03, .part), (0xD04, 0xD0C, .start), (0xD0E, 0xD10, .start),
   (0xD12, 0xD3A, .start), (0xD3B, 0xD3C, .part), (0xD3D, 0xD3D, .start), (0xD3E, 0xD44, .part),
   (0xD46, 0xD48, .part), (0xD4A, 0xD4D, .part), (0xD4E, 0xD4E, .start), (0xD54, 0xD56, .start),
   (0xD57, 0xD57, .part), (0xD58, 0xD5E, .none), (0xD5F, 0xD61, .start), (0xD62, 0xD63, .part),
   (0xD66, 0xD6F, .part), (0xD70, 0xD78, .none), (0xD7A, 0xD7F, .start), (0xD81, 0xD83, .part),
   (0xD85, 0xD96, .start), (0xD9A, 0xDB1, .start), (0xDB3, 0xDBB, .start), (0xDBD, 0xDBD, .start),
   (0xDC0, 0xDC6, .start), (0xDCA, 0xDCA, .part), (0xDCF, 0xDD4, .part), (0xDD6, 0xDD6, .part),
   (0xDD8, 0xDDF, .part), (0xDE6, 0xDEF, .part), (0xDF2, 0xDF3, .part), (0xE01, 0xE30, .start),
   (0xE31, 0xE31, .part), (0xE32, 0xE33, .start), (0xE34, 0xE3A, .part), (0xE40, 0xE46, .start),
   (0xE47, 0xE4E, .part), (0xE50, 0xE59, .part), (0xE81, 0xE82, .start), (0xE84, 0xE84, .start),
   (0xE86, 0xE8A, .start), (0xE8C, 0xEA3, .start), (0xEA5, 0xEA5, .start), (0xEA7, 0xEB0, .start),
   (0xEB1, 0xEB1, .part), (0xEB2, 0xEB3, .start), (0xEB4, 0xEBC, .part), (0xEBD, 0xEBD, .start),
   (0xEC0, 0xEC4, .start), (0xEC6, 0xEC6, .start), (0xEC8, 0xECE, .part), (0xED0, 0xED9, .part),
   (0xEDC, 0xEDF, .start), (0xF00, 0xF00, .start), (0xF18, 0xF19, .part), (0xF20, 0xF29, .part),
   (0xF2A, 0xF33, .none), (0xF35, 0xF35, .part), (0xF37, 0xF37, .part), (0xF39, 0xF39, .part),
   (0xF3E, 0xF3F, .part), (0xF40, 0xF47, .start), (0xF49, 0xF6C, .start), (0xF71, 0xF84, .part),
   (0xF86, 0xF87, .part), (0xF88, 0xF8C, .start), (0xF8D, 0xF97, .part), (0xF99, 0xFBC, .part),
   (0xFC6, 0xFC6, .part), (0x1000, 0x102A, .start), (0x102B, 0x103E, .part),
   (0x103F, 0x103F, .start), (0x1040, 0x1049, .part), (0x1050, 0x1055, .start),
   (0x1056, 0x1059, .part), (0x105A, 0x105D, .start), (0x105E, 0x1060, .part),
   (0x1061, 0x1061, .start), (0x1062, 0x1064, .part), (0x1065, 0x1066, .start),
   (0x1067, 0x106D, .part), (0x106E, 0x1070, .start), (0x1071, 0x1074, .part),
   (0x1075, 0x1081, .start), (0x1082, 0x108D, .part), (0x108E, 0x108E, .start),
   (0x108F, 0x109D, .part), (0x10A0, 0x10C5, .start), (0x10C7, 0x10C7, .start),
   (0x10CD, 0x10CD, .start), (0x10D0, 0x10FA, .start), (0x10FC, 0x1248, .start),
   (0x124A, 0x124D, .start), (0x1250, 0x1256, .start), (0x1258, 0x1258, .start),
   (0x125A, 0x125D, .start), (0x1260, 0x1288, .start), (0x128A, 0x128D, .start),
   (0x1290, 0x12B0, .start), (0x12B2, 0x12B5, .start), (0x12B8, 0x12BE, .start),
   (0x12C0, 0x12C0, .start), (0x12C2, 0x12C5, .start), (0x12C8, 0x12D6, .start),
   (0x12D8, 0x1310, .start), (0x1312, 0x1315, .start), (0x1318, 0x135A, .start),
   (0x135D, 0x135F, .part), (0x1369, 0x1371, .part), (0x1372, 0x137C, .none),
   (0x1380, 0x138F, .start), (0x13A0, 0x13F5, .start), (0x13F8, 0x13FD, .start),
   (0x1401, 0x166C, .start), (0x166F, 0x167F, .start), (0x1681, 0x169A, .start),
   (0x16A0, 0x16EA, .start), (0x16EE, 0x16F8, .start), (0x1700, 0x1711, .start),
   (0x1712, 0x1715, .part), (0x171F, 0x1731, .start), (0x1732, 0x1734, .part),
   (0x1740, 0x1751, .start), (0x1752, 0x1753, .part), (0x1760, 0x176C, .start),
   (0x176E, 0x1770, .start), (0x1772, 0x1773, .part), (0x1780, 0x17B3, .start),
   (0x17B4, 0x17D3, .part), (0x17D7, 0x17D7, .start), (0x17DC, 0x17DC, .start),
   (0x17DD, 0x17DD, .part), (0x17E0, 0x17E9, .part), (0x17F0, 0x17F9, .none),
   (0x180B, 0x180D, .part), (0x180F, 0x1819, .part), (0x1820, 0x1878, .start),
   (0x1880, 0x18A8, .start), (0x18A9, 0x18A9, .part), (0x18AA, 0x18AA, .start),
   (0x18B0, 0x18F5, .start), (0x1900, 0x191E, .start), (0x1920, 0x192B, .part),
   (0x1930, 0x193B, .part), (0x1946, 0x194F, .part), (0x1950, 0x196D, .start),
   (0x1970, 0x1974, .start), (0x1980, 0x19AB, .start), (0x19B0, 0x19C9, .start),
   (0x19D0, 0x19DA, .part), (0x1A00, 0x1A16, .start), (0x1A17, 0x1A1B, .part),
   (0x1A20, 0x1A54, .start), (0x1A55, 0x1A5E, .part), (0x1A60, 0x1A7C, .part),
   (0x1A7F, 0x1A89, .part), (0x1A90, 0x1A99, .part), (0x1AA7, 0x1AA7, .start),
   (0x1AB0, 0x1ABD, .part), (0x1ABF, 0x1ADD, .part), (0x1AE0, 0x1AEB, .part),
   (0x1B00, 0x1B04, .part), (0x1B05, 0x1B33, .start), (0x1B34, 0x1B44, .part),
   (0x1B45, 0x1B4C, .start), (0x1B50, 0x1B59, .part), (0x1B6B, 0x1B73, .part),
   (0x1B80, 0x1B82, .part), (0x1B83, 0x1BA0, .start), (0x1BA1, 0x1BAD, .part),
   (0x1BAE, 0x1BAF, .start), (0x1BB0, 0x1BB9, .part), (0x1BBA, 0x1BE5, .start),
   (0x1BE6, 0x1BF3, .part), (0x1C00, 0x1C23, .start), (0x1C24, 0x1C37, .part),
   (0x1C40, 0x1C49, .part), (0x1C4D, 0x1C4F, .start), (0x1C50, 0x1C59, .part),
   (0x1C5A, 0x1C7D, .start), (0x1C80, 0x1C8A, .start), (0x1C90, 0x1CBA, .start),
   (0x1CBD, 0x1CBF, .start), (0x1CD0, 0x1CD2, .part), (0x1CD4, 0x1CE8, .part),
   (0x1CE9, 0x1CEC, .start), (0x1CED, 0x1CED, .part), (0x1CEE, 0x1CF3, .start),
   (0x1CF4, 0x1CF4, .part), (0x1CF5, 0x1CF6, .start), (0x1CF7, 0x1CF9, .part),
   (0x1CFA, 0x1CFA, .start), (0x1D00, 0x1DBF, .start), (0x1DC0, 0x1DFF, .part),
   (0x1E00, 0x1F15, .start), (0x1F18, 0x1F1D, .start), (0x1F20, 0x1F45, .start),
   (0x1F48, 0x1F4D, .start), (0x1F50, 0x1F57, .start), (0x1F59, 0x1F59, .start),
   (0x1F5B, 0x1F5B, .start), (0x1F5D, 0x1F5D, .start), (0x1F5F, 0x1F7D, .start),
   (0x1F80, 0x1FB4, .start), (0x1FB6, 0x1FBC, .start), (0x1FBE, 0x1FBE, .start),
   (0x1FC2, 0x1FC4, .start), (0x1FC6, 0x1FCC, .start), (0x1FD0, 0x1FD3, .start),
   (0x1FD6, 0x1FDB, .start), (0x1FE0, 0x1FEC, .start), (0x1FF2, 0x1FF4, .start),
   (0x1FF6, 0x1FFC, .start), (0x200C, 0x200D, .part), (0x203F, 0x2040, .part),
   (0x2054, 0x2054, .part), (0x2070, 0x2070, .none), (0x2071, 0x2071, .start),
   (0x2074, 0x2079, .none), (0x207F, 0x207F, .start), (0x2080, 0x2089, .none),
   (0x2090, 0x209C, .start), (0x20D0, 0x20DC, .part), (0x20E1, 0x20E1, .part),
   (0x20E5, 0x20F0, .part), (0x2102, 0x2102, .start), (0x2107, 0x2107, .start),
   (0x210A, 0x2113, .start), (0x2115, 0x2115, .start), (0x2118, 0x211D, .start),
   (0x2124, 0x2124, .start), (0x2126, 0x2126, .start), (0x2128, 0x2128, .start),
   (0x212A, 0x2139, .start), (0x213C, 0x213F, .start), (0x2145, 0x2149, .start),
   (0x214E, 0x214E, .start), (0x2150, 0x215F, .none), (0x2160, 0x2188, .start),
   (0x2189, 0x2189, .none), (0x2460, 0x249B, .none), (0x24B6, 0x24FF, .none),
   (0x2776, 0x2793, .none), (0x2C00, 0x2CE4, .start), (0x2CEB, 0x2CEE, .start),
   (0x2CEF, 0x2CF1, .part), (0x2CF2, 0x2CF3, .start), (0x2CFD, 0x2CFD, .none),
   (0x2D00, 0x2D25, .start), (0x2D27, 0x2D27, .start), (0x2D2D, 0x2D2D, .start),
   (0x2D30, 0x2D67, .start), (0x2D6F, 0x2D6F, .start), (0x2D7F, 0x2D7F, .part),
   (0x2D80, 0x2D96, .start), (0x2DA0, 0x2DA6, .start), (0x2DA8, 0x2DAE, .start),
   (0x2DB0, 0x2DB6, .start), (0x2DB8, 0x2DBE, .start), (0x2DC0, 0x2DC6, .start),
   (0x2DC8, 0x2DCE, .start), (0x2DD0, 0x2DD6, .start), (0x2DD8, 0x2DDE, .start),
   (0x2DE0, 0x2DFF, .part), (0x2E2F, 0x2E2F, .none), (0x3005, 0x3007, .start),
   (0x3021, 0x3029, .start), (0x302A, 0x302F, .part), (0x3031, 0x3035, .start),
   (0x3038, 0x303C, .start), (0x3041, 0x3096, .start), (0x3099, 0x309A, .part),
   (0x309B, 0x309F, .start), (0x30A1, 0x30FA, .start), (0x30FB, 0x30FB, .part),
   (0x30FC, 0x30FF, .start), (0x3105, 0x312F, .start), (0x3131, 0x318E, .start),
   (0x3192, 0x3195, .none), (0x31A0, 0x31BF, .start), (0x31F0, 0x31FF, .start),
   (0x3220, 0x3229, .none), (0x3248, 0x324F, .none), (0x3251, 0x325F, .none),
   (0x3280, 0x3289, .none), (0x32B1, 0x32BF, .none), (0x3400, 0x4DBF, .start),
   (0x4E00, 0xA48C, .start), (0xA4D0, 0xA4FD, .start), (0xA500, 0xA60C, .start),
   (0xA610, 0xA61F, .start), (0xA620, 0xA629, .part), (0xA62A, 0xA62B, .start),
   (0xA640, 0xA66E, .start), (0xA66F, 0xA66F, .part), (0xA674, 0xA67D, .part),
   (0xA67F, 0xA69D, .start), (0xA69E, 0xA69F, .part), (0xA6A0, 0xA6EF, .start),
   (0xA6F0, 0xA6F1, .part), (0xA717, 0xA71F, .start), (0xA722, 0xA788, .start),
   (0xA78B, 0xA7DC, .start), (0xA7F1, 0xA801, .start), (0xA802, 0xA802, .part),
   (0xA803, 0xA805, .start), (0xA806, 0xA806, .part), (0xA807, 0xA80A, .start),
   (0xA80B, 0xA80B, .part), (0xA80C, 0xA822, .start), (0xA823, 0xA827, .part),
   (0xA82C, 0xA82C, .part), (0xA830, 0xA835, .none), (0xA840, 0xA873, .start),
   (0xA880, 0xA881, .part), (0xA882, 0xA8B3, .start), (0xA8B4, 0xA8C5, .part),
   (0xA8D0, 0xA8D9, .part), (0xA8E0, 0xA8F1, .part), (0xA8F2, 0xA8F7, .start),
   (0xA8FB, 0xA8FB, .start), (0xA8FD, 0xA8FE, .start), (0xA8FF, 0xA909, .part),
   (0xA90A, 0xA925, .start), (0xA926, 0xA92D, .part), (0xA930, 0xA946, .start),
   (0xA947, 0xA953, .part), (0xA960, 0xA97C, .start), (0xA980, 0xA983, .part),
   (0xA984, 0xA9B2, .start), (0xA9B3, 0xA9C0, .part), (0xA9CF, 0xA9CF, .start),
   (0xA9D0, 0xA9D9, .part), (0xA9E0, 0xA9E4, .start), (0xA9E5, 0xA9E5, .part),
   (0xA9E6, 0xA9EF, .start), (0xA9F0, 0xA9F9, .part), (0xA9FA, 0xA9FE, .start),
   (0xAA00, 0xAA28, .start), (0xAA29, 0xAA36, .part), (0xAA40, 0xAA42, .start),
   (0xAA43, 0xAA43, .part), (0xAA44, 0xAA4B, .start), (0xAA4C, 0xAA4D, .part),
   (0xAA50, 0xAA59, .part), (0xAA60, 0xAA76, .start), (0xAA7A, 0xAA7A, .start),
   (0xAA7B, 0xAA7D, .part), (0xAA7E, 0xAAAF, .start), (0xAAB0, 0xAAB0, .part),
   (0xAAB1, 0xAAB1, .start), (0xAAB2, 0xAAB4, .part), (0xAAB5, 0xAAB6, .start),
   (0xAAB7, 0xAAB8, .part), (0xAAB9, 0xAABD, .start), (0xAABE, 0xAABF, .part),
   (0xAAC0, 0xAAC0, .start), (0xAAC1, 0xAAC1, .part), (0xAAC2, 0xAAC2, .start),
   (0xAADB, 0xAADD, .start), (0xAAE0, 0xAAEA, .start), (0xAAEB, 0xAAEF, .part),
   (0xAAF2, 0xAAF4, .start), (0xAAF5, 0xAAF6, .part), (0xAB01, 0xAB06, .start),
   (0xAB09, 0xAB0E, .start), (0xAB11, 0xAB16, .start), (0xAB20, 0xAB26, .start),
   (0xAB28, 0xAB2E, .start), (0xAB30, 0xAB5A, .start), (0xAB5C, 0xAB69, .start),
   (0xAB70, 0xABE2, .start), (0xABE3, 0xABEA, .part), (0xABEC, 0xABED, .part),
   (0xABF0, 0xABF9, .part), (0xAC00, 0xD7A3, .start), (0xD7B0, 0xD7C6, .start),
   (0xD7CB, 0xD7FB, .start), (0xF900, 0xFA6D, .start), (0xFA70, 0xFAD9, .start),
   (0xFB00, 0xFB06, .start), (0xFB13, 0xFB17, .start), (0xFB1D, 0xFB1D, .start),
   (0xFB1E, 0xFB1E, .part), (0xFB1F, 0xFB28, .start), (0xFB2A, 0xFB36, .start),
   (0xFB38, 0xFB3C, .start), (0xFB3E, 0xFB3E, .start), (0xFB40, 0xFB41, .start),
   (0xFB43, 0xFB44, .start), (0xFB46, 0xFBB1, .start), (0xFBD3, 0xFD3D, .start),
   (0xFD50, 0xFD8F, .start), (0xFD92, 0xFDC7, .start), (0xFDF0, 0xFDFB, .start),
   (0xFE00, 0xFE0F, .part), (0xFE20, 0xFE2F, .part), (0xFE33, 0xFE34, .part),
   (0xFE4D, 0xFE4F, .part), (0xFE70, 0xFE74, .start), (0xFE76, 0xFEFC, .start),
   (0xFF10, 0xFF19, .part), (0xFF21, 0xFF3A, .start), (0xFF3F, 0xFF3F, .part),
   (0xFF41, 0xFF5A, .start), (0xFF65, 0xFF65, .part), (0xFF66, 0xFFBE, .start),
   (0xFFC2, 0xFFC7, .start), (0xFFCA, 0xFFCF, .start), (0xFFD2, 0xFFD7, .start),
   (0xFFDA, 0xFFDC, .start)]

/-- Those above U+FFFF. -/
def upperRoleRanges : List (Nat × Nat × NameRole) :=
  [(0x10000, 0x1000B, .start), (0x1000D, 0x10026, .start), (0x10028, 0x1003A, .start),
   (0x1003C, 0x1003D, .start), (0x1003F, 0x1004D, .start), (0x10050, 0x1005D, .start),
   (0x10080, 0x100FA, .start), (0x10107, 0x10133, .none), (0x10140, 0x10174, .start),
   (0x10175, 0x10178, .none), (0x1018A, 0x1018B, .none), (0x101FD, 0x101FD, .part),
   (0x10280, 0x1029C, .start), (0x102A0, 0x102D0, .start), (0x102E0, 0x102E0, .part),
   (0x102E1, 0x102FB, .none), (0x10300, 0x1031F, .start), (0x10320, 0x10323, .none),
   (0x1032D, 0x1034A, .start), (0x10350, 0x10375, .start), (0x10376, 0x1037A, .part),
   (0x10380, 0x1039D, .start), (0x103A0, 0x103C3, .start), (0x103C8, 0x103CF, .start),
   (0x103D1, 0x103D5, .start), (0x10400, 0x1049D, .start), (0x104A0, 0x104A9, .part),
   (0x104B0, 0x104D3, .start), (0x104D8, 0x104FB, .start), (0x10500, 0x10527, .start),
   (0x10530, 0x10563, .start), (0x10570, 0x1057A, .start), (0x1057C, 0x1058A, .start),
   (0x1058C, 0x10592, .start), (0x10594, 0x10595, .start), (0x10597, 0x105A1, .start),
   (0x105A3, 0x105B1, .start), (0x105B3, 0x105B9, .start), (0x105BB, 0x105BC, .start),
   (0x105C0, 0x105F3, .start), (0x10600, 0x10736, .start), (0x10740, 0x10755, .start),
   (0x10760, 0x10767, .start), (0x10780, 0x10785, .start), (0x10787, 0x107B0, .start),
   (0x107B2, 0x107BA, .start), (0x10800, 0x10805, .start), (0x10808, 0x10808, .start),
   (0x1080A, 0x10835, .start), (0x10837, 0x10838, .start), (0x1083C, 0x1083C, .start),
   (0x1083F, 0x10855, .start), (0x10858, 0x1085F, .none), (0x10860, 0x10876, .start),
   (0x10879, 0x1087F, .none), (0x10880, 0x1089E, .start), (0x108A7, 0x108AF, .none),
   (0x108E0, 0x108F2, .start), (0x108F4, 0x108F5, .start), (0x108FB, 0x108FF, .none),
   (0x10900, 0x10915, .start), (0x10916, 0x1091B, .none), (0x10920, 0x10939, .start),
   (0x10940, 0x10959, .start), (0x10980, 0x109B7, .start), (0x109BC, 0x109BD, .none),
   (0x109BE, 0x109BF, .start), (0x109C0, 0x109CF, .none), (0x109D2, 0x109FF, .none),
   (0x10A00, 0x10A00, .start), (0x10A01, 0x10A03, .part), (0x10A05, 0x10A06, .part),
   (0x10A0C, 0x10A0F, .part), (0x10A10, 0x10A13, .start), (0x10A15, 0x10A17, .start),
   (0x10A19, 0x10A35, .start), (0x10A38, 0x10A3A, .part), (0x10A3F, 0x10A3F, .part),
   (0x10A40, 0x10A48, .none), (0x10A60, 0x10A7C, .start), (0x10A7D, 0x10A7E, .none),
   (0x10A80, 0x10A9C, .start), (0x10A9D, 0x10A9F, .none), (0x10AC0, 0x10AC7, .start),
   (0x10AC9, 0x10AE4, .start), (0x10AE5, 0x10AE6, .part), (0x10AEB, 0x10AEF, .none),
   (0x10B00, 0x10B35, .start), (0x10B40, 0x10B55, .start), (0x10B58, 0x10B5F, .none),
   (0x10B60, 0x10B72, .start), (0x10B78, 0x10B7F, .none), (0x10B80, 0x10B91, .start),
   (0x10BA9, 0x10BAF, .none), (0x10C00, 0x10C48, .start), (0x10C80, 0x10CB2, .start),
   (0x10CC0, 0x10CF2, .start), (0x10CFA, 0x10CFF, .none), (0x10D00, 0x10D23, .start),
   (0x10D24, 0x10D27, .part), (0x10D30, 0x10D39, .part), (0x10D40, 0x10D49, .part),
   (0x10D4A, 0x10D65, .start), (0x10D69, 0x10D6D, .part), (0x10D6F, 0x10D85, .start),
   (0x10E60, 0x10E7E, .none), (0x10E80, 0x10EA9, .start), (0x10EAB, 0x10EAC, .part),
   (0x10EB0, 0x10EB1, .start), (0x10EC2, 0x10EC7, .start), (0x10EFA, 0x10EFF, .part),
   (0x10F00, 0x10F1C, .start), (0x10F1D, 0x10F26, .none), (0x10F27, 0x10F27, .start),
   (0x10F30, 0x10F45, .start), (0x10F46, 0x10F50, .part), (0x10F51, 0x10F54, .none),
   (0x10F70, 0x10F81, .start), (0x10F82, 0x10F85, .part), (0x10FB0, 0x10FC4, .start),
   (0x10FC5, 0x10FCB, .none), (0x10FE0, 0x10FF6, .start), (0x11000, 0x11002, .part),
   (0x11003, 0x11037, .start), (0x11038, 0x11046, .part), (0x11052, 0x11065, .none),
   (0x11066, 0x11070, .part), (0x11071, 0x11072, .start), (0x11073, 0x11074, .part),
   (0x11075, 0x11075, .start), (0x1107F, 0x11082, .part), (0x11083, 0x110AF, .start),
   (0x110B0, 0x110BA, .part), (0x110C2, 0x110C2, .part), (0x110D0, 0x110E8, .start),
   (0x110F0, 0x110F9, .part), (0x11100, 0x11102, .part), (0x11103, 0x11126, .start),
   (0x11127, 0x11134, .part), (0x11136, 0x1113F, .part), (0x11144, 0x11144, .start),
   (0x11145, 0x11146, .part), (0x11147, 0x11147, .start), (0x11150, 0x11172, .start),
   (0x11173, 0x11173, .part), (0x11176, 0x11176, .start), (0x11180, 0x11182, .part),
   (0x11183, 0x111B2, .start), (0x111B3, 0x111C0, .part), (0x111C1, 0x111C4, .start),
   (0x111C9, 0x111CC, .part), (0x111CE, 0x111D9, .part), (0x111DA, 0x111DA, .start),
   (0x111DC, 0x111DC, .start), (0x111E1, 0x111F4, .none), (0x11200, 0x11211, .start),
   (0x11213, 0x1122B, .start), (0x1122C, 0x11237, .part), (0x1123E, 0x1123E, .part),
   (0x1123F, 0x11240, .start), (0x11241, 0x11241, .part), (0x11280, 0x11286, .start),
   (0x11288, 0x11288, .start), (0x1128A, 0x1128D, .start), (0x1128F, 0x1129D, .start),
   (0x1129F, 0x112A8, .start), (0x112B0, 0x112DE, .start), (0x112DF, 0x112EA, .part),
   (0x112F0, 0x112F9, .part), (0x11300, 0x11303, .part), (0x11305, 0x1130C, .start),
   (0x1130F, 0x11310, .start), (0x11313, 0x11328, .start), (0x1132A, 0x11330, .start),
   (0x11332, 0x11333, .start), (0x11335, 0x11339, .start), (0x1133B, 0x1133C, .part),
   (0x1133D, 0x1133D, .start), (0x1133E, 0x11344, .part), (0x11347, 0x11348, .part),
   (0x1134B, 0x1134D, .part), (0x11350, 0x11350, .start), (0x11357, 0x11357, .part),
   (0x1135D, 0x11361, .start), (0x11362, 0x11363, .part), (0x11366, 0x1136C, .part),
   (0x11370, 0x11374, .part), (0x11380, 0x11389, .start), (0x1138B, 0x1138B, .start),
   (0x1138E, 0x1138E, .start), (0x11390, 0x113B5, .start), (0x113B7, 0x113B7, .start),
   (0x113B8, 0x113C0, .part), (0x113C2, 0x113C2, .part), (0x113C5, 0x113C5, .part),
   (0x113C7, 0x113CA, .part), (0x113CC, 0x113D0, .part), (0x113D1, 0x113D1, .start),
   (0x113D2, 0x113D2, .part), (0x113D3, 0x113D3, .start), (0x113E1, 0x113E2, .part),
   (0x11400, 0x11434, .start), (0x11435, 0x11446, .part), (0x11447, 0x1144A, .start),
   (0x11450, 0x11459, .part), (0x1145E, 0x1145E, .part), (0x1145F, 0x11461, .start),
   (0x11480, 0x114AF, .start), (0x114B0, 0x114C3, .part), (0x114C4, 0x114C5, .start),
   (0x114C7, 0x114C7, .start), (0x114D0, 0x114D9, .part), (0x11580, 0x115AE, .start),
   (0x115AF, 0x115B5, .part), (0x115B8, 0x115C0, .part), (0x115D8, 0x115DB, .start),
   (0x115DC, 0x115DD, .part), (0x11600, 0x1162F, .start), (0x11630, 0x11640, .part),
   (0x11644, 0x11644, .start), (0x11650, 0x11659, .part), (0x11680, 0x116AA, .start),
   (0x116AB, 0x116B7, .part), (0x116B8, 0x116B8, .start), (0x116C0, 0x116C9, .part),
   (0x116D0, 0x116E3, .part), (0x11700, 0x1171A, .start), (0x1171D, 0x1172B, .part),
   (0x11730, 0x11739, .part), (0x1173A, 0x1173B, .none), (0x11740, 0x11746, .start),
   (0x11800, 0x1182B, .start), (0x1182C, 0x1183A, .part), (0x118A0, 0x118DF, .start),
   (0x118E0, 0x118E9, .part), (0x118EA, 0x118F2, .none), (0x118FF, 0x11906, .start),
   (0x11909, 0x11909, .start), (0x1190C, 0x11913, .start), (0x11915, 0x11916, .start),
   (0x11918, 0x1192F, .start), (0x11930, 0x11935, .part), (0x11937, 0x11938, .part),
   (0x1193B, 0x1193E, .part), (0x1193F, 0x1193F, .start), (0x11940, 0x11940, .part),
   (0x11941, 0x11941, .start), (0x11942, 0x11943, .part), (0x11950, 0x11959, .part),
   (0x119A0, 0x119A7, .start), (0x119AA, 0x119D0, .start), (0x119D1, 0x119D7, .part),
   (0x119DA, 0x119E0, .part), (0x119E1, 0x119E1, .start), (0x119E3, 0x119E3, .start),
   (0x119E4, 0x119E4, .part), (0x11A00, 0x11A00, .start), (0x11A01, 0x11A0A, .part),
   (0x11A0B, 0x11A32, .start), (0x11A33, 0x11A39, .part), (0x11A3A, 0x11A3A, .start),
   (0x11A3B, 0x11A3E, .part), (0x11A47, 0x11A47, .part), (0x11A50, 0x11A50, .start),
   (0x11A51, 0x11A5B, .part), (0x11A5C, 0x11A89, .start), (0x11A8A, 0x11A99, .part),
   (0x11A9D, 0x11A9D, .start), (0x11AB0, 0x11AF8, .start), (0x11B60, 0x11B67, .part),
   (0x11BC0, 0x11BE0, .start), (0x11BF0, 0x11BF9, .part), (0x11C00, 0x11C08, .start),
   (0x11C0A, 0x11C2E, .start), (0x11C2F, 0x11C36, .part), (0x11C38, 0x11C3F, .part),
   (0x11C40, 0x11C40, .start), (0x11C50, 0x11C59, .part), (0x11C5A, 0x11C6C, .none),
   (0x11C72, 0x11C8F, .start), (0x11C92, 0x11CA7, .part), (0x11CA9, 0x11CB6, .part),
   (0x11D00, 0x11D06, .start), (0x11D08, 0x11D09, .start), (0x11D0B, 0x11D30, .start),
   (0x11D31, 0x11D36, .part), (0x11D3A, 0x11D3A, .part), (0x11D3C, 0x11D3D, .part),
   (0x11D3F, 0x11D45, .part), (0x11D46, 0x11D46, .start), (0x11D47, 0x11D47, .part),
   (0x11D50, 0x11D59, .part), (0x11D60, 0x11D65, .start), (0x11D67, 0x11D68, .start),
   (0x11D6A, 0x11D89, .start), (0x11D8A, 0x11D8E, .part), (0x11D90, 0x11D91, .part),
   (0x11D93, 0x11D97, .part), (0x11D98, 0x11D98, .start), (0x11DA0, 0x11DA9, .part),
   (0x11DB0, 0x11DDB, .start), (0x11DE0, 0x11DE9, .part), (0x11EE0, 0x11EF2, .start),
   (0x11EF3, 0x11EF6, .part), (0x11F00, 0x11F01, .part), (0x11F02, 0x11F02, .start),
   (0x11F03, 0x11F03, .part), (0x11F04, 0x11F10, .start), (0x11F12, 0x11F33, .start),
   (0x11F34, 0x11F3A, .part), (0x11F3E, 0x11F42, .part), (0x11F50, 0x11F5A, .part),
   (0x11FB0, 0x11FB0, .start), (0x11FC0, 0x11FD4, .none), (0x12000, 0x12399, .start),
   (0x12400, 0x1246E, .start), (0x12480, 0x12543, .start), (0x12F90, 0x12FF0, .start),
   (0x13000, 0x1342F, .start), (0x13440, 0x13440, .part), (0x13441, 0x13446, .start),
   (0x13447, 0x13455, .part), (0x13460, 0x143FA, .start), (0x14400, 0x14646, .start),
   (0x16100, 0x1611D, .start), (0x1611E, 0x16139, .part), (0x16800, 0x16A38, .start),
   (0x16A40, 0x16A5E, .start), (0x16A60, 0x16A69, .part), (0x16A70, 0x16ABE, .start),
   (0x16AC0, 0x16AC9, .part), (0x16AD0, 0x16AED, .start), (0x16AF0, 0x16AF4, .part),
   (0x16B00, 0x16B2F, .start), (0x16B30, 0x16B36, .part), (0x16B40, 0x16B43, .start),
   (0x16B50, 0x16B59, .part), (0x16B5B, 0x16B61, .none), (0x16B63, 0x16B77, .start),
   (0x16B7D, 0x16B8F, .start), (0x16D40, 0x16D6C, .start), (0x16D70, 0x16D79, .part),
   (0x16E40, 0x16E7F, .start), (0x16E80, 0x16E96, .none), (0x16EA0, 0x16EB8, .start),
   (0x16EBB, 0x16ED3, .start), (0x16F00, 0x16F4A, .start), (0x16F4F, 0x16F4F, .part),
   (0x16F50, 0x16F50, .start), (0x16F51, 0x16F87, .part), (0x16F8F, 0x16F92, .part),
   (0x16F93, 0x16F9F, .start), (0x16FE0, 0x16FE1, .start), (0x16FE3, 0x16FE3, .start),
   (0x16FE4, 0x16FE4, .part), (0x16FF0, 0x16FF1, .part), (0x16FF2, 0x16FF6, .start),
   (0x17000, 0x18CD5, .start), (0x18CFF, 0x18D1E, .start), (0x18D80, 0x18DF2, .start),
   (0x1AFF0, 0x1AFF3, .start), (0x1AFF5, 0x1AFFB, .start), (0x1AFFD, 0x1AFFE, .start),
   (0x1B000, 0x1B122, .start), (0x1B132, 0x1B132, .start), (0x1B150, 0x1B152, .start),
   (0x1B155, 0x1B155, .start), (0x1B164, 0x1B167, .start), (0x1B170, 0x1B2FB, .start),
   (0x1BC00, 0x1BC6A, .start), (0x1BC70, 0x1BC7C, .start), (0x1BC80, 0x1BC88, .start),
   (0x1BC90, 0x1BC99, .start), (0x1BC9D, 0x1BC9E, .part), (0x1CCF0, 0x1CCF9, .part),
   (0x1CF00, 0x1CF2D, .part), (0x1CF30, 0x1CF46, .part), (0x1D165, 0x1D169, .part),
   (0x1D16D, 0x1D172, .part), (0x1D17B, 0x1D182, .part), (0x1D185, 0x1D18B, .part),
   (0x1D1AA, 0x1D1AD, .part), (0x1D242, 0x1D244, .part), (0x1D2C0, 0x1D2D3, .none),
   (0x1D2E0, 0x1D2F3, .none), (0x1D360, 0x1D378, .none), (0x1D400, 0x1D454, .start),
   (0x1D456, 0x1D49C, .start), (0x1D49E, 0x1D49F, .start), (0x1D4A2, 0x1D4A2, .start),
   (0x1D4A5, 0x1D4A6, .start), (0x1D4A9, 0x1D4AC, .start), (0x1D4AE, 0x1D4B9, .start),
   (0x1D4BB, 0x1D4BB, .start), (0x1D4BD, 0x1D4C3, .start), (0x1D4C5, 0x1D505, .start),
   (0x1D507, 0x1D50A, .start), (0x1D50D, 0x1D514, .start), (0x1D516, 0x1D51C, .start),
   (0x1D51E, 0x1D539, .start), (0x1D53B, 0x1D53E, .start), (0x1D540, 0x1D544, .start),
   (0x1D546, 0x1D546, .start), (0x1D54A, 0x1D550, .start), (0x1D552, 0x1D6A5, .start),
   (0x1D6A8, 0x1D6C0, .start), (0x1D6C2, 0x1D6DA, .start), (0x1D6DC, 0x1D6FA, .start),
   (0x1D6FC, 0x1D714, .start), (0x1D716, 0x1D734, .start), (0x1D736, 0x1D74E, .start),
   (0x1D750, 0x1D76E, .start), (0x1D770, 0x1D788, .start), (0x1D78A, 0x1D7A8, .start),
   (0x1D7AA, 0x1D7C2, .start), (0x1D7C4, 0x1D7CB, .start), (0x1D7CE, 0x1D7FF, .part),
   (0x1DA00, 0x1DA36, .part), (0x1DA3B, 0x1DA6C, .part), (0x1DA75, 0x1DA75, .part),
   (0x1DA84, 0x1DA84, .part), (0x1DA9B, 0x1DA9F, .part), (0x1DAA1, 0x1DAAF, .part),
   (0x1DF00, 0x1DF1E, .start), (0x1DF25, 0x1DF2A, .start), (0x1E000, 0x1E006, .part),
   (0x1E008, 0x1E018, .part), (0x1E01B, 0x1E021, .part), (0x1E023, 0x1E024, .part),
   (0x1E026, 0x1E02A, .part), (0x1E030, 0x1E06D, .start), (0x1E08F, 0x1E08F, .part),
   (0x1E100, 0x1E12C, .start), (0x1E130, 0x1E136, .part), (0x1E137, 0x1E13D, .start),
   (0x1E140, 0x1E149, .part), (0x1E14E, 0x1E14E, .start), (0x1E290, 0x1E2AD, .start),
   (0x1E2AE, 0x1E2AE, .part), (0x1E2C0, 0x1E2EB, .start), (0x1E2EC, 0x1E2F9, .part),
   (0x1E4D0, 0x1E4EB, .start), (0x1E4EC, 0x1E4F9, .part), (0x1E5D0, 0x1E5ED, .start),
   (0x1E5EE, 0x1E5EF, .part), (0x1E5F0, 0x1E5F0, .start), (0x1E5F1, 0x1E5FA, .part),
   (0x1E6C0, 0x1E6DE, .start), (0x1E6E0, 0x1E6E2, .start), (0x1E6E3, 0x1E6E3, .part),
   (0x1E6E4, 0x1E6E5, .start), (0x1E6E6, 0x1E6E6, .part), (0x1E6E7, 0x1E6ED, .start),
   (0x1E6EE, 0x1E6EF, .part), (0x1E6F0, 0x1E6F4, .start), (0x1E6F5, 0x1E6F5, .part),
   (0x1E6FE, 0x1E6FF, .start), (0x1E7E0, 0x1E7E6, .start), (0x1E7E8, 0x1E7EB, .start),
   (0x1E7ED, 0x1E7EE, .start), (0x1E7F0, 0x1E7FE, .start), (0x1E800, 0x1E8C4, .start),
   (0x1E8C7, 0x1E8CF, .none), (0x1E8D0, 0x1E8D6, .part), (0x1E900, 0x1E943, .start),
   (0x1E944, 0x1E94A, .part), (0x1E94B, 0x1E94B, .start), (0x1E950, 0x1E959, .part),
   (0x1EC71, 0x1ECAB, .none), (0x1ECAD, 0x1ECAF, .none), (0x1ECB1, 0x1ECB4, .none),
   (0x1ED01, 0x1ED2D, .none), (0x1ED2F, 0x1ED3D, .none), (0x1EE00, 0x1EE03, .start),
   (0x1EE05, 0x1EE1F, .start), (0x1EE21, 0x1EE22, .start), (0x1EE24, 0x1EE24, .start),
   (0x1EE27, 0x1EE27, .start), (0x1EE29, 0x1EE32, .start), (0x1EE34, 0x1EE37, .start),
   (0x1EE39, 0x1EE39, .start), (0x1EE3B, 0x1EE3B, .start), (0x1EE42, 0x1EE42, .start),
   (0x1EE47, 0x1EE47, .start), (0x1EE49, 0x1EE49, .start), (0x1EE4B, 0x1EE4B, .start),
   (0x1EE4D, 0x1EE4F, .start), (0x1EE51, 0x1EE52, .start), (0x1EE54, 0x1EE54, .start),
   (0x1EE57, 0x1EE57, .start), (0x1EE59, 0x1EE59, .start), (0x1EE5B, 0x1EE5B, .start),
   (0x1EE5D, 0x1EE5D, .start), (0x1EE5F, 0x1EE5F, .start), (0x1EE61, 0x1EE62, .start),
   (0x1EE64, 0x1EE64, .start), (0x1EE67, 0x1EE6A, .start), (0x1EE6C, 0x1EE72, .start),
   (0x1EE74, 0x1EE77, .start), (0x1EE79, 0x1EE7C, .start), (0x1EE7E, 0x1EE7E, .start),
   (0x1EE80, 0x1EE89, .start), (0x1EE8B, 0x1EE9B, .start), (0x1EEA1, 0x1EEA3, .start),
   (0x1EEA5, 0x1EEA9, .start), (0x1EEAB, 0x1EEBB, .start), (0x1F100, 0x1F10C, .none),
   (0x1F130, 0x1F149, .none), (0x1F150, 0x1F169, .none), (0x1F170, 0x1F189, .none),
   (0x1FBF0, 0x1FBF9, .part), (0x20000, 0x2A6DF, .start), (0x2A700, 0x2B81D, .start),
   (0x2B820, 0x2CEAD, .start), (0x2CEB0, 0x2EBE0, .start), (0x2EBF0, 0x2EE5D, .start),
   (0x2F800, 0x2FA1D, .start), (0x30000, 0x3134A, .start), (0x31350, 0x33479, .start),
   (0xE0100, 0xE01EF, .part)]

/-- All of them, in ascending order. -/
def roleRanges : List (Nat × Nat × NameRole) := lowerRoleRanges ++ upperRoleRanges

/-- The role of a character that the table knows. -/
def nameRole? (c : Char) : Option NameRole :=
  (roleRanges.find? fun r => r.1 ≤ c.toNat && c.toNat ≤ r.2.1).map (·.2.2)

/-- The character has ID_Start. -/
def isIdStart (c : Char) : Bool := nameRole? c == some .start

/-- The character has ID_Continue. -/
def isIdContinue (c : Char) : Bool := isIdStart c || nameRole? c == some .part

/-! ## No letter and no number is missing -/

/-- Goes along the table until it has passed all code points from `lo` to `hi`, each in a range of
the table.  What is left starts with the range that holds `hi`. -/
def passRange (lo hi : Nat) :
    List (Nat × Nat × NameRole) → Option (List (Nat × Nat × NameRole))
  | [] => none
  | r :: rest =>
      if r.2.1 < lo then passRange lo hi rest
      else if lo < r.1 then none
      else if hi ≤ r.2.1 then some (r :: rest)
      else passRange (r.2.1 + 1) hi rest

/-- Passes ascending ranges one after the other. -/
def passRanges : List (Nat × Nat) → List (Nat × Nat × NameRole) → Bool
  | [], _ => true
  | r :: rest, table =>
      match passRange r.1 r.2 table with
      | none => false
      | some left => passRanges rest left

/-- What is passed is in the table, and what is left is the end of it. -/
theorem passRange_some {lo hi : Nat} {table left : List (Nat × Nat × NameRole)}
    (h : passRange lo hi table = some left) :
    left <:+ table ∧ ∀ n, lo ≤ n → n ≤ hi → ∃ r ∈ table, r.1 ≤ n ∧ n ≤ r.2.1 := by
  induction table generalizing lo with
  | nil => cases h
  | cons r rest ih =>
      rw [passRange] at h
      split at h
      · obtain ⟨hsuffix, hcovered⟩ := ih h
        refine ⟨hsuffix.trans (List.suffix_cons r rest), fun n hlo hhi => ?_⟩
        obtain ⟨q, hq, hn⟩ := hcovered n hlo hhi
        exact ⟨q, List.mem_cons_of_mem r hq, hn⟩
      · split at h
        · cases h
        · split at h
          · cases h
            exact ⟨List.suffix_rfl, fun n _ _ => ⟨r, List.mem_cons_self, by omega, by omega⟩⟩
          · obtain ⟨hsuffix, hcovered⟩ := ih h
            refine ⟨hsuffix.trans (List.suffix_cons r rest), fun n hlo hhi => ?_⟩
            by_cases hn : n ≤ r.2.1
            · exact ⟨r, List.mem_cons_self, by omega, hn⟩
            · obtain ⟨q, hq, hin⟩ := hcovered n (by omega) hhi
              exact ⟨q, List.mem_cons_of_mem r hq, hin⟩

theorem mem_of_passRanges {ranges : List (Nat × Nat)} {table : List (Nat × Nat × NameRole)}
    (h : passRanges ranges table = true) {r : Nat × Nat} (hr : r ∈ ranges) {n : Nat}
    (hlo : r.1 ≤ n) (hhi : n ≤ r.2) : ∃ q ∈ table, q.1 ≤ n ∧ n ≤ q.2.1 := by
  induction ranges generalizing table with
  | nil => cases hr
  | cons first rest ih =>
      rw [passRanges] at h
      split at h
      · cases h
      · rename_i left hleft
        obtain ⟨hsuffix, hcovered⟩ := passRange_some hleft
        rcases List.mem_cons.1 hr with rfl | hmem
        · exact hcovered n hlo hhi
        · obtain ⟨q, hq, hin⟩ := ih h hmem
          exact ⟨q, hsuffix.mem hq, hin⟩

theorem passRanges_alphabetic : passRanges alphabeticRanges.ranges roleRanges = true := by
  decide +kernel

theorem passRanges_numeric : passRanges numericRanges.ranges roleRanges = true := by
  decide +kernel

/-- A set whose ranges are passed has a role for each of its characters. -/
theorem nameRole?_isSome_of_passRanges {s : CodeRanges}
    (h : passRanges s.ranges roleRanges = true) {c : Char} (hc : s.contains c = true) :
    (nameRole? c).isSome = true := by
  obtain ⟨r, hr, hlo, hhi⟩ := (s.contains_iff c).1 hc
  obtain ⟨q, hq, hin⟩ := mem_of_passRanges h hr hlo hhi
  simp only [nameRole?, Option.isSome_map, List.find?_isSome]
  exact ⟨q, hq, by simpa using hin⟩

/-- Every letter and every number has a role, be it none. -/
theorem nameRole?_isSome_of_isAlphanumeric {c : Char} (h : isAlphanumeric c = true) :
    (nameRole? c).isSome = true := by
  rcases Bool.or_eq_true_iff.1 h with hletter | hnumber
  · exact nameRole?_isSome_of_passRanges passRanges_alphabetic hletter
  · exact nameRole?_isSome_of_passRanges passRanges_numeric hnumber

end PluginBundle
