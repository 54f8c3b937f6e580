import RemoteConfig.Text.Ascii
import RemoteConfig.Text.Blank
import RemoteConfig.Text.Utf8

/-!
Contract: text in character sets other than UTF-8.

Owns:
- sets in which each byte is one character, as their differences from the first 256 characters;
- text in units of 16 bits;
- the labels of the sets, and the rule that a byte order mark counts more than a label.

Does not own: where the label of a message stands.
-/

namespace RemoteConfig.Charset

/-- The characters of bytes: the first byte of a run, its length, and the number of its first
character. Bytes outside of the runs are the characters of the same number. -/
abbrev ByteRuns := List (Nat × Nat × Nat)

/-- Differences of a set with the letters of Central Europe. -/
def windows1250 : ByteRuns :=
  [(128, 1, 8364), (130, 1, 8218), (132, 1, 8222), (133, 1, 8230), (134, 2, 8224), (137, 1, 8240),
    (138, 1, 352), (139, 1, 8249), (140, 1, 346), (141, 1, 356), (142, 1, 381), (143, 1, 377),
    (145, 2, 8216), (147, 2, 8220), (149, 1, 8226), (150, 2, 8211), (153, 1, 8482), (154, 1, 353),
    (155, 1, 8250), (156, 1, 347), (157, 1, 357), (158, 1, 382), (159, 1, 378), (161, 1, 711),
    (162, 1, 728), (163, 1, 321), (165, 1, 260), (170, 1, 350), (175, 1, 379), (178, 1, 731),
    (179, 1, 322), (185, 1, 261), (186, 1, 351), (188, 1, 317), (189, 1, 733), (190, 1, 318),
    (191, 1, 380), (192, 1, 340), (195, 1, 258), (197, 1, 313), (198, 1, 262), (200, 1, 268),
    (202, 1, 280), (204, 1, 282), (207, 1, 270), (208, 1, 272), (209, 1, 323), (210, 1, 327),
    (213, 1, 336), (216, 1, 344), (217, 1, 366), (219, 1, 368), (222, 1, 354), (224, 1, 341),
    (227, 1, 259), (229, 1, 314), (230, 1, 263), (232, 1, 269), (234, 1, 281), (236, 1, 283),
    (239, 1, 271), (240, 1, 273), (241, 1, 324), (242, 1, 328), (245, 1, 337), (248, 1, 345),
    (249, 1, 367), (251, 1, 369), (254, 1, 355), (255, 1, 729)]

/-- Differences of a set with Cyrillic letters. -/
def windows1251 : ByteRuns :=
  [(128, 2, 1026), (130, 1, 8218), (131, 1, 1107), (132, 1, 8222), (133, 1, 8230), (134, 2, 8224),
    (136, 1, 8364), (137, 1, 8240), (138, 1, 1033), (139, 1, 8249), (140, 1, 1034),
    (141, 1, 1036), (142, 1, 1035), (143, 1, 1039), (144, 1, 1106), (145, 2, 8216),
    (147, 2, 8220), (149, 1, 8226), (150, 2, 8211), (153, 1, 8482), (154, 1, 1113),
    (155, 1, 8250), (156, 1, 1114), (157, 1, 1116), (158, 1, 1115), (159, 1, 1119),
    (161, 1, 1038), (162, 1, 1118), (163, 1, 1032), (165, 1, 1168), (168, 1, 1025),
    (170, 1, 1028), (175, 1, 1031), (178, 1, 1030), (179, 1, 1110), (180, 1, 1169),
    (184, 1, 1105), (185, 1, 8470), (186, 1, 1108), (188, 1, 1112), (189, 1, 1029),
    (190, 1, 1109), (191, 1, 1111), (192, 64, 1040)]

/-- Differences of a set with the letters of Western Europe. -/
def windows1252 : ByteRuns :=
  [(128, 1, 8364), (130, 1, 8218), (131, 1, 402), (132, 1, 8222), (133, 1, 8230), (134, 2, 8224),
    (136, 1, 710), (137, 1, 8240), (138, 1, 352), (139, 1, 8249), (140, 1, 338), (142, 1, 381),
    (145, 2, 8216), (147, 2, 8220), (149, 1, 8226), (150, 2, 8211), (152, 1, 732), (153, 1, 8482),
    (154, 1, 353), (155, 1, 8250), (156, 1, 339), (158, 1, 382), (159, 1, 376)]

/-- Differences of a set with Greek letters. -/
def windows1253 : ByteRuns :=
  [(128, 1, 8364), (130, 1, 8218), (131, 1, 402), (132, 1, 8222), (133, 1, 8230), (134, 2, 8224),
    (137, 1, 8240), (139, 1, 8249), (145, 2, 8216), (147, 2, 8220), (149, 1, 8226),
    (150, 2, 8211), (153, 1, 8482), (155, 1, 8250), (161, 2, 901), (170, 1, 65533),
    (175, 1, 8213), (180, 1, 900), (184, 3, 904), (188, 1, 908), (190, 20, 910), (210, 1, 65533),
    (211, 44, 931), (255, 1, 65533)]

/-- Differences of a set with Turkish letters. -/
def windows1254 : ByteRuns :=
  [(128, 1, 8364), (130, 1, 8218), (131, 1, 402), (132, 1, 8222), (133, 1, 8230), (134, 2, 8224),
    (136, 1, 710), (137, 1, 8240), (138, 1, 352), (139, 1, 8249), (140, 1, 338), (145, 2, 8216),
    (147, 2, 8220), (149, 1, 8226), (150, 2, 8211), (152, 1, 732), (153, 1, 8482), (154, 1, 353),
    (155, 1, 8250), (156, 1, 339), (159, 1, 376), (208, 1, 286), (221, 1, 304), (222, 1, 350),
    (240, 1, 287), (253, 1, 305), (254, 1, 351)]

/-- Differences of a set with Baltic letters. -/
def windows1257 : ByteRuns :=
  [(128, 1, 8364), (130, 1, 8218), (132, 1, 8222), (133, 1, 8230), (134, 2, 8224), (137, 1, 8240),
    (139, 1, 8249), (141, 1, 168), (142, 1, 711), (143, 1, 184), (145, 2, 8216), (147, 2, 8220),
    (149, 1, 8226), (150, 2, 8211), (153, 1, 8482), (155, 1, 8250), (157, 1, 175), (158, 1, 731),
    (161, 1, 65533), (165, 1, 65533), (168, 1, 216), (170, 1, 342), (175, 1, 198), (184, 1, 248),
    (186, 1, 343), (191, 1, 230), (192, 1, 260), (193, 1, 302), (194, 1, 256), (195, 1, 262),
    (198, 1, 280), (199, 1, 274), (200, 1, 268), (202, 1, 377), (203, 1, 278), (204, 1, 290),
    (205, 1, 310), (206, 1, 298), (207, 1, 315), (208, 1, 352), (209, 1, 323), (210, 1, 325),
    (212, 1, 332), (216, 1, 370), (217, 1, 321), (218, 1, 346), (219, 1, 362), (221, 1, 379),
    (222, 1, 381), (224, 1, 261), (225, 1, 303), (226, 1, 257), (227, 1, 263), (230, 1, 281),
    (231, 1, 275), (232, 1, 269), (234, 1, 378), (235, 1, 279), (236, 1, 291), (237, 1, 311),
    (238, 1, 299), (239, 1, 316), (240, 1, 353), (241, 1, 324), (242, 1, 326), (244, 1, 333),
    (248, 1, 371), (249, 1, 322), (250, 1, 347), (251, 1, 363), (253, 1, 380), (254, 1, 382),
    (255, 1, 729)]

/-- Differences of a set with the letters of Central Europe. -/
def iso2 : ByteRuns :=
  [(161, 1, 260), (162, 1, 728), (163, 1, 321), (165, 1, 317), (166, 1, 346), (169, 1, 352),
    (170, 1, 350), (171, 1, 356), (172, 1, 377), (174, 1, 381), (175, 1, 379), (177, 1, 261),
    (178, 1, 731), (179, 1, 322), (181, 1, 318), (182, 1, 347), (183, 1, 711), (185, 1, 353),
    (186, 1, 351), (187, 1, 357), (188, 1, 378), (189, 1, 733), (190, 1, 382), (191, 1, 380),
    (192, 1, 340), (195, 1, 258), (197, 1, 313), (198, 1, 262), (200, 1, 268), (202, 1, 280),
    (204, 1, 282), (207, 1, 270), (208, 1, 272), (209, 1, 323), (210, 1, 327), (213, 1, 336),
    (216, 1, 344), (217, 1, 366), (219, 1, 368), (222, 1, 354), (224, 1, 341), (227, 1, 259),
    (229, 1, 314), (230, 1, 263), (232, 1, 269), (234, 1, 281), (236, 1, 283), (239, 1, 271),
    (240, 1, 273), (241, 1, 324), (242, 1, 328), (245, 1, 337), (248, 1, 345), (249, 1, 367),
    (251, 1, 369), (254, 1, 355), (255, 1, 729)]

/-- Differences of a set with Cyrillic letters. -/
def iso5 : ByteRuns :=
  [(161, 12, 1025), (174, 66, 1038), (240, 1, 8470), (241, 12, 1105), (253, 1, 167),
    (254, 2, 1118)]

/-- Differences of a set with Greek letters. -/
def iso7 : ByteRuns :=
  [(161, 2, 8216), (164, 1, 8364), (165, 1, 8367), (170, 1, 890), (174, 1, 65533), (175, 1, 8213),
    (180, 3, 900), (184, 3, 904), (188, 1, 908), (190, 20, 910), (210, 1, 65533), (211, 44, 931),
    (255, 1, 65533)]

/-- Differences of a set with the letters of Western Europe with the euro sign. -/
def iso15 : ByteRuns :=
  [(164, 1, 8364), (166, 1, 352), (168, 1, 353), (180, 1, 381), (184, 1, 382), (188, 2, 338),
    (190, 1, 376)]

/-- Differences of a set with Russian letters. -/
def koi8r : ByteRuns :=
  [(128, 1, 9472), (129, 1, 9474), (130, 1, 9484), (131, 1, 9488), (132, 1, 9492), (133, 1, 9496),
    (134, 1, 9500), (135, 1, 9508), (136, 1, 9516), (137, 1, 9524), (138, 1, 9532),
    (139, 1, 9600), (140, 1, 9604), (141, 1, 9608), (142, 1, 9612), (143, 4, 9616),
    (147, 1, 8992), (148, 1, 9632), (149, 2, 8729), (151, 1, 8776), (152, 2, 8804), (154, 1, 160),
    (155, 1, 8993), (156, 1, 176), (157, 1, 178), (158, 1, 183), (159, 1, 247), (160, 3, 9552),
    (163, 1, 1105), (164, 15, 9555), (179, 1, 1025), (180, 11, 9570), (191, 1, 169),
    (192, 1, 1102), (193, 2, 1072), (195, 1, 1094), (196, 2, 1076), (198, 1, 1092),
    (199, 1, 1075), (200, 1, 1093), (201, 8, 1080), (209, 1, 1103), (210, 4, 1088),
    (214, 1, 1078), (215, 1, 1074), (216, 1, 1100), (217, 1, 1099), (218, 1, 1079),
    (219, 1, 1096), (220, 1, 1101), (221, 1, 1097), (222, 1, 1095), (223, 1, 1098),
    (224, 1, 1070), (225, 2, 1040), (227, 1, 1062), (228, 2, 1044), (230, 1, 1060),
    (231, 1, 1043), (232, 1, 1061), (233, 8, 1048), (241, 1, 1071), (242, 4, 1056),
    (246, 1, 1046), (247, 1, 1042), (248, 1, 1068), (249, 1, 1067), (250, 1, 1047),
    (251, 1, 1064), (252, 1, 1069), (253, 1, 1065), (254, 1, 1063), (255, 1, 1066)]

/-- Differences of a set with Ukrainian letters. -/
def koi8u : ByteRuns :=
  [(128, 1, 9472), (129, 1, 9474), (130, 1, 9484), (131, 1, 9488), (132, 1, 9492), (133, 1, 9496),
    (134, 1, 9500), (135, 1, 9508), (136, 1, 9516), (137, 1, 9524), (138, 1, 9532),
    (139, 1, 9600), (140, 1, 9604), (141, 1, 9608), (142, 1, 9612), (143, 4, 9616),
    (147, 1, 8992), (148, 1, 9632), (149, 2, 8729), (151, 1, 8776), (152, 2, 8804), (154, 1, 160),
    (155, 1, 8993), (156, 1, 176), (157, 1, 178), (158, 1, 183), (159, 1, 247), (160, 3, 9552),
    (163, 1, 1105), (164, 1, 1108), (165, 1, 9556), (166, 2, 1110), (168, 5, 9559),
    (173, 1, 1169), (174, 5, 9565), (179, 1, 1025), (180, 1, 1028), (181, 1, 9571),
    (182, 2, 1030), (184, 5, 9574), (189, 1, 1168), (190, 1, 9580), (191, 1, 169), (192, 1, 1102),
    (193, 2, 1072), (195, 1, 1094), (196, 2, 1076), (198, 1, 1092), (199, 1, 1075),
    (200, 1, 1093), (201, 8, 1080), (209, 1, 1103), (210, 4, 1088), (214, 1, 1078),
    (215, 1, 1074), (216, 1, 1100), (217, 1, 1099), (218, 1, 1079), (219, 1, 1096),
    (220, 1, 1101), (221, 1, 1097), (222, 1, 1095), (223, 1, 1098), (224, 1, 1070),
    (225, 2, 1040), (227, 1, 1062), (228, 2, 1044), (230, 1, 1060), (231, 1, 1043),
    (232, 1, 1061), (233, 8, 1048), (241, 1, 1071), (242, 4, 1056), (246, 1, 1046),
    (247, 1, 1042), (248, 1, 1068), (249, 1, 1067), (250, 1, 1047), (251, 1, 1064),
    (252, 1, 1069), (253, 1, 1065), (254, 1, 1063), (255, 1, 1066)]

/-- The character of a byte. -/
def byteChar (runs : ByteRuns) (byte : UInt8) : Char :=
  let value := byte.toNat
  match runs.find? fun (first, count, _) => first ≤ value && value < first + count with
  | some (first, _, code) => Char.ofNat (code + (value - first))
  | none => Char.ofNat value

/-- Units of 16 bits; a byte that is left over makes no unit. -/
def units16 (bigEndian : Bool) : Bytes → List Nat × Bool
  | first :: second :: rest =>
    let unit := if bigEndian then first.toNat * 256 + second.toNat
      else second.toNat * 256 + first.toNat
    let (units, left) := units16 bigEndian rest
    (unit :: units, left)
  | [_] => ([], true)
  | [] => ([], false)

/-- The characters of units of 16 bits; a lone half of a pair becomes the replacement character. -/
def unitChars : List Nat → List Char
  | [] => []
  | unit :: rest =>
    if 0xD800 ≤ unit ∧ unit < 0xDC00 then
      match rest with
      | low :: others =>
        if 0xDC00 ≤ low ∧ low < 0xE000 then
          Char.ofNat (0x10000 + (unit - 0xD800) * 0x400 + (low - 0xDC00)) :: unitChars others
        else Char.ofNat 0xFFFD :: unitChars (low :: others)
      | [] => [Char.ofNat 0xFFFD]
    else if 0xDC00 ≤ unit ∧ unit < 0xE000 then Char.ofNat 0xFFFD :: unitChars rest
    else Char.ofNat unit :: unitChars rest
termination_by units => units.length

/-- Text in units of 16 bits. -/
def decode16 (bigEndian : Bool) (bytes : Bytes) : String :=
  let (units, left) := units16 bigEndian bytes
  String.ofList (unitChars units ++ if left then [Char.ofNat 0xFFFD] else [])

def decodeBytes (runs : ByteRuns) (bytes : Bytes) : String :=
  String.ofList (bytes.map (byteChar runs))

/-- The sets by their labels; an unknown label means UTF-8. -/
def decodeLabelled (label : String) : Bytes → String :=
  let name := Text.asciiLower (Text.trim label)
  let labelled (names : List String) : Bool := names.contains name
  if labelled ["iso-8859-1", "latin1", "us-ascii", "ascii", "windows-1252", "cp1252", "iso8859-1",
      "iso88591", "iso_8859-1", "l1", "x-cp1252", "ansi_x3.4-1968", "ibm819", "cp819"] then
    decodeBytes windows1252
  else if labelled ["iso-8859-2", "latin2", "iso8859-2", "l2", "iso_8859-2"] then decodeBytes iso2
  else if labelled ["iso-8859-5", "cyrillic", "iso8859-5"] then decodeBytes iso5
  else if labelled ["iso-8859-7", "greek", "iso8859-7"] then decodeBytes iso7
  else if labelled ["iso-8859-15", "iso8859-15", "latin9", "l9", "iso_8859-15"] then decodeBytes iso15
  else if labelled ["windows-1250", "cp1250", "x-cp1250"] then decodeBytes windows1250
  else if labelled ["windows-1251", "cp1251", "x-cp1251"] then decodeBytes windows1251
  else if labelled ["windows-1253", "cp1253", "x-cp1253"] then decodeBytes windows1253
  else if labelled ["windows-1254", "cp1254", "iso-8859-9", "latin5", "l5", "iso8859-9"] then
    decodeBytes windows1254
  else if labelled ["windows-1257", "cp1257", "x-cp1257"] then decodeBytes windows1257
  else if labelled ["koi8-r", "koi", "koi8", "koi8_r", "cskoi8r"] then decodeBytes koi8r
  else if labelled ["koi8-u", "koi8-ru"] then decodeBytes koi8u
  else if labelled ["utf-16", "utf-16le", "unicode", "ucs-2", "iso-10646-ucs-2"] then decode16 false
  else if labelled ["utf-16be", "unicodefffe"] then decode16 true
  else Utf8.decodeLenient

/-- The text of bytes under a label; a byte order mark decides first, and is no part of the text. -/
def decode (label : String) : Bytes → String
  | 0xEF :: 0xBB :: 0xBF :: rest => Utf8.decodeLenient rest
  | 0xFF :: 0xFE :: rest => decode16 false rest
  | 0xFE :: 0xFF :: rest => decode16 true rest
  | bytes => decodeLabelled label bytes

end RemoteConfig.Charset
