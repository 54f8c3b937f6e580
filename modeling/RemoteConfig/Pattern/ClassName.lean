import RemoteConfig.Pattern.CharSet

/-!
Contract: the names of classes of characters.

Owns:
- the classes of ASCII that are named between colons;
- the general categories under their short and long names, compared without regard to letter case,
  blanks, hyphens and underscores;
- a few further properties and scripts.

Does not own: where a name may stand.
-/

namespace RemoteConfig.Pattern.ClassName

/-- The union of ranges. -/
def ranges (bounds : List (Char × Char)) : CharSet :=
  CharSet.unions (bounds.map fun bound => .range bound.1 bound.2)

/-- The classes of ASCII. -/
def asciiClass? (name : String) : Option CharSet :=
  match name with
  | "alnum" => some (ranges [('0', '9'), ('A', 'Z'), ('a', 'z')])
  | "alpha" => some (ranges [('A', 'Z'), ('a', 'z')])
  | "ascii" => some (ranges [('\x00', '\x7F')])
  | "blank" => some (ranges [('\t', '\t'), (' ', ' ')])
  | "cntrl" => some (ranges [('\x00', '\x1F'), ('\x7F', '\x7F')])
  | "digit" => some (ranges [('0', '9')])
  | "graph" => some (ranges [('!', '~')])
  | "lower" => some (ranges [('a', 'z')])
  | "print" => some (ranges [(' ', '~')])
  | "punct" => some (ranges [('!', '/'), (':', '@'), ('[', '\x60'), ('\x7b', '~')])
  | "space" => some (ranges [('\t', '\r'), (' ', ' ')])
  | "upper" => some (ranges [('A', 'Z')])
  | "word" => some (ranges [('0', '9'), ('A', 'Z'), ('_', '_'), ('a', 'z')])
  | "xdigit" => some (ranges [('0', '9'), ('A', 'F'), ('a', 'f')])
  | _ => none

/-- The name without letter case, blanks, hyphens, underscores and characters beyond ASCII. A leading
"is" says nothing either, except in "isc", which is a name of its own. -/
def loose (name : String) : String :=
  let plain (text : List Char) : List Char :=
    (text.filter fun c => c != ' ' && c != '-' && c != '_' && c.toNat < 0x80).map Char.toLower
  match name.toList with
  | first :: second :: rest =>
    if first.toLower = 'i' ∧ second.toLower = 's' then
      if plain rest = ['c'] then "isc" else String.ofList (plain rest)
    else String.ofList (plain (first :: second :: rest))
  | text => String.ofList (plain text)

/-- The general categories: the long name and the letters of the short one. -/
def categories : List (String × Char × Option Char) :=
  [("letter", 'L', none), ("uppercaseletter", 'L', some 'u'), ("lowercaseletter", 'L', some 'l'),
    ("titlecaseletter", 'L', some 't'), ("modifierletter", 'L', some 'm'),
    ("otherletter", 'L', some 'o'), ("mark", 'M', none), ("combiningmark", 'M', none),
    ("nonspacingmark", 'M', some 'n'), ("spacingmark", 'M', some 'c'),
    ("enclosingmark", 'M', some 'e'), ("number", 'N', none), ("decimalnumber", 'N', some 'd'),
    ("digit", 'N', some 'd'), ("letternumber", 'N', some 'l'), ("othernumber", 'N', some 'o'),
    ("punctuation", 'P', none), ("punct", 'P', none), ("connectorpunctuation", 'P', some 'c'),
    ("dashpunctuation", 'P', some 'd'), ("openpunctuation", 'P', some 's'),
    ("closepunctuation", 'P', some 'e'), ("initialpunctuation", 'P', some 'i'),
    ("finalpunctuation", 'P', some 'f'), ("otherpunctuation", 'P', some 'o'), ("symbol", 'S', none),
    ("mathsymbol", 'S', some 'm'), ("currencysymbol", 'S', some 'c'),
    ("modifiersymbol", 'S', some 'k'), ("othersymbol", 'S', some 'o'), ("separator", 'Z', none),
    ("spaceseparator", 'Z', some 's'), ("lineseparator", 'Z', some 'l'),
    ("paragraphseparator", 'Z', some 'p'), ("other", 'C', none), ("control", 'C', some 'c'),
    ("cntrl", 'C', some 'c'), ("format", 'C', some 'f'), ("privateuse", 'C', some 'o'),
    ("unassigned", 'C', some 'n')]

def shortCategory? (name : String) : Option CharSet :=
  match name.toList with
  | [major] =>
    if ['l', 'm', 'n', 'p', 's', 'z', 'c'].contains major then some (.category major.toUpper none)
    else none
  | [major, minor] =>
    if categories.any fun (_, first, second) => first == major.toUpper && second == some minor then
      some (.category major.toUpper (some minor))
    else none
  | _ => none

def category? (name : String) : Option CharSet :=
  match shortCategory? name with
  | some set => some set
  | none =>
    if name = "lc" || name = "casedletter" then
      some (CharSet.unions [.category 'L' (some 'u'), .category 'L' (some 'l'), .category 'L' (some 't')])
    else (categories.lookup name).map fun (major, minor) => .category major minor

/-- Ranges of characters by their numbers. -/
def codeRanges (bounds : List (Nat × Nat)) : CharSet :=
  ranges (bounds.map fun bound => (Char.ofNat bound.1, Char.ofNat bound.2))

/-- The characters of some scripts. -/
def script? (name : String) : Option CharSet :=
  match name with
  | "latin" => some (codeRanges [(0x41, 0x5A), (0x61, 0x7A), (0xAA, 0xAA), (0xBA, 0xBA),
      (0xC0, 0xD6), (0xD8, 0xF6), (0xF8, 0x2B8), (0x2E0, 0x2E4), (0x1D00, 0x1D25),
      (0x1D2C, 0x1D5C), (0x1D62, 0x1D65), (0x1D6B, 0x1D77), (0x1D79, 0x1DBE), (0x1E00, 0x1EFF),
      (0x2071, 0x2071), (0x207F, 0x207F), (0x2090, 0x209C), (0x212A, 0x212B), (0x2132, 0x2132),
      (0x214E, 0x214E), (0x2160, 0x2188), (0x2C60, 0x2C7F), (0xA722, 0xA787), (0xA78B, 0xA7CD),
      (0xA7D0, 0xA7D1), (0xA7D3, 0xA7D3), (0xA7D5, 0xA7DC), (0xA7F2, 0xA7FF), (0xAB30, 0xAB5A),
      (0xAB5C, 0xAB64), (0xAB66, 0xAB69), (0xFB00, 0xFB06), (0xFF21, 0xFF3A), (0xFF41, 0xFF5A),
      (0x10780, 0x10785), (0x10787, 0x107B0), (0x107B2, 0x107BA), (0x1DF00, 0x1DF1E),
      (0x1DF25, 0x1DF2A)])
  | "greek" => some (codeRanges [(0x370, 0x373), (0x375, 0x377), (0x37A, 0x37D), (0x37F, 0x37F),
      (0x384, 0x384), (0x386, 0x386), (0x388, 0x38A), (0x38C, 0x38C), (0x38E, 0x3A1),
      (0x3A3, 0x3E1), (0x3F0, 0x3FF), (0x1D26, 0x1D2A), (0x1D5D, 0x1D61), (0x1D66, 0x1D6A),
      (0x1DBF, 0x1DBF), (0x1F00, 0x1F15), (0x1F18, 0x1F1D), (0x1F20, 0x1F45), (0x1F48, 0x1F4D),
      (0x1F50, 0x1F57), (0x1F59, 0x1F59), (0x1F5B, 0x1F5B), (0x1F5D, 0x1F5D), (0x1F5F, 0x1F7D),
      (0x1F80, 0x1FB4), (0x1FB6, 0x1FC4), (0x1FC6, 0x1FD3), (0x1FD6, 0x1FDB), (0x1FDD, 0x1FEF),
      (0x1FF2, 0x1FF4), (0x1FF6, 0x1FFE), (0x2126, 0x2126), (0xAB65, 0xAB65), (0x10140, 0x1018E),
      (0x101A0, 0x101A0), (0x1D200, 0x1D245)])
  | "cyrillic" => some (codeRanges [(0x400, 0x484), (0x487, 0x52F), (0x1C80, 0x1C8A),
      (0x1D2B, 0x1D2B), (0x1D78, 0x1D78), (0x2DE0, 0x2DFF), (0xA640, 0xA69F), (0xFE2E, 0xFE2F),
      (0x1E030, 0x1E06D), (0x1E08F, 0x1E08F)])
  | "hebrew" => some (codeRanges [(0x591, 0x5C7), (0x5D0, 0x5EA), (0x5EF, 0x5F4),
      (0xFB1D, 0xFB36), (0xFB38, 0xFB3C), (0xFB3E, 0xFB3E), (0xFB40, 0xFB41), (0xFB43, 0xFB44),
      (0xFB46, 0xFB4F)])
  | "arabic" => some (codeRanges [(0x600, 0x604), (0x606, 0x60B), (0x60D, 0x61A), (0x61C, 0x61E),
      (0x620, 0x63F), (0x641, 0x64A), (0x656, 0x66F), (0x671, 0x6DC), (0x6DE, 0x6FF),
      (0x750, 0x77F), (0x870, 0x88E), (0x890, 0x891), (0x897, 0x8E1), (0x8E3, 0x8FF),
      (0xFB50, 0xFBC2), (0xFBD3, 0xFD3D), (0xFD40, 0xFD8F), (0xFD92, 0xFDC7), (0xFDCF, 0xFDCF),
      (0xFDF0, 0xFDFF), (0xFE70, 0xFE74), (0xFE76, 0xFEFC), (0x10E60, 0x10E7E),
      (0x10EC2, 0x10EC4), (0x10EFC, 0x10EFF), (0x1EE00, 0x1EE03), (0x1EE05, 0x1EE1F),
      (0x1EE21, 0x1EE22), (0x1EE24, 0x1EE24), (0x1EE27, 0x1EE27), (0x1EE29, 0x1EE32),
      (0x1EE34, 0x1EE37), (0x1EE39, 0x1EE39), (0x1EE3B, 0x1EE3B), (0x1EE42, 0x1EE42),
      (0x1EE47, 0x1EE47), (0x1EE49, 0x1EE49), (0x1EE4B, 0x1EE4B), (0x1EE4D, 0x1EE4F),
      (0x1EE51, 0x1EE52), (0x1EE54, 0x1EE54), (0x1EE57, 0x1EE57), (0x1EE59, 0x1EE59),
      (0x1EE5B, 0x1EE5B), (0x1EE5D, 0x1EE5D), (0x1EE5F, 0x1EE5F), (0x1EE61, 0x1EE62),
      (0x1EE64, 0x1EE64), (0x1EE67, 0x1EE6A), (0x1EE6C, 0x1EE72), (0x1EE74, 0x1EE77),
      (0x1EE79, 0x1EE7C), (0x1EE7E, 0x1EE7E), (0x1EE80, 0x1EE89), (0x1EE8B, 0x1EE9B),
      (0x1EEA1, 0x1EEA3), (0x1EEA5, 0x1EEA9), (0x1EEAB, 0x1EEBB), (0x1EEF0, 0x1EEF1)])
  | "han" => some (codeRanges [(0x2E80, 0x2E99), (0x2E9B, 0x2EF3), (0x2F00, 0x2FD5),
      (0x3005, 0x3005), (0x3007, 0x3007), (0x3021, 0x3029), (0x3038, 0x303B), (0x3400, 0x4DBF),
      (0x4E00, 0x9FFF), (0xF900, 0xFA6D), (0xFA70, 0xFAD9), (0x16FE2, 0x16FE3),
      (0x16FF0, 0x16FF1), (0x20000, 0x2A6DF), (0x2A700, 0x2B739), (0x2B740, 0x2B81D),
      (0x2B820, 0x2CEA1), (0x2CEB0, 0x2EBE0), (0x2EBF0, 0x2EE5D), (0x2F800, 0x2FA1D),
      (0x30000, 0x3134A), (0x31350, 0x323AF)])
  | "hiragana" => some (codeRanges [(0x3041, 0x3096), (0x309D, 0x309F), (0x1B001, 0x1B11F),
      (0x1B132, 0x1B132), (0x1B150, 0x1B152), (0x1F200, 0x1F200)])
  | "katakana" => some (codeRanges [(0x30A1, 0x30FA), (0x30FD, 0x30FF), (0x31F0, 0x31FF),
      (0x32D0, 0x32FE), (0x3300, 0x3357), (0xFF66, 0xFF6F), (0xFF71, 0xFF9D), (0x1AFF0, 0x1AFF3),
      (0x1AFF5, 0x1AFFB), (0x1AFFD, 0x1AFFE), (0x1B000, 0x1B000), (0x1B120, 0x1B122),
      (0x1B155, 0x1B155), (0x1B164, 0x1B167)])
  | "hangul" => some (codeRanges [(0x1100, 0x11FF), (0x302E, 0x302F), (0x3131, 0x318E),
      (0x3200, 0x321E), (0x3260, 0x327E), (0xA960, 0xA97C), (0xAC00, 0xD7A3), (0xD7B0, 0xD7C6),
      (0xD7CB, 0xD7FB), (0xFFA0, 0xFFBE), (0xFFC2, 0xFFC7), (0xFFCA, 0xFFCF), (0xFFD2, 0xFFD7),
      (0xFFDA, 0xFFDC)])
  | "thai" => some (codeRanges [(0xE01, 0xE3A), (0xE40, 0xE5B)])
  | _ => none

/-- The small letters: those of the category, and letters above the line and signs that count as one. -/
def smallLetters : CharSet :=
  .union (.category 'L' (some 'l'))
    (codeRanges [(0xAA, 0xAA), (0xBA, 0xBA), (0x2B0, 0x2B8), (0x2C0, 0x2C1), (0x2E0, 0x2E4),
      (0x345, 0x345), (0x37A, 0x37A), (0x10FC, 0x10FC), (0x1D2C, 0x1D6A), (0x1D78, 0x1D78),
      (0x1D9B, 0x1DBF), (0x2071, 0x2071), (0x207F, 0x207F), (0x2090, 0x209C), (0x2170, 0x217F),
      (0x24D0, 0x24E9), (0x2C7C, 0x2C7D), (0xA69C, 0xA69D), (0xA770, 0xA770), (0xA7F2, 0xA7F4),
      (0xA7F8, 0xA7F9), (0xAB5C, 0xAB5F), (0xAB69, 0xAB69), (0x10780, 0x10780),
      (0x10783, 0x10785), (0x10787, 0x107B0), (0x107B2, 0x107BA), (0x1E030, 0x1E06D)])

/-- The capitals: those of the category, and numbers and enclosed signs that count as one. -/
def capitalLetters : CharSet :=
  .union (.category 'L' (some 'u'))
    (codeRanges [(0x2160, 0x216F), (0x24B6, 0x24CF), (0x1F130, 0x1F149), (0x1F150, 0x1F169),
      (0x1F170, 0x1F189)])

/-- Properties that are no categories. -/
def property? (name : String) : Option CharSet :=
  match name with
  | "any" => some .anything
  | "ascii" => some (ranges [('\x00', '\x7F')])
  | "assigned" => some (.complement (.category 'C' (some 'n')))
  | "alphabetic" => some .alphabetic
  | "alpha" => some .alphabetic
  | "whitespace" => some .blanks
  | "wspace" => some .blanks
  | "space" => some .blanks
  | "lowercase" => some smallLetters
  | "lower" => some smallLetters
  | "uppercase" => some capitalLetters
  | "upper" => some capitalLetters
  | _ => none

def named? (name : String) : Option CharSet :=
  let name := loose name
  property? name <|> category? name <|> script? name

/-- A class by the name of a property and the name of its value. -/
def valued? (property value : String) : Option CharSet :=
  match loose property with
  | "gc" => category? (loose value)
  | "generalcategory" => category? (loose value)
  | "sc" => script? (loose value)
  | "script" => script? (loose value)
  | "scx" => script? (loose value)
  | "scriptextensions" => script? (loose value)
  | _ => none

end RemoteConfig.Pattern.ClassName
