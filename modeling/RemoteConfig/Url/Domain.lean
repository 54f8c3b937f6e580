import RemoteConfig.Text.Lowercase
import RemoteConfig.Text.Split
import RemoteConfig.Unicode.Category
import RemoteConfig.Url.Punycode

/-!
Contract: names of domains in their ASCII form.

Owns:
- mapping the characters of a name: letters become small, wide forms plain, invisible characters
  vanish;
- the labels of a name in their ASCII form;
- the characters that no name may hold.

Does not own: hosts that are addresses.
-/

namespace RemoteConfig.Domain

/-- The characters of ASCII that no name may hold. -/
def isForbidden (character : Char) : Bool :=
  character.toNat ≤ 0x20 || character.toNat == 0x7F
    || ['%', '#', '/', ':', '<', '>', '?', '@', '[', '\\', ']', '^', '|'].contains character

/-- Characters that vanish from names. -/
def isDropped (character : Char) : Bool :=
  let code := character.toNat
  code == 0xAD || code == 0x200B || code == 0x2060 || code == 0xFEFF
    || (0xFE00 ≤ code && code ≤ 0xFE0F)

/-- What a character of a name stands for. -/
def mapChar (character : Char) : List Char :=
  let code := character.toNat
  if isDropped character then []
  else if code == 0x3002 || code == 0xFF61 then ['.']
  else if code == 0x3000 || code == 0xA0 then [' ']
  else if 0xFF01 ≤ code && code ≤ 0xFF5E then Text.lowerChar (Char.ofNat (code - 0xFEE0))
  else Text.lowerChar character

/-- May a character stand in a label? A character of ASCII that is not forbidden may, and beyond
ASCII letters, marks, digits, symbols and punctuation may. -/
def isAllowed (character : Char) : Bool :=
  if character.toNat < 0x80 then !isForbidden character && !character.isUpper
  else Unicode.isPrintable character && character.toNat != 0xFFFD

/-- May the characters form a label? Every one must be allowed, and the first must not be a mark, which
would join the point before it. -/
def isLabel (label : List Char) : Bool :=
  label.all isAllowed && !(label.head?.any fun first => (Unicode.category first).1 == 'M')

/-- These characters announce the ASCII form of a label that has other characters. -/
def markChars : List Char := ['x', 'n', '-', '-']

/-- The ASCII form of a label: characters beyond ASCII are encoded, and a label that is already
encoded has to be the form of such a label. -/
def labelToAscii? (label : List Char) : Option (List Char) :=
  if !isLabel label then none
  else if label.take 4 == markChars then
    match Punycode.decode? (label.drop 4) with
    | none => none
    | some decoded =>
      if decoded.isEmpty || decoded.all (fun character => character.toNat < 0x80)
          || !isLabel decoded || Punycode.encode decoded != label.drop 4 then none
      else some label
  else if label.all fun character => character.toNat < 0x80 then some label
  else some (markChars ++ Punycode.encode label)

def toAscii? (name : List Char) : Option (List Char) :=
  (((Text.splitChars '.' (name.flatMap mapChar)).mapM labelToAscii?)).map (List.intercalate ['.'])

end RemoteConfig.Domain
