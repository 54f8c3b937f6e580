/-!
Contract: letter case within ASCII.

Owns:
- text with its letters of ASCII in lower case;
- comparison that ignores the case of these letters.

Does not own: letters beyond ASCII.
-/

namespace RemoteConfig.Text

/-- The text with its letters of ASCII in lower case. -/
def asciiLower (text : String) : String :=
  String.ofList (text.toList.map Char.toLower)

/-- Do two texts differ by the case of letters of ASCII at most? -/
def sameLetters (left right : String) : Bool :=
  asciiLower left == asciiLower right

/-- Letters and digits, as the core library knows them, are in ASCII. -/
theorem toNat_lt_of_isAlphanum {character : Char} (isAlphanum : character.isAlphanum = true) :
    character.toNat < 0x80 := by
  delta Char.isAlphanum Char.isAlpha Char.isUpper Char.isLower Char.isDigit at isAlphanum
  simp [UInt32.le_iff_toNat_le] at isAlphanum
  omega

end RemoteConfig.Text
