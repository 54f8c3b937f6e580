import RemoteConfig.Text.Ascii

/-!
Contract: names and values of message headers.

Owns:
- which names and values may be sent;
- looking a header up, which ignores letter case.

Does not own: which headers a request carries.
-/

namespace RemoteConfig.Header

def isNameChar (character : Char) : Bool :=
  character.isAlphanum
    || ['!', '#', '$', '%', '&', '\'', '*', '+', '-', '.', '^', '_', '\x60', '|', '~'].contains
      character

/-- A name is a text of name characters that is not empty and shorter than 2 ^ 16. -/
def isValidName (name : String) : Bool :=
  !name.isEmpty && name.toList.all isNameChar && name.length < 65536

/-- The characters of values: no controls but the tab. -/
def isValueChar (character : Char) : Bool :=
  character == '\t' || (0x20 ≤ character.toNat && character.toNat != 0x7F)

/-- May a text be sent as a value? -/
def isValidValue (value : String) : Bool :=
  value.toList.all isValueChar

/-- May a value be read as text? Only ASCII without controls is. -/
def isReadableValue (value : String) : Bool :=
  value.toList.all fun character => isValueChar character && character.toNat < 0x7F

/-- The first value of a name among headers. -/
def find? (name : String) (headers : List (String × String)) : Option String :=
  (headers.find? fun header => Text.sameLetters header.1 name).map Prod.snd

end RemoteConfig.Header
