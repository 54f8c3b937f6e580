import RemoteConfig.Text.Utf8

/-!
Contract: bytes as text of 64 characters.

Owns:
- the standard alphabet and the one for locators and file names, with and without padding;
- encoding, and a decoding that accepts exactly the padded standard form.

Does not own: what the bytes mean.
-/

namespace RemoteConfig.Base64

/-- How bytes are written: the last two characters of the alphabet, and whether the last group is
padded. -/
structure Form where
  plus : Char
  slash : Char
  padded : Bool

def standard : Form := ⟨'+', '/', true⟩

/-- The form for locators and file names. -/
def locator : Form := ⟨'-', '_', true⟩

/-- The form for locators without padding. -/
def compactLocator : Form := ⟨'-', '_', false⟩

/-- The character of six bits. -/
def digit (form : Form) (value : Nat) : Char :=
  if value < 26 then Char.ofNat (65 + value)
  else if value < 52 then Char.ofNat (71 + value)
  else if value < 62 then Char.ofNat (value - 4)
  else if value = 62 then form.plus
  else form.slash

/-- The padding of a group that lacks some characters. -/
def padding (form : Form) (missing : Nat) : List Char :=
  if form.padded then List.replicate missing '=' else []

/-- The characters of bytes, three bytes to four characters. -/
def encodeChars (form : Form) : Bytes → List Char
  | [] => []
  | [first] =>
    let value := first.toNat * 16
    [digit form (value / 64), digit form (value % 64)] ++ padding form 2
  | [first, second] =>
    let value := (first.toNat * 256 + second.toNat) * 4
    [digit form (value / 4096), digit form (value / 64 % 64), digit form (value % 64)]
      ++ padding form 1
  | first :: second :: third :: rest =>
    let value := (first.toNat * 256 + second.toNat) * 256 + third.toNat
    digit form (value / 262144) :: digit form (value / 4096 % 64) :: digit form (value / 64 % 64)
      :: digit form (value % 64) :: encodeChars form rest

def encode (form : Form) (bytes : Bytes) : String :=
  String.ofList (encodeChars form bytes)

def encodeText (form : Form) (text : String) : String :=
  encode form (Utf8.encode text)

/-- The six bits of a character. -/
def value? (form : Form) (character : Char) : Option Nat :=
  if character.isUpper then some (character.toNat - 65)
  else if character.isLower then some (character.toNat - 71)
  else if character.isDigit then some (character.toNat + 4)
  else if character = form.plus then some 62
  else if character = form.slash then some 63
  else none

/-- The bytes of a last group of two characters. -/
def lastOne? (form : Form) (a b : Char) : Option Bytes := do
  let first ← value? form a
  let second ← value? form b
  if second % 16 = 0 then some [Utf8.byte (first * 4 + second / 16)] else none

/-- The bytes of a last group of three characters. -/
def lastTwo? (form : Form) (a b c : Char) : Option Bytes := do
  let first ← value? form a
  let second ← value? form b
  let third ← value? form c
  if third % 4 = 0 then
    some [Utf8.byte (first * 4 + second / 16), Utf8.byte (second % 16 * 16 + third / 4)]
  else none

def group? (form : Form) (a b c d : Char) : Option Bytes := do
  let first ← value? form a
  let second ← value? form b
  let third ← value? form c
  let fourth ← value? form d
  pure [Utf8.byte (first * 4 + second / 16), Utf8.byte (second % 16 * 16 + third / 4),
    Utf8.byte (third % 4 * 64 + fourth)]

/-- The bytes of a text in exactly one form; unused bits of the last group must be zero. -/
def decode? (form : Form) : List Char → Option Bytes
  | [] => some []
  | [a, b] => if form.padded then none else lastOne? form a b
  | [a, b, c] => if form.padded then none else lastTwo? form a b c
  | [a, b, '=', '='] => if form.padded then lastOne? form a b else none
  | [a, b, c, '='] => if form.padded then lastTwo? form a b c else none
  | a :: b :: c :: d :: rest => do
    let bytes ← group? form a b c d
    let others ← decode? form rest
    pure (bytes ++ others)
  | _ => none

end RemoteConfig.Base64
