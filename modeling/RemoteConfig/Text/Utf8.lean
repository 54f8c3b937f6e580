/-!
Contract: text as UTF-8 bytes.

Owns:
- the bytes of a character and of a text;
- decoding bytes into units, each a character or a malformed sequence, where a malformed sequence
  is as long as the longest beginning of a well-formed one;
- the strict decoding, which refuses malformed sequences, and the lenient one, which shows each as
  the replacement character.

Does not own: other character sets.
-/

namespace RemoteConfig

/-- A sequence of bytes. -/
abbrev Bytes := List UInt8

namespace Utf8

/-- The byte of a number below 256. -/
def byte (value : Nat) : UInt8 :=
  UInt8.ofNat value

/-- A continuation byte with the low six bits of a number. -/
def continuation (value : Nat) : UInt8 :=
  byte (0x80 + value % 64)

def encodeChar (character : Char) : Bytes :=
  let code := character.toNat
  if code < 0x80 then [byte code]
  else if code < 0x800 then [byte (0xC0 + code / 64), continuation code]
  else if code < 0x10000 then
    [byte (0xE0 + code / 4096), continuation (code / 64), continuation code]
  else
    [byte (0xF0 + code / 262144), continuation (code / 4096), continuation (code / 64),
      continuation code]

def encodeChars (text : List Char) : Bytes :=
  text.flatMap encodeChar

def encode (text : String) : Bytes :=
  encodeChars text.toList

/-- What a first byte announces: the number of bytes that follow, the range of the first of them,
and the bits of the character that the byte itself holds. -/
structure Announcement where
  following : Nat
  low : Nat
  high : Nat
  bits : Nat

/-- The announcement of a first byte; nothing for a byte that starts no sequence. -/
def announcement? (first : Nat) : Option Announcement :=
  if first < 0x80 then some ⟨0, 0, 0, first⟩
  else if first < 0xC2 then none
  else if first < 0xE0 then some ⟨1, 0x80, 0xBF, first - 0xC0⟩
  else if first = 0xE0 then some ⟨2, 0xA0, 0xBF, 0⟩
  else if first = 0xED then some ⟨2, 0x80, 0x9F, first - 0xE0⟩
  else if first < 0xF0 then some ⟨2, 0x80, 0xBF, first - 0xE0⟩
  else if first = 0xF0 then some ⟨3, 0x90, 0xBF, 0⟩
  else if first < 0xF4 then some ⟨3, 0x80, 0xBF, first - 0xF0⟩
  else if first = 0xF4 then some ⟨3, 0x80, 0x8F, first - 0xF0⟩
  else none

/-- Collects the bytes that follow a first byte. The answer is the character's number, or nothing
when a byte does not fit, and the bytes that are left; a byte that does not fit is left. -/
def collect : Nat → Nat → Nat → Nat → Bytes → Option Nat × Bytes
  | 0, _, _, value, rest => (some value, rest)
  | _ + 1, _, _, _, [] => (none, [])
  | following + 1, low, high, value, next :: rest =>
    if low ≤ next.toNat ∧ next.toNat ≤ high then
      collect following 0x80 0xBF (value * 64 + (next.toNat - 0x80)) rest
    else (none, next :: rest)

/-- Collecting never leaves more bytes than there were. -/
theorem length_collect_le (following low high value : Nat) (bytes : Bytes) :
    (collect following low high value bytes).2.length ≤ bytes.length := by
  induction following generalizing low high value bytes with
  | zero => simp [collect]
  | succ following inductionHypothesis =>
    cases bytes with
    | nil => simp [collect]
    | cons next rest =>
      simp only [collect]
      split
      · exact Nat.le_succ_of_le (inductionHypothesis _ _ _ _)
      · exact Nat.le_refl _

/-- The units of a byte sequence, in order: characters, and nothing for a malformed sequence. -/
def units : Bytes → List (Option Char)
  | [] => []
  | first :: rest =>
    match announcement? first.toNat with
    | none => none :: units rest
    | some announced =>
      match found : collect announced.following announced.low announced.high announced.bits rest with
      | (value, left) =>
        have : left.length < rest.length + 1 := by
          have bound := length_collect_le announced.following announced.low announced.high
            announced.bits rest
          rw [found] at bound
          exact Nat.lt_succ_of_le bound
        value.map Char.ofNat :: units left
termination_by bytes => bytes.length

/-- The text of well-formed bytes. -/
def decode? (bytes : Bytes) : Option String :=
  ((units bytes).mapM id).map String.ofList

/-- The text of any bytes; each malformed sequence becomes the replacement character. -/
def decodeLenient (bytes : Bytes) : String :=
  String.ofList ((units bytes).map fun unit => unit.getD (Char.ofNat 0xFFFD))

end Utf8

end RemoteConfig
