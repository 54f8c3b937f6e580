import RemoteConfig.Text.Blank
import RemoteConfig.Text.Lowercase
import RemoteConfig.Unicode.Category

/-!
Contract: sets of characters as patterns describe them.

Owns:
- single characters, ranges, named classes and the operations on sets;
- membership;
- the set of all characters that differ from the members of a set by letter case at most;
- the size of the machine that reads the members of a set.

Does not own: how a set is written.
-/

namespace RemoteConfig.Pattern

/-- A set of characters. -/
inductive CharSet where
  | nothing
  | anything
  | single (character : Char)
  | range (low high : Char)
  | wordChars
  | decimalDigits
  | blanks
  | alphabetic
  | category (major : Char) (minor : Option Char)
  | anyCase (set : CharSet)
  | complement (set : CharSet)
  | union (left right : CharSet)
  | intersection (left right : CharSet)
deriving Repr, Inhabited

namespace CharSet

/-- Pairs of characters that letter case relates beyond the capitals and their small letters. -/
def furtherCasePairs : List (Nat × Nat) :=
  [(0x17F, 0x73), (0xB5, 0x3BC), (0x3C2, 0x3C3), (0x3D0, 0x3B2), (0x3D1, 0x3B8), (0x3D5, 0x3C6),
    (0x3D6, 0x3C0), (0x3F0, 0x3BA), (0x3F1, 0x3C1), (0x3F5, 0x3B5), (0x1E9B, 0x1E61),
    (0x1FBE, 0x3B9), (0x345, 0x3B9), (0x1C80, 0x432), (0x1C81, 0x434), (0x1C82, 0x43E),
    (0x1C83, 0x441), (0x1C84, 0x442), (0x1C85, 0x442), (0x1C86, 0x44A), (0x1C87, 0x463),
    (0x1C88, 0xA64B), (0x1FD3, 0x390), (0x1FE3, 0x3B0), (0xFB05, 0xFB06)]

/-- The character that stands for all that differ from a character by letter case. -/
def caseRepresentative (character : Char) : Char :=
  match furtherCasePairs.lookup character.toNat with
  | some code => Char.ofNat code
  | none =>
    match Text.lowerChar character with
    | [small] => small
    | _ => character

def capitals (small : Char) : List Char :=
  let ascii := if small.isLower then [small.toUpper] else []
  let further := (furtherCasePairs.filter fun pair => pair.2 == small.toNat).map fun pair =>
    Char.ofNat pair.1
  let beyond := Text.capitalSequences.filterMap fun (first, count, step, distance) =>
    let code := ((small.toNat : Int) - distance).toNat
    if Text.inSequence code (first, count, step, distance) then some (Char.ofNat code)
    else none
  ascii ++ further ++ beyond

/-- All characters that differ from a character by letter case at most. -/
def caseVariants (character : Char) : List Char :=
  let small := caseRepresentative character
  character :: small :: capitals small

/-- Is a character a member of a set? -/
def contains : CharSet → Char → Bool
  | nothing, _ => false
  | anything, _ => true
  | single member, character => character == member
  | range low high, character => low ≤ character && character ≤ high
  | wordChars, character => Unicode.isWordChar character
  | decimalDigits, character => Unicode.isDecimalDigit character
  | blanks, character => Text.isBlankChar character
  | alphabetic, character => Unicode.isAlphabetic character
  | category major minor, character =>
    let found := Unicode.category character
    found.1 == major && (minor.all fun letter => letter == found.2)
  | anyCase set, character => (caseVariants character).any set.contains
  | complement set, character => !set.contains character
  | union left right, character => left.contains character || right.contains character
  | intersection left right, character => left.contains character && right.contains character

/-- The members of one set that are not in another. -/
def difference (left right : CharSet) : CharSet :=
  intersection left (complement right)

/-- The members of exactly one of two sets. -/
def symmetricDifference (left right : CharSet) : CharSet :=
  union (difference left right) (difference right left)

def unions (sets : List CharSet) : CharSet :=
  sets.foldr union nothing

/-- The bytes that one state of a machine takes. -/
def stateSize : Nat := 32

/-- The bytes of a machine that reads the characters of a general category byte by byte. -/
def categorySize (major : Char) (minor : Option Char) : Nat :=
  match major, minor with
  | 'L', none => 42732
  | 'L', some 'l' => 27568
  | 'L', some 'm' => 4984
  | 'L', some 'o' => 34076
  | 'L', some 't' => 552
  | 'L', _ => 26496
  | 'M', none => 18732
  | 'M', some 'c' => 10308
  | 'M', some 'e' => 468
  | 'M', _ => 19348
  | 'N', none => 9748
  | 'N', some 'd' => 5116
  | 'N', some 'l' => 1112
  | 'N', _ => 5100
  | 'P', none => 11884
  | 'P', some 'c' => 540
  | 'P', some 'd' => 1392
  | 'P', some 'e' => 3504
  | 'P', some 'f' => 552
  | 'P', some 'i' => 588
  | 'P', some 'o' => 11212
  | 'P', _ => 3644
  | 'S', none => 15792
  | 'S', some 'c' => 1720
  | 'S', some 'k' => 2020
  | 'S', some 'm' => 3960
  | 'S', _ => 13088
  | 'Z', none => 608
  | 'Z', some 's' => 572
  | 'Z', _ => 164
  | _, none => 43024
  | _, some 'c' => 204
  | _, some 'f' => 1784
  | _, some 'n' => 42372
  | _, some 'o' => 864
  | _, _ => 64

/-- The bytes of a machine that reads the members of a set byte by byte: a state for each byte of a
character and four bytes for each run of members. Where members of two sets stand together, the parts
are added up, and a complement has the runs between the members and those around them. -/
def size : CharSet → Nat
  | nothing => 0
  | anything => 964
  | single character => stateSize * character.utf8Size
  | range _ high => if high.toNat < 0x80 then stateSize else 320
  | wordChars => 49836
  | decimalDigits => 5116
  | blanks => 680
  | alphabetic => 47072
  | category major minor => categorySize major minor
  | anyCase set => size set + 48
  | complement set => size set + 968
  | union left right => size left + size right + 8
  | intersection left right => min (size left) (size right)

/-- Has the set members with a number from 128 to 255? -/
def reachesUpperBytes (set : CharSet) : Bool :=
  (List.range 128).any fun offset => set.contains (Char.ofNat (128 + offset))

end CharSet

end RemoteConfig.Pattern
