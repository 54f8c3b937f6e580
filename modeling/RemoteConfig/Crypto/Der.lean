import RemoteConfig.Crypto.Octets

/-!
Contract: tagged elements of byte sequences, with lengths written in exactly one way.

Owns:
- taking elements apart, each with its tag and its content;
- natural numbers, which have no superfluous digits.

Does not own: what a sequence of elements describes.
-/

namespace RemoteConfig.Der

/-- One element. -/
structure Element where
  tag : UInt8
  content : Bytes
deriving DecidableEq, Repr

def integerTag : UInt8 := 0x02

def bitsTag : UInt8 := 0x03

/-- The tag of strings of bytes. -/
def octetsTag : UInt8 := 0x04

def sequenceTag : UInt8 := 0x30

/-- Does a tag get its meaning from the place of the element? -/
def isContextual (tag : UInt8) : Bool :=
  0x80 ≤ tag.toNat && tag.toNat < 0xC0

/-- The number of an element whose tag gets its meaning from its place. -/
def contextNumber (tag : UInt8) : Nat :=
  tag.toNat % 0x20

/-- A length, and what follows it. A length below 128 takes one byte; a longer one is announced by
the number of its digits and has no superfluous ones. -/
def length? : Bytes → Option (Nat × Bytes)
  | [] => none
  | first :: rest =>
    let announced := first.toNat
    if announced < 0x80 then some (announced, rest)
    else
      let count := announced - 0x80
      let digits := rest.take count
      let length := Octets.toNat digits
      if count = 0 || count > 4 || digits.length < count || digits.head? == some 0 || length < 0x80
      then none
      else some (length, rest.drop count)

/-- The first element, and what follows it. -/
def element? : Bytes → Option (Element × Bytes)
  | [] => none
  | tag :: rest =>
    if tag.toNat % 0x20 = 0x1F then none
    else
      match length? rest with
      | none => none
      | some (length, rest) =>
        if rest.length < length then none else some (⟨tag, rest.take length⟩, rest.drop length)

/-- All elements of a content, at most as many as a bound. -/
def elementsUpTo : Nat → Bytes → Option (List Element)
  | _, [] => some []
  | 0, _ => none
  | bound + 1, bytes =>
    match element? bytes with
    | none => none
    | some (element, rest) => (elementsUpTo bound rest).map (element :: ·)

def elements? (content : Bytes) : Option (List Element) :=
  elementsUpTo content.length content

namespace Element

def sequence? (element : Element) : Option (List Element) :=
  if element.tag = sequenceTag then elements? element.content else none

/-- The value of an integer that is not negative. -/
def natural? (element : Element) : Option Nat :=
  if element.tag = integerTag then
    match element.content with
    | [] => none
    | [single] => if single.toNat < 0x80 then some single.toNat else none
    | first :: second :: rest =>
      if first.toNat ≥ 0x80 || (first = 0 && second.toNat < 0x80) then none
      else some (Octets.toNat (first :: second :: rest))
  else none

def octets? (element : Element) : Option Bytes :=
  if element.tag = octetsTag then some element.content else none

end Element

/-- The elements of a sequence that makes up all the bytes. -/
def wholeSequence? (bytes : Bytes) : Option (List Element) :=
  match element? bytes with
  | some (element, []) => element.sequence?
  | _ => none

end RemoteConfig.Der
