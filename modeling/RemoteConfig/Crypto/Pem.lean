import RemoteConfig.Text.Base64
import RemoteConfig.Text.Split

/-!
Contract: bytes as text between two labelled lines.

Owns:
- the strict form, whose lines have 64 characters each, and behind which nothing follows;
- the lenient form, whose lines may have any length and any text around them.

Does not own: what the bytes stand for.
-/

namespace RemoteConfig.Pem

/-- The characters in front of a label at the start of a block. -/
def beginMark : List Char := "-----BEGIN ".toList

/-- The characters in front of a label at the end of a block. -/
def endMark : List Char := "-----END ".toList

/-- The characters behind a label. -/
def closing : List Char := "-----".toList

def firstLine (label : String) : List Char :=
  beginMark ++ label.toList ++ closing

def lastLine (label : String) : List Char :=
  endMark ++ label.toList ++ closing

def afterLineEnd? : List Char → Option (List Char)
  | '\r' :: '\n' :: rest => some rest
  | '\n' :: rest => some rest
  | '\r' :: rest => some rest
  | _ => none

def withoutLineEnd (text : List Char) : List Char :=
  match text.reverse with
  | '\n' :: '\r' :: rest => rest.reverse
  | '\n' :: rest => rest.reverse
  | '\r' :: rest => rest.reverse
  | _ => text

/-- What follows some characters. -/
def after? (expected text : List Char) : Option (List Char) :=
  if expected.isPrefixOf text then some (text.drop expected.length) else none

/-- What precedes some characters at the end of a text. -/
def before? (expected text : List Char) : Option (List Char) :=
  if expected.isSuffixOf text then some (text.take (text.length - expected.length)) else none

/-- The text from the first line on that starts like a block. -/
def fromBlock? : List Char → Option (List Char)
  | [] => none
  | character :: rest =>
    if character = '\x00' then none
    else if character = '\n' && beginMark.isPrefixOf rest then some rest
    else fromBlock? rest

/-- A text without the lines in front of its first block. -/
def withoutPreamble? (text : List Char) : Option (List Char) :=
  if beginMark.isPrefixOf text then some text else fromBlock? text

/-- The number of characters of a full line. -/
def lineWidth : Nat := 64

/-- The characters of lines that are all full, apart from the last one. The bound is the number of
lines that may still be read. -/
def joined? : Nat → List Char → Option (List Char)
  | 0, _ => none
  | bound + 1, text =>
    match text.drop lineWidth with
    | [] => some (withoutLineEnd text)
    | more =>
      match afterLineEnd? more with
      | some rest => (joined? bound rest).map (text.take lineWidth ++ ·)
      | none => none

/-- The bytes of the block that ends a text, in the strict form. -/
def strict? (label : String) (text : String) : Option Bytes := do
  let block ← withoutPreamble? text.toList
  let written ← after? (firstLine label) block
  let body ← afterLineEnd? written
  let body ← before? (lastLine label) (withoutLineEnd body)
  let characters ← joined? (body.length + 1) body
  Base64.decode? Base64.standard characters

/-- The lines between the first and the last line of a block. -/
def bodyLines? (label : String) (lines : List String) : Option (List String) :=
  let inside := (lines.dropWhile fun line => line.toList != firstLine label).drop 1
  let isLast (line : String) : Bool := line.toList == lastLine label
  if inside.any isLast then some (inside.takeWhile fun line => !isLast line) else none

/-- The bytes of the first block of a text, in the lenient form. -/
def lenient? (label : String) (text : String) : Option Bytes :=
  let lines := (Text.splitAt '\n' text).map Text.trim
  (bodyLines? label lines).bind fun lines =>
    Base64.decode? Base64.standard (lines.flatMap String.toList)

end RemoteConfig.Pem
