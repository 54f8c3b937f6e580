import RemoteConfig.Json.Reader
import RemoteConfig.Tree.Basic

/-!
Contract: the scalars of TOML text.

Owns:
- basic and literal strings on one line or on several ones;
- integers in four bases, decimals, and the names of the infinities and of the undefined number;
- dates, times and moments, which are written in one canonical way.

Does not own: keys, lists and tables.
-/

namespace RemoteConfig.Toml

/-- What is left of the text after something has been read. -/
abbrev Rest := List Char

/-- Blanks within a line. -/
def isBlank (character : Char) : Bool :=
  character == ' ' || character == '\t'

def skipBlanks (text : List Char) : List Char :=
  text.dropWhile isBlank

/-- The characters of comments and strings: no control character but the tab. -/
def isText (character : Char) : Bool :=
  character == '\t' || (0x20 ≤ character.toNat && character.toNat != 0x7F)

/-- Passes a line break of one or two characters. -/
def lineBreak? : List Char → Option Rest
  | '\n' :: rest => some rest
  | '\r' :: '\n' :: rest => some rest
  | _ => none

/-! Strings. -/

/-- The character of an escape by number, which has a fixed count of digits. -/
def numberedEscape? (count : Nat) (text : List Char) : Option (Char × Rest) := do
  let values ← (text.take count).mapM Json.Reader.hexValue?
  let code := values.foldl (fun sum value => sum * 16 + value) 0
  if values.length = count && (code < 0xD800 || (0xE000 ≤ code && code < 0x110000)) then
    pure (Char.ofNat code, text.drop count)
  else none

/-- The character of an escape, after its backslash. -/
def escape? : List Char → Option (Char × Rest)
  | '"' :: rest => some ('"', rest)
  | '\\' :: rest => some ('\\', rest)
  | 'b' :: rest => some ('\x08', rest)
  | 'f' :: rest => some ('\x0c', rest)
  | 'n' :: rest => some ('\n', rest)
  | 'r' :: rest => some ('\r', rest)
  | 't' :: rest => some ('\t', rest)
  | 'u' :: rest => numberedEscape? 4 rest
  | 'U' :: rest => numberedEscape? 8 rest
  | _ => none

/-- Passes blanks and line breaks; the bound is the number of characters. -/
def skipLines : Nat → List Char → List Char
  | 0, text => text
  | bound + 1, text =>
    match lineBreak? (skipBlanks text) with
    | some rest => skipLines bound rest
    | none => skipBlanks text

/-- Quotes inside of a string over several lines, and whether three of them end it; up to two more
quotes may stand before those three. -/
def quoteRun (count : Nat) : Nat × Bool :=
  if count < 3 then (count, false) else (min (count - 3) 2, true)

/-- Reads a string up to its end, in reverse. Only strings in double quotes have escapes, and only
strings over several lines have line breaks, which become single characters. The bound is the number of
characters that may still be read. -/
def stringChars? (quote : Char) (multiline : Bool) : Nat → List Char → List Char →
    Option (List Char × Rest)
  | 0, _, _ => none
  | bound + 1, read, text =>
    match text with
    | [] => none
    | character :: rest =>
      if character == quote then
        if multiline then
          let count := (text.takeWhile (· == quote)).length
          let (kept, ends) := quoteRun count
          let read := List.replicate kept quote ++ read
          if ends then some (read, text.drop (kept + 3))
          else stringChars? quote multiline bound read (text.drop count)
        else some (read, rest)
      else if character == '\\' && quote == '"' then
        match escape? rest with
        | some (found, rest) => stringChars? quote multiline bound (found :: read) rest
        | none =>
          match multiline, lineBreak? (skipBlanks rest) with
          | true, some next => stringChars? quote multiline bound read (skipLines next.length next)
          | _, _ => none
      else if isText character then stringChars? quote multiline bound (character :: read) rest
      else
        match multiline, lineBreak? text with
        | true, some next => stringChars? quote multiline bound ('\n' :: read) next
        | _, _ => none

def lineString? (quote : Char) (text : List Char) : Option (String × Rest) :=
  (stringChars? quote false (text.length + 1) [] text).map fun (read, rest) =>
    (String.ofList read.reverse, rest)

/-- A string of either form, after its first quote. A line break right behind the opening quotes of a
string over several lines is dropped. -/
def string? (quote : Char) (text : List Char) : Option (String × Rest) :=
  if text.take 2 == [quote, quote] then
    let body := text.drop 2
    let body := (lineBreak? body).getD body
    (stringChars? quote true (body.length + 1) [] body).map fun (read, rest) =>
      (String.ofList read.reverse, rest)
  else lineString? quote text

/-! Numbers. -/

/-- Further digits; an underscore has to stand between two digits. -/
def moreDigits? (isDigit : Char → Bool) : List Char → Option (List Char × Rest)
  | [] => some ([], [])
  | '_' :: digit :: rest =>
    if isDigit digit then
      (moreDigits? isDigit rest).map fun (digits, rest) => (digit :: digits, rest)
    else none
  | character :: rest =>
    if isDigit character then
      (moreDigits? isDigit rest).map fun (digits, rest) => (character :: digits, rest)
    else if character == '_' then none
    else some ([], character :: rest)

/-- At least one digit. -/
def digits? (isDigit : Char → Bool) : List Char → Option (List Char × Rest)
  | [] => none
  | digit :: rest =>
    if isDigit digit then
      (moreDigits? isDigit rest).map fun (digits, rest) => (digit :: digits, rest)
    else none

/-- The whole digits of a decimal; a leading zero stands alone. -/
def wholeDigits? : List Char → Option (List Char × Rest)
  | '0' :: rest => some (['0'], rest)
  | text => digits? Char.isDigit text

/-- The exponent of a decimal with its letter, when the text goes on with one. -/
def exponent? (text : List Char) : Option (List Char × Rest) :=
  match text with
  | mark :: rest =>
    if mark == 'e' || mark == 'E' then
      let sign := rest.takeWhile fun c => c == '+' || c == '-'
      if sign.length > 1 then none
      else
        (digits? Char.isDigit (rest.drop sign.length)).map fun (digits, rest) =>
          ('e' :: sign ++ digits, rest)
    else some ([], text)
  | [] => some ([], [])

/-- The fraction of a decimal with its point, when the text goes on with one. -/
def fraction? (text : List Char) : Option (List Char × Rest) :=
  match text with
  | '.' :: rest => (digits? Char.isDigit rest).map fun (digits, rest) => ('.' :: digits, rest)
  | _ => some ([], text)

/-- A number in base sixteen, eight or two, after its mark. -/
def based? (base : Nat) (text : List Char) : Option (Tree × Rest) := do
  let (digits, rest) ← digits? (fun c => (Json.Reader.hexValue? c).any (· < base)) text
  let value := digits.foldl (fun sum c => sum * base + (Json.Reader.hexValue? c).getD 0) 0
  if value < Number.twoTo 63 then pure (.integer value, rest) else none

/-- A decimal number after its sign. A decimal that is too large is a fault, but for a negative one,
which is infinite. -/
def decimal? (sign : List Char) (text : List Char) : Option (Tree × Rest) := do
  let (whole, afterWhole) ← wholeDigits? text
  let (fraction, afterFraction) ← fraction? afterWhole
  let (power, rest) ← exponent? afterFraction
  let written := sign ++ whole ++ fraction ++ power
  if fraction.isEmpty && power.isEmpty then
    (Number.signed64? written).map fun value => (.integer value, rest)
  else
    (Number.decimal? written).bind fun value =>
      if value = Binary64.infinity false then none else some (.double value, rest)

def number? (text : List Char) : Option (Tree × Rest) :=
  let named (negative : Bool) (text : List Char) : Option (Tree × Rest) :=
    match text with
    | 'i' :: 'n' :: 'f' :: rest => some (.double (Binary64.infinity negative), rest)
    | 'n' :: 'a' :: 'n' :: rest => some (.double Binary64.nan, rest)
    | _ => none
  match text with
  | '0' :: 'x' :: rest => based? 16 rest
  | '0' :: 'o' :: rest => based? 8 rest
  | '0' :: 'b' :: rest => based? 2 rest
  | '-' :: rest => named true rest <|> decimal? ['-'] rest
  | '+' :: rest => named false rest <|> decimal? ['+'] rest
  | rest => named false rest <|> decimal? [] rest

/-! Dates and times. -/

/-- A number of exactly so many digits in a range. -/
def fixedDigits? (count low high : Nat) (text : List Char) : Option (Nat × Rest) :=
  let digits := text.take count
  let value := Number.digitsValue digits
  if digits.length = count && digits.all Char.isDigit && low ≤ value && value ≤ high then
    some (value, text.drop count)
  else none

/-- Passes a character. -/
def character? (expected : Char) : List Char → Option Rest
  | [] => none
  | found :: rest => if found == expected then some rest else none

def daysOf (year month : Nat) : Nat :=
  if month = 2 then
    if (year % 4 = 0 && year % 100 != 0) || year % 400 = 0 then 29 else 28
  else if [4, 6, 9, 11].contains month then 30
  else 31

/-- A date. The text that was read is its canonical form. -/
def date? (text : List Char) : Option (List Char × Rest) := do
  let (year, rest) ← fixedDigits? 4 0 9999 text
  let rest ← character? '-' rest
  let (month, rest) ← fixedDigits? 2 1 12 rest
  let rest ← character? '-' rest
  let (_, rest) ← fixedDigits? 2 1 (daysOf year month) rest
  pure (text.take 10, rest)

/-- The fraction of a second: nine digits count, and zeros at their end are dropped. -/
def secondFraction (text : List Char) : List Char × Rest :=
  match text with
  | '.' :: rest =>
    let digits := rest.takeWhile Char.isDigit
    if digits.isEmpty then ([], text)
    else
      let kept := ((digits.take 9).reverse.dropWhile (· == '0')).reverse
      (if kept.isEmpty then [] else '.' :: kept, rest.dropWhile Char.isDigit)
  | _ => ([], text)

/-- A time of the day. -/
def time? (text : List Char) : Option (List Char × Rest) := do
  let (_, rest) ← fixedDigits? 2 0 23 text
  let rest ← character? ':' rest
  let (_, rest) ← fixedDigits? 2 0 59 rest
  let rest ← character? ':' rest
  let (_, rest) ← fixedDigits? 2 0 60 rest
  let (fraction, rest) := secondFraction rest
  pure (text.take 8 ++ fraction, rest)

/-- The offset of a time zone, when the text goes on with one; a zero offset is positive. -/
def offset? (text : List Char) : Option (List Char × Rest) :=
  match text with
  | sign :: rest =>
    if sign == 'Z' || sign == 'z' then some (['Z'], rest)
    else if sign == '+' || sign == '-' then do
      let (hours, rest) ← fixedDigits? 2 0 23 rest
      let rest ← character? ':' rest
      let (minutes, after) ← fixedDigits? 2 0 59 rest
      let sign := if hours = 0 && minutes = 0 then '+' else sign
      pure (sign :: (text.drop 1).take 5, after)
    else some ([], text)
  | [] => some ([], [])

/-- A date, a time, or both with an optional offset, in canonical form. -/
def moment? (text : List Char) : Option (Tree × Rest) :=
  let whole (written : List Char × Rest) : Tree × Rest := (.string (String.ofList written.1), written.2)
  match date? text with
  | some (date, rest) =>
    let joined := match rest with
      | mark :: rest => if ['T', 't', ' '].contains mark then time? rest else none
      | [] => none
    match joined with
    | some (time, rest) =>
      (offset? rest).map fun (offset, rest) => whole (date ++ 'T' :: time ++ offset, rest)
    | none => some (whole (date, rest))
  | none => (time? text).map whole

end RemoteConfig.Toml
