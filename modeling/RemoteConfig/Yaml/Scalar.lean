import RemoteConfig.Yaml.Token

/-!
Contract: the scalars of YAML text.

Owns:
- quoted scalars with their escapes and folded lines;
- plain scalars, which end where their indentation ends or another token starts;
- block scalars, literal or folded, with their indentation and the breaks at their end.

Does not own: what a plain scalar means.
-/

namespace RemoteConfig.Yaml.Scalar

/-- What has been read of a scalar: its text in reverse, blanks whose meaning is open, and the line
breaks that wait to be folded. -/
structure Folding where
  text : List Char
  blanks : List Char
  firstBreak : Bool
  furtherBreaks : Nat

namespace Folding

def start : Folding := ⟨[], [], false, 0⟩

def add (folding : Folding) (character : Char) : Folding :=
  { folding with text := character :: folding.text }

/-- Settles waiting line breaks: one becomes a space, and each further one stays. -/
def settleBreaks (folding : Folding) : Folding :=
  let waiting : List Char :=
    if folding.firstBreak && folding.furtherBreaks = 0 then [' ']
    else List.replicate folding.furtherBreaks '\n'
  { folding with text := waiting ++ folding.text, firstBreak := false, furtherBreaks := 0 }

/-- Settles waiting blanks, which stay. -/
def settleBlanks (folding : Folding) : Folding :=
  { folding with text := folding.blanks ++ folding.text, blanks := [] }

/-- The text in order. -/
def result (folding : Folding) : String :=
  String.ofList folding.text.reverse

end Folding

/-- The character that an escape of one letter stands for. -/
def simpleEscape? : Char → Option Char
  | '0' => some '\x00'
  | 'a' => some '\x07'
  | 'b' => some '\x08'
  | 't' => some '\t'
  | '\t' => some '\t'
  | 'n' => some '\n'
  | 'v' => some '\x0b'
  | 'f' => some '\x0c'
  | 'r' => some '\r'
  | 'e' => some '\x1b'
  | ' ' => some ' '
  | '"' => some '"'
  | '/' => some '/'
  | '\\' => some '\\'
  | 'N' => some (Char.ofNat 0x85)
  | '_' => some (Char.ofNat 0xA0)
  | 'L' => some (Char.ofNat 0x2028)
  | 'P' => some (Char.ofNat 0x2029)
  | _ => none

/-- The number of digits of an escape by number. -/
def numberedLength? : Char → Option Nat
  | 'x' => some 2
  | 'u' => some 4
  | 'U' => some 8
  | _ => none

/-- The character of an escape, and its length without the backslash. -/
def escape? (cursor : Cursor) : Option (Char × Nat) :=
  let letter := cursor.look 1
  match simpleEscape? letter, numberedLength? letter with
  | some character, _ => some (character, 1)
  | none, some length => do
    let digits := (cursor.rest.drop 2).take length
    let values ← digits.mapM Json.Reader.hexValue?
    let code := values.foldl (fun sum value => sum * 16 + value) 0
    if values.length = length && (code < 0xD800 || (0xE000 ≤ code && code < 0x110000)) then
      some (Char.ofNat code, length + 1)
    else none
  | none, none => none

/-- Reads a quoted scalar up to its closing quote, which stays. The bound is the number of characters
that may still be passed; the flag tells that the line so far holds blanks only. -/
def quotedBody? (isSingle : Bool) : Nat → Bool → Folding → Cursor → Option (Folding × Cursor)
  | 0, _, _, _ => none
  | bound + 1, blankLine, folding, cursor =>
    let character := cursor.here
    if cursor.atDocumentMark || isEnd character then none
    else if isBreak character then
      let folding := if folding.firstBreak || blankLine then
          { folding with furtherBreaks := folding.furtherBreaks + 1 }
        else { folding with firstBreak := true, blanks := [] }
      quotedBody? isSingle bound true folding cursor.skipBreak
    else if isBlank character then
      if blankLine then
        if character == '\t' && (cursor.column : Int) < cursor.indent then none
        else quotedBody? isSingle bound true folding cursor.skipBlank
      else
        quotedBody? isSingle bound false { folding with blanks := character :: folding.blanks }
          cursor.skipBlank
    else if (cursor.column : Int) < cursor.indent then none
    else
      let folding := if blankLine then folding.settleBreaks else folding.settleBlanks
      if isSingle then
        if character == '\'' then
          if cursor.look 1 == '\'' then
            quotedBody? isSingle bound false (folding.add '\'') (cursor.skipOthers 2)
          else some (folding, cursor)
        else quotedBody? isSingle bound false (folding.add character) cursor.skipOther
      else if character == '"' then some (folding, cursor)
      else if character == '\\' then
        if isBreak (cursor.look 1) then
          quotedBody? isSingle bound true folding cursor.skipOther.skipBreak
        else
          match escape? cursor with
          | some (found, length) =>
            quotedBody? isSingle bound false (folding.add found) (cursor.skipOthers (length + 1))
          | none => none
      else quotedBody? isSingle bound false (folding.add character) cursor.skipOther

/-- May the character after a quoted scalar stand there? A colon makes it a key, on one line outside
of flow collections. -/
def mayFollowQuoted (cursor : Cursor) (startLine : Nat) : Bool :=
  let character := cursor.here
  isBreakOrEnd character
    || (cursor.inFlow && [',', '\x7d', ']', ':'].contains character)
    || (!cursor.inFlow && character == ':' && startLine == cursor.line)

def quoted? (isSingle : Bool) (cursor : Cursor) : Option Cursor := do
  let startLine := cursor.line
  let cursor := cursor.saveKey.forbidKey
  let (folding, cursor) ←
    quotedBody? isSingle (cursor.rest.length + 2) false Folding.start cursor.skipOther
  let cursor ← cursor.skipOther.skipSpace? true
  if mayFollowQuoted cursor startLine then
    let cursor ← cursor.skipToToken? (cursor.rest.length + 1)
    pure { cursor.push (.scalar false folding.result) with adjacentValueAt := cursor.offset }
  else none

/-- May a plain scalar go on with the character at the place? -/
def goesOnPlain (cursor : Cursor) : Bool :=
  let character := cursor.here
  if character == ':' && (isGap (cursor.look 1) || (cursor.inFlow && isFlow (cursor.look 1))) then
    false
  else !(cursor.inFlow && isFlow character)

/-- Where the reading of a plain scalar stands: inside of a word, or between two words. -/
inductive PlainPlace where
  | word
  | between

/-- Reads a plain scalar. A word ends at a gap; between two words, a comment, a mark of documents or a
lack of indentation ends the scalar. -/
def plainBody? (indent : Int) : Nat → PlainPlace → Folding → Cursor → Option (Folding × Cursor)
  | 0, _, _, _ => none
  | bound + 1, .word, folding, cursor =>
    let character := cursor.here
    if isGap character then
      if isEnd character then some (folding, cursor)
      else plainBody? indent bound .between folding cursor
    else if goesOnPlain cursor then
      plainBody? indent bound .word (folding.add character) cursor.skipOther
    else some (folding, cursor)
  | bound + 1, .between, folding, cursor =>
    let character := cursor.here
    if isBreak character then
      let folding := if cursor.leadingBlank then
          { folding with furtherBreaks := folding.furtherBreaks + 1 }
        else { folding with firstBreak := true, blanks := [] }
      plainBody? indent bound .between folding cursor.skipBreak
    else if isBlank character then
      if !cursor.leadingBlank then
        plainBody? indent bound .between { folding with blanks := character :: folding.blanks }
          cursor.skipBlank
      else if (cursor.column : Int) < indent && character == '\t' then
        match cursor.skipSpace? true with
        | some passed =>
          if isBreakOrEnd passed.here then plainBody? indent bound .between folding passed else none
        | none => none
      else plainBody? indent bound .between folding cursor.skipBlank
    else if (!cursor.inFlow && (cursor.column : Int) < indent) || cursor.atDocumentMark
        || character == '#' || isEnd character then some (folding, cursor)
    else if cursor.inFlow && character == '-' && isFlow (cursor.look 1) then none
    else if goesOnPlain cursor then
      let folding := if cursor.leadingBlank then folding.settleBreaks else folding.settleBlanks
      plainBody? indent bound .word (folding.add character) cursor.skipOther
    else some (folding, cursor)

def plain? (cursor : Cursor) : Option Cursor := do
  let cursor := cursor.saveKey.forbidKey.leaveLoose
  let indent := cursor.indent + 1
  if cursor.inFlow && ((cursor.column : Int) < indent
      || (cursor.here == '-' && isFlow (cursor.look 1))) then none
  else
    let started := { cursor with leadingBlank := false }
    let (folding, cursor) ← plainBody? indent (2 * cursor.rest.length + 2) .word Folding.start started
    let cursor := if cursor.leadingBlank then cursor.allowKey else cursor
    pure (cursor.push (.scalar true folding.result))

/-- What becomes of the line breaks at the end of a block scalar. -/
inductive Chomping where
  | strip
  | clip
  | keep
deriving DecidableEq

/-- The breaks of empty lines, and the cursor at the next line that has content; spaces are passed up
to a column, or all of them. The answer holds the greatest column as well. -/
def skipEmptyLines (limit : Option Nat) : Nat → Nat → Nat → Cursor → Nat × Nat × Cursor
  | 0, breaks, widest, cursor => (breaks, widest, cursor)
  | bound + 1, breaks, widest, cursor =>
    let widest := max widest cursor.column
    if cursor.here == ' ' && (limit.all fun most => cursor.column < most) then
      skipEmptyLines limit bound breaks widest cursor.skipBlank
    else if isBreak cursor.here then skipEmptyLines limit bound (breaks + 1) widest cursor.skipBreak
    else (breaks, widest, cursor)

/-- What has been read of a block scalar: its text in reverse, whether a break waits, how many
further ones do, and whether the last line started with a blank. -/
structure Lines where
  text : List Char
  waits : Bool
  further : Nat
  blankStart : Bool

/-- Adds the waiting breaks in front of a line. In a folded scalar a single break between two lines
that do not start with a blank becomes a space. -/
def settleLines (isLiteral : Bool) (lines : Lines) (blankStart : Bool) : Lines :=
  let further := List.replicate lines.further '\n'
  let waiting : List Char :=
    if !isLiteral && lines.waits && !lines.blankStart && !blankStart then
      if lines.further = 0 then [' '] else further
    else further ++ if lines.waits then ['\n'] else []
  ⟨waiting ++ lines.text, false, 0, blankStart⟩

/-- Reads the lines of a block scalar that are indented as far as a column. -/
def blockLines (isLiteral : Bool) (indent : Nat) : Nat → Lines → Cursor → Lines × Cursor
  | 0, lines, cursor => (lines, cursor)
  | bound + 1, lines, cursor =>
    if cursor.column != indent || isEnd cursor.here || (indent = 0 && cursor.atDocumentMark) then
      (lines, cursor)
    else
      let lines := settleLines isLiteral lines (isBlank cursor.here)
      let content := cursor.rest.takeWhile fun c => !isBreakOrEnd c
      let lines := { lines with text := content.reverse ++ lines.text }
      let cursor := cursor.skipLine
      if isEnd cursor.here then (lines, cursor)
      else
        let cursor := cursor.skipBreak
        let (breaks, _, cursor) :=
          skipEmptyLines (some indent) (cursor.rest.length + 1) 0 0 cursor
        blockLines isLiteral indent bound { lines with waits := true, further := breaks } cursor

/-- The sign for the breaks at the end of a block scalar. -/
def chompingSign? : Char → Option Chomping
  | '+' => some .keep
  | '-' => some .strip
  | _ => none

/-- The digit for the indentation of a block scalar; zero is a fault. -/
def indentationSign? (character : Char) : Option (Option Nat) :=
  if character == '0' then none
  else if character.isDigit then some (some (character.toNat - 48))
  else some none

/-- The signs behind the mark of a block scalar, in either order. -/
def blockHeader? (cursor : Cursor) : Option (Chomping × Option Nat × Cursor) :=
  match chompingSign? cursor.here with
  | some chomping => do
    let cursor := cursor.skipOther
    let increment ← indentationSign? cursor.here
    pure (chomping, increment, if increment.isSome then cursor.skipOther else cursor)
  | none => do
    let increment ← indentationSign? cursor.here
    let cursor := if increment.isSome then cursor.skipOther else cursor
    match increment, chompingSign? cursor.here with
    | some _, some chomping => pure (chomping, increment, cursor.skipOther)
    | _, _ => pure (.clip, increment, cursor)

/-- The breaks at the end of a block scalar that has lines. -/
def chomped (chomping : Chomping) (indent : Nat) (lines : Lines) (cursor : Cursor) : List Char :=
  let final : List Char :=
    if chomping == .strip then []
    else
      (if isEnd cursor.here && cursor.column ≥ max indent 1 then ['\n'] else [])
        ++ if lines.waits then ['\n'] else []
  let kept := if chomping == .keep then List.replicate lines.further '\n' else []
  kept ++ final ++ lines.text

def emptyBlock (chomping : Chomping) (sameLine : Bool) (header : Bool) (breaks : Nat) : List Char :=
  let headerBreak : List Char := if header then ['\n'] else []
  match chomping with
  | .strip => []
  | .clip => if sameLine then [] else headerBreak
  | .keep =>
    if sameLine then [] else if breaks = 0 then headerBreak else List.replicate breaks '\n'

def block? (isLiteral : Bool) (cursor : Cursor) : Option Cursor := do
  let startLine := cursor.line
  let cursor := cursor.saveKey.allowKey.skipOther.leaveLoose
  let (chomping, increment, cursor) ← blockHeader? cursor
  let cursor ← cursor.skipSpace? true
  if !isBreakOrEnd cursor.here then none
  else
    let header := isBreak cursor.here
    let cursor := if header then cursor.skipBreak else cursor
    if cursor.here == '\t' then none
    else
      let given : Option Nat := increment.map fun width => (max cursor.indent 0).toNat + width
      let (breaks, widest, cursor) :=
        skipEmptyLines given (cursor.rest.length + 1) 0 0 cursor
      let least := max widest (cursor.indent + 1).toNat
      let indent := given.getD (if cursor.indent > 0 then max least 1 else least)
      if isEnd cursor.here then
        let text := emptyBlock chomping (cursor.line == startLine) header breaks
        pure (cursor.push (.scalar false (String.ofList text)))
      else if cursor.column < indent && (cursor.column : Int) > cursor.indent then none
      else
        let (lines, cursor) :=
          blockLines isLiteral indent (cursor.rest.length + 1) ⟨[], false, breaks, false⟩ cursor
        let text := (chomped chomping indent lines cursor).reverse
        pure (cursor.push (.scalar false (String.ofList text)))

end RemoteConfig.Yaml.Scalar
