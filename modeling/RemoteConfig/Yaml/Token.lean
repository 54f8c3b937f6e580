import RemoteConfig.Json.Reader

/-!
Contract: the tokens of YAML text, and the place in the text that is reached while they are read.

Owns:
- tokens: the starts and ends of collections, their entries, keys and values, scalars, and what
  may stand before a node;
- the cursor, with its column, line and the levels of indentation;
- the classes of characters that tokens are made of.

Does not own: how scalars are folded, and how tokens form nodes.
-/

namespace RemoteConfig.Yaml

/-- A token. A scalar is plain or not; only plain ones can be anything but a string. -/
inductive Token where
  | documentStart
  | documentEnd
  | directive
  | tagDirective (handle start : String)
  | blockSequenceStart
  | blockMappingStart
  | blockEnd
  | flowSequenceStart
  | flowSequenceEnd
  | flowMappingStart
  | flowMappingEnd
  | blockEntry
  | flowEntry
  | key
  | value
  | alias (name : String)
  | anchor (name : String)
  | tag (handle suffix : String)
  | scalar (isPlain : Bool) (text : String)
deriving DecidableEq, Repr, Inhabited

/-- A level of indentation that was left: its column, and whether it belongs to a block that has to
be closed. -/
structure Indent where
  column : Int
  isBlock : Bool
deriving Repr

/-- A place where a key may have started: whether it still may, whether it must, which token would
be its first, and where it stands. -/
structure KeyStart where
  isPossible : Bool
  isRequired : Bool
  tokenIndex : Nat
  line : Nat
  column : Nat
  offset : Nat
deriving Repr

/-- The place in the text and what is known about it. -/
structure Cursor where
  rest : List Char
  offset : Nat
  line : Nat
  column : Nat
  tokens : List Token
  tokenCount : Nat
  keyAllowed : Bool
  keys : List KeyStart
  indent : Int
  indents : List Indent
  flows : List Bool
  adjacentValueAt : Nat
  leadingBlank : Bool
deriving Repr

/-- The end of the text. -/
def endMark : Char := '\x00'

def isEnd (character : Char) : Bool := character == endMark

def isBreak (character : Char) : Bool := character == '\n' || character == '\r'

def isBlank (character : Char) : Bool := character == ' ' || character == '\t'

/-- Blanks, line breaks and the end of the text. -/
def isGap (character : Char) : Bool := isBlank character || isBreak character || isEnd character

def isBreakOrEnd (character : Char) : Bool := isBreak character || isEnd character

/-- The characters that end a plain scalar inside of flow collections. -/
def isFlow (character : Char) : Bool := [',', '[', ']', '\x7b', '\x7d'].contains character

def isAnchorChar (character : Char) : Bool :=
  !isGap character && !isFlow character && character.toNat != 0xFEFF

namespace Cursor

def start (text : List Char) : Cursor where
  rest := text.takeWhile fun c => !isEnd c
  offset := 0
  line := 1
  column := 0
  tokens := []
  tokenCount := 0
  keyAllowed := true
  keys := [⟨false, false, 0, 0, 0, 0⟩]
  indent := -1
  indents := []
  flows := []
  adjacentValueAt := 0
  leadingBlank := true

/-- The character at a distance from the place. -/
def look (cursor : Cursor) (distance : Nat) : Char :=
  cursor.rest[distance]?.getD endMark

/-- The character at the place. -/
def here (cursor : Cursor) : Char :=
  cursor.rest.headD endMark

def inFlow (cursor : Cursor) : Bool := !cursor.flows.isEmpty

/-- Passes a blank. -/
def skipBlank (cursor : Cursor) : Cursor :=
  { cursor with
    rest := cursor.rest.drop 1
    offset := cursor.offset + 1
    column := cursor.column + 1 }

/-- Passes a character of a token. -/
def skipOther (cursor : Cursor) : Cursor :=
  { cursor.skipBlank with leadingBlank := false }

/-- Passes some characters of a token. -/
def skipOthers (cursor : Cursor) : Nat → Cursor
  | 0 => cursor
  | count + 1 => skipOthers cursor.skipOther count

/-- Passes a line break, which may consist of two characters. -/
def skipBreak (cursor : Cursor) : Cursor :=
  let length := if cursor.here == '\r' && cursor.look 1 == '\n' then 2 else 1
  { cursor with
    rest := cursor.rest.drop length
    offset := cursor.offset + length
    line := cursor.line + 1
    column := 0
    leadingBlank := true }

/-- Passes everything up to the end of the line. -/
def skipLine (cursor : Cursor) : Cursor :=
  let count := (cursor.rest.takeWhile fun c => !isBreakOrEnd c).length
  { cursor with
    rest := cursor.rest.drop count
    offset := cursor.offset + count
    column := cursor.column + count
    leadingBlank := if count = 0 then cursor.leadingBlank else false }

/-- Does one of the two marks of documents stand here? -/
def atMark (cursor : Cursor) (mark : Char) : Bool :=
  cursor.column == 0 && cursor.here == mark && cursor.look 1 == mark && cursor.look 2 == mark
    && isGap (cursor.look 3)

def atDocumentStart (cursor : Cursor) : Bool := cursor.atMark '-'

def atDocumentEnd (cursor : Cursor) : Bool := cursor.atMark '.'

def atDocumentMark (cursor : Cursor) : Bool := cursor.atDocumentStart || cursor.atDocumentEnd

/-- Adds a token; tokens are held in reverse. -/
def push (cursor : Cursor) (token : Token) : Cursor :=
  { cursor with tokens := token :: cursor.tokens, tokenCount := cursor.tokenCount + 1 }

/-- Adds a token in front of the one with a number. -/
def insertAt (cursor : Cursor) (index : Nat) (token : Token) : Cursor :=
  let later := cursor.tokenCount - index
  { cursor with
    tokens := cursor.tokens.take later ++ token :: cursor.tokens.drop later
    tokenCount := cursor.tokenCount + 1 }

def allowKey (cursor : Cursor) : Cursor := { cursor with keyAllowed := true }

def forbidKey (cursor : Cursor) : Cursor := { cursor with keyAllowed := false }

/-- The innermost place where a key may have started. -/
def topKey (cursor : Cursor) : KeyStart :=
  cursor.keys.headD ⟨false, false, 0, 0, 0, 0⟩

/-- Replaces the innermost place where a key may have started. -/
def setTopKey (cursor : Cursor) (key : KeyStart) : Cursor :=
  { cursor with keys := key :: cursor.keys.drop 1 }

/-- Remembers that a key may start here. -/
def saveKey (cursor : Cursor) : Cursor :=
  if cursor.keyAllowed then
    let required := !cursor.inFlow && cursor.indent == (cursor.column : Int)
      && cursor.indents.head?.any Indent.isBlock
    cursor.setTopKey
      ⟨true, required, cursor.tokenCount, cursor.line, cursor.column, cursor.offset⟩
  else cursor

/-- Forgets where a key may have started; one that must be there is a fault. -/
def dropKey? (cursor : Cursor) : Option Cursor :=
  let key := cursor.topKey
  if key.isPossible && key.isRequired then none
  else some (cursor.setTopKey { key with isPossible := false })

/-- Keys do not span lines outside of flow collections; one that must be there is a fault. -/
def dropStaleKeys? (cursor : Cursor) : Option Cursor := do
  if cursor.inFlow then pure cursor
  else
    let isStale (key : KeyStart) : Bool :=
      key.isPossible && (key.line < cursor.line || key.offset + 1024 < cursor.offset)
    if cursor.keys.any fun key => isStale key && key.isRequired then none
    else
      pure
        { cursor with
          keys := cursor.keys.map fun key =>
            if isStale key then { key with isPossible := false } else key }

/-- Enters a block at a column; its first token is put where the block starts. -/
def enterBlock (cursor : Cursor) (column : Nat) (tokenIndex : Option Nat) (token : Token) :
    Cursor :=
  if cursor.inFlow then cursor
  else
    let cursor := match cursor.indents with
      | last :: others =>
        if cursor.indent ≤ (column : Int) && !last.isBlock then
          { cursor with indent := last.column, indents := others }
        else cursor
      | [] => cursor
    if cursor.indent < (column : Int) then
      let cursor :=
        { cursor with indents := ⟨cursor.indent, true⟩ :: cursor.indents, indent := column }
      match tokenIndex with
      | some index => cursor.insertAt index token
      | none => cursor.push token
    else cursor

/-- Leaves the given levels of indentation down to a column. -/
def leaveLevels (column : Int) : List Indent → Cursor → Cursor
  | [], cursor => cursor
  | last :: others, cursor =>
    if cursor.indent > column then
      let left := { cursor with indent := last.column, indents := others }
      leaveLevels column others (if last.isBlock then left.push .blockEnd else left)
    else cursor

/-- Leaves all blocks that are indented more than a column. -/
def leaveBlocks (cursor : Cursor) (column : Int) : Cursor :=
  if cursor.inFlow then cursor else leaveLevels column cursor.indents cursor

/-- Indents by one column without a block, so that what follows has to be indented. -/
def indentOnce (cursor : Cursor) : Cursor :=
  if !cursor.inFlow && cursor.indents.head?.any Indent.isBlock then
    { cursor with
      indents := ⟨cursor.indent, false⟩ :: cursor.indents
      indent := cursor.indent + 1 }
  else cursor

/-- Leaves the levels that belong to no block. -/
def leaveLoose (cursor : Cursor) : Cursor :=
  let loose := cursor.indents.takeWhile fun level => !level.isBlock
  match loose.getLast? with
  | some level =>
    { cursor with
      indent := level.column
      indents := cursor.indents.drop loose.length }
  | none => cursor

/-- Passes blanks and a comment up to the end of the line. The answer tells whether there was a tab
and whether there was a space; a comment has to be separated from what stands before it. -/
def skipToLineEnd? (tabs : Bool) (cursor : Cursor) : Option (Cursor × Bool × Bool) :=
  let blanks := cursor.rest.takeWhile fun c => c == ' ' || (tabs && c == '\t')
  let passed :=
    { cursor with
      rest := cursor.rest.drop blanks.length
      offset := cursor.offset + blanks.length
      column := cursor.column + blanks.length }
  if passed.here == '#' then
    if blanks.isEmpty then none
    else some (passed.skipLine, blanks.contains '\t', blanks.contains ' ')
  else some (passed, blanks.contains '\t', blanks.contains ' ')

/-- Passes blanks with or without tabs, and a comment. -/
def skipSpace? (tabs : Bool) (cursor : Cursor) : Option Cursor :=
  (cursor.skipToLineEnd? tabs).map Prod.fst

/-- Passes blanks, comments and line breaks up to the next token; the bound is the number of
characters that may still be passed. Tabs do not indent blocks. -/
def skipToToken? : Nat → Cursor → Option Cursor
  | 0, cursor => some cursor
  | bound + 1, cursor =>
    let character := cursor.here
    if character == '\t' && !cursor.indents.isEmpty && cursor.leadingBlank
        && (cursor.column : Int) < cursor.indent then
      match cursor.skipSpace? true with
      | some passed => if isBreakOrEnd passed.here then skipToToken? bound passed else none
      | none => none
    else if isBlank character then skipToToken? bound cursor.skipBlank
    else if isBreak character then
      let passed := cursor.skipBreak
      skipToToken? bound (if passed.inFlow then passed else passed.allowKey)
    else if character == '#' then skipToToken? bound cursor.skipLine
    else some cursor

end Cursor

end RemoteConfig.Yaml
