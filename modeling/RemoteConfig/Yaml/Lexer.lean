import RemoteConfig.Text.Split
import RemoteConfig.Yaml.Scalar

/-!
Contract: the tokens of a whole YAML text.

Owns:
- one step, which reads the next token and all tokens that it makes necessary;
- the places where keys, entries and values may stand;
- names of anchors, tags and directives.

Does not own: how tokens form nodes.
-/

namespace RemoteConfig.Yaml.Lexer

/-- Starts a flow collection, which may be a key itself. -/
def flowStart? (token : Token) (isMapping : Bool) (cursor : Cursor) : Option Cursor := do
  let cursor := cursor.saveKey.indentOnce
  if cursor.flows.length ≥ 255 then none
  else
    let inner := { cursor with
      flows := isMapping :: cursor.flows
      keys := ⟨false, false, 0, 0, 0, 0⟩ :: cursor.keys }
    let passed ← inner.allowKey.skipOther.skipSpace? true
    pure (passed.push token)

def flowEnd? (token : Token) (cursor : Cursor) : Option Cursor := do
  let cursor ← cursor.dropKey?
  let outer :=
    if cursor.inFlow then
      { cursor with flows := cursor.flows.drop 1, keys := cursor.keys.drop 1 }
    else cursor
  let passed ← outer.forbidKey.skipOther.skipSpace? true
  let passed := if passed.inFlow then { passed with adjacentValueAt := passed.offset } else passed
  pure (passed.push token)

/-- Separates the entries of a flow collection. -/
def flowEntry? (cursor : Cursor) : Option Cursor := do
  let cursor ← cursor.dropKey?
  let passed ← cursor.allowKey.skipOther.skipSpace? true
  pure (passed.push .flowEntry)

/-- Did a property of a node stand at the start of a line just before? -/
def followsProperty (cursor : Cursor) : Bool :=
  match cursor.tokens with
  | .anchor _ :: _ => true
  | .tag _ _ :: _ => true
  | _ => false

/-- Starts an entry of a block sequence. -/
def blockEntry? (cursor : Cursor) : Option Cursor := do
  if cursor.inFlow || !cursor.keyAllowed then none
  else if cursor.column = 0 && cursor.indent > -1 && followsProperty cursor
      && cursor.topKey.column = 0 then none
  else
    let column := cursor.column
    let entered := cursor.skipOther.enterBlock column none .blockSequenceStart
    let (passed, sawTab, _) ← entered.skipToLineEnd? true
    if sawTab && passed.here == '-' && isGap (passed.look 1) then none
    else
      let passed := if isBreak passed.here || isFlow passed.here then passed.indentOnce else passed
      let passed ← passed.dropKey?
      pure (passed.allowKey.push .blockEntry)

/-- Marks a key that stands alone. -/
def explicitKey? (cursor : Cursor) : Option Cursor := do
  if !cursor.inFlow && !cursor.keyAllowed then none
  else
    let cursor := if cursor.inFlow then cursor
      else cursor.enterBlock cursor.column none .blockMappingStart
    let cursor ← cursor.dropKey?
    let cursor := if cursor.inFlow then cursor.forbidKey else cursor.allowKey
    let passed ← cursor.skipOther.skipSpace? true
    pure (passed.push .key)

/-- Marks a value. The key before it becomes the start of a mapping where there is none. -/
def value? (cursor : Cursor) : Option Cursor := do
  let key := cursor.topKey
  let line := cursor.line
  let column := cursor.column
  let inSequence := cursor.flows.head? == some false
  let passed := cursor.skipOther
  let passed ←
    if passed.here == '\t' then do
      let (checked, _, sawSpace) ← passed.skipToLineEnd? true
      if !sawSpace && (checked.here == '-' || checked.here.isAlphanum) then none else pure checked
    else pure passed
  if key.isPossible then
    if inSequence && key.line < line then none
    else
      let keyed := passed.insertAt key.tokenIndex .key
      let entered := keyed.enterBlock key.column (some key.tokenIndex) .blockMappingStart
      let entered := entered.indentOnce
      pure ((entered.setTopKey { key with isPossible := false }).forbidKey.push .value)
  else if passed.inFlow then pure (passed.forbidKey.push .value)
  else if !passed.keyAllowed then none
  else
    let entered := (passed.enterBlock column none .blockMappingStart).indentOnce
    pure (entered.allowKey.push .value)

def anchor? (isAlias : Bool) (cursor : Cursor) : Option Cursor :=
  let cursor := cursor.saveKey.forbidKey.skipOther
  let name := cursor.rest.takeWhile isAnchorChar
  if name.isEmpty then none
  else
    let text := String.ofList name
    some ((cursor.skipOthers name.length).push (if isAlias then .alias text else .anchor text))

/-- The characters of tags; escapes are kept as they stand. -/
def isTagChar (character : Char) : Bool :=
  character.isAlphanum
    || ['-', '_', ';', '/', '?', ':', '@', '&', '=', '+', '$', '.', '~', '*', '\'', '(', ')', '%',
      '#'].contains character

/-- A tag between angle brackets. -/
def verbatimTag? (cursor : Cursor) : Option (Token × Cursor) :=
  let cursor := cursor.skipOthers 2
  let name := cursor.rest.takeWhile fun c => isTagChar c || [',', '[', ']', '!'].contains c
  let passed := cursor.skipOthers name.length
  if name.isEmpty || passed.here != '>' then none
  else some (.tag "" (String.ofList name), passed.skipOther)

/-- A tag with a handle: `!!suffix`, `!handle!suffix`, `!suffix` or `!` alone. -/
def shorthandTag? (cursor : Cursor) : Option (Token × Cursor) :=
  let cursor := cursor.skipOther
  let word := cursor.rest.takeWhile fun c => c.isAlphanum || c == '-' || c == '_'
  let afterWord := cursor.skipOthers word.length
  if afterWord.here == '!' then
    let named := afterWord.skipOther
    let suffix := named.rest.takeWhile isTagChar
    if suffix.isEmpty then none
    else
      some (.tag (String.ofList ('!' :: word ++ ['!'])) (String.ofList suffix),
        named.skipOthers suffix.length)
  else
    let suffix := cursor.rest.takeWhile isTagChar
    let token : Token := if suffix.isEmpty then .tag "" "!" else .tag "!" (String.ofList suffix)
    some (token, cursor.skipOthers suffix.length)

/-- A tag, which has to be followed by a gap. -/
def tag? (cursor : Cursor) : Option Cursor := do
  let cursor := cursor.saveKey.forbidKey
  let (token, passed) ←
    if cursor.look 1 == '<' then verbatimTag? cursor else shorthandTag? cursor
  if isGap passed.here || (passed.inFlow && isFlow passed.here) then pure (passed.push token) else none

def documentMark? (token : Token) (cursor : Cursor) : Option Cursor := do
  let cursor ← (cursor.leaveBlocks (-1)).dropKey?
  pure ((cursor.forbidKey.skipOthers 3).push token)

/-- A directive takes a line of its own. -/
def directive? (cursor : Cursor) : Option Cursor := do
  let cursor ← (cursor.leaveBlocks (-1)).dropKey?
  let line := String.ofList (cursor.rest.takeWhile fun c => !isBreakOrEnd c)
  let words := (Text.splitAt ' ' line).filter fun word => !word.isEmpty
  let token : Token := match words with
    | "%TAG" :: handle :: start :: _ => .tagDirective handle start
    | _ => .directive
  pure (cursor.forbidKey.skipLine.push token)

/-- The end of the text closes all blocks. -/
def finish? (cursor : Cursor) : Option Cursor :=
  if cursor.keys.any fun key => key.isPossible && key.isRequired then none
  else some (cursor.leaveBlocks (-1))

/-- Reads the token that starts at the place, which is none of the marks of documents. -/
def ordinary? (cursor : Cursor) : Option Cursor :=
  let next := cursor.look 1
  match cursor.here with
  | '[' => flowStart? .flowSequenceStart false cursor
  | '\x7b' => flowStart? .flowMappingStart true cursor
  | ']' => flowEnd? .flowSequenceEnd cursor
  | '\x7d' => flowEnd? .flowMappingEnd cursor
  | ',' => flowEntry? cursor
  | '-' => if isGap next then blockEntry? cursor else Scalar.plain? cursor
  | '?' => if isGap next then explicitKey? cursor else Scalar.plain? cursor
  | ':' =>
    if isGap next || (cursor.inFlow && (isFlow next || cursor.offset == cursor.adjacentValueAt)) then
      value? cursor
    else Scalar.plain? cursor
  | '*' => anchor? true cursor
  | '&' => anchor? false cursor
  | '!' => tag? cursor
  | '|' => if cursor.inFlow then Scalar.plain? cursor else Scalar.block? true cursor
  | '>' => if cursor.inFlow then Scalar.plain? cursor else Scalar.block? false cursor
  | '\'' => Scalar.quoted? true cursor
  | '"' => Scalar.quoted? false cursor
  | '%' => none
  | '@' => none
  | '\x60' => none
  | _ => Scalar.plain? cursor

/-- Reads the next token; the flag tells that the text has ended. -/
def step? (cursor : Cursor) : Option (Bool × Cursor) := do
  let cursor ← cursor.skipToToken? (cursor.rest.length + 1)
  let cursor ← cursor.dropStaleKeys?
  let cursor := cursor.leaveBlocks cursor.column
  let more (read : Option Cursor) : Option (Bool × Cursor) := read.map fun cursor => (false, cursor)
  if isEnd cursor.here then (finish? cursor).map fun cursor => (true, cursor)
  else if cursor.column = 0 && cursor.here == '%' then more (directive? cursor)
  else if cursor.atDocumentStart then more (documentMark? .documentStart cursor)
  else if cursor.atDocumentEnd then
    more ((documentMark? .documentEnd cursor).bind fun cursor =>
      (cursor.skipSpace? true).bind fun cursor =>
        if isBreakOrEnd cursor.here then some cursor else none)
  else if (cursor.column : Int) < cursor.indent then none
  else more (ordinary? cursor)

/-- Reads all tokens; every step but the last takes characters, which bounds their number. -/
def run? : Nat → Cursor → Option (List Token)
  | 0, _ => none
  | bound + 1, cursor => do
    let (ended, cursor) ← step? cursor
    if ended then pure cursor.tokens.reverse else run? bound cursor

/-- The tokens of a text; nothing when the text is not well formed. -/
def tokens? (text : String) : Option (List Token) :=
  let characters := text.toList
  run? (characters.length + 2) (Cursor.start characters)

end RemoteConfig.Yaml.Lexer
