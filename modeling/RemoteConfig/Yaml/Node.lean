import RemoteConfig.Number.Reading
import RemoteConfig.Yaml.Lexer

/-!
Contract: the nodes that YAML tokens form.

Owns:
- nodes, and what a plain scalar or a tagged one means;
- collections in block and flow style, anchors and aliases, and the documents of a text;
- the keys of mappings: a key that stands twice is a fault.

Does not own: which keys a configuration may have.
-/

namespace RemoteConfig.Yaml

/-- A node. A number with a fraction keeps its text. A bad node is what has no meaning: a tagged
scalar of the wrong kind, or an alias inside of the node that it names. -/
inductive Node where
  | null
  | bad
  | bool (value : Bool)
  | integer (value : Int)
  | real (text : String)
  | string (text : String)
  | list (items : List Node)
  | mapping (entries : List (Node × Node))
deriving Inhabited

namespace Node

/-- An integer in base sixteen, eight or, behind a plus, ten. -/
def markedInteger? (text : List Char) : Option Int :=
  let inBase (base : Nat) (digits : List Char) : Option Int :=
    let (negative, digits) := Number.takeSign digits
    let value : Option Nat := digits.foldlM (fun sum digit =>
      (Json.Reader.hexValue? digit).bind fun found =>
        if found < base then some (sum * base + found) else none) 0
    if digits.isEmpty then none
    else
      (value.map fun found => if negative then -(found : Int) else found).filter fun found =>
        Number.least64 ≤ found && found ≤ Number.greatest64
  match text with
  | '0' :: 'x' :: digits => inBase 16 digits
  | '0' :: 'o' :: digits => inBase 8 digits
  | '+' :: digits => Number.signed64? digits
  | _ => none

/-- The names of the infinities and of the undefined number. -/
def namedReals : List String :=
  [".inf", ".Inf", ".INF", "+.inf", "+.Inf", "+.INF", "-.inf", "-.Inf", "-.INF", ".nan", ".NaN",
    ".NAN"]

/-- Is a text a number with a fraction? -/
def isReal (text : String) : Bool :=
  namedReals.contains text
    || (text.toList.any Char.isDigit && (Number.decimal? text.toList).isSome)

/-- What a plain scalar means. -/
def ofPlain (text : String) : Node :=
  match markedInteger? text.toList with
  | some value => .integer value
  | none =>
    if text = "~" || text = "null" then .null
    else if text = "true" then .bool true
    else if text = "false" then .bool false
    else
      match Number.signed64? text.toList with
      | some value => .integer value
      | none => if isReal text then .real text else .string text

/-- The start of the tags of the language itself. -/
def coreTag : String := "tag:yaml.org,2002:"

/-- What a plain scalar means under a tag of the language. -/
def ofCore (kind text : String) : Node :=
  match kind with
  | "bool" => if text = "true" then .bool true else if text = "false" then .bool false else .bad
  | "int" =>
    match Number.signed64? text.toList with
    | some value => .integer value
    | none => .bad
  | "float" => if isReal text then .real text else .bad
  | "null" => if text = "~" || text = "null" then .null else .bad
  | _ => .string text

/-- What a scalar means under an optional tag. -/
def ofScalar (isPlain : Bool) (tag : Option (String × String)) (text : String) : Node :=
  if !isPlain then .string text
  else
    match tag with
    | some (start, kind) => if start = coreTag then ofCore kind text else .string text
    | none => ofPlain text

/-- Do two scalars mean the same? Collections and nodes without meaning are not compared. -/
def sameScalar : Node → Node → Bool
  | .null, .null => true
  | .bool left, .bool right => left == right
  | .integer left, .integer right => left == right
  | .real left, .real right => left == right
  | .string left, .string right => left == right
  | _, _ => false

def isBad : Node → Bool
  | .bad => true
  | _ => false

/-- Pairs nodes as keys and values, in order; a bad node is no key, so that the next node takes its
place. A key that stands twice is a fault. -/
def pairs? : Option Node → List (Node × Node) → List Node → Option (List (Node × Node))
  | _, entries, [] => some entries.reverse
  | none, entries, node :: rest => pairs? (if node.isBad then none else some node) entries rest
  | some key, entries, node :: rest =>
    if entries.any fun entry => sameScalar entry.1 key then none
    else pairs? none ((key, node) :: entries) rest

end Node

/-- What is known while nodes are read: the tokens that are left, the anchors by name, the nodes
that anchors stand for, and the starts of tags by handle. -/
structure Reading where
  tokens : List Token
  anchors : List (String × Nat)
  anchored : List (Nat × Node)
  anchorCount : Nat
  handles : List (String × String)

namespace Reading

/-- Passes a token. -/
def skip (reading : Reading) : Reading :=
  { reading with tokens := reading.tokens.drop 1 }

/-- Registers an anchor, whose node is still to come. -/
def register (reading : Reading) (name : String) : Nat × Reading :=
  let number := reading.anchorCount + 1
  (number, { reading with
    anchors := (name, number) :: reading.anchors
    anchorCount := number })

def remember (reading : Reading) (anchor : Option Nat) (node : Node) : Reading :=
  match anchor with
  | some number => { reading with anchored := (number, node) :: reading.anchored }
  | none => reading

/-- The full form of a tag; a handle between two marks has to be declared, but for the one of the
language itself. -/
def resolveTag? (reading : Reading) (handle suffix : String) : Option (String × String) :=
  if handle = "!!" then some ((reading.handles.lookup "!!").getD Node.coreTag, suffix)
  else
    match reading.handles.lookup handle with
    | some start => some (start, suffix)
    | none =>
      let characters := handle.toList
      if characters.length ≥ 2 && characters.head? == some '!' && characters.getLast? == some '!' then
        none
      else some (handle, suffix)

/-- What stands before a node: an anchor and a tag, in either order. -/
def properties? (reading : Reading) : Option (Option Nat × Option (String × String) × Reading) :=
  match reading.tokens with
  | .anchor name :: .tag handle suffix :: _ => do
    let (number, reading) := reading.skip.skip.register name
    let tag ← reading.resolveTag? handle suffix
    pure (some number, some tag, reading)
  | .tag handle suffix :: .anchor name :: _ => do
    let tag ← reading.resolveTag? handle suffix
    let (number, reading) := reading.skip.skip.register name
    pure (some number, some tag, reading)
  | .anchor name :: _ =>
    let (number, reading) := reading.skip.register name
    some (some number, none, reading)
  | .tag handle suffix :: _ => do
    let tag ← reading.resolveTag? handle suffix
    pure (none, some tag, reading.skip)
  | _ => some (none, none, reading)

/-- A node that is not there is an empty text when something stands before it. -/
def missing (anchor : Option Nat) (tag : Option (String × String)) (reading : Reading) :
    Option (Node × Reading) :=
  if anchor.isSome || tag.isSome then
    let node := Node.ofScalar true tag ""
    some (node, reading.remember anchor node)
  else none

/-- Adds a node in front of others. -/
def prepend (node : Node) (rest : Option (List Node × Reading)) : Option (List Node × Reading) :=
  rest.map fun (nodes, reading) => (node :: nodes, reading)

mutual

/-- Reads a node. The flags tell whether it may be a block, and whether it may be a sequence that is
not indented. The bound is the number of nodes and entries that may still be read. -/
def node? : Nat → Bool → Bool → Reading → Option (Node × Reading)
  | 0, _, _, _ => none
  | bound + 1, block, indentless, reading =>
    match reading.tokens with
    | .alias name :: _ =>
      (reading.anchors.lookup name).map fun number =>
        ((reading.anchored.lookup number).getD .bad, reading.skip)
    | _ =>
      match reading.properties? with
      | none => none
      | some (anchor, tag, reading) =>
        let finish (result : Option (Node × Reading)) : Option (Node × Reading) :=
          result.map fun (node, reading) => (node, reading.remember anchor node)
        let mapping (result : Option (List Node × Reading)) : Option (Node × Reading) :=
          finish (result.bind fun (nodes, reading) =>
            (Node.pairs? none [] nodes).map fun entries => (.mapping entries, reading))
        let list (result : Option (List Node × Reading)) : Option (Node × Reading) :=
          finish (result.map fun (nodes, reading) => (.list nodes, reading))
        match reading.tokens with
        | .scalar isPlain text :: _ => finish (some (Node.ofScalar isPlain tag text, reading.skip))
        | .flowSequenceStart :: _ => list (flowSequence? bound true reading.skip)
        | .flowMappingStart :: _ => mapping (flowMapping? bound true reading.skip)
        | .blockSequenceStart :: _ =>
          if block then list (blockSequence? bound reading.skip) else missing anchor tag reading
        | .blockMappingStart :: _ =>
          if block then mapping (blockMapping? bound reading.skip) else missing anchor tag reading
        | .blockEntry :: _ =>
          if indentless then list (indentlessSequence? bound reading)
          else missing anchor tag reading
        | _ => missing anchor tag reading

def blockSequence? : Nat → Reading → Option (List Node × Reading)
  | 0, _ => none
  | bound + 1, reading =>
    match reading.tokens with
    | .blockEnd :: _ => some ([], reading.skip)
    | .blockEntry :: .blockEntry :: _ => prepend .null (blockSequence? bound reading.skip)
    | .blockEntry :: .blockEnd :: _ => prepend .null (blockSequence? bound reading.skip)
    | .blockEntry :: _ =>
      match node? bound true false reading.skip with
      | some (node, reading) => prepend node (blockSequence? bound reading)
      | none => none
    | _ => none

/-- The items of a sequence that is not indented. -/
def indentlessSequence? : Nat → Reading → Option (List Node × Reading)
  | 0, _ => none
  | bound + 1, reading =>
    match reading.tokens with
    | .blockEntry :: next :: _ =>
      if [Token.blockEntry, .key, .value, .blockEnd].contains next then
        prepend .null (indentlessSequence? bound reading.skip)
      else
        match node? bound true false reading.skip with
        | some (node, reading) => prepend node (indentlessSequence? bound reading)
        | none => none
    | _ => some ([], reading)

/-- The keys and values of a block mapping, in turn. -/
def blockMapping? : Nat → Reading → Option (List Node × Reading)
  | 0, _ => none
  | bound + 1, reading =>
    match reading.tokens with
    | .blockEnd :: _ => some ([], reading.skip)
    | .value :: _ => blockValue? bound .null reading
    | .key :: next :: _ =>
      if [Token.key, .value, .blockEnd].contains next then blockValue? bound .null reading.skip
      else
        match node? bound true true reading.skip with
        | some (key, reading) => blockValue? bound key reading
        | none => none
    | _ => none

/-- The value behind a key of a block mapping, and the entries after it. -/
def blockValue? : Nat → Node → Reading → Option (List Node × Reading)
  | 0, _, _ => none
  | bound + 1, key, reading =>
    match reading.tokens with
    | .value :: next :: _ =>
      if [Token.key, .value, .blockEnd].contains next then
        prepend key (prepend .null (blockMapping? bound reading.skip))
      else
        match node? bound true true reading.skip with
        | some (value, reading) => prepend key (prepend value (blockMapping? bound reading))
        | none => none
    | _ => prepend key (prepend .null (blockMapping? bound reading))

/-- The items of a flow sequence; a key with its value is a mapping of one entry. -/
def flowSequence? : Nat → Bool → Reading → Option (List Node × Reading)
  | 0, _, _ => none
  | bound + 1, isFirst, reading =>
    match reading.tokens with
    | .flowSequenceEnd :: _ => some ([], reading.skip)
    | .flowEntry :: rest =>
      if isFirst then none
      else if rest.head? == some .flowSequenceEnd then some ([], reading.skip.skip)
      else flowItem? bound reading.skip
    | _ => if isFirst then flowItem? bound reading else none

/-- One item of a flow sequence and the items after it. -/
def flowItem? : Nat → Reading → Option (List Node × Reading)
  | 0, _ => none
  | bound + 1, reading =>
    let pair (result : Option (List Node × Reading)) : Option (List Node × Reading) :=
      match result with
      | some (nodes, reading) =>
        match Node.pairs? none [] nodes with
        | some entries => prepend (.mapping entries) (flowSequence? bound false reading)
        | none => none
      | none => none
    match reading.tokens with
    | .key :: next :: _ =>
      if [Token.value, .flowEntry, .flowSequenceEnd].contains next then
        pair (flowValue? bound .flowSequenceEnd .null reading.skip)
      else
        match node? bound false false reading.skip with
        | some (key, reading) => pair (flowValue? bound .flowSequenceEnd key reading)
        | none => none
    | .value :: _ => pair (flowValue? bound .flowSequenceEnd .null reading)
    | _ =>
      match node? bound false false reading with
      | some (node, reading) => prepend node (flowSequence? bound false reading)
      | none => none

/-- The value behind a key of a flow collection; it may be missing. -/
def flowValue? : Nat → Token → Node → Reading → Option (List Node × Reading)
  | 0, _, _, _ => none
  | bound + 1, closing, key, reading =>
    match reading.tokens with
    | .value :: next :: _ =>
      if next == .flowEntry || next == closing then some ([key, .null], reading.skip)
      else
        match node? bound false false reading.skip with
        | some (value, reading) => some ([key, value], reading)
        | none => none
    | _ => some ([key, .null], reading)

/-- The keys and values of a flow mapping, in turn. -/
def flowMapping? : Nat → Bool → Reading → Option (List Node × Reading)
  | 0, _, _ => none
  | bound + 1, isFirst, reading =>
    match reading.tokens with
    | .flowMappingEnd :: _ => some ([], reading.skip)
    | .flowEntry :: _ => if isFirst then none else flowPair? bound reading.skip
    | _ => if isFirst then flowPair? bound reading else none

/-- One key and value of a flow mapping, and those after them. -/
def flowPair? : Nat → Reading → Option (List Node × Reading)
  | 0, _ => none
  | bound + 1, reading =>
    let more (result : Option (List Node × Reading)) : Option (List Node × Reading) :=
      match result with
      | some (nodes, reading) =>
        (flowMapping? bound false reading).map fun (others, reading) => (nodes ++ others, reading)
      | none => none
    match reading.tokens with
    | .flowMappingEnd :: _ => some ([], reading.skip)
    | .key :: next :: _ =>
      if [Token.value, .flowEntry, .flowMappingEnd].contains next then
        more (flowValue? bound .flowMappingEnd .null reading.skip)
      else
        match node? bound false false reading.skip with
        | some (key, reading) => more (flowValue? bound .flowMappingEnd key reading)
        | none => none
    | .value :: _ => more (flowValue? bound .flowMappingEnd .null reading)
    | _ =>
      match node? bound false false reading with
      | some (key, reading) => more (some ([key, .null], reading))
      | none => none

end

/-- Passes the marks at the end of documents. -/
def skipEnds (reading : Reading) : Reading :=
  { reading with tokens := reading.tokens.dropWhile (· == .documentEnd) }

/-- Passes directives; the handles of tags that they declare count for the next document. -/
def directives : List Token → List (String × String) → List (String × String) × List Token
  | .directive :: rest, handles => directives rest handles
  | .tagDirective handle start :: rest, handles => directives rest ((handle, start) :: handles)
  | tokens, handles => (handles, tokens)

/-- Reads the content of a document that was announced by its mark; it may be empty. -/
def content? (reading : Reading) : Option (Node × Reading) :=
  match reading.tokens with
  | [] => some (.null, reading)
  | .documentStart :: _ => some (.null, reading)
  | .documentEnd :: _ => some (.null, reading)
  | .directive :: _ => some (.null, reading)
  | .tagDirective _ _ :: _ => some (.null, reading)
  | tokens => node? (6 * tokens.length + 6) true false reading

/-- Reads the documents of a text. Without a mark a document may start only at the start of the text
or behind the end of another one. -/
def documents? : Nat → Bool → Reading → Option (List Node)
  | 0, _, _ => none
  | bound + 1, mayStart, reading =>
    let mayStart := mayStart || reading.tokens.head? == some .documentEnd
    let reading := reading.skipEnds
    if reading.tokens.isEmpty then some []
    else
      let (handles, tokens) := directives reading.tokens []
      let announced := tokens.head? == some .documentStart
      if (!announced && (!mayStart || tokens.length != reading.tokens.length)) then none
      else
        let fresh : Reading :=
          ⟨if announced then tokens.drop 1 else tokens, [], [], 0, handles⟩
        let result := if announced then fresh.content?
          else node? (6 * tokens.length + 6) true false fresh
        match result with
        | none => none
        | some (node, reading) =>
          let ended := reading.tokens.head? == some .documentEnd
          match documents? bound ended reading with
          | some others => some (node :: others)
          | none => none

end Reading

namespace Node

/-- The documents of a text; nothing when it is not well formed. -/
def parse? (text : String) : Option (List Node) :=
  (Lexer.tokens? text).bind fun tokens =>
    Reading.documents? (tokens.length + 2) true ⟨tokens, [], [], 0, []⟩

end Node

end RemoteConfig.Yaml
