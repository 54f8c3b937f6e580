import RemoteConfig.Pattern.Basic
import RemoteConfig.Pattern.ClassName
import RemoteConfig.Json.Reader

/-!
Contract: reading the text of a pattern.

Owns:
- characters, escapes, classes in brackets, groups, alternatives, repetitions and flags;
- the texts that are no pattern: what is not closed, a repetition of nothing, look-around,
  references to groups, unknown escapes, flags and classes, patterns that could match half a
  character, and patterns whose machine is too large.

Does not own: which texts a pattern occurs in.
-/

namespace RemoteConfig.Pattern

/-- The flags under which a part of a pattern is read. -/
structure Flags where
  ignoreCase : Bool
  multiLine : Bool
  dotAll : Bool
  verbose : Bool
  unicode : Bool
  returns : Bool
deriving DecidableEq, Repr

namespace Flags

def start : Flags :=
  ⟨false, false, false, false, true, false⟩

/-- Sets a flag by its letter; the letter that swaps greed has no effect on what matches. -/
def set? (flags : Flags) (letter : Char) (value : Bool) : Option Flags :=
  match letter with
  | 'i' => some { flags with ignoreCase := value }
  | 'm' => some { flags with multiLine := value }
  | 's' => some { flags with dotAll := value }
  | 'x' => some { flags with verbose := value }
  | 'u' => some { flags with unicode := value }
  | 'R' => some { flags with returns := value }
  | 'U' => some flags
  | _ => none

/-- The characters of words under the flags. -/
def wordSet (flags : Flags) : CharSet :=
  if flags.unicode then .wordChars
  else (ClassName.asciiClass? "word").getD .nothing

end Flags

namespace Parse

/-- What is left of the text of a pattern. -/
abbrev Rest := List Char

/-- Skips blanks and comments where flags say so. -/
def skipLayout : Bool → List Char → List Char
  | _, [] => []
  | inComment, character :: rest =>
    if inComment then skipLayout (character != '\n') rest
    else if Text.isBlankChar character then skipLayout false rest
    else if character == '#' then skipLayout true rest
    else character :: rest

/-- The text where the next token starts. -/
def skip (flags : Flags) (text : List Char) : List Char :=
  if flags.verbose then skipLayout false text else text

/-- What an escape stands for. -/
inductive Escaped where
  | character (character : Char)
  | set (set : CharSet)
  | condition (condition : Condition)

/-- The characters that have a meaning of their own in patterns. -/
def isMeta (character : Char) : Bool :=
  ['\\', '.', '+', '*', '?', '(', ')', '|', '[', ']', '\x7b', '\x7d', '^', '$', '#', '&', '-',
    '~'].contains character

/-- Characters of ASCII that stand for themselves behind a backslash. -/
def isEscapable (character : Char) : Bool :=
  isMeta character
    || (character.toNat < 0x80 && !character.isAlphanum && character != '<' && character != '>')

/-- The character of a number in base sixteen. -/
def codeChar? (digits : List Char) : Option Char := do
  if digits.isEmpty then none
  else
    let values ← digits.mapM Json.Reader.hexValue?
    let code := values.foldl (fun sum value => min (sum * 16 + value) 0x110000) 0
    if code < 0xD800 || (0xE000 ≤ code && code < 0x110000) then some (Char.ofNat code) else none

/-- The character of an escape by number: in braces, or with a fixed count of digits. -/
def numbered? (flags : Flags) (count : Nat) (text : List Char) : Option (Char × Rest) :=
  match skip flags text with
  | '\x7b' :: rest =>
    let digits := rest.takeWhile (· != '\x7d')
    match rest.dropWhile (· != '\x7d') with
    | _ :: rest =>
      (codeChar? (digits.filter fun c => !(flags.verbose && Text.isBlankChar c))).map fun found =>
        (found, rest)
    | [] => none
  | text =>
    if text.length < count then none
    else (codeChar? (text.take count)).map fun found => (found, text.drop count)

/-- Splits the name of a class at the first of the signs that separate property and value. -/
def splitProperty : List Char → Option (List Char × Bool × List Char)
  | [] => none
  | '!' :: '=' :: rest => some ([], true, rest)
  | character :: rest =>
    if character == '=' || character == ':' then some ([], false, rest)
    else (splitProperty rest).map fun (name, negated, value) => (character :: name, negated, value)

/-- The class of a name in braces, or of a single letter. -/
def propertySet? (flags : Flags) (text : List Char) : Option (CharSet × Rest) :=
  match skip flags text with
  | '\x7b' :: rest =>
    let name := rest.takeWhile (· != '\x7d')
    match rest.dropWhile (· != '\x7d') with
    | _ :: rest =>
      let found := match splitProperty name with
        | some (property, negated, value) =>
          (ClassName.valued? (String.ofList property) (String.ofList value)).map fun set =>
            if negated then CharSet.complement set else set
        | none => ClassName.named? (String.ofList name)
      found.map fun set => (set, rest)
    | [] => none
  | letter :: rest =>
    if letter == '\\' then none
    else (ClassName.named? (String.ofList [letter])).map fun set => (set, rest)
  | [] => none

/-- A set under the flag that ignores letter case. -/
def caseFree (flags : Flags) (set : CharSet) : CharSet :=
  if flags.ignoreCase then .anyCase set else set

/-- Digits, blanks or word characters. -/
def shorthand (flags : Flags) (letter : Char) : CharSet :=
  let ascii (name : String) := (ClassName.asciiClass? name).getD .nothing
  match letter with
  | 'd' => if flags.unicode then .decimalDigits else ascii "digit"
  | 's' => if flags.unicode then .blanks else ascii "space"
  | _ => flags.wordSet

/-- The special boundaries of words, by the names in braces behind `\b`. -/
def namedBoundary? (flags : Flags) (name : String) : Option Condition :=
  match name with
  | "start" => some (.wordStart flags.wordSet)
  | "end" => some (.wordEnd flags.wordSet)
  | "start-half" => some (.noWordBefore flags.wordSet)
  | "end-half" => some (.noWordAfter flags.wordSet)
  | _ => none

def isBoundaryNameChar (character : Char) : Bool :=
  character.isAlpha || character == '-'

/-- A boundary of words, after its letter. Braces that do not hold a name belong to a repetition. -/
def boundary? (flags : Flags) (text : List Char) : Option (Condition × Rest) :=
  let plain := Condition.wordBoundary flags.wordSet
  match text with
  | '\x7b' :: rest =>
    let rest := skip flags rest
    match rest with
    | [] => none
    | first :: _ =>
      if !isBoundaryNameChar first then some (plain, text)
      else
        match rest.dropWhile isBoundaryNameChar with
        | '\x7d' :: left =>
          (namedBoundary? flags (String.ofList (rest.takeWhile isBoundaryNameChar))).map fun found =>
            (found, left)
        | _ => none
  | _ => some (plain, text)

/-- What stands behind a backslash. -/
def escape? (flags : Flags) : List Char → Option (Escaped × Rest)
  | [] => none
  | letter :: rest =>
    let character (found : Char) : Option (Escaped × Rest) := some (.character found, rest)
    match letter with
    | 'x' => (numbered? flags 2 rest).map fun (found, rest) => (.character found, rest)
    | 'u' => (numbered? flags 4 rest).map fun (found, rest) => (.character found, rest)
    | 'U' => (numbered? flags 8 rest).map fun (found, rest) => (.character found, rest)
    | 'p' => if flags.unicode then
        (propertySet? flags rest).map fun (set, rest) => (.set (caseFree flags set), rest)
      else none
    | 'P' => if flags.unicode then
        (propertySet? flags rest).map fun (set, rest) =>
          (.set (.complement (caseFree flags set)), rest)
      else none
    | 'd' => some (.set (shorthand flags 'd'), rest)
    | 's' => some (.set (shorthand flags 's'), rest)
    | 'w' => some (.set (shorthand flags 'w'), rest)
    | 'D' => some (.set (.complement (shorthand flags 'd')), rest)
    | 'S' => some (.set (.complement (shorthand flags 's')), rest)
    | 'W' => some (.set (.complement (shorthand flags 'w')), rest)
    | 'a' => character '\x07'
    | 'f' => character '\x0c'
    | 't' => character '\t'
    | 'n' => character '\n'
    | 'r' => character '\r'
    | 'v' => character '\x0b'
    | 'A' => some (.condition .textStart, rest)
    | 'z' => some (.condition .textEnd, rest)
    | 'b' => (boundary? flags rest).map fun (found, rest) => (.condition found, rest)
    | 'B' => some (.condition (.noWordBoundary flags.wordSet), rest)
    | '<' => some (.condition (.wordStart flags.wordSet), rest)
    | '>' => some (.condition (.wordEnd flags.wordSet), rest)
    | other => if isEscapable other then character other else none

/-- A class of ASCII between colons, after its first bracket. -/
def asciiClass? (text : List Char) : Option (CharSet × Rest) :=
  match text with
  | ':' :: rest =>
    let (negated, rest) := match rest with
      | '^' :: rest => (true, rest)
      | rest => (false, rest)
    let name := rest.takeWhile (· != ':')
    match rest.dropWhile (· != ':') with
    | ':' :: ']' :: rest =>
      (ClassName.asciiClass? (String.ofList name)).map fun set =>
        (if negated then CharSet.complement set else set, rest)
    | _ => none
  | _ => none

/-- One member of a class: a character that may start a range, or a set. -/
def member? (flags : Flags) : List Char → Option (Escaped × Rest)
  | [] => none
  | '\\' :: rest => escape? flags rest
  | character :: rest => some (.character character, rest)

/-- The set of a member; a condition is none. -/
def memberSet? : Escaped → Option CharSet
  | .character found => some (.single found)
  | .set set => some set
  | .condition _ => none

/-- A member of a class, or a range of characters. -/
def item? (flags : Flags) (text : List Char) : Option (CharSet × Rest) := do
  let (first, rest) ← member? flags text
  let rest := skip flags rest
  match rest with
  | '-' :: after =>
    match skip flags after with
    | [] => none
    | ']' :: _ => (memberSet? first).map fun set => (set, rest)
    | next :: further =>
      if next == '-' then (memberSet? first).map fun set => (set, rest)
      else do
        let (second, rest) ← member? flags (next :: further)
        match first, second with
        | .character low, .character high => if low ≤ high then some (.range low high, rest) else none
        | _, _ => none
  | [] => none
  | _ => (memberSet? first).map fun set => (set, rest)

/-- The operations on sets inside of a class. -/
inductive Operation where
  | intersection
  | difference
  | symmetricDifference

/-- Applies an operation that waits for its right side. -/
def combine (flags : Flags) (pending : Option (CharSet × Operation)) (right : CharSet) : CharSet :=
  match pending with
  | none => right
  | some (left, operation) =>
    let left := caseFree flags left
    let right := caseFree flags right
    match operation with
    | .intersection => .intersection left right
    | .difference => CharSet.difference left right
    | .symmetricDifference => CharSet.symmetricDifference left right

/-- Hyphens at the start of a class stand for themselves. -/
def leadingHyphens (flags : Flags) : Nat → List Char → Bool × Rest
  | 0, text => (false, text)
  | bound + 1, text =>
    match text with
    | '-' :: rest => (true, (leadingHyphens flags bound (skip flags rest)).2)
    | _ => (false, text)

/-- The start of a class after its bracket: whether it is negated, and its first members. -/
def classStart (flags : Flags) (text : List Char) : Bool × CharSet × Rest :=
  let text := skip flags text
  let (negated, text) := match text with
    | '^' :: rest => (true, skip flags rest)
    | _ => (false, text)
  let (hyphen, text) := leadingHyphens flags text.length text
  if hyphen then (negated, .single '-', text)
  else
    match text with
    | ']' :: rest => (negated, .single ']', skip flags rest)
    | _ => (negated, .nothing, text)

/-- The members of a class up to its closing bracket. The bound is the number of tokens that may
still be read. -/
def classBody? (flags : Flags) : Nat → Bool → Option (CharSet × Operation) → CharSet → List Char →
    Option (CharSet × Rest)
  | 0, _, _, _, _ => none
  | bound + 1, negated, pending, members, text =>
    match skip flags text with
    | [] => none
    | '[' :: rest =>
      match asciiClass? rest with
      | some (set, rest) => classBody? flags bound negated pending (.union members set) rest
      | none =>
        let (innerNegated, start, inner) := classStart flags rest
        match classBody? flags bound innerNegated none start inner with
        | some (set, rest) => classBody? flags bound negated pending (.union members set) rest
        | none => none
    | ']' :: rest =>
      let set := caseFree flags (combine flags pending members)
      some (if negated then CharSet.complement set else set, rest)
    | '&' :: '&' :: rest =>
      classBody? flags bound negated (some (combine flags pending members, .intersection)) .nothing rest
    | '-' :: '-' :: rest =>
      classBody? flags bound negated (some (combine flags pending members, .difference)) .nothing rest
    | '~' :: '~' :: rest =>
      classBody? flags bound negated (some (combine flags pending members, .symmetricDifference))
        .nothing rest
    | text =>
      match item? flags text with
      | some (set, rest) => classBody? flags bound negated pending (.union members set) rest
      | none => none

/-- A class after its opening bracket. -/
def class? (flags : Flags) (text : List Char) : Option (CharSet × Rest) :=
  let (negated, start, rest) := classStart flags text
  classBody? flags (text.length + 1) negated none start rest

/-- A set as a pattern. Without Unicode it must not match a part of a character. -/
def setPattern? (flags : Flags) (set : CharSet) : Option Pattern :=
  if !flags.unicode && set.reachesUpperBytes then none else some (.one set)

def escapedPattern? (flags : Flags) : Escaped → Option Pattern
  | .character found => some (.one (caseFree flags (.single found)))
  | .set set => setPattern? flags set
  | .condition found => some (.condition found)

/-- The pattern of the sign for any character. -/
def dotPattern? (flags : Flags) : Option Pattern :=
  if !flags.unicode then none
  else if flags.dotAll then some (.one .anything)
  else if flags.returns then some (.one (.complement (.union (.single '\n') (.single '\r'))))
  else some (.one (.complement (.single '\n')))

/-- A decimal number with blanks around it, below 2 ^ 32. -/
def decimal? (text : List Char) : Option (Nat × Rest) :=
  let text := text.dropWhile Text.isBlankChar
  let digits := text.takeWhile Char.isDigit
  let value := digits.foldl (fun sum digit => min (sum * 10 + (digit.toNat - 48)) (Number.twoTo 32)) 0
  if digits.isEmpty || value ≥ Number.twoTo 32 then none
  else some (value, (text.dropWhile Char.isDigit).dropWhile Text.isBlankChar)

/-- The bounds of a repetition after their opening brace. -/
def bounds? (flags : Flags) (text : List Char) : Option ((Nat × Option Nat) × Rest) := do
  let (least, rest) ← decimal? (skip flags text)
  match rest with
  | '\x7d' :: rest => pure ((least, some least), rest)
  | ',' :: rest =>
    match skip flags rest with
    | '\x7d' :: rest => pure ((least, none), rest)
    | rest =>
      let (most, rest) ← decimal? rest
      match rest with
      | '\x7d' :: rest => if least ≤ most then pure ((least, some most), rest) else none
      | _ => none
  | _ => none

/-- A sign that makes a repetition lazy, which has no effect on what matches. -/
def skipLazy (text : List Char) : List Char :=
  match text with
  | '?' :: rest => rest
  | _ => text

/-- Flags up to their closing character: each at most once, and a minus that is followed by one. -/
def flags? : Nat → List Char → Bool → Bool → Flags → List Char → Option (Flags × Char × Rest)
  | 0, _, _, _, _, _ => none
  | bound + 1, seen, negated, dangling, flags, text =>
    match text with
    | [] => none
    | letter :: rest =>
      if letter == ':' || letter == ')' then
        if dangling then none else some (flags, letter, rest)
      else if letter == '-' then
        if negated then none else flags? bound seen true true flags rest
      else if seen.contains letter then none
      else
        match flags.set? letter (!negated) with
        | some flags => flags? bound (letter :: seen) negated false flags rest
        | none => none

def isNameStart (character : Char) : Bool :=
  character == '_' || Unicode.isAlphabetic character

def isNameChar (character : Char) : Bool :=
  isNameStart character || character == '.' || character == '[' || character == ']'
    || (Unicode.category character).1 == 'N'

/-- The name of a group up to its closing angle bracket. -/
def groupName? (text : List Char) : Option (String × Rest) :=
  let name := text.takeWhile (· != '>')
  match name, text.dropWhile (· != '>') with
  | first :: others, _ :: rest =>
    if isNameStart first && others.all isNameChar then some (String.ofList name, rest) else none
  | _, _ => none

/-- What stands behind an opening parenthesis. -/
inductive GroupStart where
  | plain
  | named (name : String)
  | flagged (flags : Flags)
  | setFlags (flags : Flags)

/-- Reads what stands behind an opening parenthesis; look-around is no part of patterns. -/
def groupStart? (flags : Flags) (text : List Char) : Option (GroupStart × Rest) :=
  let named (rest : List Char) : Option (GroupStart × Rest) :=
    (groupName? rest).map fun (name, rest) => (.named name, rest)
  match skip flags text with
  | '?' :: '=' :: _ => none
  | '?' :: '!' :: _ => none
  | '?' :: '<' :: '=' :: _ => none
  | '?' :: '<' :: '!' :: _ => none
  | '?' :: 'P' :: '<' :: rest => named rest
  | '?' :: '<' :: rest => named rest
  | '?' :: rest =>
    match flags? (rest.length + 1) [] false false flags rest with
    | some (found, closing, left) =>
      if closing == ':' then some (.flagged found, left)
      else if rest.head? == some ')' then none
      else some (.setFlags found, left)
    | none => none
  | rest => some (.plain, rest)

/-- What has been read of a group: the alternatives, the items of the last one in reverse, and the
names of all groups so far. An item is nothing where flags were set. -/
structure Progress where
  alternatives : List Pattern
  items : List (Option Pattern)
  names : List String

def itemsPattern (items : List (Option Pattern)) : Pattern :=
  sequenceOf (items.reverse.filterMap id)

def alternativesPattern (progress : Progress) : Pattern :=
  progress.alternatives.foldr .either (itemsPattern progress.items)

/-- Adds an item. -/
def push (progress : Progress) (item : Option Pattern) : Progress :=
  { progress with items := item :: progress.items }

/-- Repeats the last item; nothing to repeat is a fault. -/
def repeatLast? (progress : Progress) (least : Nat) (greatest : Option Nat) : Option Progress :=
  match progress.items with
  | some last :: items =>
    some { progress with items := some (.repeated last least greatest) :: items }
  | _ => none

/-- Reads a group up to its closing parenthesis, or the whole pattern up to its end. The bound is
the number of tokens that may still be read. -/
def group? : Nat → Bool → Flags → Progress → List Char → Option (Pattern × List String × Rest)
  | 0, _, _, _, _ => none
  | bound + 1, nested, flags, progress, text =>
    let go (progress : Progress) (rest : List Char) := group? bound nested flags progress rest
    let item (pattern : Option Pattern) (rest : List Char) :=
      pattern.bind fun pattern => group? bound nested flags (push progress (some pattern)) rest
    let repetition (least : Nat) (greatest : Option Nat) (rest : List Char) :=
      (repeatLast? progress least greatest).bind fun progress =>
        group? bound nested flags progress (skipLazy rest)
    match skip flags text with
    | [] => if nested then none else some (alternativesPattern progress, progress.names, [])
    | ')' :: rest =>
      if nested then some (alternativesPattern progress, progress.names, rest) else none
    | '|' :: rest =>
      go { progress with
          alternatives := progress.alternatives ++ [itemsPattern progress.items]
          items := [] } rest
    | '(' :: rest =>
      match groupStart? flags rest with
      | none => none
      | some (.setFlags flags, rest) => group? bound nested flags (push progress none) rest
      | some (start, rest) =>
        let inner := match start with
          | .flagged inner => inner
          | _ => flags
        let names := match start with
          | .named name => name :: progress.names
          | _ => progress.names
        if !names.Nodup then none
        else
          match group? bound true inner ⟨[], [], names⟩ rest with
          | none => none
          | some (pattern, names, rest) =>
            group? bound nested flags (push { progress with names } (some pattern)) rest
    | '[' :: rest =>
      match class? flags rest with
      | some (set, rest) => item (setPattern? flags set) rest
      | none => none
    | '?' :: rest => repetition 0 (some 1) rest
    | '*' :: rest => repetition 0 none rest
    | '+' :: rest => repetition 1 none rest
    | '\x7b' :: rest =>
      match bounds? flags rest with
      | some ((least, greatest), rest) => repetition least greatest (skip flags rest)
      | none => none
    | '\\' :: rest =>
      match escape? flags rest with
      | some (found, rest) => item (escapedPattern? flags found) rest
      | none => none
    | '.' :: rest => item (dotPattern? flags) rest
    | '^' :: rest =>
      item (some (.condition (if flags.multiLine then .lineStart flags.returns else .textStart))) rest
    | '$' :: rest =>
      item (some (.condition (if flags.multiLine then .lineEnd flags.returns else .textEnd))) rest
    | character :: rest => item (some (.one (caseFree flags (.single character)))) rest

end Parse

/-- The bytes that the machine of a pattern may take: ten times 2 ^ 20. -/
def sizeLimit : Nat := 10485760

/-- Does the machine of a pattern fit, with the states where it starts and where it ends? -/
def fits (pattern : Pattern) : Bool :=
  size pattern + 2 * CharSet.stateSize ≤ sizeLimit

/-- Reads a pattern. -/
def ofString? (text : String) : Option Pattern :=
  let characters := text.toList
  match Parse.group? (characters.length + 1) false Flags.start ⟨[], [], []⟩ characters with
  | some (pattern, _, _) => if fits pattern then some pattern else none
  | none => none

end RemoteConfig.Pattern
