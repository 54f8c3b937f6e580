import RemoteConfig.Pattern.CharSet

/-!
Contract: patterns, and which texts they occur in.

Owns:
- the syntax tree of patterns: characters, conditions on a position, sequences, alternatives,
  repetitions;
- the positions that a pattern reaches from given positions of a text;
- the test whether a pattern occurs anywhere in a text.

Does not own: how a pattern is written.
-/

namespace RemoteConfig

/-- A condition on a position of a text. -/
inductive Pattern.Condition where
  | textStart
  | textEnd
  | lineStart (returns : Bool)
  | lineEnd (returns : Bool)
  | wordBoundary (word : Pattern.CharSet)
  | noWordBoundary (word : Pattern.CharSet)
  | wordStart (word : Pattern.CharSet)
  | wordEnd (word : Pattern.CharSet)
  | noWordBefore (word : Pattern.CharSet)
  | noWordAfter (word : Pattern.CharSet)
deriving Repr

/-- A pattern. A repetition has a least and, unless it is open, a greatest number of rounds. -/
inductive Pattern where
  | empty
  | one (set : Pattern.CharSet)
  | condition (condition : Pattern.Condition)
  | sequence (first second : Pattern)
  | either (left right : Pattern)
  | repeated (body : Pattern) (least : Nat) (greatest : Option Nat)
deriving Repr

namespace Pattern

namespace Condition

/-- Does the condition hold between two characters? Nothing stands for the end of the text. -/
def holds (condition : Condition) (before after : Option Char) : Bool :=
  match condition with
  | textStart => before.isNone
  | textEnd => after.isNone
  | lineStart returns =>
    before.isNone || before == some '\n'
      || (returns && before == some '\r' && after != some '\n')
  | lineEnd returns =>
    after.isNone || (after == some '\n' && !(returns && before == some '\r'))
      || (returns && after == some '\r')
  | wordBoundary word => before.any word.contains != after.any word.contains
  | noWordBoundary word => before.any word.contains == after.any word.contains
  | wordStart word => !before.any word.contains && after.any word.contains
  | wordEnd word => before.any word.contains && !after.any word.contains
  | noWordBefore word => !before.any word.contains
  | noWordAfter word => !after.any word.contains

end Condition

/-- The character before a position. -/
def before? (text : Array Char) : Nat → Option Char
  | 0 => none
  | position + 1 => text[position]?

/-- Adds positions that are not yet in a list. -/
def merge (known found : List Nat) : List Nat :=
  found.foldl (fun positions position =>
    if positions.contains position then positions else positions ++ [position]) known

/-- Applies a step a number of times. -/
def iterate (step : List Nat → List Nat) : Nat → List Nat → List Nat
  | 0, positions => positions
  | rounds + 1, positions => if positions.isEmpty then [] else iterate step rounds (step positions)

/-- The positions reached by at most the given number of rounds; the second list holds those that
the last round has found. -/
def closure (step : List Nat → List Nat) : Nat → List Nat → List Nat → List Nat
  | 0, reached, _ => reached
  | rounds + 1, reached, frontier =>
    let fresh := (merge [] (step frontier)).filter fun position => !reached.contains position
    if fresh.isEmpty then reached else closure step rounds (reached ++ fresh) fresh

/-- The positions that a pattern reaches from the given positions of a text. More rounds than there
are characters contain empty ones, of which one more or less makes no difference. -/
def reach (text : Array Char) : Pattern → List Nat → List Nat
  | empty, positions => positions
  | one set, positions =>
    positions.filterMap fun position =>
      match text[position]? with
      | some character => if set.contains character then some (position + 1) else none
      | none => none
  | condition required, positions =>
    positions.filter fun position => required.holds (before? text position) text[position]?
  | sequence first second, positions => reach text second (reach text first positions)
  | either left right, positions => merge (reach text left positions) (reach text right positions)
  | repeated body least greatest, positions =>
    let start := iterate (reach text body) (min least (text.size + 1)) positions
    let rounds := match greatest with
      | some most => min (most - least) (text.size + 1)
      | none => text.size + 1
    closure (reach text body) rounds start start

def occursIn (pattern : Pattern) (text : String) : Bool :=
  let characters := text.toList.toArray
  !(reach characters pattern (List.range (characters.size + 1))).isEmpty

def sequenceOf (patterns : List Pattern) : Pattern :=
  patterns.foldr sequence empty

/-- The bytes of the machine of a pattern, with its repetitions written out: a state for each condition,
and for each branch a state with the places where it leads. -/
def size : Pattern → Nat
  | empty => 0
  | one set => set.size
  | condition _ => CharSet.stateSize
  | sequence first second => size first + size second
  | either left right => size left + size right + 40
  | repeated body least greatest =>
    match greatest with
    | some most => size body * least + (size body + 40) * (most - least)
    | none => size body * max least 1 + 40

end Pattern

end RemoteConfig
