import RemoteConfig.Number.Reading
import RemoteConfig.Text.Split
import RemoteConfig.Tree.Basic

/-!
Contract: paths into the tree of settings.

Owns:
- paths: a name, followed by names and list positions;
- the grammar of paths: names of letters, digits, underscores, blanks and hyphens, joined by dots,
  and positions in brackets;
- setting the value at a path, which makes tables and lists where the path needs them;
- whether lists of a bounded length have room for a path.

Does not own: where the values come from.
-/

namespace RemoteConfig.Tree

/-- A step down from a value. -/
inductive Step where
  | child (name : String)
  | position (index : Int)
deriving DecidableEq, Repr

/-- A path: the name below the root, and the steps from there. -/
structure Path where
  root : String
  steps : List Step
deriving DecidableEq, Repr

namespace Path

def isNameChar (character : Char) : Bool :=
  character.isAlphanum || character == '_' || character == ' ' || character == '-'

/-- Blanks around a position. -/
def isLayout (character : Char) : Bool :=
  character == ' ' || character == '\t'

/-- A position: an optional minus and digits, in the range of 64 bits. -/
def position? (text : List Char) : Option Int :=
  let trimmed := Text.trimBy isLayout text
  if trimmed.head? == some '+' then Option.none else Number.signed64? trimmed

/-- The steps of a path; the bound is the number of steps that may still be read. -/
def steps? : Nat → List Char → Option (List Step)
  | _, [] => some []
  | 0, _ => Option.none
  | bound + 1, '.' :: rest =>
    let name := rest.takeWhile isNameChar
    if name.isEmpty then Option.none
    else
      (steps? bound (rest.dropWhile isNameChar)).map fun steps =>
        .child (String.ofList name) :: steps
  | bound + 1, '[' :: rest =>
    match position? (rest.takeWhile (· != ']')), rest.dropWhile (· != ']') with
    | some index, _ :: rest => (steps? bound rest).map fun steps => .position index :: steps
    | _, _ => Option.none
  | _, _ => Option.none

/-- Reads a path. -/
def parse? (text : String) : Option Path :=
  let characters := text.toList
  let name := characters.takeWhile isNameChar
  if name.isEmpty then Option.none
  else
    (steps? characters.length (characters.dropWhile isNameChar)).map fun steps =>
      ⟨String.ofList name, steps⟩

end Path

/-- A position counted from the start; a negative one counts from the end. -/
def absolutePosition (index : Int) (length : Nat) : Nat :=
  if 0 ≤ index then index.toNat else length - index.natAbs

/-- A list with the item at a position changed; it grows as far as needed, so this is what happens where
there is room for it. -/
def modifyItem (index : Int) (change : Tree → Tree) (items : List Tree) : List Tree :=
  let position := absolutePosition index items.length
  let grown := items ++ List.replicate (position + 1 - items.length) .none
  grown.modify position change

/-- A value changed below itself: the last step merges the new value, and the steps before it lead
there. -/
def setBelow (value : Tree) : List Step → Tree → Tree
  | [], _ => value
  | [.child name], target => .table (mergeEntry name target.entries value)
  | [.position index], target => .list (modifyItem index (fun _ => value) target.items)
  | .child name :: next :: rest, target =>
    let name := Text.lowercase name
    let present := (Fields.get? name target.entries).getD .none
    .table (Fields.insert name (setBelow value (next :: rest) present) target.entries)
  | .position index :: next :: rest, target =>
    .list (modifyItem index (setBelow value (next :: rest)) target.items)

def set (tree : Tree) (path : Path) (value : Tree) : Tree :=
  setBelow value (.child path.root :: path.steps) tree

/-- Has a list with some items room for a position, where no list holds more than `capacity` items? A
position counted from the end has to stand inside the list. -/
def hasRoomAt (capacity : Nat) (index : Int) (length : Nat) : Bool :=
  if 0 ≤ index then index.toNat < capacity else index.natAbs ≤ length

/-- Is there room at all positions that some steps lead through? -/
def hasRoom (capacity : Nat) : List Step → Tree → Bool
  | [], _ => true
  | .child name :: rest, target =>
    hasRoom capacity rest ((Fields.get? (Text.lowercase name) target.entries).getD .none)
  | .position index :: rest, target =>
    let items := target.items
    hasRoomAt capacity index items.length
      && hasRoom capacity rest (items.getD (absolutePosition index items.length) .none)

/-- The tree with a value set where no list holds more than `capacity` items; nothing if one would have
to. -/
def setWithin? (capacity : Nat) (tree : Tree) (path : Path) (value : Tree) : Option Tree :=
  if hasRoom capacity (.child path.root :: path.steps) tree then some (tree.set path value)
  else Option.none

/-- The tree with a value set under the text of a path; a text that is no path is one name. -/
def setWritten (tree : Tree) (key : String) (value : Tree) : Tree :=
  match Path.parse? key with
  | some path => tree.set path value
  | Option.none => setBelow value [.child key] tree

/-- The empty table. -/
def empty : Tree := .table []

end RemoteConfig.Tree
