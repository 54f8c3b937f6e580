import RemoteConfig.Json.ValueReader
import RemoteConfig.Number.Reading
import RemoteConfig.Number.Shortest
import RemoteConfig.Tree.Basic

/-!
Contract: lenient typed readings of the tree of settings.

Owns:
- the words for true and false;
- the conversions between booleans, integers, doubles and strings;
- choices, whose names are compared without regard to letter case.

Does not own: the records that are read.
-/

namespace RemoteConfig.Tree

/-- The words for true and false, in any letter case. -/
def wordBool? (text : String) : Option Bool :=
  let word := Text.lowercase text
  if ["true", "on", "yes"].contains word then some true
  else if ["false", "off", "no"].contains word then some false
  else Option.none

/-- A boolean: its words, the digits one and zero, and numbers. -/
def bool? : Tree → Option Bool
  | .bool value => some value
  | .integer value => some (value != 0)
  | .double value => some (!value.isZero)
  | .string text => if text = "1" then some true else if text = "0" then some false else wordBool? text
  | _ => Option.none

/-- An integer in a range. Strings are read as words for one and zero or as decimals; doubles are
rounded and clamped to the signed or unsigned integers of 64 bits. -/
def integer? (low high : Int) (value : Tree) : Option Int :=
  let isSigned := low < 0
  let within (found : Int) : Option Int := if low ≤ found && found ≤ high then some found else Option.none
  match value with
  | .bool flag => within (if flag then 1 else 0)
  | .integer found => within found
  | .double found =>
    within (if isSigned then found.clampedInt Number.least64 Number.greatest64
      else found.clampedInt 0 Number.greatestUnsigned64)
  | .string text =>
    match wordBool? text with
    | some flag => within (if flag then 1 else 0)
    | Option.none =>
      let characters := text.toList
      (if isSigned then Number.signed64? characters else Number.unsigned64? characters).bind within
  | _ => Option.none

def double? : Tree → Option Binary64
  | .bool flag => some (Binary64.ofInt (if flag then 1 else 0))
  | .integer found => some (Binary64.ofInt found)
  | .double found => some found
  | .string text =>
    match wordBool? text with
    | some flag => some (Binary64.ofInt (if flag then 1 else 0))
    | Option.none => Number.decimal? text.toList
  | _ => Option.none

/-- A string; numbers and booleans have their plain text. -/
def string? : Tree → Option String
  | .bool flag => some (if flag then "true" else "false")
  | .integer found => some (toString found)
  | .double found => some found.plainText
  | .string text => some text
  | _ => Option.none

/-- A choice: a string, or the name of the only entry of a table. -/
def choice? (alternatives : List (List String)) (value : Tree) : Option Nat :=
  let among (name : String) : Option Nat :=
    alternatives.findIdx? fun names =>
      names.any fun other => Text.lowercase other == Text.lowercase name
  match value with
  | .string name => among name
  | .table [(name, _)] => among name
  | _ => Option.none

/-- The lenient readings of the tree. -/
def reader : ValueReader Tree where
  isAbsent
    | .none => true
    | _ => false
  bool? := bool?
  integer? := integer?
  double? := double?
  string? := string?
  items?
    | .list items => some items
    | _ => Option.none
  entries?
    | .table entries => some entries
    | _ => Option.none
  choice? := choice?
  extraItems := true

end RemoteConfig.Tree
