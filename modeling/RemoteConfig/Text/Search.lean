/-!
Contract: searching text for a marker.

Owns:
- cutting a text behind the first occurrence of a marker, or behind every one.

Does not own: cutting at single characters.
-/

namespace RemoteConfig.Text

/-- What precedes the end of the first occurrence of a marker, and what follows it. -/
def cutAfter? (marker : List Char) : List Char → Option (List Char × List Char)
  | [] => none
  | character :: rest =>
    if marker.isPrefixOf (character :: rest) then
      some (marker, (character :: rest).drop marker.length)
    else (cutAfter? marker rest).map fun (before, after) => (character :: before, after)

/-- The parts of a text, each up to the end of a marker; the bound limits the number of cuts. -/
def partsAfter (marker : List Char) : Nat → List Char → List (List Char)
  | 0, text => [text]
  | bound + 1, text =>
    match cutAfter? marker text with
    | some (part, rest) => part :: partsAfter marker bound rest
    | none => [text]

def contains (marker text : List Char) : Bool :=
  (cutAfter? marker text).isSome

end RemoteConfig.Text
