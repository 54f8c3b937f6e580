import RemoteConfig.Text.Split
import RemoteConfig.Url.Basic

/-!
Contract: paths of locators: resolving dot segments, and pushing and popping segments.

Owns:
- the segments that stand for "here" and "one up";
- resolving the segments of a written path against those that are already there;
- pushing a segment given as plain text, and popping an empty last segment.

Does not own: where a path starts and ends in the text of a locator.
-/

namespace RemoteConfig.UrlPath

/-- Every escaped dot reads as a dot. -/
def plainDots : List Char → List Char
  | '%' :: '2' :: letter :: rest =>
    if letter = 'e' || letter = 'E' then '.' :: plainDots rest
    else '%' :: '2' :: plainDots (letter :: rest)
  | character :: rest => character :: plainDots rest
  | [] => []
termination_by text => text.length

/-- A segment that stands for the place itself. -/
def isHere (segment : List Char) : Bool :=
  plainDots segment == ['.']

/-- A segment that stands for one place up. -/
def isUp (segment : List Char) : Bool :=
  plainDots segment == ['.', '.']

/-- A letter followed by a colon or a bar names a drive. -/
def isDrive : List Char → Bool
  | [letter, mark] => letter.isAlpha && (mark == ':' || mark == '|')
  | _ => false

/-- How a path is resolved: the set of encoded characters, and whether drives are kept. -/
structure Rules where
  inSet : Char → Bool
  drives : Bool

/-- One place up: the last segment is dropped, but never a drive. -/
def up (rules : Rules) (done : List String) : List String :=
  if rules.drives && (done.getLast?.any fun last => isDrive last.toList) then done else done.dropLast

/-- A segment as it stands in the path; the bar of a drive becomes a colon. -/
def written (rules : Rules) (segment : List Char) : String :=
  if rules.drives && isDrive segment then String.ofList (segment.take 1 ++ [':'])
  else String.ofList (Percent.encode rules.inSet segment)

/-- Adds the written segments one by one, in their encoded form. A dot segment at the end leaves an
empty segment. -/
def resolve (rules : Rules) : List String → List (List Char) → List String
  | done, [] => done
  | done, segment :: rest =>
    let encoded := written rules segment
    if isUp encoded.toList then
      resolve rules (if rest.isEmpty then up rules done ++ [""] else up rules done) rest
    else if isHere encoded.toList then
      resolve rules (if rest.isEmpty then done ++ [""] else done) rest
    else resolve rules (done ++ [encoded]) rest

/-- Splits the text of a path into segments; for special schemes a backslash is a slash. -/
def splitSegments (special : Bool) (text : List Char) : List (List Char) :=
  Text.splitChars '/' (if special then text.map fun c => if c == '\\' then '/' else c else text)

/-- Paths to files do not start with empty segments. -/
def dropLeadingEmpty : List String → List String
  | "" :: second :: rest => dropLeadingEmpty (second :: rest)
  | kept => kept

/-- Tabs and line breaks vanish from all parts of a locator. -/
def isVanishing (character : Char) : Bool :=
  character == '\t' || character == '\n' || character == '\r'

/-- Pushes a segment given as plain text. The two dot segments add nothing, and the first segment
takes the place of an empty path. -/
def push (scheme : String) (special : Bool) (segments : List String) (segment : String) :
    List String :=
  if segment = "." || segment = ".." then segments
  else
    let start := if segments = [""] then [] else segments
    let rules : Rules := ⟨Percent.inSegment special, scheme == "file"⟩
    let pushed := resolve rules start [segment.toList.filter fun c => !isVanishing c]
    if scheme = "file" then dropLeadingEmpty pushed else pushed

/-- Drops the last segment when it is empty and not the only one. -/
def popEmpty (segments : List String) : List String :=
  if segments.length > 1 && segments.getLast? == some "" then segments.dropLast else segments

end RemoteConfig.UrlPath

namespace RemoteConfig.Url

/-- Extends the path by segments given as plain text; nothing for a locator that is no base. -/
def extend? (url : Url) (segments : List String) : Option Url :=
  match url.path with
  | .plain _ => none
  | .segments present =>
    let pushed := segments.foldl (UrlPath.push url.scheme url.isSpecial) (UrlPath.popEmpty present)
    some { url with path := .segments pushed }

end RemoteConfig.Url
