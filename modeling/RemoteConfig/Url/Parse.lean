import RemoteConfig.Url.Domain
import RemoteConfig.Url.Path

/-!
Contract: reading text as a locator, alone or relative to another locator.

Owns:
- the host of a locator, strict for special schemes and lenient for the others;
- user and password, port, path, query and fragment;
- references relative to a locator.

Does not own: pushing segments given as plain text.
-/

namespace RemoteConfig

namespace Host

/-- The groups of an address in brackets. -/
def bracketed (text : List Char) : Except UrlError Host :=
  if text.getLast? != some ']' then .error .invalidGroups
  else
    match Address.ofGroups? (text.drop 1).dropLast with
    | some found => .ok (.groups found)
    | none => .error .invalidGroups

/-- The host of a special scheme: an address or the name of a domain. -/
def parse (text : List Char) : Except UrlError Host :=
  if text.head? == some '[' then bracketed text
  else
    match (Utf8.decode? (Percent.decode text)).bind fun name => Domain.toAscii? name.toList with
    | none => .error .invalidDomainName
    | some name =>
      if name.isEmpty then .error .emptyHost
      else if Address.endsInNumber name then
        match Address.ofDotted? name with
        | some address => .ok (.dotted address)
        | none => .error .invalidDotted
      else .ok (.domain (String.ofList name))

/-- Characters that may not stand in the host of any scheme. -/
def isForbidden (character : Char) : Bool :=
  ['\x00', '\t', '\n', '\r', ' ', '#', '/', ':', '<', '>', '?', '@', '[', '\\', ']', '^', '|'].contains
    character

/-- The host of a scheme that is not special; nothing for an empty text. -/
def parseLenient (text : List Char) : Except UrlError (Option Host) :=
  if text.head? == some '[' then (bracketed text).map some
  else if text.any isForbidden then .error .invalidHostCharacter
  else if text.isEmpty then .ok none
  else .ok (some (.domain (String.ofList (Percent.encode Percent.isControl text))))

end Host

namespace Url.Parse

/-- The authority of a locator: who, where and on which port. -/
structure Authority where
  username : String
  password : Option String
  host : Option Host
  port : Option Nat

def endsAuthority (special : Bool) (character : Char) : Bool :=
  character == '/' || character == '?' || character == '#' || (special && character == '\\')

/-- Cuts a text behind the last sign that separates user and host. -/
def splitUserinfo (authority : List Char) : Option (List Char × List Char) :=
  if authority.contains '@' then
    let reversed := authority.reverse
    let host := (reversed.takeWhile (· != '@')).reverse
    let userinfo := ((reversed.dropWhile (· != '@')).drop 1).reverse
    some (userinfo, host)
  else none

/-- User name and password; an empty password counts as none. -/
def readUserinfo (userinfo : List Char) : String × Option String :=
  let username := userinfo.takeWhile (· != ':')
  let password := (userinfo.dropWhile (· != ':')).drop 1
  let encoded (text : List Char) := String.ofList (Percent.encode Percent.inUserinfo text)
  (encoded username, if password.isEmpty then none else some (encoded password))

/-- Cuts a text at the first colon outside of brackets. -/
def splitPort : Bool → List Char → List Char × Option (List Char)
  | _, [] => ([], none)
  | inside, character :: rest =>
    if character == ':' && !inside then ([], some rest)
    else
      let inside := if character == '[' then true else if character == ']' then false else inside
      let (host, port) := splitPort inside rest
      (character :: host, port)

/-- A port below 2 ^ 16; without digits, or for the usual port of the scheme, there is none. -/
def readPort (scheme : String) (digits : List Char) : Except UrlError (Option Nat) :=
  if !digits.all Char.isDigit then .error .invalidPort
  else
    let port := Number.digitsValue digits
    if port > 65535 then .error .invalidPort
    else if digits.isEmpty || usualPort? scheme == some port then .ok none
    else .ok (some port)

/-- The host of a scheme. -/
def readHost (special : Bool) (text : List Char) : Except UrlError (Option Host) :=
  if special then
    if text.isEmpty then .error .emptyHost else (Host.parse text).map some
  else Host.parseLenient text

/-- The authority after the two slashes, and the rest of the text. -/
def readAuthority (scheme : String) (special : Bool) (text : List Char) :
    Except UrlError (Authority × List Char) := do
  let authority := text.takeWhile fun character => !endsAuthority special character
  let rest := text.dropWhile fun character => !endsAuthority special character
  let (userinfo, place) := (splitUserinfo authority).getD ([], authority)
  if userinfo.isEmpty && authority.head? == some '@' && place.isEmpty && !rest.isEmpty then
    .error .emptyHost
  else
    let (username, password) := readUserinfo userinfo
    let (hostText, portText) := splitPort false place
    let host ← readHost special hostText
    if host.isNone && (portText.isSome || !username.isEmpty || password.isSome) then .error .emptyHost
    else
      let (portText, rest) := match portText with
        | some written =>
          (written.takeWhile (· != '\\'), written.dropWhile (· != '\\') ++ rest)
        | none => ([], rest)
      let port ← readPort scheme portText
      pure (⟨username, password, host, port⟩, rest)

/-- Query and fragment after the path. -/
def readTail (special : Bool) (text : List Char) : Option String × Option String :=
  let encoded (inSet : Char → Bool) (text : List Char) := String.ofList (Percent.encode inSet text)
  let beforeFragment := text.takeWhile (· != '#')
  let fragment := match text.dropWhile (· != '#') with
    | _ :: written => some (encoded Percent.inFragment written)
    | [] => none
  let query := match beforeFragment with
    | '?' :: written => some (encoded (Percent.inQuery special) written)
    | _ => none
  (query, fragment)

def endsPath (character : Char) : Bool :=
  character == '?' || character == '#'

def pathRules (scheme : String) : UrlPath.Rules :=
  ⟨Percent.inPath, scheme == "file"⟩

/-- Resolves a written path, without its first slash, behind segments that are already there. -/
def readPath (scheme : String) (special : Bool) (done : List String) (text : List Char) :
    List String :=
  let segments :=
    UrlPath.resolve (pathRules scheme) done (UrlPath.splitSegments special text)
  if scheme = "file" then UrlPath.dropLeadingEmpty segments else segments

/-- The path behind an authority. A special scheme always has one. -/
def readAuthorityPath (scheme : String) (special : Bool) (text : List Char) : List String :=
  match text with
  | [] => if special then readPath scheme special [] [] else []
  | first :: rest =>
    if first == '/' || (special && first == '\\') then readPath scheme special [] rest
    else readPath scheme special [] text

/-- Builds a locator whose path follows an authority. -/
def withAuthority (scheme : String) (special : Bool) (authority : Authority) (rest : List Char) :
    Url :=
  let path := readAuthorityPath scheme special (rest.takeWhile fun c => !endsPath c)
  let (query, fragment) := readTail special (rest.dropWhile fun c => !endsPath c)
  { scheme := scheme
    hasAuthority := true
    username := authority.username
    password := authority.password
    host := authority.host
    port := authority.port
    path := .segments path
    query := query
    fragment := fragment }

def isSlash (character : Char) : Bool :=
  character == '/' || character == '\\'

/-- A locator of a file: a host may stand between two slashes and the path. -/
def readFile (text : List Char) : Except UrlError Url :=
  match text with
  | first :: second :: rest =>
    if isSlash first && isSlash second then
      let hostText := rest.takeWhile fun c => !endsAuthority true c
      let afterHost := rest.dropWhile fun c => !endsAuthority true c
      if UrlPath.isDrive hostText then .ok (withAuthority "file" true ⟨"", none, none, none⟩ rest)
      else if hostText.isEmpty then .ok (withAuthority "file" true ⟨"", none, none, none⟩ afterHost)
      else
        (Host.parse hostText).map fun host =>
          let path := readAuthorityPath "file" true (afterHost.takeWhile fun c => !endsPath c)
          let hostless := host == .domain "localhost" || (path.head?.any fun s => UrlPath.isDrive s.toList)
          withAuthority "file" true ⟨"", none, if hostless then none else some host, none⟩ afterHost
    else .ok (withAuthority "file" true ⟨"", none, none, none⟩ text)
  | _ => .ok (withAuthority "file" true ⟨"", none, none, none⟩ text)

/-- A locator of a scheme that is not special and has no authority. -/
def readPlain (scheme : String) (text : List Char) : Url :=
  let written := text.takeWhile fun c => !endsPath c
  let (query, fragment) := readTail false (text.dropWhile fun c => !endsPath c)
  let path : UrlPath := match written with
    | '/' :: rest => .segments (readPath scheme false [] rest)
    | _ => .plain (String.ofList (Percent.encode Percent.isControl written))
  { scheme := scheme
    hasAuthority := false
    username := ""
    password := none
    host := none
    port := none
    path := path
    query := query
    fragment := fragment }

/-- The text after a scheme and its colon. -/
def readScheme (scheme : String) (rest : List Char) : Except UrlError Url :=
  if scheme = "file" then readFile rest
  else if isSpecialScheme scheme then
    (readAuthority scheme true (rest.dropWhile isSlash)).map fun (authority, rest) =>
      withAuthority scheme true authority rest
  else
    match rest with
    | '/' :: '/' :: rest =>
      (readAuthority scheme false rest).map fun (authority, rest) =>
        withAuthority scheme false authority rest
    | _ => .ok (readPlain scheme rest)

def isSchemeChar (character : Char) : Bool :=
  character.isAlphanum || character == '+' || character == '-' || character == '.'

/-- A scheme in small letters, and the text after its colon. -/
def splitScheme (text : List Char) : Option (String × List Char) :=
  if text.head?.any Char.isAlpha then
    match text.dropWhile isSchemeChar with
    | ':' :: rest => some (String.ofList ((text.takeWhile isSchemeChar).map Char.toLower), rest)
    | _ => none
  else none

/-- Controls and blanks of ASCII vanish at the ends of a text, tabs and line breaks everywhere. -/
def cleaned (text : String) : List Char :=
  (Text.trimBy (fun c => c.toNat ≤ 0x20) text.toList).filter fun c => !UrlPath.isVanishing c

end Url.Parse

namespace Url

open Parse

/-- Reads a locator that stands alone. -/
def parse (text : String) : Except UrlError Url :=
  match splitScheme (cleaned text) with
  | some (scheme, rest) => readScheme scheme rest
  | none => .error .noBase

/-- Reads a reference whose first segment has neither scheme nor slash, relative to a locator: it
takes the place of the last segment. A locator with a plain path has no segments to replace. -/
def joinPath (base : Url) (reference : String) : Except UrlError Url :=
  match base.path with
  | .plain _ => .error .plainBase
  | .segments segments =>
    let text := cleaned reference
    let kept := UrlPath.up (pathRules base.scheme) segments
    let (query, fragment) := readTail base.isSpecial (text.dropWhile fun c => !endsPath c)
    let path := readPath base.scheme base.isSpecial kept (text.takeWhile fun c => !endsPath c)
    .ok { base with path := .segments path, query := query, fragment := fragment }

end Url

end RemoteConfig
