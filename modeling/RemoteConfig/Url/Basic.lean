import RemoteConfig.Url.Address
import RemoteConfig.Url.Percent

/-!
Contract: locators taken apart into scheme, user, host, port, path, query and fragment.

Owns:
- the parts of a locator; all of them are held in their encoded form;
- which schemes are special, and their usual ports;
- the text of a locator.

Does not own: reading text into a locator.
-/

namespace RemoteConfig

/-- The host of a locator. -/
inductive Host where
  | domain (name : String)
  | dotted (address : Nat)
  | groups (groups : List Nat)
deriving DecidableEq, Repr, Inhabited

/-- The path of a locator: segments, each after a slash, or a text that has no structure. -/
inductive UrlPath where
  | segments (segments : List String)
  | plain (text : String)
deriving DecidableEq, Repr, Inhabited

/-- A locator. A password is never empty, and the host is absent when the locator has none or an
empty one; the flag tells whether there is an authority. -/
structure Url where
  scheme : String
  hasAuthority : Bool
  username : String
  password : Option String
  host : Option Host
  port : Option Nat
  path : UrlPath
  query : Option String
  fragment : Option String
deriving DecidableEq, Repr, Inhabited

/-- Why a text is no locator. -/
inductive UrlError where
  | noBase
  | plainBase
  | emptyHost
  | invalidDomainName
  | invalidPort
  | invalidDotted
  | invalidGroups
  | invalidHostCharacter
deriving DecidableEq, Repr

namespace UrlError

/-- The explanation of an error. -/
def message : UrlError → String
  | noBase => "relative URL without a base"
  | plainBase => "relative URL with a cannot-be-a-base base"
  | emptyHost => "empty host"
  | invalidDomainName => "invalid international domain name"
  | invalidPort => "invalid port number"
  | invalidDotted => "invalid IPv4 address"
  | invalidGroups => "invalid IPv6 address"
  | invalidHostCharacter => "invalid domain character"

end UrlError

namespace Host

def text : Host → String
  | .domain name => name
  | .dotted address => Address.dottedText address
  | .groups found => "[" ++ Address.groupsText found ++ "]"

end Host

namespace Url

/-- The special schemes and their usual ports. -/
def specialSchemes : List (String × Option Nat) :=
  [("http", some 80), ("https", some 443), ("ws", some 80), ("wss", some 443), ("ftp", some 21),
    ("file", none)]

def isSpecialScheme (scheme : String) : Bool :=
  (specialSchemes.lookup scheme).isSome

/-- The port that goes without saying. -/
def usualPort? (scheme : String) : Option Nat :=
  (specialSchemes.lookup scheme).join

def isSpecial (url : Url) : Bool :=
  isSpecialScheme url.scheme

theorem isSpecial_of_web {url : Url} (web : url.scheme = "http" ∨ url.scheme = "https") :
    url.isSpecial = true := by
  rcases web with isHttp | isHttps
  · simp [isSpecial, isSpecialScheme, specialSchemes, isHttp]
  · simp [isSpecial, isSpecialScheme, specialSchemes, isHttps]

theorem notFile_of_web {url : Url} (web : url.scheme = "http" ∨ url.scheme = "https") :
    url.scheme ≠ "file" := by
  rcases web with isHttp | isHttps
  · simp [isHttp]
  · simp [isHttps]

/-- A locator with a plain path cannot be extended. -/
def isBase (url : Url) : Bool :=
  match url.path with
  | .segments _ => true
  | .plain _ => false

def pathText (url : Url) : String :=
  match url.path with
  | .segments segments => String.join (segments.map fun segment => "/" ++ segment)
  | .plain text => text

/-- User and password in front of a host. -/
def userinfoText (url : Url) : String :=
  match url.password with
  | some password => url.username ++ ":" ++ password ++ "@"
  | none => if url.username.isEmpty then "" else url.username ++ "@"

/-- The text of the host; empty when there is none. -/
def hostText (url : Url) : String :=
  match url.host with
  | some host => host.text
  | none => ""

/-- A port in front of the path. -/
def portText (url : Url) : String :=
  match url.port with
  | some port => ":" ++ toString port
  | none => ""

/-- The authority with its two slashes. Without an authority, a path that starts with an empty
segment is kept apart from the scheme by a dot. -/
def authorityText (url : Url) : String :=
  if url.hasAuthority then "//" ++ url.userinfoText ++ url.hostText ++ url.portText
  else
    match url.path with
    | .segments ("" :: _ :: _) => "/."
    | _ => ""

/-- The query with its question mark. -/
def queryText (url : Url) : String :=
  match url.query with
  | some query => "?" ++ query
  | none => ""

/-- The fragment with its mark. -/
def fragmentText (url : Url) : String :=
  match url.fragment with
  | some fragment => "#" ++ fragment
  | none => ""

/-- The text of a locator. -/
def text (url : Url) : String :=
  url.scheme ++ ":" ++ url.authorityText ++ url.pathText ++ url.queryText ++ url.fragmentText

/-- The locator without user and password. -/
def withoutUserinfo (url : Url) : Url :=
  { url with username := "", password := none }

end Url

end RemoteConfig
