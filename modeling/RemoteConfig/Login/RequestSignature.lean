import RemoteConfig.Crypto.Hmac
import RemoteConfig.Text.Ascii
import RemoteConfig.Text.Split
import RemoteConfig.Time.Calendar

/-!
Contract: signing requests to the services of AWS.

Owns:
- the canonical form of a request, in which the order of headers, the case of their names and the
  blanks around their values do not matter;
- the key that is derived for a day, a region and a service;
- the header that carries a signature.

Does not own: which requests are signed.
-/

namespace RemoteConfig

/-- An access key; one that is temporary comes with a session token. -/
structure AwsCredentials where
  accessKeyId : String
  secretAccessKey : String
  sessionToken : Option String
deriving DecidableEq, Repr

/-- A request that is to be signed. The path is in canonical form, and there is no query. -/
structure SignableRequest where
  method : String
  path : String
  headers : List (String × String)
  body : String
  region : String
  service : String
deriving DecidableEq, Repr

namespace SignableRequest

/-- The name of the way of signing. -/
def algorithm : String := "AWS4-HMAC-SHA256"

/-- The last part of a scope, and the last step of the derivation of a key. -/
def terminator : String := "aws4_request"

/-- The order of headers: by name, and then by value. -/
def inOrder (left right : String × String) : Bool :=
  left.1 < right.1 || (left.1 == right.1 && !(right.2 < left.2))

def canonicalHeaders (request : SignableRequest) : List (String × String) :=
  (request.headers.map fun header => (Text.asciiLower header.1, Text.trim header.2)).mergeSort inOrder

def signedNames (request : SignableRequest) : String :=
  Text.join ";" (request.canonicalHeaders.map Prod.fst)

/-- The digest of a text in base sixteen. -/
def digestText (text : String) : String :=
  Octets.hex (Sha256.digest (Utf8.encode text))

/-- The path of the canonical form, which is never empty. -/
def canonicalPath (request : SignableRequest) : String :=
  if request.path.isEmpty then "/" else request.path

def canonicalText (request : SignableRequest) : String :=
  let headers := request.canonicalHeaders.map fun header => header.1 ++ ":" ++ header.2 ++ "\n"
  Text.join "\n"
    [request.method, request.canonicalPath, "", String.join headers, request.signedNames,
      digestText request.body]

def scope (request : SignableRequest) (moment : Moment) : String :=
  Text.join "/" [moment.plainDate, request.region, request.service, terminator]

def signedText (request : SignableRequest) (moment : Moment) : String :=
  Text.join "\n"
    [algorithm, moment.plainText, request.scope moment, digestText request.canonicalText]

/-- The key of a scope, which is derived in steps from the secret key. -/
def key (request : SignableRequest) (secret : String) (moment : Moment) : Bytes :=
  let steps := [moment.plainDate, request.region, request.service, terminator]
  steps.foldl (fun key step => Hmac.digest key (Utf8.encode step)) (Utf8.encode ("AWS4" ++ secret))

def signature (request : SignableRequest) (secret : String) (moment : Moment) : String :=
  Octets.hex (Hmac.digest (request.key secret moment) (Utf8.encode (request.signedText moment)))

/-- The header value that carries the signature of a request. -/
def authorization (request : SignableRequest) (credentials : AwsCredentials) (moment : Moment) :
    String :=
  algorithm ++ " Credential=" ++ credentials.accessKeyId ++ "/" ++ request.scope moment
    ++ ", SignedHeaders=" ++ request.signedNames
    ++ ", Signature=" ++ request.signature credentials.secretAccessKey moment

end SignableRequest

end RemoteConfig
