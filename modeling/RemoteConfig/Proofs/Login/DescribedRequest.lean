import RemoteConfig.Login.Aws
import RemoteConfig.Proofs.Json.Canonical
import RemoteConfig.Proofs.Json.RoundTrip
import RemoteConfig.Proofs.Login.CanonicalRequest
import RemoteConfig.Proofs.Outcome
import RemoteConfig.Proofs.Text.Base64
import RemoteConfig.Proofs.Text.Utf8
import RemoteConfig.Proofs.Url.Target

/-!
Contract: the request that the body of a signed login describes, and what its signature is worth.

Owns:
- decoding a body into a request with path, query, headers and authorization;
- the header value that a verifier expects for such a request, its query included;
- bodies describe the request that was signed, up to the order of its headers and the query;
- `loginBody_verifies_iff`: a verifier gets the header value in the body, whatever the digests,
  exactly when the locator of the token service has no query.

Does not own: the digests.
-/

namespace RemoteConfig

/-! ### Texts in base sixteen -/

theorem Octets.hex_injective : Function.Injective Octets.hex := by
  have digits : ∀ value < 16, ∀ other < 16, hexDigit value = hexDigit other → value = other := by
    decide
  intro first second same
  have characters := String.ofList_injective same
  clear same
  induction first generalizing second with
  | nil =>
      cases second with
      | nil => rfl
      | cons byte rest => cases characters
  | cons byte rest inductionHypothesis =>
      cases second with
      | nil => cases characters
      | cons other others =>
          have bound := byte.toNat_lt
          have otherBound := other.toNat_lt
          simp only [List.flatMap_cons, List.cons_append, List.nil_append,
            List.cons.injEq] at characters
          obtain ⟨high, low, tail⟩ := characters
          have sameHigh := digits _ (by omega) _ (by omega) high
          have sameLow := digits _ (by omega) _ (by omega) low
          have sameByte : byte = other := UInt8.toNat_inj.mp (by omega)
          rw [sameByte, inductionHypothesis tail]

/-! ### Verifying -/

namespace SignatureDigests

open SignableRequest

variable (digests : SignatureDigests)

/-- The canonical text of a request that has a query. -/
def canonicalTextWith (request : SignableRequest) (query : String) : String :=
  let headers := request.canonicalHeaders.map fun header => header.1 ++ ":" ++ header.2 ++ "\n"
  Text.join "\n"
    [request.method, request.canonicalPath, query, String.join headers, request.signedNames,
      digests.ofText request.body]

/-- The header value that a verifier expects for a request that has a query. -/
def verification (request : SignableRequest) (query : String) (credentials : AwsCredentials)
    (moment : Moment) : String :=
  let parts := [moment.plainDate, request.region, request.service, terminator]
  let scope := Text.join "/" parts
  let signed := Text.join "\n"
    [algorithm, moment.plainText, scope, digests.ofText (digests.canonicalTextWith request query)]
  let signature :=
    digests.keyed (digests.key credentials.secretAccessKey parts) (Utf8.encode signed)
  algorithm ++ " Credential=" ++ credentials.accessKeyId ++ "/" ++ scope
    ++ ", SignedHeaders=" ++ request.signedNames ++ ", Signature=" ++ Octets.hex signature

/-- What requests are signed with is what a verifier expects of a request without a query. -/
theorem verification_noQuery (request : SignableRequest) (credentials : AwsCredentials)
    (moment : Moment) :
    digests.verification request "" credentials moment =
      digests.authorization request credentials moment :=
  rfl

/-- A verifier takes the headers of a request in their canonical form only. -/
theorem verification_of_perm {request : SignableRequest} {headers : List (String × String)}
    (permuted : headers.Perm request.headers) (query : String) (credentials : AwsCredentials)
    (moment : Moment) :
    digests.verification { request with headers := headers } query credentials moment =
      digests.verification request query credentials moment := by
  have sorted :
      { request with headers := headers }.canonicalHeaders = request.canonicalHeaders := by
    rw [canonicalHeaders_eq_iff]
    exact permuted.map canonicalHeader
  have text : digests.canonicalTextWith { request with headers := headers } query =
      digests.canonicalTextWith request query := by
    unfold canonicalTextWith signedNames
    rw [sorted]
    rfl
  unfold verification signedNames
  rw [text, sorted]

/-- Digests that keep the whole message. -/
def transparent : SignatureDigests := ⟨id, fun _ message => message⟩

/-- Some digests tell whether there is a query. -/
theorem query_of_transparent {request : SignableRequest} {query : String}
    {credentials : AwsCredentials} {moment : Moment}
    (same : transparent.verification request query credentials moment =
      transparent.verification request "" credentials moment) : query = "" := by
  have keyed (key message : Bytes) : transparent.keyed key message = message := rfl
  have digest (message : Bytes) : transparent.digest message = message := rfl
  simp only [verification, String.append_right_inj, keyed] at same
  have signed := Utf8.encode_injective (Octets.hex_injective same)
  simp only [Text.join, String.append_assoc, String.append_right_inj, ofText, digest] at signed
  have texts := Utf8.encode_injective (Octets.hex_injective signed)
  simp only [canonicalTextWith, Text.join, String.append_assoc, String.append_right_inj] at texts
  exact (String.append_left_inj _).mp texts

end SignatureDigests

/-! ### Decoding a body -/

/-- A request that the body of a login describes, its authorization apart from the other headers. -/
structure DescribedRequest where
  method : String
  path : String
  query : String
  headers : List (String × String)
  authorization : String
  body : String

namespace DescribedRequest

/-- The text that a field holds in Base64. -/
def decodedField? (name : String) (fields : Json.Fields) : Option String := do
  let encoded ← (Fields.get? name fields).bind Json.asString?
  let bytes ← Base64.decode? Base64.standard encoded.toList
  Utf8.decode? bytes

/-- A header with one value. -/
def header? : String × Json → Option (String × String)
  | (name, .array [.string value]) => some (name, value)
  | _ => none

/-- The headers of a document. -/
def headers? : Json → Option (List (String × String))
  | .object fields => fields.mapM header?
  | _ => none

/-- Decodes the body of a login. -/
def ofBody? (fields : Json.Fields) : Option DescribedRequest := do
  let method ← (Fields.get? "iam_http_request_method" fields).bind Json.asString?
  let (path, query) ← (decodedField? "iam_request_url" fields).bind Url.target?
  let body ← decodedField? "iam_request_body" fields
  let document ← (decodedField? "iam_request_headers" fields).bind Json.parse?
  let headers ← headers? document
  let authorization ← Fields.get? "Authorization" headers
  let others := headers.filter fun header => header.1 != "Authorization"
  pure ⟨method, path, query, others, authorization, body⟩

/-- The request for the token service of a region. -/
def signable (described : DescribedRequest) (region : String) : SignableRequest where
  method := described.method
  path := described.path
  headers := described.headers
  body := described.body
  region := region
  service := "sts"

end DescribedRequest

namespace AwsIamSettings

/-- The document of headers, each with one value. -/
def headerDocument (headers : List (String × String)) : Json :=
  Json.ofFields (headers.map fun header => (header.1, Json.ofStrings [header.2]))

/-- The body of a login for a request and its authorization. -/
def bodyOf (settings : AwsIamSettings) (url : Url) (request : SignableRequest)
    (authorization : String) : Json.Fields :=
  let encoded (text : String) : Json := .string (Base64.encodeText Base64.standard text)
  [("iam_http_request_method", .string request.method), ("iam_request_url", encoded url.text),
    ("iam_request_body", encoded request.body),
    ("iam_request_headers",
      encoded (headerDocument (request.headers ++ [("Authorization", authorization)])).compact)]
    ++ Login.optionalField "role" (some settings.role)

/-- The body of a login that is signed with some digests. -/
def loginBodyWith (digests : SignatureDigests) (settings : AwsIamSettings)
    (credentials : AwsCredentials) (moment : Moment) : Except ConfigError Json.Fields :=
  settings.endpointUrl.map fun (url, host) =>
    let request := settings.identityRequest credentials url host moment
    settings.bodyOf url request (digests.authorization request credentials moment)

theorem loginBodyWith_standard (settings : AwsIamSettings) (credentials : AwsCredentials)
    (moment : Moment) :
    settings.loginBodyWith .standard credentials moment =
      settings.loginBody credentials moment := by
  unfold loginBodyWith loginBody
  cases settings.endpointUrl <;> rfl

end AwsIamSettings

/-! ### What bodies describe -/

namespace DescribedRequest

open AwsIamSettings

theorem decodedField?_of_encoded {name text : String} {fields : Json.Fields}
    (found : Fields.get? name fields =
      some (.string (Base64.encodeText Base64.standard text))) :
    decodedField? name fields = some text := by
  have legible : Base64.standard.Legible := Base64.legible_forms _ List.mem_cons_self
  have bytes : Base64.decode? Base64.standard (Base64.encodeText Base64.standard text).toList =
      some (Utf8.encode text) := by
    rw [Base64.encodeText, Base64.encode, String.toList_ofList,
      Base64.decode?_encodeChars legible]
  simp only [decodedField?, found, Option.bind_eq_bind, Option.bind_some, Json.asString?, bytes]
  rw [Utf8.encode, Utf8.decode?_encodeChars, String.ofList_toList]

theorem headerDocument_eq (headers : List (String × String)) :
    headerDocument headers = .object ((Fields.ofList headers).map fun header =>
      (header.1, Json.ofStrings [header.2])) := by
  unfold headerDocument Json.ofFields
  rw [Fields.ofList_map fun value => Json.ofStrings [value]]

/-- The text of headers is read as the headers in the order of their names. -/
theorem headers?_of_text (headers : List (String × String)) :
    (Json.parse? (headerDocument headers).compact).bind headers? =
      some (Fields.ofList headers) := by
  have free : Json.NumberFree Json.nestingLimit (headerDocument headers) := by
    rw [headerDocument_eq]
    apply Json.NumberFree.object
    intro field member
    obtain ⟨header, _, rfl⟩ := List.mem_map.mp member
    apply Json.NumberFree.array
    intro item isItem
    rw [List.mem_singleton.mp isItem]
    exact .string _
  have sorted : Fields.IsSorted ((Fields.ofList headers).map fun header =>
      (header.1, Json.ofStrings [header.2])) := by
    apply List.pairwise_map.mpr
    exact Fields.isSorted_ofList headers
  have canonical : (headerDocument headers).canonical = headerDocument headers := by
    rw [headerDocument_eq, Json.canonical, Json.canonicalFields_eq_map, List.map_map]
    exact congrArg Json.object (Fields.ofList_of_isSorted sorted)
  rw [Json.parse?_compact free, canonical, headerDocument_eq]
  show ((Fields.ofList headers).map fun header =>
    (header.1, Json.ofStrings [header.2])).mapM header? = _
  rw [mapM_eq_some_iff, List.forall₂_map_left_iff]
  exact List.forall₂_same.mpr fun _ _ => rfl

/-- The authorization is found among the headers, and the others are what is left. -/
theorem others_of_headers {headers : List (String × String)} (authorization : String)
    (distinct : (headers.map Prod.fst).Nodup) (apart : "Authorization" ∉ headers.map Prod.fst) :
    Fields.get? "Authorization" (Fields.ofList (headers ++ [("Authorization", authorization)])) =
        some authorization ∧
      ((Fields.ofList (headers ++ [("Authorization", authorization)])).filter
        fun header => header.1 != "Authorization").Perm headers := by
  constructor
  · unfold Fields.ofList
    rw [List.foldl_append]
    exact Fields.get?_insert_self _ _ _
  · have allDistinct : ((headers ++ [("Authorization", authorization)]).map Prod.fst).Nodup := by
      rw [List.map_append, List.nodup_append]
      refine ⟨distinct, by simp, ?_⟩
      intro name inside other isOther same
      rw [same, List.mem_singleton.mp isOther] at inside
      exact apart inside
    have kept : headers.filter (fun header => header.1 != "Authorization") = headers := by
      apply List.filter_eq_self.mpr
      intro header member
      apply bne_iff_ne.mpr
      intro same
      exact apart (same ▸ List.mem_map_of_mem member)
    have others := (Fields.perm_ofList allDistinct).filter fun header =>
      header.1 != "Authorization"
    rw [List.filter_append, kept] at others
    simpa using others

/-- A body describes the request it was made for, up to the order of its headers. -/
theorem exists_ofBody?_bodyOf (settings : AwsIamSettings) {url : Url} {path query : String}
    (cut : Url.target? url.text = some (path, query)) (request : SignableRequest)
    (authorization : String) (distinct : (request.headers.map Prod.fst).Nodup)
    (apart : "Authorization" ∉ request.headers.map Prod.fst) :
    ∃ headers, headers.Perm request.headers ∧
      ofBody? (settings.bodyOf url request authorization) =
        some ⟨request.method, path, query, headers, authorization, request.body⟩ := by
  obtain ⟨found, others⟩ := others_of_headers authorization distinct apart
  refine ⟨_, others, ?_⟩
  have locator : decodedField? "iam_request_url"
      (settings.bodyOf url request authorization) = some url.text :=
    decodedField?_of_encoded rfl
  have body : decodedField? "iam_request_body"
      (settings.bodyOf url request authorization) = some request.body :=
    decodedField?_of_encoded rfl
  have written : decodedField? "iam_request_headers"
      (settings.bodyOf url request authorization) = some _ :=
    decodedField?_of_encoded rfl
  have method : (Fields.get? "iam_http_request_method"
      (settings.bodyOf url request authorization)).bind Json.asString? = some request.method :=
    rfl
  obtain ⟨document, isDocument, isHeaders⟩ := Option.bind_eq_some_iff.mp
    (headers?_of_text (request.headers ++ [("Authorization", authorization)]))
  unfold ofBody?
  simp only [method, locator, body, written, cut, isDocument, isHeaders, found,
    Option.bind_eq_bind, Option.bind_some, Option.pure_def]

end DescribedRequest

/-! ### Signed logins -/

/-- A verifier that decodes a body gets the header value in it, for a region. -/
def SignatureDigests.Verifies (digests : SignatureDigests) (region : String)
    (credentials : AwsCredentials) (moment : Moment) (body : Json.Fields) : Prop :=
  ∃ described, DescribedRequest.ofBody? body = some described ∧
    described.authorization =
      digests.verification (described.signable region) described.query credentials moment

namespace AwsIamSettings

variable {settings : AwsIamSettings} {url : Url} {host : Host}

theorem signedHeaders_names (settings : AwsIamSettings) (credentials : AwsCredentials) (url : Url)
    (moment : Moment) :
    ((settings.signedHeaders credentials url moment).map Prod.fst).Nodup ∧
      "Authorization" ∉ (settings.signedHeaders credentials url moment).map Prod.fst := by
  unfold signedHeaders
  cases credentials.sessionToken <;> cases Text.nonBlank settings.serverName <;> simp

theorem endpointUrl_of_parse (parsed : Url.parse settings.writtenEndpoint = .ok url)
    (isHost : url.host = some host) : settings.endpointUrl = .ok (url, host) := by
  simp only [endpointUrl, parsed, isHost]

theorem target?_of_endpointUrl (located : settings.endpointUrl = .ok (url, host)) :
    Url.target? url.text = some (url.pathText, url.query.getD "") := by
  unfold endpointUrl at located
  dsimp only at located
  split at located
  · cases located
  · next parsed =>
      split at located
      · next isHost =>
          cases located
          exact Url.target?_text parsed isHost
      · cases located

/-- The body describes the signed request, for which a verifier expects the header value in it if
there were no query. -/
theorem exists_described (located : settings.endpointUrl = .ok (url, host))
    (credentials : AwsCredentials) (moment : Moment) (digests : SignatureDigests) :
    ∃ body described, settings.loginBodyWith digests credentials moment = .ok body ∧
      DescribedRequest.ofBody? body = some described ∧ described.query = url.query.getD "" ∧
      described.authorization = digests.verification
        (settings.identityRequest credentials url host moment) "" credentials moment ∧
      ∀ query,
        digests.verification (described.signable (region host.text)) query credentials moment =
          digests.verification (settings.identityRequest credentials url host moment) query
            credentials moment := by
  obtain ⟨distinct, apart⟩ := settings.signedHeaders_names credentials url moment
  obtain ⟨headers, permuted, isDescribed⟩ := DescribedRequest.exists_ofBody?_bodyOf settings
    (target?_of_endpointUrl located) (settings.identityRequest credentials url host moment)
    (digests.authorization (settings.identityRequest credentials url host moment) credentials
      moment) distinct apart
  refine ⟨_, _, ?_, isDescribed, rfl, ?_, ?_⟩
  · unfold loginBodyWith
    rw [located]
    rfl
  · exact (digests.verification_noQuery _ credentials moment).symm
  · intro query
    exact digests.verification_of_perm permuted query credentials moment

/-- The body of a signed login describes a request that is verified as if it had no query. So a
verifier gets the header value in the body, whatever the digests, exactly when the locator of the
token service has no query or an empty one. -/
theorem loginBody_verifies_iff (located : settings.endpointUrl = .ok (url, host))
    (credentials : AwsCredentials) (moment : Moment) :
    settings.loginBodyWith .standard credentials moment = settings.loginBody credentials moment ∧
      (∀ digests : SignatureDigests, ∃ body described,
        settings.loginBodyWith digests credentials moment = .ok body ∧
          DescribedRequest.ofBody? body = some described ∧ described.query = url.query.getD "" ∧
          described.authorization = digests.verification (described.signable (region host.text)) ""
            credentials moment) ∧
      ((∀ digests : SignatureDigests, ∃ body,
          settings.loginBodyWith digests credentials moment = .ok body ∧
            digests.Verifies (region host.text) credentials moment body) ↔
        url.query.getD "" = "") := by
  have described (digests : SignatureDigests) : ∃ body described,
      settings.loginBodyWith digests credentials moment = .ok body ∧
        DescribedRequest.ofBody? body = some described ∧ described.query = url.query.getD "" ∧
        described.authorization = digests.verification (described.signable (region host.text)) ""
          credentials moment := by
    obtain ⟨body, request, isBody, isDescribed, query, signed, expected⟩ :=
      exists_described located credentials moment digests
    exact ⟨body, request, isBody, isDescribed, query, signed.trans (expected "").symm⟩
  refine ⟨loginBodyWith_standard settings credentials moment, described, ?_⟩
  constructor
  · intro verified
    obtain ⟨body, request, isBody, isDescribed, query, signed⟩ := described .transparent
    obtain ⟨sameBody, isSame, other, otherDescribed, expected⟩ := verified .transparent
    rw [isBody] at isSame
    cases isSame
    rw [isDescribed] at otherDescribed
    cases otherDescribed
    rw [← query]
    exact SignatureDigests.query_of_transparent (expected.symm.trans signed)
  · intro noQuery digests
    obtain ⟨body, request, isBody, isDescribed, query, signed⟩ := described digests
    refine ⟨body, isBody, request, isDescribed, ?_⟩
    rw [signed, query, noQuery]

/-- A token service of the machine itself, with a query behind its path. -/
def localService (query : String) : AwsIamSettings :=
  { defaults with endpoint := some ("https://[::1]:8443/sts" ++ query) }

def loopback : Host := .groups [0, 0, 0, 0, 0, 0, 0, 1]

/-- The locator of that service. -/
def localUrl (query : Option String) : Url where
  scheme := "https"
  hasAuthority := true
  username := ""
  password := none
  host := some loopback
  port := some 8443
  path := .segments ["sts"]
  query := query
  fragment := none

def exampleCredentials : AwsCredentials := ⟨"AKID", "secret", some "session"⟩

def exampleMoment : Moment := ⟨2024, 1, 2, 3, 4, 5⟩

theorem endpointUrl_localService :
    (localService "").endpointUrl = .ok (localUrl none, loopback) ∧
      (localService "?v=1").endpointUrl = .ok (localUrl (some "v=1"), loopback) := by
  constructor
  · exact endpointUrl_of_parse (by decide +kernel) rfl
  · exact endpointUrl_of_parse (by decide +kernel) rfl

/-- Without a query the login is verified, whatever the digests, and with one it is not. -/
theorem loginBody_verifies_iff_localService :
    (localService "").endpointUrl = .ok (localUrl none, loopback) ∧
      (∀ digests : SignatureDigests, ∃ body,
        (localService "").loginBodyWith digests exampleCredentials exampleMoment = .ok body ∧
          digests.Verifies (region loopback.text) exampleCredentials exampleMoment body) ∧
      ¬ ∀ digests : SignatureDigests, ∃ body,
        (localService "?v=1").loginBodyWith digests exampleCredentials exampleMoment = .ok body ∧
          digests.Verifies (region loopback.text) exampleCredentials exampleMoment body := by
  obtain ⟨plain, queried⟩ := endpointUrl_localService
  obtain ⟨_, _, verified⟩ := loginBody_verifies_iff plain exampleCredentials exampleMoment
  obtain ⟨_, _, refused⟩ := loginBody_verifies_iff queried exampleCredentials exampleMoment
  refine ⟨plain, verified.mpr rfl, ?_⟩
  intro allVerified
  exact absurd (refused.mp allVerified) (by decide)

/-- Under some digests, a verifier does not get the header value in the body of a login at a token
service whose locator has a query. -/
theorem loginBody_leavesOutQuery :
    ∃ body described,
      (localService "?v=1").loginBodyWith .transparent exampleCredentials exampleMoment = .ok body ∧
        DescribedRequest.ofBody? body = some described ∧ described.query = "v=1" ∧
        described.authorization ≠ SignatureDigests.transparent.verification
          (described.signable (region loopback.text)) described.query exampleCredentials
          exampleMoment := by
  obtain ⟨body, described, isBody, isDescribed, query, signed, expected⟩ :=
    exists_described endpointUrl_localService.2 exampleCredentials exampleMoment .transparent
  refine ⟨body, described, isBody, isDescribed, query, ?_⟩
  rw [signed, expected, query]
  intro same
  exact absurd (SignatureDigests.query_of_transparent same.symm) (by decide)

end AwsIamSettings

end RemoteConfig
