import Mathlib.Logic.Relation
import RemoteConfig.Login.RequestSignature
import RemoteConfig.Proofs.Http.HeaderOrder

/-!
Contract: what a signed request says, and what its signature does not depend on.

Owns:
- the scheme of signatures over any two digests, of which the one in use is a case;
- changes of headers that leave a signature as it is: another order, other letter case of names,
  other blanks around values, and any sequence of these;
- `authorization_isCanonical`: the value of the header that carries a signature, in full.

Does not own: the digests, and which requests are signed.
-/

namespace RemoteConfig

/-! ### Blanks and days -/

/-- Blanks around a text do not matter to trimming it. -/
theorem Text.trimBy_surrounded {test : Char → Bool} {before after : List Char}
    (passes : ∀ character ∈ before ++ after, test character = true) (text : List Char) :
    trimBy test (before ++ text ++ after) = trimBy test text := by
  have front : ∀ character ∈ before, test character = true :=
    fun character member => passes character (List.mem_append_left _ member)
  have back : ∀ character ∈ after, test character = true :=
    fun character member => passes character (List.mem_append_right _ member)
  have backwards : ∀ character ∈ after.reverse, test character = true :=
    fun character member => back character (List.mem_reverse.mp member)
  unfold trimBy
  rw [List.append_assoc, List.dropWhile_append_of_pos front, List.dropWhile_append]
  split
  · -- Nothing of the text is left, so all that follows it is dropped as well.
    rename_i nothing
    have noRest : (after ++ []).dropWhile test = [] := List.dropWhile_append_of_pos back
    rw [List.append_nil] at noRest
    rw [noRest, List.isEmpty_iff.mp nothing]
  · rw [List.reverse_append, List.dropWhile_append_of_pos backwards]

theorem Text.trim_surrounded {before after : String}
    (blank : ∀ character ∈ before.toList ++ after.toList, isBlankChar character = true)
    (text : String) : trim (before ++ text ++ after) = trim text := by
  unfold trim
  rw [String.toList_append, String.toList_append, trimBy_surrounded blank]

namespace Moment

theorem mark_not_mem_padded (width value : Nat) : 'T' ∉ (padded width value).toList := by
  have noDigit : Char.isDigit 'T' = false := by decide
  unfold padded
  rw [String.toList_append, String.toList_ofList, List.mem_append, not_or]
  constructor
  · intro member
    exact absurd (List.eq_of_mem_replicate member) (by decide)
  · intro member
    rw [Nat.toString_eq_ofList_toDigits, String.toList_ofList] at member
    have isDigit := Nat.isDigit_of_mem_toDigits (by decide) (by decide) member
    rw [noDigit] at isDigit
    cases isDigit

/-- A date has no mark, so a timestamp has its date before the first one. -/
theorem mark_not_mem_plainDate (moment : Moment) : 'T' ∉ moment.plainDate.toList := by
  have year : 'T' ∉ (yearText moment.year).toList := by
    unfold yearText
    split
    · simp [mark_not_mem_padded]
    · split
      · simp [mark_not_mem_padded]
      · exact mark_not_mem_padded _ _
  simp [plainDate, year, mark_not_mem_padded]

def plainTime (moment : Moment) : String :=
  padded 2 moment.hour ++ padded 2 moment.minute ++ padded 2 moment.second ++ "Z"

theorem plainText_eq (moment : Moment) :
    moment.plainText = moment.plainDate ++ "T" ++ moment.plainTime := by
  simp only [plainText, plainTime, String.append_assoc]

end Moment

namespace SignableRequest

/-! ### The canonical form of headers -/

def canonicalHeader (header : String × String) : String × String :=
  (Text.asciiLower header.1, Text.trim header.2)

/-- The names of the headers in small letters, as often as they occur. -/
def lowerNames (request : SignableRequest) : List String :=
  request.headers.map fun header => Text.asciiLower header.1

/-- One change of headers that does not matter to a signature. -/
inductive Retouch : List (String × String) → List (String × String) → Prop
  | permuted {headers others : List (String × String)} (same : headers.Perm others) :
      Retouch headers others
  | recased (front back : List (String × String)) (value : String) {name other : String}
      (same : Text.asciiLower name = Text.asciiLower other) :
      Retouch (front ++ (name, value) :: back) (front ++ (other, value) :: back)
  | padded (front back : List (String × String)) (name value : String) {before after : String}
      (blank : ∀ character ∈ before.toList ++ after.toList, Text.isBlankChar character = true) :
      Retouch (front ++ (name, value) :: back)
        (front ++ (name, before ++ value ++ after) :: back)

theorem inOrder_iff (first second : String × String) :
    inOrder first second = true ↔ Header.IsBefore first second := by
  unfold inOrder Header.IsBefore
  rw [Bool.or_eq_true, Bool.and_eq_true, decide_eq_true_iff, beq_iff_eq, Bool.not_eq_true',
    decide_eq_false_iff_not, String.not_lt]

theorem canonicalHeaders_perm (request : SignableRequest) :
    request.canonicalHeaders.Perm (request.headers.map canonicalHeader) :=
  List.mergeSort_perm _ _

theorem canonicalHeaders_pairwise (request : SignableRequest) :
    request.canonicalHeaders.Pairwise Header.IsBefore := by
  have transitive (first second third : String × String) (before : inOrder first second = true)
      (behind : inOrder second third = true) : inOrder first third = true := by
    rw [inOrder_iff] at before behind ⊢
    exact before.trans behind
  have total (first second : String × String) :
      (inOrder first second || inOrder second first) = true := by
    rw [Bool.or_eq_true, inOrder_iff, inOrder_iff]
    exact Header.IsBefore.total first second
  apply (List.pairwise_mergeSort transitive total _).imp
  intro first second before
  exact (inOrder_iff first second).mp before

/-- The canonical form of headers is one for all orders of them: no two headers that differ are
taken for equal when they are sorted. -/
theorem canonicalHeaders_eq_iff (first second : SignableRequest) :
    first.canonicalHeaders = second.canonicalHeaders ↔
      (first.headers.map canonicalHeader).Perm (second.headers.map canonicalHeader) := by
  constructor
  · intro same
    exact first.canonicalHeaders_perm.symm.trans (same ▸ second.canonicalHeaders_perm)
  · intro permuted
    apply Header.eq_of_perm_of_pairwise first.canonicalHeaders_pairwise
      second.canonicalHeaders_pairwise
    exact first.canonicalHeaders_perm.trans (permuted.trans second.canonicalHeaders_perm.symm)

theorem Retouch.perm {headers others : List (String × String)} (retouch : Retouch headers others) :
    (headers.map canonicalHeader).Perm (others.map canonicalHeader) := by
  cases retouch with
  | permuted same => exact same.map canonicalHeader
  | recased front back value same => simp [canonicalHeader, same]
  | padded front back name value blank => simp [canonicalHeader, Text.trim_surrounded blank]

/-- Any sequence of changes, made or taken back, keeps the canonical headers up to their order. -/
theorem perm_of_retouches {headers others : List (String × String)}
    (retouches : Relation.EqvGen Retouch headers others) :
    (headers.map canonicalHeader).Perm (others.map canonicalHeader) := by
  induction retouches with
  | rel headers others retouch => exact retouch.perm
  | refl headers => exact .refl _
  | symm headers others _ same => exact same.symm
  | trans headers others further _ _ first second => exact first.trans second

theorem canonicalHeaders_of_retouches {request : SignableRequest}
    {headers : List (String × String)}
    (retouches : Relation.EqvGen Retouch request.headers headers) :
    { request with headers := headers }.canonicalHeaders = request.canonicalHeaders := by
  rw [canonicalHeaders_eq_iff]
  exact (perm_of_retouches retouches).symm

theorem perm_lowerNames (request : SignableRequest) :
    (request.canonicalHeaders.map Prod.fst).Perm request.lowerNames := by
  have names := request.canonicalHeaders_perm.map Prod.fst
  rwa [List.map_map] at names

theorem pairwise_canonicalNames (request : SignableRequest) :
    (request.canonicalHeaders.map Prod.fst).Pairwise (· ≤ ·) := by
  rw [List.pairwise_map]
  apply request.canonicalHeaders_pairwise.imp
  intro first second before
  rcases before with less | ⟨same, _⟩
  · exact Std.le_of_lt less
  · exact same ▸ String.le_refl _

end SignableRequest

/-! ### The scheme -/

/-- The two digests of a signature: that of a message, and that of a message under a key. -/
structure SignatureDigests where
  digest : Bytes → Bytes
  keyed : Bytes → Bytes → Bytes

namespace SignatureDigests

open SignableRequest

/-- The digests in use. -/
def standard : SignatureDigests := ⟨Sha256.digest, Hmac.digest⟩

variable (digests : SignatureDigests)

def ofText (text : String) : String :=
  Octets.hex (digests.digest (Utf8.encode text))

def canonicalText (request : SignableRequest) : String :=
  let headers := request.canonicalHeaders.map fun header => header.1 ++ ":" ++ header.2 ++ "\n"
  Text.join "\n"
    [request.method, request.canonicalPath, "", String.join headers, request.signedNames,
      digests.ofText request.body]

/-- The text that is signed, for a timestamp and a scope. -/
def signedText (request : SignableRequest) (timestamp scope : String) : String :=
  Text.join "\n" [algorithm, timestamp, scope, digests.ofText (digests.canonicalText request)]

/-- The key for the parts of a scope, which is derived from the secret key part by part. -/
def key (secret : String) (parts : List String) : Bytes :=
  parts.foldl (fun key part => digests.keyed key (Utf8.encode part)) (Utf8.encode ("AWS4" ++ secret))

/-- The header value under a date, a timestamp and signed names. -/
def value (request : SignableRequest) (credentials : AwsCredentials)
    (date timestamp : String) (names : List String) : String :=
  let parts := [date, request.region, request.service, terminator]
  let scope := Text.join "/" parts
  let signature := digests.keyed (digests.key credentials.secretAccessKey parts)
    (Utf8.encode (digests.signedText request timestamp scope))
  algorithm ++ " Credential=" ++ credentials.accessKeyId ++ "/" ++ scope
    ++ ", SignedHeaders=" ++ Text.join ";" names ++ ", Signature=" ++ Octets.hex signature

/-- The header value that carries the signature of a request. -/
def authorization (request : SignableRequest) (credentials : AwsCredentials) (moment : Moment) :
    String :=
  digests.value request credentials moment.plainDate moment.plainText
    (request.canonicalHeaders.map Prod.fst)

theorem authorization_standard (request : SignableRequest) (credentials : AwsCredentials)
    (moment : Moment) :
    standard.authorization request credentials moment = request.authorization credentials moment :=
  rfl

/-- A signature takes nothing of a request but these parts of it, and of the headers only their
canonical form. -/
theorem authorization_congr {request other : SignableRequest}
    (method : other.method = request.method) (path : other.canonicalPath = request.canonicalPath)
    (headers : other.canonicalHeaders = request.canonicalHeaders)
    (body : other.body = request.body) (region : other.region = request.region)
    (service : other.service = request.service) (credentials : AwsCredentials) (moment : Moment) :
    digests.authorization other credentials moment =
      digests.authorization request credentials moment := by
  have text : digests.canonicalText other = digests.canonicalText request := by
    unfold canonicalText signedNames
    rw [method, path, headers, body]
  unfold authorization value signedText
  rw [text, headers, region, service]

/-- The header value that carries the signature of a request, under two digests. -/
structure IsCanonical (request : SignableRequest) (credentials : AwsCredentials)
    (moment : Moment) : Prop where
  /-- It is the same for all headers that changes without meaning lead to. -/
  indifferent : ∀ headers, Relation.EqvGen Retouch request.headers headers →
    digests.authorization { request with headers := headers } credentials moment =
      digests.authorization request credentials moment
  /-- It states all names of headers in small letters and in ascending order, and the date that the
  signed timestamp begins with, up to the mark before the time. -/
  states : ∃ (names : List String) (date time : String),
    names.Perm request.lowerNames ∧ names.Pairwise (· ≤ ·) ∧
      'T' ∉ date.toList ∧ moment.plainText = date ++ "T" ++ time ∧
      digests.authorization request credentials moment =
        digests.value request credentials date moment.plainText names
  /-- An empty path is signed as the root. -/
  rootPath : digests.authorization { request with path := "" } credentials moment =
    digests.authorization { request with path := "/" } credentials moment

/-- Whatever the two digests are, the header value that carries a signature has canonical form; and
with the digests in use it is the value that requests are signed with. -/
theorem authorization_isCanonical (request : SignableRequest) (credentials : AwsCredentials)
    (moment : Moment) :
    (∀ digests : SignatureDigests, digests.IsCanonical request credentials moment) ∧
      standard.authorization request credentials moment =
        request.authorization credentials moment := by
  refine ⟨fun digests => ⟨?_, ?_, ?_⟩, authorization_standard request credentials moment⟩
  · intro headers retouches
    apply authorization_congr digests
    case headers => exact canonicalHeaders_of_retouches retouches
    all_goals rfl
  · exact ⟨_, moment.plainDate, moment.plainTime, request.perm_lowerNames,
      request.pairwise_canonicalNames,
      moment.mark_not_mem_plainDate, moment.plainText_eq, rfl⟩
  · apply authorization_congr digests
    all_goals rfl

def vanilla : SignableRequest :=
  ⟨"GET", "/", [("Host", "example.amazonaws.com"), ("X-Amz-Date", "20150830T123600Z")], "",
    "us-east-1", "service"⟩

def vanillaCredentials : AwsCredentials :=
  ⟨"AKIDEXAMPLE", "wJalrXUtnFEMI/K7MDENG+bPxRfiCYEXAMPLEKEY", none⟩

def vanillaMoment : Moment := ⟨2015, 8, 30, 12, 36, 0⟩

/-- The headers in another order, one with another case of its name and one with blanks around its
value. -/
def vanillaRetouched : List (String × String) :=
  [("X-Amz-Date", "\t20150830T123600Z "), ("HOST", "example.amazonaws.com")]

/-- Neither the changed headers nor an empty path change the value for that request. -/
theorem authorization_isCanonical_vanilla :
    Relation.EqvGen Retouch vanilla.headers vanillaRetouched ∧
      { vanilla with headers := vanillaRetouched }.authorization vanillaCredentials vanillaMoment =
        vanilla.authorization vanillaCredentials vanillaMoment ∧
      { vanilla with path := "" }.authorization vanillaCredentials vanillaMoment =
        vanilla.authorization vanillaCredentials vanillaMoment := by
  have recased : Retouch vanilla.headers [("HOST", "example.amazonaws.com"), _] :=
    .recased [] _ _ (by decide +kernel)
  have padded : Retouch [("HOST", "example.amazonaws.com"), ("X-Amz-Date", "20150830T123600Z")]
      [("HOST", "example.amazonaws.com"), ("X-Amz-Date", "\t" ++ "20150830T123600Z" ++ " ")] :=
    .padded [_] [] _ _ (List.all_eq_true.mp (by decide +kernel))
  have permuted : Retouch
      [("HOST", "example.amazonaws.com"), ("X-Amz-Date", "\t" ++ "20150830T123600Z" ++ " ")]
      vanillaRetouched := .permuted (.swap _ _ _)
  have retouches : Relation.EqvGen Retouch vanilla.headers vanillaRetouched :=
    .trans _ _ _ (.rel _ _ recased) (.trans _ _ _ (.rel _ _ padded) (.rel _ _ permuted))
  obtain ⟨canonical, _⟩ := authorization_isCanonical vanilla vanillaCredentials vanillaMoment
  have indifferent := (canonical standard).indifferent vanillaRetouched retouches
  exact ⟨retouches, indifferent, (canonical standard).rootPath⟩

end SignatureDigests

end RemoteConfig
