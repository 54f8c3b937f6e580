import Mathlib.Data.List.TakeWhile
import RemoteConfig.Proofs.Outcome
import RemoteConfig.Proofs.Url.Course
import RemoteConfig.Proofs.Url.Userinfo
import RemoteConfig.Text.Ascii

/-!
Contract: locators that are written with a user, a password and a host.

Owns:
- the escaped form of a text, in which only unreserved characters stand for themselves;
- `parse_withUser`: a locator with escaped user and password is read as the locator of the host with
  these two, still escaped.

Does not own: what a user and a password are used for.
-/

namespace RemoteConfig

/-! ### Escaped texts -/

namespace Percent

/-- The characters that no part of a locator gives a meaning to. -/
def isUnreserved (character : Char) : Bool :=
  character.isAlphanum || ['-', '.', '_', '~'].contains character

def isReserved (character : Char) : Bool :=
  !isUnreserved character

/-- A text whose reserved characters are escaped, all beyond ASCII among them. -/
def escaped (text : String) : String :=
  String.ofList (encode isReserved text.toList)

/-- Every character of a text is unreserved. -/
def IsUnreserved (text : String) : Prop :=
  text.toList.all isUnreserved = true

instance (text : String) : Decidable (IsUnreserved text) :=
  inferInstanceAs (Decidable (_ = _))

/-- The characters of escaped texts. -/
def isEscapedChar (character : Char) : Bool :=
  isUnreserved character || character == '%'

theorem toNat_lt_of_isUnreserved {character : Char} (unreserved : isUnreserved character = true) :
    character.toNat < 0x80 := by
  rcases Bool.or_eq_true_iff.mp unreserved with isAlphanum | isSign
  · exact Text.toNat_lt_of_isAlphanum isAlphanum
  · have listed := List.contains_iff_mem.mp isSign
    simp only [List.mem_cons, List.not_mem_nil, or_false] at listed
    rcases listed with rfl | rfl | rfl | rfl <;> decide

theorem isFree_isReserved_iff {character : Char} :
    IsFree isReserved character ↔ isUnreserved character = true := by
  unfold IsFree isReserved
  constructor
  · rintro ⟨_, notReserved⟩
    simpa using notReserved
  · intro unreserved
    refine ⟨toNat_lt_of_isUnreserved unreserved, ?_⟩
    rw [unreserved]
    rfl

theorem escapedChar_facts {character : Char} (isChar : isEscapedChar character = true) :
    0x20 < character.toNat ∧ Text.isBlankChar character = false ∧
      Url.Parse.endsAuthority true character = false ∧ character ≠ '@' ∧ character ≠ ':' ∧
      IsFree inUserinfo character := by
  have ascii : character.toNat < 0x80 := by
    rcases Bool.or_eq_true_iff.mp isChar with unreserved | isPercent
    · exact toNat_lt_of_isUnreserved unreserved
    · rw [eq_of_beq isPercent]
      decide
  have each : ∀ code < 0x80, isEscapedChar (Char.ofNat code) = true →
      0x20 < (Char.ofNat code).toNat ∧ Text.isBlankChar (Char.ofNat code) = false ∧
        Url.Parse.endsAuthority true (Char.ofNat code) = false ∧ Char.ofNat code ≠ '@' ∧
        Char.ofNat code ≠ ':' ∧ IsFree inUserinfo (Char.ofNat code) := by decide
  have facts := each character.toNat ascii
  rw [Char.ofNat_toNat] at facts
  exact facts isChar

theorem isEscapedChar_of_mem_escaped {text : String} {character : Char}
    (member : character ∈ (escaped text).toList) : isEscapedChar character = true := by
  have digits : ∀ digit : Char, isEscapeDigit digit = true → isUnreserved digit = true := by
    intro digit isDigit
    rcases Bool.or_eq_true_iff.mp isDigit with isDecimal | isLetter
    · simp [isUnreserved, Char.isAlphanum, isDecimal]
    · have listed := List.contains_iff_mem.mp isLetter
      simp only [List.mem_cons, List.not_mem_nil, or_false] at listed
      rcases listed with rfl | rfl | rfl | rfl | rfl | rfl <;> decide
  rw [escaped, String.toList_ofList] at member
  rcases mem_encode member with free | isPercent | isDigit
  · simp [isEscapedChar, isFree_isReserved_iff.mp free]
  · simp [isEscapedChar, isPercent]
  · simp [isEscapedChar, digits character isDigit]

theorem escaped_ne_empty {text : String} (nonempty : text ≠ "") : escaped text ≠ "" := by
  intro isEmpty
  have noChars : encode isReserved text.toList = [] := String.ofList_injective isEmpty
  have lengths := (length_le_encode isReserved text.toList).1
  rw [noChars] at lengths
  exact nonempty (String.toList_eq_nil_iff.mp (List.length_eq_zero_iff.mp (Nat.le_zero.mp lengths)))

/-- A text is as long as its escaped form only when nothing has to be escaped. -/
theorem length_le_escaped (text : String) :
    text.toList.length ≤ (escaped text).toList.length ∧
      ((escaped text).toList.length = text.toList.length → IsUnreserved text) := by
  obtain ⟨shorter, free⟩ := length_le_encode isReserved text.toList
  rw [escaped, String.toList_ofList]
  refine ⟨shorter, ?_⟩
  intro same
  apply List.all_eq_true.mpr
  intro character member
  exact isFree_isReserved_iff.mp (free same character member)

theorem escaped_eq_self_iff {text : String} : escaped text = text ↔ IsUnreserved text := by
  have characters : escaped text = text ↔ encode isReserved text.toList = text.toList := by
    rw [escaped, String.ext_iff, String.toList_ofList]
  rw [characters, encode_eq_self_iff, IsUnreserved, List.all_eq_true]
  exact forall₂_congr fun _ _ => isFree_isReserved_iff

/-- What is escaped already needs no escapes in a user name or password. -/
theorem encode_inUserinfo_escaped (text : String) :
    String.ofList (encode inUserinfo (escaped text).toList) = escaped text := by
  rw [encode_of_free, String.ofList_toList]
  intro character member
  exact (escapedChar_facts (isEscapedChar_of_mem_escaped member)).2.2.2.2.2

end Percent

/-! ### Authorities -/

namespace Url.Parse

theorem cutUserinfo_of_noSign {place : List Char} (noSign : '@' ∉ place) :
    (splitUserinfo place).getD ([], place) = ([], place) := by
  simp [splitUserinfo, noSign]

theorem cutUserinfo_append (userinfo : List Char) {place : List Char} (noSign : '@' ∉ place) :
    (splitUserinfo (userinfo ++ '@' :: place)).getD ([], userinfo ++ '@' :: place) =
      (userinfo, place) := by
  have noneReversed : ∀ character ∈ place.reverse, (character != '@') = true := by
    intro character member
    apply bne_iff_ne.mpr
    rintro rfl
    exact noSign (List.mem_reverse.mp member)
  have reversed : (userinfo ++ '@' :: place).reverse =
      place.reverse ++ '@' :: userinfo.reverse := by simp
  unfold splitUserinfo
  rw [if_pos (by simp)]
  simp only [reversed, List.takeWhile_append_of_pos noneReversed,
    List.dropWhile_append_of_pos noneReversed]
  simp

theorem readUserinfo_append {username : List Char} (noColon : ':' ∉ username) {password : List Char}
    (secret : password ≠ []) :
    readUserinfo (username ++ ':' :: password) =
      (String.ofList (Percent.encode Percent.inUserinfo username),
        some (String.ofList (Percent.encode Percent.inUserinfo password))) := by
  have before : ∀ character ∈ username, (character != ':') = true := by
    intro character member
    apply bne_iff_ne.mpr
    rintro rfl
    exact noColon member
  unfold readUserinfo
  simp only [List.takeWhile_append_of_pos before, List.dropWhile_append_of_pos before]
  simp [secret]

/-- A special scheme never goes without a host. -/
theorem exists_host_of_readHost {text : List Char} {host : Option Host}
    (read : readHost true text = .ok host) : ∃ found, host = some found := by
  unfold readHost at read
  rw [if_pos rfl] at read
  split at read
  · cases read
  · obtain ⟨found, _, isHost⟩ := map_eq_ok read
    exact ⟨found, isHost.symm⟩

/-- Host and port of the place behind user and password, and what is left of it. -/
def readPlace (scheme : String) (place : List Char) :
    Except UrlError (Option Host × Option Nat × List Char) := do
  let (hostText, portText) := splitPort false place
  let host ← readHost true hostText
  let port ← readPort scheme ((portText.getD []).takeWhile (· != '\\'))
  pure (host, port, (portText.getD []).dropWhile (· != '\\'))

/-- In a text without the end of an authority, its place and its user are read apart. -/
theorem readAuthority_of_cut (scheme : String) {text userinfo place : List Char}
    (cut : (splitUserinfo text).getD ([], text) = (userinfo, place))
    (free : ∀ character ∈ text, endsAuthority true character = false) :
    readAuthority scheme true text =
      (readPlace scheme place).map fun (host, port, rest) =>
        (⟨(readUserinfo userinfo).1, (readUserinfo userinfo).2, host, port⟩, rest) := by
  have goesOn : ∀ character ∈ text, (!endsAuthority true character) = true := by
    intro character member
    rw [free character member]
    rfl
  unfold readAuthority readPlace
  simp only [List.takeWhile_eq_self_iff.mpr goesOn, List.dropWhile_eq_nil_iff.mpr goesOn, cut,
    List.isEmpty_nil, Bool.not_true, Bool.and_false, Bool.false_eq_true, if_false]
  cases read : readHost true (splitPort false place).1 with
  | error fault => rfl
  | ok host =>
      obtain ⟨found, rfl⟩ := exists_host_of_readHost read
      cases (splitPort false place).2 with
      | none =>
          dsimp only [Option.getD_none, List.takeWhile_nil]
          cases readPort scheme [] <;> rfl
      | some written =>
          dsimp only [Option.getD_some]
          rw [List.append_nil]
          cases readPort scheme (written.takeWhile (· != '\\')) <;> rfl

/-! ### Locators -/

/-- What is sent of a text at the end of a reference that is trimmed first. -/
def sentTrimmed (text : List Char) : List Char :=
  sent (text.reverse.dropWhile Text.isBlankChar).reverse

theorem mem_of_mem_sentTrimmed {character : Char} {text : List Char}
    (member : character ∈ sentTrimmed text) : character ∈ text := by
  have trimmed := List.mem_reverse.mp (mem_of_mem_sent member)
  exact List.mem_reverse.mp ((List.dropWhile_sublist _).mem trimmed)

theorem cleaned_trim_append {front : List Char} (nonempty : front ≠ [])
    (visible : ∀ character ∈ front, 0x20 < character.toNat ∧ Text.isBlankChar character = false)
    (tail : List Char) :
    cleaned (Text.trim (String.ofList (front ++ tail))) = front ++ sentTrimmed tail := by
  rw [Text.trim, String.toList_ofList,
    Text.trimBy_append nonempty fun character member => (visible character member).2]
  exact cleaned_append nonempty (fun character member => (visible character member).1) _

theorem visible_http : ∀ character ∈ "http://".toList,
    0x20 < character.toNat ∧ Text.isBlankChar character = false := by
  have each : "http://".toList.all (fun character =>
      0x20 < character.toNat && !Text.isBlankChar character) = true := by decide
  simpa using each

theorem splitScheme_http (rest : List Char) :
    splitScheme ("http://".toList ++ rest) = some ("http", '/' :: '/' :: rest) := by
  rfl

/-- A text of the scheme, behind whose slashes there is nothing but an authority. -/
theorem parse_http {text : String} {rest userinfo place : List Char}
    (written : cleaned text = "http://".toList ++ rest)
    (free : ∀ character ∈ rest, endsAuthority true character = false)
    (cut : (splitUserinfo rest).getD ([], rest) = (userinfo, place)) :
    Url.parse text =
      (readPlace "http" place).map fun (host, port, left) =>
        withAuthority "http" true
          ⟨(readUserinfo userinfo).1, (readUserinfo userinfo).2, host, port⟩ left := by
  have special : isSpecialScheme "http" = true := by decide
  have kept : ('/' :: '/' :: rest).dropWhile isSlash = rest := by
    show rest.dropWhile isSlash = rest
    cases rest with
    | nil => rfl
    | cons first others =>
        have goesOn := free first List.mem_cons_self
        have noSlash : isSlash first = false := by
          simp only [endsAuthority, Bool.true_and, Bool.or_eq_false_iff] at goesOn
          simp [isSlash, goesOn]
        rw [List.dropWhile_cons, noSlash, if_neg Bool.false_ne_true]
  unfold Url.parse
  rw [written, splitScheme_http]
  dsimp only
  unfold readScheme
  rw [if_neg (by decide), if_pos special, kept, readAuthority_of_cut "http" cut free]
  cases readPlace "http" place <;> rfl

end Url.Parse

namespace Url

open Parse Percent

/-- A locator as it is written with a user, a password and a host. -/
def withUser (user password host : String) : String :=
  "http://" ++ escaped user ++ ":" ++ escaped password ++ "@" ++ host

/-- The characters of a host and its port: none that ends an authority or separates a user from it. -/
def isHostChar (character : Char) : Bool :=
  !endsAuthority true character && character != '@'

/-- Escaped user and password, as they stand in front of a host. -/
def userinfoOf (user password : String) : List Char :=
  (escaped user).toList ++ ':' :: (escaped password).toList

theorem userinfoOf_facts {user password : String} {character : Char}
    (member : character ∈ userinfoOf user password) :
    0x20 < character.toNat ∧ Text.isBlankChar character = false ∧
      endsAuthority true character = false := by
  have facts (text : String) (inText : character ∈ (escaped text).toList) :
      0x20 < character.toNat ∧ Text.isBlankChar character = false ∧
        endsAuthority true character = false := by
    obtain ⟨above, notBlank, goesOn, _⟩ :=
      escapedChar_facts (isEscapedChar_of_mem_escaped inText)
    exact ⟨above, notBlank, goesOn⟩
  rcases List.mem_append.mp member with inUser | behind
  · exact facts user inUser
  · rcases List.mem_cons.mp behind with rfl | inPassword
    · decide
    · exact facts password inPassword

theorem readUserinfo_userinfoOf (user : String) {password : String} (secret : password ≠ "") :
    readUserinfo (userinfoOf user password) = (escaped user, some (escaped password)) := by
  have noColon : ':' ∉ (escaped user).toList := by
    intro member
    exact (escapedChar_facts (isEscapedChar_of_mem_escaped member)).2.2.2.2.1 rfl
  have someSecret : (escaped password).toList ≠ [] := by
    intro isEmpty
    exact escaped_ne_empty secret (String.toList_eq_nil_iff.mp isEmpty)
  rw [userinfoOf, readUserinfo_append noColon someSecret, encode_inUserinfo_escaped,
    encode_inUserinfo_escaped]

theorem cleaned_withUser (user password host : String) :
    cleaned (Text.trim (withUser user password host)) =
      "http://".toList ++ (userinfoOf user password ++ '@' :: sentTrimmed host.toList) := by
  have whole : withUser user password host =
      String.ofList ("http://".toList ++ (userinfoOf user password ++ ['@']) ++ host.toList) := by
    apply String.toList_injective
    simp [withUser, userinfoOf]
  have visible : ∀ character ∈ "http://".toList ++ (userinfoOf user password ++ ['@']),
      0x20 < character.toNat ∧ Text.isBlankChar character = false := by
    intro character member
    rcases List.mem_append.mp member with inScheme | behind
    · exact visible_http character inScheme
    · rcases List.mem_append.mp behind with inUserinfo | isSign
      · obtain ⟨above, notBlank, _⟩ := userinfoOf_facts inUserinfo
        exact ⟨above, notBlank⟩
      · rw [List.mem_singleton.mp isSign]
        decide
  rw [whole, cleaned_trim_append (by simp) visible]
  simp

/-- A locator with a user and a password is read as the locator of its host with their escaped
forms. -/
theorem parse_withUser (user : String) {password host : String} (secret : password ≠ "")
    (isHost : host.toList.all isHostChar = true) {bare : Url}
    (parsed : Url.parse (Text.trim ("http://" ++ host)) = .ok bare) :
    bare.IsBare ∧ Url.parse (Text.trim (withUser user password host)) =
      .ok { bare with username := escaped user, password := some (escaped password) } := by
  have placeChars : ∀ character ∈ sentTrimmed host.toList,
      endsAuthority true character = false ∧ character ≠ '@' := by
    intro character member
    have isChar := List.all_eq_true.mp isHost character (mem_of_mem_sentTrimmed member)
    simpa [isHostChar] using isChar
  have placeFree : ∀ character ∈ sentTrimmed host.toList,
      endsAuthority true character = false :=
    fun character member => (placeChars character member).1
  have noSign : '@' ∉ sentTrimmed host.toList := fun member => (placeChars '@' member).2 rfl
  have wholeFree : ∀ character ∈ userinfoOf user password ++ '@' :: sentTrimmed host.toList,
      endsAuthority true character = false := by
    intro character member
    rcases List.mem_append.mp member with inUserinfo | behind
    · exact (userinfoOf_facts inUserinfo).2.2
    · rcases List.mem_cons.mp behind with rfl | inPlace
      · rfl
      · exact placeFree character inPlace
  have alone : cleaned (Text.trim ("http://" ++ host)) =
      "http://".toList ++ sentTrimmed host.toList := by
    rw [← cleaned_trim_append (by decide) visible_http, String.ofList_append,
      String.ofList_toList, String.ofList_toList]
  -- Both texts lead to the same place, so they differ by user and password alone.
  rw [parse_http alone placeFree (cutUserinfo_of_noSign noSign)] at parsed
  rw [parse_http (cleaned_withUser user password host) wholeFree (cutUserinfo_append _ noSign),
    readUserinfo_userinfoOf user secret]
  obtain ⟨⟨place, port, left⟩, found, isBare⟩ := map_eq_ok parsed
  rw [found, ← isBare]
  exact ⟨⟨rfl, rfl⟩, rfl⟩

end Url

end RemoteConfig
