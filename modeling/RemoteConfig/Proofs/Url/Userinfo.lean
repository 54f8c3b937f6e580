import RemoteConfig.Proofs.Outcome
import RemoteConfig.Proofs.Url.PercentCoding
import RemoteConfig.Url.Parse

/-!
Contract: user and password of the locators that are read from text.

Owns:
- locators without user and password;
- a password that is read has text, whatever was written.

Does not own: who a user is to a server.
-/

namespace RemoteConfig

/-- A locator carries neither user nor password. -/
def Url.IsBare (url : Url) : Prop :=
  url.username = "" ∧ url.password = none

theorem Url.isBare_withoutUserinfo (url : Url) : url.withoutUserinfo.IsBare :=
  ⟨rfl, rfl⟩

theorem Url.isBare_of_extend? {url extended : Url} {segments : List String} (bare : url.IsBare)
    (reached : url.extend? segments = some extended) : extended.IsBare := by
  unfold Url.extend? at reached
  split at reached
  · cases reached
  · cases reached
    exact bare

namespace Percent

/-- The code of a character in a user name or password begins with a character that is not blank. -/
theorem exists_encodeChar_inUserinfo (character : Char) :
    ∃ first rest, encodeChar inUserinfo character = first :: rest ∧
      Text.isBlankChar first = false := by
  unfold encodeChar
  split
  · rename_i plain
    refine ⟨character, [], rfl, ?_⟩
    simp only [Bool.and_eq_true, decide_eq_true_eq, Bool.not_eq_true', inUserinfo, inPath, inFragment,
      isControl, Bool.or_eq_false_iff, decide_eq_false_iff_not] at plain
    obtain ⟨ascii, ⟨⟨⟨notLow, _⟩, notListed⟩, _⟩, _⟩ := plain
    have notBlank : character.toNat ≠ 0x20 := by
      intro same
      have blank : character = ' ' := Char.toNat_inj.mp same
      simp [blank] at notListed
    simp only [Text.isBlankChar, Bool.or_eq_false_iff, Bool.and_eq_false_iff, beq_eq_false_iff_ne,
      decide_eq_false_iff_not]
    omega
  · -- Every character has bytes, and the code of the first one begins with a percent sign.
    have some := Utf8.length_encodeChar_pos character
    cases bytes : Utf8.encodeChar character with
    | nil =>
        rw [bytes] at some
        cases some
    | cons byte others => exact ⟨'%', _, rfl, by decide⟩

/-- Written text is text in its code. -/
theorem hasText_encode_inUserinfo {text : List Char} (nonempty : text ≠ []) :
    Text.hasText (String.ofList (encode inUserinfo text)) = true := by
  obtain ⟨character, others, rfl⟩ := List.exists_cons_of_ne_nil nonempty
  obtain ⟨first, rest, encoded, notBlank⟩ := exists_encodeChar_inUserinfo character
  simp [Text.hasText, encode, encoded, notBlank]

end Percent

namespace Url.Parse

theorem hasText_of_readUserinfo {userinfo : List Char} {password : String}
    (read : (readUserinfo userinfo).2 = some password) : Text.hasText password = true := by
  unfold readUserinfo at read
  dsimp only at read
  split at read
  · cases read
  · rename_i nonempty
    cases read
    exact Percent.hasText_encode_inUserinfo (by simpa using nonempty)

/-- The password of an authority is read from its text. -/
theorem password_of_readAuthority {scheme : String} {special : Bool} {text rest : List Char}
    {authority : Authority} (read : readAuthority scheme special text = .ok (authority, rest)) :
    ∃ userinfo, authority.password = (readUserinfo userinfo).2 := by
  unfold readAuthority at read
  dsimp only at read
  split at read
  · cases read
  · obtain ⟨host, _, later⟩ := bind_eq_ok read
    split at later
    · cases later
    · obtain ⟨port, _, made⟩ := bind_eq_ok later
      cases made
      exact ⟨_, rfl⟩

theorem password_of_readFile {text : List Char} {url : Url} (located : readFile text = .ok url) :
    url.password = none := by
  unfold readFile at located
  split at located
  · split at located
    · dsimp only at located
      split at located
      · cases located
        rfl
      · split at located
        · cases located
          rfl
        · obtain ⟨_, _, rfl⟩ := map_eq_ok located
          rfl
    · cases located
      rfl
  · cases located
    rfl

/-- The password of a locator is read from the text of its authority. -/
theorem password_of_readScheme {scheme : String} {text : List Char} {url : Url}
    (located : readScheme scheme text = .ok url) :
    url.password = none ∨ ∃ userinfo, url.password = (readUserinfo userinfo).2 := by
  unfold readScheme at located
  split at located
  · exact .inl (password_of_readFile located)
  · split at located
    · obtain ⟨_, read, rfl⟩ := map_eq_ok located
      exact .inr (password_of_readAuthority read)
    · split at located
      · obtain ⟨_, read, rfl⟩ := map_eq_ok located
        exact .inr (password_of_readAuthority read)
      · cases located
        exact .inl rfl

end Url.Parse

open Url.Parse in
/-- A password that was read has text. -/
theorem Url.hasText_of_parse {text : String} {url : Url} (parsed : Url.parse text = .ok url)
    {password : String} (present : url.password = some password) : Text.hasText password = true := by
  unfold Url.parse at parsed
  split at parsed
  · rcases password_of_readScheme parsed with absent | ⟨userinfo, read⟩
    · simp [absent] at present
    · exact hasText_of_readUserinfo (read.symm.trans present)
  · cases parsed

end RemoteConfig
