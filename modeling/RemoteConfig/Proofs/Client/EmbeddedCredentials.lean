import RemoteConfig.Http.Exchange
import RemoteConfig.Proofs.Client.Isolation
import RemoteConfig.Proofs.Text.Base64
import RemoteConfig.Proofs.Url.EmbeddedUserinfo

/-!
Contract: a client that is given a user and a password in the locator of a server.

Owns:
- which credentials such a locator stands for, and which authorization is sent for them;
- `resolution_embeddedUser`: both are those of the escaped user and password, hence those of the user
  and password themselves exactly when nothing in them has to be escaped.

Does not own: locators that are read with other parts, and passwords that are configured apart.
-/

namespace RemoteConfig

open Percent

namespace ConfigRequest

/-- The value under which a user with a password is authorized. -/
def basicAuthorization (user password : String) : String :=
  "Basic " ++ Base64.encodeText Base64.standard (user ++ ":" ++ password)

/-- The value tells the pair of user and password, with the colon between them. -/
theorem pair_of_basicAuthorization {user password otherUser otherPassword : String}
    (same : basicAuthorization user password = basicAuthorization otherUser otherPassword) :
    user ++ ":" ++ password = otherUser ++ ":" ++ otherPassword := by
  have encoded := (String.append_right_inj _).mp same
  have legible : Base64.standard.Legible := Base64.legible_forms _ List.mem_cons_self
  have bytes := Base64.encode_injective legible encoded
  exact Utf8.encode_injective bytes

theorem basicAuthorization_escaped_iff (user password : String) :
    basicAuthorization (escaped user) (escaped password) = basicAuthorization user password ↔
      IsUnreserved user ∧ IsUnreserved password := by
  obtain ⟨userShorter, userSame⟩ := length_le_escaped user
  obtain ⟨passwordShorter, passwordSame⟩ := length_le_escaped password
  constructor
  · intro same
    -- Neither of the two becomes shorter, so as long as both together they have their own lengths.
    have lengths := congrArg (fun text => text.toList.length) (pair_of_basicAuthorization same)
    simp only [String.toList_append, List.length_append] at lengths
    exact ⟨userSame (by omega), passwordSame (by omega)⟩
  · rintro ⟨user, password⟩
    rw [escaped_eq_self_iff.mpr user, escaped_eq_self_iff.mpr password]

end ConfigRequest

/-- Without a password of its own, a client has the escaped user and password of the locator. -/
theorem ClientSettings.credentials_withUser {settings : ClientSettings} {index : Nat}
    {user password host : String} {bare : Url} (named : user ≠ "") (secret : password ≠ "")
    (isHost : host.toList.all Url.isHostChar = true)
    (parsed : Url.parse (Text.trim ("http://" ++ host)) = .ok bare)
    (written : settings.uris[index]? = some (Url.withUser user password host))
    (noPassword : Text.nonBlank settings.password = none) :
    settings.credentials index = .ok ⟨bare, some (escaped user), some (escaped password)⟩ := by
  obtain ⟨isBare, read⟩ := Url.parse_withUser user secret isHost parsed
  have isNamed : (escaped user).isEmpty = false := by
    rw [String.isEmpty_eq_false_iff]
    exact escaped_ne_empty named
  have withoutUserinfo : { bare with username := "", password := none } = bare := by
    rw [← isBare.1, ← isBare.2]
  unfold ClientSettings.credentials
  rw [written]
  dsimp only
  unfold Credentials.ofUri
  rw [read]
  simp [isNamed, noPassword, Url.withoutUserinfo, withoutUserinfo]

namespace Walk

/-- Whoever is named in the locator of a configured server is asked for there under the escaped user
and password, which are the user and password themselves only when nothing in them is escaped. -/
theorem resolution_embeddedUser {resource : ConfigResource} {server : Nat}
    {user password host : String} {bare : Url} (named : user ≠ "") (secret : password ≠ "")
    (isHost : host.toList.all Url.isHostChar = true)
    (parsed : Url.parse (Text.trim ("http://" ++ host)) = .ok bare)
    (written : resource.settings.uris[server]? = some (Url.withUser user password host))
    (noPassword : Text.nonBlank resource.settings.password = none) :
    resource.settings.credentials server =
        .ok ⟨bare, some (escaped user), some (escaped password)⟩ ∧
      (escaped user = user ∧ escaped password = password ↔
        IsUnreserved user ∧ IsUnreserved password) ∧
      (resource.settings.discovery.enabled = false →
        ∀ (loader : Loader) (history : List ConfigRequest) (context : LoadContext) (number : Nat)
          (request : ConfigRequest), number % resource.settings.uris.length = server →
          (loader.resolve history ⟨resource, context⟩).requests[number]? = some request →
          request.authorizations =
            [ConfigRequest.basicAuthorization (escaped user) (escaped password)]) ∧
      (ConfigRequest.basicAuthorization (escaped user) (escaped password) =
          ConfigRequest.basicAuthorization user password ↔
        IsUnreserved user ∧ IsUnreserved password) := by
  have found := ClientSettings.credentials_withUser named secret isHost parsed written noPassword
  refine ⟨found, ?_, ?_, ConfigRequest.basicAuthorization_escaped_iff user password⟩
  · rw [escaped_eq_self_iff, escaped_eq_self_iff]
  · intro static loader history context number request isServer made
    rw [loader.resolve_requests] at made
    have plan := planned_of_request made
    have length : (servers resource context).length = resource.settings.uris.length := by
      rw [servers_of_static static]
      rfl
    rw [length, isServer] at plan
    obtain ⟨_, credentials, valid, isFound, built⟩ := parts_of_planned plan
    rw [servers_of_static static] at isFound
    cases isFound.symm.trans found
    rw [ConfigRequest.authorizations_of_build valid built]
    rfl

/-- A server under a locator with user and password. -/
def signedIn (user password : String) : ConfigResource :=
  .required { ClientSettings.defaults with uris := [Url.withUser user password "[::1]:8888"] } []

/-- Nothing is escaped in a user and a password of letters, digits, dots and dashes. -/
theorem resolution_embeddedUser_plain :
    (signedIn "alice-1" "s_e~c.t").settings.uris = ["http://alice-1:s_e~c.t@[::1]:8888"] ∧
    (∃ bare, (signedIn "alice-1" "s_e~c.t").settings.credentials 0 =
      .ok ⟨bare, some "alice-1", some "s_e~c.t"⟩) ∧
    ∃ request, (unknowing.resolve [] ⟨signedIn "alice-1" "s_e~c.t", ⟨none, none⟩⟩).requests[0]? =
        some request ∧
      request.authorizations = [ConfigRequest.basicAuthorization "alice-1" "s_e~c.t"] := by
  have isSent : ((unknowing.resolve [] ⟨signedIn "alice-1" "s_e~c.t", ⟨none, none⟩⟩).requests[0]?).isSome =
      true := by decide +kernel
  have isHost : ((Url.parse (Text.trim ("http://" ++ "[::1]:8888"))).toOption).isSome = true := by
    decide +kernel
  obtain ⟨request, made⟩ := Option.isSome_iff_exists.mp isSent
  obtain ⟨bare, parsed⟩ := Option.isSome_iff_exists.mp isHost
  have written : (signedIn "alice-1" "s_e~c.t").settings.uris[0]? =
      some (Url.withUser "alice-1" "s_e~c.t" "[::1]:8888") := rfl
  obtain ⟨found, same, sent, _⟩ := resolution_embeddedUser (by decide) (by decide) (by decide)
    (eq_ok_of_toOption parsed) written rfl
  have plain : IsUnreserved "alice-1" ∧ IsUnreserved "s_e~c.t" := by decide
  have authorized := sent rfl unknowing [] ⟨none, none⟩ 0 request rfl made
  obtain ⟨user, password⟩ := same.mpr plain
  rw [user, password] at found authorized
  exact ⟨by decide +kernel, ⟨bare, found⟩, request, made, authorized⟩

/-- The sign in a user's name is escaped in the locator, and stays so in the credentials and in the
authorization. -/
theorem embeddedUser_staysEscaped :
    (signedIn "a@b" "p").settings.uris = ["http://a%40b:p@[::1]:8888"] ∧
    ((signedIn "a@b" "p").settings.credentials 0).toOption.bind Credentials.username =
      some "a%40b" ∧
    ((unknowing.resolve [] ⟨signedIn "a@b" "p", ⟨none, none⟩⟩).requests.map
      ConfigRequest.authorizations) ≠ [[ConfigRequest.basicAuthorization "a@b" "p"]] := by
  decide +kernel

end Walk

end RemoteConfig
