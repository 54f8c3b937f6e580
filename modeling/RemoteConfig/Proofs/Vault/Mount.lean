import Mathlib.Data.List.TakeWhile
import RemoteConfig.Proofs.Outcome
import RemoteConfig.Proofs.Url.Course
import RemoteConfig.Proofs.Vault.SecretPath
import RemoteConfig.Vault.HttpClient
import RemoteConfig.Vault.Repository

/-!
Contract: the locators of secrets, and the part of the Vault in which they are.

Owns:
- the mount of the secrets;
- which keys and labels keep the request for a secret below the mount;
- `reads_isBelow_iff`: the requests of a lookup with a token, and when they stay below the mount.

Does not own: the text of the path of a secret, and how the answers become an environment.
-/

namespace RemoteConfig

/-- A locator leads below some segments of a path, and asks for nothing else. -/
def Url.IsBelow (url : Url) (segments : List String) : Prop :=
  (∃ rest, rest ≠ [] ∧ url.path = .segments (segments ++ rest)) ∧
    url.query = none ∧ url.fragment = none

namespace VaultSettings

/-! ### The mount -/

/-- The backend without slashes around it. -/
def backendText (settings : VaultSettings) : List Char :=
  (withoutLast settings.backend).toList.dropWhile isSeparator

/-- Backend and place of the keys are plain names between slashes; the place may be empty. -/
def HasPlainMount (settings : VaultSettings) : Prop :=
  (∀ name ∈ Text.splitChars '/' settings.backendText, UrlPath.IsPlainName name) ∧
    (settings.innerText = [] ∨
      ∀ name ∈ Text.splitChars '/' settings.innerText, UrlPath.IsPlainName name)

instance (settings : VaultSettings) : Decidable settings.HasPlainMount :=
  inferInstanceAs (Decidable (_ ∧ _))

/-- The names below which all secrets are: the backend, `data` for its second version, and the place
of the keys. -/
def mountNames (settings : VaultSettings) : List (List Char) :=
  Text.splitChars '/' settings.backendText
    ++ (if settings.kvVersion = 2 then ["data".toList] else [])
    ++ (if settings.innerText.isEmpty then [] else Text.splitChars '/' settings.innerText)

/-- The segments below which all secrets are, given those of the address of the Vault. -/
def mount (settings : VaultSettings) (address : List String) : List String :=
  address.dropLast ++ "v1" :: settings.mountNames.map String.ofList

/-- The segments of what stands behind the mount, as they are sent over HTTP. -/
def tailSegments (settings : VaultSettings) (key : String) (label : Option String) :
    List (List Char) :=
  UrlPath.splitSegments true (Url.sent (settings.tailText key label).toList)

/-- Does a key with a label stay below the mount? The characters that end a path may not occur; and
when the dot segments climb out of the mount, the names behind them have to lead back into it. -/
def IsContained (settings : VaultSettings) (address : List String) (key : String)
    (label : Option String) : Prop :=
  (∀ character ∈ (settings.tailText key label).toList, character ≠ '?' ∧ character ≠ '#') ∧
    (UrlPath.Course.start.follow (Url.Parse.pathRules "http")
      (settings.tailSegments key label)).StaysBelow (settings.mount address)

/-- A key with a label is contained when nothing in it ends the path and none of its segments is a
dot segment. -/
theorem isContained_of_noDots {settings : VaultSettings} (address : List String) {key : String}
    {label : Option String}
    (free : ∀ character ∈ (settings.tailText key label).toList, character ≠ '?' ∧ character ≠ '#')
    (noDots : ∀ segment ∈ settings.tailSegments key label,
      UrlPath.isUp (UrlPath.written (Url.Parse.pathRules "http") segment).toList = false ∧
        UrlPath.isHere (UrlPath.written (Url.Parse.pathRules "http") segment).toList = false) :
    settings.IsContained address key label := by
  have course := UrlPath.Course.follow_of_noDots UrlPath.Course.start noDots
  refine ⟨free, (settings.tailSegments key label).map (UrlPath.written (Url.Parse.pathRules "http")),
    ?_, ?_⟩
  · rw [Ne, List.map_eq_nil_iff]
    exact Text.splitChars_ne_nil _ _
  · rw [course]
    simp [UrlPath.Course.start]

/-! ### The text of the mount -/

/-- The text of the mount, from the version of the interface on. -/
def front (settings : VaultSettings) : List Char :=
  "v1/".toList ++ settings.backendText ++ settings.mountRest

/-- The names of the mount are what stands between the slashes of its text. -/
theorem splitChars_mountRest (settings : VaultSettings) :
    Text.splitChars '/' (settings.backendText ++ settings.mountRest) = settings.mountNames := by
  have data : "/data".toList = '/' :: "data".toList := by decide
  have dataName : Text.splitChars '/' "data".toList = ["data".toList] := by decide
  unfold mountRest mountNames
  rw [data]
  generalize "data".toList = name at dataName ⊢
  by_cases second : settings.kvVersion = 2
  · by_cases empty : settings.innerText.isEmpty = true
    · simp [second, empty, dataName, Text.splitChars_append]
    · simp [second, empty, dataName, Text.splitChars_append]
  · by_cases empty : settings.innerText.isEmpty = true
    · simp [second, empty]
    · simp [second, empty, Text.splitChars_append]

theorem splitChars_front (settings : VaultSettings) :
    Text.splitChars '/' settings.front = "v1".toList :: settings.mountNames := by
  have address : "v1/".toList = "v1".toList ++ ['/'] := by decide
  have version : Text.splitChars '/' "v1".toList = ["v1".toList] := by decide
  unfold front
  rw [address]
  generalize "v1".toList = name at version ⊢
  rw [List.append_assoc, List.append_assoc, List.singleton_append, Text.splitChars_append, version,
    splitChars_mountRest, List.singleton_append]

theorem plain_front {settings : VaultSettings} (plain : settings.HasPlainMount) :
    ∀ name ∈ Text.splitChars '/' settings.front, UrlPath.IsPlainName name := by
  obtain ⟨backend, inner⟩ := plain
  intro name member
  rw [splitChars_front] at member
  rcases List.mem_cons.mp member with rfl | named
  · decide
  · unfold mountNames at named
    rcases List.mem_append.mp named with outer | inside
    · rcases List.mem_append.mp outer with inBackend | isData
      · exact backend name inBackend
      · split at isData
        · rw [List.mem_singleton.mp isData]
          decide
        · cases isData
    · split at inside
      · cases inside
      · rename_i further
        rcases inner with empty | names
        · exact absurd (by rw [empty]; rfl) further
        · exact names name inside

/-- The segments of the mount are those that its text has behind the address. -/
theorem mount_eq (settings : VaultSettings) (address : List String) :
    settings.mount address =
      address.dropLast ++ (Text.splitChars '/' settings.front).map String.ofList := by
  have version : String.ofList "v1".toList = "v1" := by decide
  rw [splitChars_front, List.map_cons, version]
  rfl

theorem backendText_ne_nil {settings : VaultSettings} (plain : settings.HasPlainMount) :
    settings.backendText ≠ [] := by
  intro empty
  have nameless := plain.1 [] (by rw [empty]; exact List.mem_singleton.mpr rfl)
  exact nameless.1 rfl

/-- The reference to a secret goes through the mount, whatever slashes its path begins with. -/
theorem reference_secretPath {settings : VaultSettings} (plain : settings.HasPlainMount)
    (key : String) (label : Option String) :
    "v1/" ++ String.ofList ((settings.secretPath key label).toList.dropWhile (· == '/')) =
      String.ofList (settings.front ++ '/' :: (settings.tailText key label).toList) := by
  have started : (settings.secretPath key label).toList.dropWhile (· == '/') =
      settings.backendText ++ settings.mountRest ++ '/' :: (settings.tailText key label).toList := by
    have nonempty := backendText_ne_nil plain
    rw [secretPath_toList, List.append_assoc, List.dropWhile_append]
    change (if settings.backendText.isEmpty then _ else settings.backendText ++ _) = _
    rw [if_neg (by simpa using nonempty), List.append_assoc]
  rw [started, front]
  generalize "v1/" = version
  simp only [List.append_assoc, String.ofList_append, String.ofList_toList]

end VaultSettings

/-! ### The locator of a secret -/

namespace VaultClient

open Url.Parse VaultSettings

/-- A secret can always be asked for, and the request stays below the mount exactly when the key
with its label is contained. -/
theorem readRequest_isBelow_iff {client : VaultClient} {address : List String}
    (isBase : client.base.path = .segments address)
    (web : client.base.scheme = "http" ∨ client.base.scheme = "https") {settings : VaultSettings}
    (plain : settings.HasPlainMount) (key : String) (label : Option String) (token : String) :
    ∃ request, client.readRequest (settings.secretPath key label) token = .ok request ∧
      (request.url.IsBelow (settings.mount address) ↔ settings.IsContained address key label) := by
  have notFile : client.base.scheme ≠ "file" := by
    rcases web with isHttp | isHttps
    · simp [isHttp]
    · simp [isHttps]
  have rules : pathRules client.base.scheme = pathRules "http" := by
    rcases web with isHttp | isHttps
    · rw [isHttp]
    · simp [isHttps, pathRules]
  obtain ⟨url, joined, path, ending⟩ :=
    Url.joinPath_plain isBase notFile (plain_front plain) (settings.tailText key label).toList
  have located : client.pathUrl (settings.secretPath key label) = .ok url := by
    unfold pathUrl
    dsimp only
    rw [reference_secretPath plain, joined]
  refine ⟨⟨url, client.headers (some token), none⟩, by rw [readRequest, located]; rfl, ?_⟩
  rw [rules, Url.isSpecial_of_web web, ← mount_eq] at path
  unfold Url.IsBelow IsContained
  dsimp only
  rw [ending, UrlPath.Course.staysBelow_iff, and_comm]
  refine and_congr_right fun free => ?_
  -- Without the characters that end a path, all that is sent of the tail is resolved.
  have whole : ((Url.sent (settings.tailText key label).toList).takeWhile fun c => !endsPath c) =
      Url.sent (settings.tailText key label).toList := by
    refine List.takeWhile_eq_self_iff.mpr fun character member => ?_
    have inTail : character ∈ (settings.tailText key label).toList :=
      Url.mem_of_mem_sent member
    simp [endsPath, free character inTail]
  rw [path, whole, ← tailSegments]
  simp only [UrlPath.segments.injEq]

end VaultClient

/-! ### The requests of a lookup -/

namespace VaultRepository

open VaultSettings

/-- The settings by default, of a Vault on the same machine. -/
def localSettings : VaultSettings :=
  { VaultSettings.defaults with host := "[::1]" }

/-- The address of a Vault on the same machine. -/
def localAddress : Url :=
  ⟨"http", true, "", none, some (.groups [0, 0, 0, 0, 0, 0, 0, 1]), some 8200, .segments [""], none,
    none⟩

/-- Reading keys calls for them one after the other, up to some key. -/
theorem readKeys_calls (repository : VaultRepository) (label : Option String) (token : String)
    (keys : List String) (history : List VaultCall) :
    (repository.readKeys label token keys history).calls <+:
      keys.map fun key => .read (repository.settings.secretPath key label) token := by
  induction keys generalizing history with
  | nil => exact List.prefix_rfl
  | cons key rest inductionHypothesis =>
      rw [List.map_cons, readKeys]
      dsimp only
      split
      · exact List.prefix_append [_] _
      · exact (List.prefix_cons_inj _).mpr (inductionHypothesis _)

/-- A lookup with a token asks for the secrets of its keys and for nothing else, and each request stays
below the mount exactly when the key with the label is contained. -/
theorem reads_isBelow_iff (repository : VaultRepository) (client : VaultClient) {text : String}
    (parsed : Url.parse text = .ok client.base)
    (web : client.base.scheme = "http" ∨ client.base.scheme = "https")
    (plain : repository.settings.HasPlainMount) (query : RepositoryQuery) (token : String) :
    (∀ session, ∃ reads,
      (repository.findForToken query token session).memory.calls = session.calls ++ reads ∧
        reads <+: (repository.keys query).map fun key =>
          .read (repository.settings.secretPath key query.label) token) ∧
      ∃ address, client.base.path = .segments address ∧
        ∀ key ∈ repository.keys query, ∃ request,
          client.readRequest (repository.settings.secretPath key query.label) token = .ok request ∧
            (request.url.IsBelow (repository.settings.mount address) ↔
              repository.settings.IsContained address key query.label) := by
  obtain ⟨address, isBase⟩ := Url.segments_of_parse parsed (Url.isSpecial_of_web web)
  constructor
  · intro session
    exact ⟨_, rfl, repository.readKeys_calls query.label token (repository.keys query) session.calls⟩
  · refine ⟨address, isBase, fun key _ => ?_⟩
    exact VaultClient.readRequest_isBelow_iff isBase web plain key query.label token

/-- The secret of an application with a plain name is below the mount. -/
theorem reads_isBelow_app :
    ∃ request,
      (VaultClient.mk localAddress none).readRequest
          (localSettings.secretPath "app" none) "s.root" = .ok request ∧
        request.url.IsBelow (localSettings.mount [""]) := by
  have parsed : Url.parse "http://[::1]:8200" = .ok localAddress :=
    eq_ok_of_toOption (by decide +kernel)
  have plain : localSettings.HasPlainMount := by decide +kernel
  have isKey : "app" ∈ localSettings.keys "app" [] := by decide +kernel
  have tail : localSettings.tailText "app" none = "app" := by decide +kernel
  have contained : localSettings.IsContained [""] "app" none :=
    isContained_of_noDots [""] (by simp [tail]) (by decide +kernel)
  obtain ⟨_, address, isBase, requests⟩ :=
    reads_isBelow_iff
      ⟨localSettings, ⟨.empty, [], 0, []⟩,
        ⟨fun _ _ _ => .ok none, fun _ _ _ _ => .ok "", fun _ _ => .ok ""⟩⟩
      ⟨localAddress, none⟩ parsed (.inl rfl) plain ⟨"app", "", none⟩ "s.root"
  cases isBase
  obtain ⟨request, made, isBelow⟩ := requests "app" isKey
  exact ⟨request, made, isBelow.mpr contained⟩

/-- A key that climbs reaches the other parts of the Vault. -/
theorem readRequest_climbs :
    localSettings.baseUrl.toOption = some localAddress ∧
      localSettings.HasPlainMount ∧
      "../sys/mounts" ∈ localSettings.keys "../sys/mounts" [] ∧
      ∃ request,
        (VaultClient.mk localAddress none).readRequest
            (localSettings.secretPath "../sys/mounts" none) "s.root" = .ok request ∧
          request.url.path = .segments ["v1", "sys", "mounts"] ∧
          ¬ request.url.IsBelow (localSettings.mount [""]) := by
  have address : localSettings.baseUrl.toOption = some localAddress := by decide +kernel
  have plain : localSettings.HasPlainMount := by decide +kernel
  have isKey : "../sys/mounts" ∈ localSettings.keys "../sys/mounts" [] := by decide +kernel
  have reached : (VaultClient.mk localAddress none).readRequest
      (localSettings.secretPath "../sys/mounts" none) "s.root" =
        .ok ⟨{ localAddress with path := .segments ["v1", "sys", "mounts"] },
          [("X-Vault-Token", "s.root")], none⟩ :=
    eq_ok_of_toOption (by decide +kernel)
  have mount : localSettings.mount [""] = ["v1", "secret"] := by decide +kernel
  refine ⟨address, plain, isKey, _, reached, rfl, ?_⟩
  rintro ⟨⟨rest, _, below⟩, _⟩
  rw [mount] at below
  simp at below

end VaultRepository

end RemoteConfig
