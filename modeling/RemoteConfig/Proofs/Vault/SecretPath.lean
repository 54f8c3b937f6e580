import RemoteConfig.Vault.Keys

/-!
Contract: how the path of a secret is written.

Owns:
- the text of the mount of the secrets, and what stands behind it in the path of a secret;
- `secretPath_eq_spelledPath`: the path is backend, `data` for its second version, the place of the
  keys, the key, and a label where labels are enabled.

Does not own: where the path leads below the address of the Vault.
-/

namespace RemoteConfig.VaultSettings

/-- The place of the keys in the backend, without slashes around it. -/
def innerText (settings : VaultSettings) : List Char :=
  Text.trimBy isSeparator settings.pathToKey.toList

/-- The text of the mount behind the backend. -/
def mountRest (settings : VaultSettings) : List Char :=
  (if settings.kvVersion = 2 then "/data".toList else [])
    ++ (if settings.innerText.isEmpty then [] else '/' :: settings.innerText)

/-- What stands behind the mount in the path of a secret. -/
def tailText (settings : VaultSettings) (key : String) (label : Option String) : String :=
  Text.join "/" (key :: settings.labelPart label)

theorem join_cons (separator first : String) {others : List String} (more : others ≠ []) :
    Text.join separator (first :: others) = first ++ separator ++ Text.join separator others := by
  cases others with
  | nil => exact absurd rfl more
  | cons second rest => rfl

/-- The path of a secret is the text of the mount, a slash, and the rest. -/
theorem secretPath_toList (settings : VaultSettings) (key : String) (label : Option String) :
    (settings.secretPath key label).toList =
      (withoutLast settings.backend).toList ++ settings.mountRest ++
        '/' :: (settings.tailText key label).toList := by
  have inner : (String.ofList settings.innerText).isEmpty = settings.innerText.isEmpty := by
    cases settings.innerText <;> simp
  have parts : settings.pathParts key label =
      [withoutLast settings.backend] ++ (if settings.kvVersion = 2 then ["data"] else [])
        ++ (if settings.innerText.isEmpty then [] else [String.ofList settings.innerText])
        ++ key :: settings.labelPart label := by
    rw [← inner]
    rfl
  unfold secretPath mountRest tailText
  rw [parts]
  by_cases second : settings.kvVersion = 2
  · by_cases empty : settings.innerText.isEmpty = true
    · simp [second, empty, join_cons]
    · simp [second, empty, join_cons]
  · by_cases empty : settings.innerText.isEmpty = true
    · simp [second, empty, join_cons]
    · simp [second, empty, join_cons]

/-- The label in the paths of secrets: that of the caller if it has text, and else the default one. -/
def labelText (settings : VaultSettings) : Option String → String
  | some label => if Text.hasText label then label else settings.defaultLabel
  | none => settings.defaultLabel

/-- The path of a secret, part by part: `backend[/data]/[path_to_key/]key[/label]`. -/
def spelledPath (settings : VaultSettings) (key : String) (label : Option String) : String :=
  withoutLast settings.backend ++ (if settings.kvVersion = 2 then "/data" else "")
    ++ (if settings.innerText = [] then "" else "/" ++ String.ofList settings.innerText)
    ++ "/" ++ key ++ (if settings.labelEnabled then "/" ++ settings.labelText label else "")

theorem tailText_eq (settings : VaultSettings) (key : String) (label : Option String) :
    settings.tailText key label =
      key ++ if settings.labelEnabled then "/" ++ settings.labelText label else "" := by
  have effective : (Text.nonBlank label).getD settings.defaultLabel = settings.labelText label := by
    cases label with
    | none => rfl
    | some label =>
        rw [labelText]
        split
        · rename_i isText
          rw [Text.nonBlank_of_hasText isText, Option.getD_some]
        · rename_i isBlank
          rw [Text.nonBlank_of_blank (Bool.eq_false_iff.mpr isBlank), Option.getD_none]
  unfold tailText labelPart
  rw [effective]
  cases settings.labelEnabled with
  | true => simp [Text.join, String.append_assoc]
  | false => simp [Text.join]

/-- The path of a secret is made of these parts, under every label. -/
theorem secretPath_eq_spelledPath (settings : VaultSettings) (key : String) (label : Option String) :
    settings.secretPath key label = settings.spelledPath key label := by
  apply String.toList_inj.mp
  rw [secretPath_toList, tailText_eq, spelledPath, mountRest]
  by_cases second : settings.kvVersion = 2
  · by_cases empty : settings.innerText = []
    · simp [second, empty]
    · simp [second, empty]
  · by_cases empty : settings.innerText = []
    · simp [second, empty]
    · simp [second, empty]

end RemoteConfig.VaultSettings
