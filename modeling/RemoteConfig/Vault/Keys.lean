import RemoteConfig.Text.Split
import RemoteConfig.Vault.Settings

/-!
Contract: the secrets that may hold the properties of an environment, and where they are.

Owns:
- the keys of the secrets, from the highest precedence down;
- the path of a secret below the address of the Vault.

Does not own: reading secrets.
-/

namespace RemoteConfig.VaultSettings

/-- The names that keys are built from: the shared one, unless an application is called so, and then
the applications. -/
def keyBases (settings : VaultSettings) (applications : List String) : List String :=
  if applications.contains settings.defaultKey then applications
  else settings.defaultKey :: applications

/-- The keys of one name: the name itself, and then one for each profile. -/
def keysOf (settings : VaultSettings) (profiles : List String) (base : String) : List String :=
  base :: profiles.map fun profile => base ++ settings.profileSeparator ++ profile

/-- The keys of the secrets of some applications, from the highest precedence down: the last profile
of the last application comes first. -/
def keys (settings : VaultSettings) (application : String) (profiles : List String) :
    List String :=
  ((settings.keyBases (Text.splitList application)).flatMap (settings.keysOf profiles)).reverse

/-- Is a character the separator of the parts of a path? -/
def isSeparator (character : Char) : Bool :=
  character == '/'

/-- A text without separators at its end. -/
def withoutLast (text : String) : String :=
  String.ofList ((text.toList.reverse.dropWhile isSeparator).reverse)

/-- The part of a path for which a label stands, when paths have one. -/
def labelPart (settings : VaultSettings) (label : Option String) : List String :=
  if settings.labelEnabled then [(Text.nonBlank label).getD settings.defaultLabel] else []

def pathParts (settings : VaultSettings) (key : String) (label : Option String) : List String :=
  let inner := String.ofList (Text.trimBy isSeparator settings.pathToKey.toList)
  [withoutLast settings.backend]
    ++ (if settings.kvVersion = 2 then ["data"] else [])
    ++ (if inner.isEmpty then [] else [inner])
    ++ key :: settings.labelPart label

def secretPath (settings : VaultSettings) (key : String) (label : Option String) : String :=
  Text.join "/" (settings.pathParts key label)

end RemoteConfig.VaultSettings
