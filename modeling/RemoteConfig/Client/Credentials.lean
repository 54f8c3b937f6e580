import RemoteConfig.Client.FetchError
import RemoteConfig.Client.Settings
import RemoteConfig.Text.Diagnostic
import RemoteConfig.Url.Parse

/-!
Contract: who a client is to each server, and the list of servers of one walk.

Owns:
- taking user and password out of the locator of a server;
- the rule that a configured password wins over one in the locator;
- servers that are configured one by one, and discovered ones that share one credential.

Does not own: how credentials travel in a request.
-/

namespace RemoteConfig

/-- The locator of a server without user and password, and the credentials for it. -/
structure Credentials where
  uri : Url
  username : Option String
  password : Option String
deriving DecidableEq, Repr

/-- Servers found by discovery, with the credential that they share. -/
structure DiscoveredInstances where
  uris : List String
  username : Option String
  password : Option String
deriving DecidableEq, Repr, Inhabited

/-- The servers of one walk. -/
inductive ServerTargets where
  | configured (settings : ClientSettings)
  | discovered (instances : DiscoveredInstances)
deriving Repr

namespace Credentials

/-- Takes user and password out of a locator. Given ones with text count unless the locator has a
user or a password, and no password is given. -/
def ofUri (written : String) (username password : Option String) :
    Except FetchError Credentials :=
  match Url.parse (Text.trim written) with
  | .error fault => .error (.invalidUri written fault.message)
  | .ok uri =>
    let given : Credentials := ⟨uri, Text.nonBlank username, Text.nonBlank password⟩
    let hasUserinfo := !uri.username.isEmpty || uri.password.any Text.hasText
    if !hasUserinfo then .ok given
    else
      let bare := { given with uri := uri.withoutUserinfo }
      if bare.password.isSome then .ok bare
      else
        .ok
          { bare with
            username := some uri.username |>.filter fun name => !name.isEmpty
            password := uri.password }

/-- The credentials for people; the password is not shown. -/
def describe (credentials : Credentials) : String :=
  Diagnostic.record "Credentials"
    [("uri", Diagnostic.quoted credentials.uri.text),
      ("username", Diagnostic.option Diagnostic.quoted credentials.username),
      ("password", Diagnostic.option (fun _ => Diagnostic.quoted "***") credentials.password)]

end Credentials

namespace ClientSettings

/-- The credentials for the configured server at a position. -/
def credentials (settings : ClientSettings) (index : Nat) : Except FetchError Credentials :=
  match settings.uris[index]? with
  | none => .error (.configuration (.noServerAt index settings.uris.length))
  | some written => Credentials.ofUri written (some settings.username) settings.password

end ClientSettings

namespace ServerTargets

/-- The servers as they are written. -/
def uris : ServerTargets → List String
  | configured settings => settings.uris
  | discovered instances => instances.uris

/-- The number of servers. -/
def length (targets : ServerTargets) : Nat :=
  targets.uris.length

/-- The server at a position as it is written; empty beyond the last one. -/
def writtenUri (targets : ServerTargets) (index : Nat) : String :=
  targets.uris[index]?.getD ""

def credentials (targets : ServerTargets) (index : Nat) : Except FetchError Credentials :=
  match targets with
  | configured settings => settings.credentials index
  | discovered instances =>
    match instances.uris[index]? with
    | none => .error (.configuration (.noInstanceAt index))
    | some written =>
      (Credentials.ofUri written none none).map fun found =>
        { found with username := instances.username, password := instances.password }

end ServerTargets

end RemoteConfig
