import RemoteConfig.Crypto.Certificate
import RemoteConfig.Error
import RemoteConfig.Text.Search
import RemoteConfig.Vault.Settings

/-!
Contract: the stores of certificates that a connection to a Vault uses.

Owns:
- cutting a trust store into blocks and checking that each holds a certificate;
- the checks of all stores in order, and what is reported meanwhile.

Does not own: the form of certificates. Archives of keys cannot be opened, so a key store is always
refused.
-/

namespace RemoteConfig

namespace TrustStore

/-- The blocks of a trust store in which a certificate begins. -/
def blocks (text : String) : List String :=
  let characters := text.toList
  let found := (Text.partsAfter (Pem.lastLine Certificate.label) characters.length characters).filter
    (Text.contains (Pem.firstLine Certificate.label))
  found.map fun block => Text.trim (String.ofList block)

/-- Why a trust store with some content is refused, if it is. -/
def fault? (path : String) (content : Bytes) : Option VaultSettingFault :=
  let found := blocks (Utf8.decodeLenient content)
  if !found.all Certificate.isHeldBy then some (.invalidStore .trust path)
  else if found.isEmpty then some (.emptyTrustStore path)
  else none

end TrustStore

namespace TlsSettings

/-- The content of a store. -/
def readStore (files : FileSystem) (store : CertificateStore) (path : String) :
    Except VaultSettingFault Bytes :=
  match files.readBytes path with
  | .ok content => .ok content
  | .error fault => .error (.unreadableStore store path fault)

def checkKeyStore (settings : TlsSettings) (files : FileSystem) : Except VaultSettingFault Unit :=
  match settings.keyStore with
  | none => .ok ()
  | some path => (readStore files .key path).bind fun _ => .error (.invalidStore .key path)

def checkTrustStore (settings : TlsSettings) (files : FileSystem) : Except VaultSettingFault Unit :=
  match settings.trustStore with
  | none => .ok ()
  | some path =>
    (readStore files .trust path).bind fun content =>
      match TrustStore.fault? path content with
      | some fault => .error fault
      | none => .ok ()

def trustStoreReports (settings : TlsSettings) : List LogLine :=
  match settings.trustStore, settings.trustStorePassword with
  | some path, some _ =>
    [.warn "Trust store password is ignored for PEM trust stores" [("trust_store", path)]]
  | _, _ => []

def check (settings : TlsSettings) (files : FileSystem) :
    Except VaultSettingFault Unit × List LogLine :=
  match settings.checkKeyStore files with
  | .error fault => (.error fault, [])
  | .ok () => (settings.checkTrustStore files, settings.trustStoreReports)

end TlsSettings

end RemoteConfig
