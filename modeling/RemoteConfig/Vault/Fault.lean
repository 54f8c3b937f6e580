import RemoteConfig.Crypto.Rsa
import RemoteConfig.File.System
import RemoteConfig.Http.Status
import RemoteConfig.LogLine
import RemoteConfig.Vault.Method

/-!
Contract: what may go wrong with a Vault and with the services around it.

Owns:
- the failures of reading, logging in and fetching, and those of gathering what a login needs;
- the settings of a login that are missing or wrong;
- their wording.

Does not own: when they arise.
-/

namespace RemoteConfig

/-- A service that proves the identity of an instance or of an account. -/
inductive IdentityService where
  | azureMetadata
  | azureToken
  | googleToken
  | googleMetadata
  | googleSigning
deriving DecidableEq, Repr

/-- A file that a login needs. -/
inductive LoginFile where
  | serviceAccountToken
  | instanceCertificate
  | instanceKey
deriving DecidableEq, Repr

/-- What a login signs. -/
inductive SignedText where
  | assertion
  | identity
deriving DecidableEq, Repr

/-- A store of certificates. -/
inductive CertificateStore where
  | key
  | trust
deriving DecidableEq, Repr

/-- A failure of a Vault, or of a service that a login needs. -/
inductive VaultFault where
  | invalidPath (path reason : String)
  | readFailed (path : String)
  | readStatus (path : String) (status : Nat)
  | readMalformed (path : String)
  | loginFailed (path : String)
  | loginStatus (path : String) (status : Nat)
  | loginMalformed (path : String)
  | loginWithoutToken (path : String)
  | fetchFailed (locator : String)
  | fetchStatus (locator : String) (status : Nat)
  | fetchBody (locator : String)
  | malformedAnswer (service : IdentityService)
  | fieldMissing (service : IdentityService) (field : String)
  | unreadableFile (file : LoginFile) (path : String) (fault : FileFault)
  | signingFailed (subject : SignedText) (fault : SigningFault)
  | other (text : String)
deriving DecidableEq, Repr

/-- A setting of a Vault that is missing or wrong. -/
inductive VaultSettingFault where
  | missingProperty (property : String) (method : LoginMethod)
  | missingVariable (name : String) (method : LoginMethod)
  | missingPropertyAndVariable (property name : String) (method : LoginMethod)
  | invalidAddress (address reason : String)
  | invalidEndpoint (endpoint reason : String)
  | endpointWithoutHost (endpoint : String)
  | invalidServiceAccount (reason : String)
  | invalidEncodedKey
  | unreadableKey (location : String) (fault : FileFault)
  | invalidKeyDocument
  | invalidPrivateKey
  | unreadableStore (store : CertificateStore) (path : String) (fault : FileFault)
  | invalidStore (store : CertificateStore) (path : String)
  | emptyTrustStore (path : String)
deriving DecidableEq, Repr

def IdentityService.name : IdentityService → String
  | azureMetadata => "the Azure instance metadata service"
  | azureToken => "the Azure identity token service"
  | googleToken => "the Google token endpoint"
  | googleMetadata => "the GCE metadata server"
  | googleSigning => "the IAM credentials API"

def LoginFile.name : LoginFile → String
  | serviceAccountToken => "service account token"
  | instanceCertificate => "instance certificate"
  | instanceKey => "instance key"

def SignedText.name : SignedText → String
  | assertion => "JWT"
  | identity => "instance identity"

def CertificateStore.name : CertificateStore → String
  | key => "key store"
  | trust => "trust store"

namespace VaultFault

/-- The wording of a fault. -/
def message : VaultFault → String
  | invalidPath path reason => "Invalid secret path '" ++ path ++ "': " ++ reason
  | readFailed path => "Failed to read '" ++ path ++ "': " ++ withheldReason
  | readStatus path status => "Reading '" ++ path ++ "' returned status " ++ Status.text status
  | readMalformed path => "Invalid response for '" ++ path ++ "': " ++ withheldReason
  | loginFailed path => "Login at '" ++ path ++ "' failed: " ++ withheldReason
  | loginStatus path status => "Login at '" ++ path ++ "' returned status " ++ Status.text status
  | loginMalformed path => "Invalid login response from '" ++ path ++ "': " ++ withheldReason
  | loginWithoutToken path => "Login at '" ++ path ++ "' returned no client token"
  | fetchFailed locator => "Request to '" ++ locator ++ "' failed: " ++ withheldReason
  | fetchStatus locator status =>
    "Request to '" ++ locator ++ "' returned status " ++ Status.text status
  | fetchBody locator => "Failed to read response from '" ++ locator ++ "': " ++ withheldReason
  | malformedAnswer service => "Invalid response from " ++ service.name ++ ": " ++ withheldReason
  | fieldMissing service field => "Response from " ++ service.name ++ " has no '" ++ field ++ "'"
  | unreadableFile file path fault =>
    "Failed to read " ++ file.name ++ " '" ++ path ++ "': " ++ fault.message
  | signingFailed subject fault => "Failed to sign " ++ subject.name ++ ": " ++ fault.message
  | other text => text

end VaultFault

namespace VaultSettingFault

/-- The wording of a fault. -/
def message : VaultSettingFault → String
  | missingProperty property method =>
    "Property '" ++ property ++ "' must be set for " ++ method.name ++ " authentication"
  | missingVariable name method =>
    "Environment variable '" ++ name ++ "' must be set for " ++ method.name ++ " authentication"
  | missingPropertyAndVariable property name method =>
    "Property '" ++ property ++ "' or environment variable '" ++ name ++ "' must be set for "
      ++ method.name ++ " authentication"
  | invalidAddress address reason => "Invalid Vault address '" ++ address ++ "': " ++ reason
  | invalidEndpoint endpoint reason => "Invalid STS endpoint '" ++ endpoint ++ "': " ++ reason
  | endpointWithoutHost endpoint => "STS endpoint '" ++ endpoint ++ "' has no host"
  | invalidServiceAccount reason => "Invalid GCE service account: " ++ reason
  | invalidEncodedKey => "Invalid gcp_iam.credentials.encoded_key: " ++ withheldReason
  | unreadableKey location fault =>
    "Failed to read GCP credentials '" ++ location ++ "': " ++ fault.message
  | invalidKeyDocument => "Invalid GCP service account key: " ++ withheldReason
  | invalidPrivateKey => "Invalid RSA private key: " ++ withheldReason
  | unreadableStore store path fault =>
    "Failed to read " ++ store.name ++ " '" ++ path ++ "': " ++ fault.message
  | invalidStore store path => "Invalid " ++ store.name ++ " '" ++ path ++ "': " ++ withheldReason
  | emptyTrustStore path => "Trust store '" ++ path ++ "' holds no PEM certificates"

end VaultSettingFault

end RemoteConfig
