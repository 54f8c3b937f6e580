import RemoteConfig.Crypto.Der
import RemoteConfig.Crypto.Pem
import RemoteConfig.Crypto.Sha256
import RemoteConfig.Number.Bounds

/-!
Contract: private keys whose modulus is a product of two primes, and signatures with them.

Owns:
- reading a key from its two usual forms, and which keys are sound;
- the signature with fixed padding and the one with a salt, both over digests of 256 bits;
- for which keys there is no such signature.

Does not own: what is signed.
-/

namespace RemoteConfig

/-- A private key. -/
structure RsaKey where
  modulus : Nat
  publicExponent : Nat
  privateExponent : Nat
  firstPrime : Nat
  secondPrime : Nat
deriving DecidableEq, Repr

/-- Why there is no signature: the padded digest does not fit into the modulus. -/
inductive SigningFault where
  | digestTooLong
  | modulusTooShort
deriving DecidableEq, Repr

namespace SigningFault

/-- The wording of a fault. -/
def message : SigningFault → String
  | digestTooLong => "signature error: message too long"
  | modulusTooShort => "signature error: internal error"

end SigningFault

namespace RsaKey

def longestModulus : Nat := 4096

def greatestExponent : Nat := Number.twoTo 33 - 1

/-- Do the parts of a key fit together? -/
def isSound (key : RsaKey) : Bool :=
  let product := key.publicExponent * key.privateExponent
  Nat.log2 key.modulus < longestModulus
    && key.modulus % 2 = 1
    && key.publicExponent % 2 = 1
    && 2 ≤ key.publicExponent && key.publicExponent ≤ greatestExponent
    && key.publicExponent < key.modulus
    && key.firstPrime * key.secondPrime = key.modulus
    && product % (key.firstPrime - 1) = 1
    && product % (key.secondPrime - 1) = 1

/-- The key that some numbers describe: a version, the parts of the key, and three numbers that only
speed up its use. -/
def ofNumbers? : List Nat → Option RsaKey
  | [0, modulus, publicExponent, privateExponent, firstPrime, secondPrime, _, _, _] =>
    let key : RsaKey := ⟨modulus, publicExponent, privateExponent, firstPrime, secondPrime⟩
    if key.isSound then some key else none
  | _ => none

/-- A key that stands alone. -/
def ofPlain? (bytes : Bytes) : Option RsaKey := do
  let elements ← Der.wholeSequence? bytes
  let numbers ← elements.mapM Der.Element.natural?
  ofNumbers? numbers

/-- The kind of keys that can be read: its identifier, and no parameters. -/
def kindElements : List Der.Element :=
  [⟨0x06, [0x2A, 0x86, 0x48, 0x86, 0xF7, 0x0D, 0x01, 0x01, 0x01]⟩, ⟨0x05, []⟩]

/-- May some elements follow the key in an envelope? Only the second version has a public key. -/
def areAdditions (version : Nat) (elements : List Der.Element) : Bool :=
  let numbers := elements.map fun element => Der.contextNumber element.tag
  elements.all (fun element => Der.isContextual element.tag)
    && (version = 1) = numbers.contains 1

/-- A key in an envelope that tells its kind. -/
def ofEnvelope? (bytes : Bytes) : Option RsaKey := do
  let elements ← Der.wholeSequence? bytes
  match elements with
  | version :: kind :: key :: additions =>
    let version ← version.natural?
    let kind ← kind.sequence?
    let key ← key.octets?
    if version ≤ 1 && kind = kindElements && areAdditions version additions then ofPlain? key else none
  | _ => none

/-- Reads a key from a text: in an envelope, or else alone. -/
def ofText? (text : String) : Option RsaKey :=
  ((Pem.strict? "PRIVATE KEY" text).bind ofEnvelope?)
    <|> ((Pem.strict? "RSA PRIVATE KEY" text).bind ofPlain?)

/-- The number of bits of the modulus. -/
def bitLength (key : RsaKey) : Nat :=
  Nat.log2 key.modulus + 1

/-- The number of bytes of the modulus. -/
def byteLength (key : RsaKey) : Nat :=
  (key.bitLength + 7) / 8

/-- A power, reduced by a modulus at every step. -/
def powMod (base exponent modulus : Nat) : Nat :=
  if exponent = 0 then 1 % modulus
  else
    let half := powMod (base * base % modulus) (exponent / 2) modulus
    if exponent % 2 = 1 then base * half % modulus else half
termination_by exponent
decreasing_by omega

/-- The private operation on a padded digest. -/
def apply (key : RsaKey) (padded : Bytes) : Bytes :=
  Octets.ofNat key.byteLength (powMod (Octets.toNat padded) key.privateExponent key.modulus)

/-- What precedes a digest in fixed padding: the name of the digest. -/
def digestName : Bytes :=
  [0x30, 0x31, 0x30, 0x0D, 0x06, 0x09, 0x60, 0x86, 0x48, 0x01, 0x65, 0x03, 0x04, 0x02, 0x01, 0x05,
    0x00, 0x04, 0x20]

/-- The signature of a message with fixed padding. -/
def sign (key : RsaKey) (message : Bytes) : Except SigningFault Bytes :=
  let named := digestName ++ Sha256.digest message
  if key.byteLength < named.length + 11 then .error .digestTooLong
  else
    let filling := List.replicate (key.byteLength - named.length - 3) 0xFF
    .ok (key.apply ([0x00, 0x01] ++ filling ++ 0x00 :: named))

/-- Bytes that are drawn from a seed: the digests of the seed and a counter. -/
def mask (seed : Bytes) (length : Nat) : Bytes :=
  let counters := List.range ((length + Sha256.digestSize - 1) / Sha256.digestSize)
  (counters.flatMap fun counter => Sha256.digest (seed ++ Octets.ofNat 4 counter)).take length

/-- A message digest with a salt, padded to a number of bits. -/
def saltedPadding (bits : Nat) (salt message : Bytes) : Bytes :=
  let length := (bits + 7) / 8
  let seed := Sha256.digest (List.replicate 8 0 ++ Sha256.digest message ++ salt)
  let zeros := length - seed.length - salt.length - 2
  let block := List.replicate zeros 0 ++ 0x01 :: salt
  let masked := Octets.toNat (Octets.xor block (mask seed block.length))
  let unused := 8 * length - bits
  Octets.ofNat block.length (masked % Number.twoTo (8 * block.length - unused)) ++ seed ++ [0xBC]

def signSalted (key : RsaKey) (salt message : Bytes) : Except SigningFault Bytes :=
  let bits := key.bitLength - 1
  if (bits + 7) / 8 < Sha256.digestSize + salt.length + 2 then .error .modulusTooShort
  else .ok (key.apply (saltedPadding bits salt message))

end RsaKey

end RemoteConfig
