import RemoteConfig.Crypto.Sha256

/-!
Contract: the keyed digest of a byte sequence.

Owns:
- fitting a key into a block, and the two nested digests.

Does not own: the digest itself.
-/

namespace RemoteConfig.Hmac

/-- A key of exactly one block: a longer one is replaced by its digest, a shorter one filled up. -/
def blockKey (key : Bytes) : Bytes :=
  let short := if key.length > Sha256.blockSize then Sha256.digest key else key
  short ++ List.replicate (Sha256.blockSize - short.length) 0

/-- Every byte of a key changed in the same way. -/
def masked (mask : UInt8) (key : Bytes) : Bytes :=
  key.map fun byte => byte ^^^ mask

def digest (key message : Bytes) : Bytes :=
  let key := blockKey key
  Sha256.digest (masked 0x5c key ++ Sha256.digest (masked 0x36 key ++ message))

end RemoteConfig.Hmac
