import RemoteConfig.Crypto.Der
import RemoteConfig.Crypto.Pem

/-!
Contract: which texts hold a certificate.

Owns:
- the outline of a certificate: what is signed, the kind of signature, and the signature;
- the outline of what is signed.

Does not own: checking signatures and dates.
-/

namespace RemoteConfig.Certificate

def label : String := "CERTIFICATE"

/-- The tags of the elements that are signed, behind the version. -/
def signedTags : List UInt8 :=
  Der.integerTag :: List.replicate 5 Der.sequenceTag

/-- Have some elements the outline of what is signed? The version is optional, and so are the
additions behind the key. -/
def isSigned (elements : List Der.Element) : Bool :=
  let tags := elements.map Der.Element.tag
  let tags := if tags.head? == some 0xA0 then tags.drop 1 else tags
  signedTags.isPrefixOf tags && (tags.drop signedTags.length).all Der.isContextual

/-- Have some bytes the outline of a certificate? -/
def isCertificate (bytes : Bytes) : Bool :=
  match Der.wholeSequence? bytes with
  | some [signed, kind, signature] =>
    signed.sequence?.any isSigned && kind.sequence?.isSome && signature.tag == Der.bitsTag
  | _ => false

def isHeldBy (text : String) : Bool :=
  (Pem.lenient? label text).any isCertificate

end RemoteConfig.Certificate
