import RcProtocol.Library.Text

/-!
Key derivation and tag authentication (rc-crypto, rc-kms). The primitives come
from third-party crates and are parameters; everything built from them is here.
-/

namespace RcProtocol
open Library

/-- HMAC-SHA256, AES-128-CMAC, SHA-256 and Ed25519. -/
structure Primitives where
  hmacSha256 : List UInt8 → List UInt8 → Bytes 32
  cmacAes128 : Bytes 16 → List UInt8 → Bytes 16
  sha256 : List UInt8 → Bytes 32
  verifyingKey : Bytes 32 → Bytes 32
  sign : Bytes 32 → List UInt8 → Bytes 64
  verify : Bytes 32 → List UInt8 → Bytes 64 → Bool

instance : Inhabited Primitives where
  default :=
    { hmacSha256 := fun _ _ => .ofFn fun _ => 0
      cmacAes128 := fun _ _ => .ofFn fun _ => 0
      sha256 := fun _ => .ofFn fun _ => 0
      verifyingKey := id
      sign := fun _ _ => .ofFn fun _ => 0
      verify := fun _ _ _ => false }

/-- What one scan of a tag sends. -/
structure SunMessage where
  uid : Bytes 7
  ctr : Bytes 3
  cmac : Bytes 8
  deriving DecidableEq

namespace Primitives
variable (p : Primitives)

/-- The bytes at the odd indices of the full CMAC. -/
def computeTruncated (key : Bytes 16) (message : List UInt8) : Bytes 8 :=
  Bytes.ofFn fun i => (p.cmacAes128 key message).get ⟨i.val * 2 + 1, by omega⟩

def sunMessage (uid : Bytes 7) (ctr : Bytes 3) : List UInt8 :=
  [0x3C, 0xC3] ++ uid.toList ++ ctr.toList

def verifySunMessage (key : Bytes 16) (uid : Bytes 7) (ctr : Bytes 3) (cmac : Bytes 8) : Bool :=
  p.computeTruncated key (sunMessage uid ctr) = cmac

def deriveBrandKey (rootKey : Bytes 32) (brandId systemId : List UInt8) : Bytes 32 :=
  p.hmacSha256 rootKey.toList (brandId ++ systemId)

def deriveChipKey (brandKey : Bytes 32) (uid epochLe : List UInt8) : Bytes 16 :=
  Bytes.ofFn fun i => (p.hmacSha256 brandKey.toList (uid ++ epochLe)).get (i.castLE (by omega))

def deriveHoneyKey (brandKey : Bytes 32) (serialBe : List UInt8) : Bytes 32 :=
  p.hmacSha256 brandKey.toList serialBe

end Primitives

/-- The key operations the service asks its KMS for; an error is its text. -/
structure KeyProvider where
  deriveChipKey : String → Bytes 7 → UInt32 → Except String (Bytes 16)
  deriveHoneyKey : String → List UInt8 → Except String (Bytes 32)
  deriveMotherKey : String → List UInt8 → UInt32 → Except String (Bytes 16)

/-- The software KMS. Its brand-key cache is left out here: it stores what
`deriveBrandKey` returns for the same brand id. -/
def softwareKms (p : Primitives) (rootKey : Bytes 32) (systemId : String) : KeyProvider where
  deriveChipKey brandId uid epoch :=
    .ok (p.deriveChipKey (p.deriveBrandKey rootKey (utf8 brandId) (utf8 systemId))
      uid.toList (Bytes.leWord epoch).toList)
  deriveHoneyKey brandId serial :=
    .ok (p.deriveHoneyKey (p.deriveBrandKey rootKey (utf8 brandId) (utf8 systemId)) serial)
  deriveMotherKey brandId authorityUid epoch :=
    let uid7 : Bytes 7 := Bytes.ofFn fun i => authorityUid.getD i.val 0
    .ok (p.deriveChipKey (p.deriveBrandKey rootKey (utf8 brandId) (utf8 systemId))
      uid7.toList (Bytes.leWord epoch).toList)

end RcProtocol
