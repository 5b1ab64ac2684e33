import RcProtocol.ChildTag

/-!
Which calls of the KMS share a key. A key is told by the brand and by the message
its derivation feeds to the HMAC; neither says what the key is for, and the message
of a mother card holds no more of its uid than seven bytes.
-/

namespace RcProtocol
open Library

/-- One call of a key-derivation entry point. -/
inductive Derivation
  | chip (brandId : String) (uid : Bytes 7) (epoch : UInt32)
  | mother (brandId : String) (authorityUid : List UInt8) (epoch : UInt32)
  | honey (brandId : String) (serial : List UInt8)
  deriving DecidableEq

/-- The bytes of an authority uid that reach the derivation. -/
def motherUid (authorityUid : List UInt8) : Bytes 7 :=
  Bytes.ofFn fun i => authorityUid.getD i.val 0

def deviceMessage (uid : Bytes 7) (epoch : UInt32) : List UInt8 :=
  uid.toList ++ (Bytes.leWord epoch).toList

namespace Derivation

def brandId : Derivation → String
  | .chip brandId _ _ | .mother brandId _ _ | .honey brandId _ => brandId

/-- What the derivation of the brand key feeds to the HMAC. -/
def brandMessage (systemId : String) (d : Derivation) : List UInt8 :=
  utf8 d.brandId ++ utf8 systemId

/-- What the derivation of the key itself feeds to it. -/
def message : Derivation → List UInt8
  | .chip _ uid epoch => deviceMessage uid epoch
  | .mother _ authorityUid epoch => deviceMessage (motherUid authorityUid) epoch
  | .honey _ serial => serial

/-- The length of the key. -/
def size : Derivation → Nat
  | .chip .. | .mother .. => 16
  | .honey .. => 32

/-- The KMS's answer to the call. -/
def key (kms : KeyProvider) : Derivation → Except String (List UInt8)
  | .chip brandId uid epoch => (kms.deriveChipKey brandId uid epoch).map (·.toList)
  | .mother brandId authorityUid epoch =>
      (kms.deriveMotherKey brandId authorityUid epoch).map (·.toList)
  | .honey brandId serial => (kms.deriveHoneyKey brandId serial).map (·.toList)

end Derivation

/-- The calls derive for the same purpose or not, but what they feed to the HMAC of
the brand is the same. -/
inductive Clash : Derivation → Derivation → Prop
  | motherChip {brandId : String} {authorityUid : List UInt8} {uid : Bytes 7} {epoch : UInt32}
      (h : ∀ i : Fin 7, authorityUid.getD i.val 0 = uid.get i) :
      Clash (.mother brandId authorityUid epoch) (.chip brandId uid epoch)
  | mothers {brandId : String} {authorityUid authorityUid' : List UInt8} {epoch : UInt32}
      (h : ∀ i : Fin 7, authorityUid.getD i.val 0 = authorityUid'.getD i.val 0) :
      Clash (.mother brandId authorityUid epoch) (.mother brandId authorityUid' epoch)
  | honeyChip {brandId : String} {serial : List UInt8} {uid : Bytes 7} {epoch : UInt32}
      (h : serial = uid.toList ++ (Bytes.leWord epoch).toList) :
      Clash (.honey brandId serial) (.chip brandId uid epoch)
  | honeyMother {brandId : String} {serial authorityUid : List UInt8} {epoch : UInt32}
      (h : serial = (List.ofFn fun i : Fin 7 => authorityUid.getD i.val 0) ++
        (Bytes.leWord epoch).toList) :
      Clash (.honey brandId serial) (.mother brandId authorityUid epoch)

theorem deviceMessage_inj {uid uid' : Bytes 7} {epoch epoch' : UInt32} :
    deviceMessage uid epoch = deviceMessage uid' epoch' ↔ uid = uid' ∧ epoch = epoch' := by
  constructor
  · intro h
    have hlength : uid.toList.length = uid'.toList.length := by
      rw [uid.length_eq, uid'.length_eq]
    obtain ⟨huid, hepoch⟩ := List.append_inj h hlength
    exact ⟨Bytes.ext huid, Bytes.leWord_injective (Bytes.ext hepoch)⟩
  · intro ⟨huid, hepoch⟩
    rw [huid, hepoch]

theorem motherUid_eq_iff {authorityUid : List UInt8} {uid : Bytes 7} :
    motherUid authorityUid = uid ↔ ∀ i : Fin 7, authorityUid.getD i.val 0 = uid.get i := by
  constructor
  · intro h i
    rw [← h, motherUid, Bytes.get_ofFn]
  · intro h
    apply Bytes.ext_get
    intro i
    rw [motherUid, Bytes.get_ofFn, h]

theorem motherUid_inj {authorityUid authorityUid' : List UInt8} :
    motherUid authorityUid = motherUid authorityUid' ↔
      ∀ i : Fin 7, authorityUid.getD i.val 0 = authorityUid'.getD i.val 0 := by
  constructor
  · intro h i
    exact congrFun (Bytes.ofFn_injective h) i
  · intro h
    exact congrArg Bytes.ofFn (funext h)

theorem brandMessage_inj {systemId : String} {c d : Derivation} :
    c.brandMessage systemId = d.brandMessage systemId ↔ c.brandId = d.brandId := by
  constructor
  · intro h
    exact utf8_injective (List.append_cancel_right h)
  · intro h
    rw [Derivation.brandMessage, Derivation.brandMessage, h]

theorem Clash.feeds {c d : Derivation} (h : Clash c d) :
    c.brandId = d.brandId ∧ c.message = d.message := by
  cases h with
  | motherChip h => exact ⟨rfl, deviceMessage_inj.mpr ⟨motherUid_eq_iff.mpr h, rfl⟩⟩
  | mothers h => exact ⟨rfl, deviceMessage_inj.mpr ⟨motherUid_inj.mpr h, rfl⟩⟩
  | honeyChip h => exact ⟨rfl, h⟩
  | honeyMother h => exact ⟨rfl, h⟩

/-- Two different calls for one brand feed the same message exactly where they clash. -/
theorem message_eq_iff {c d : Derivation} (hne : c ≠ d) :
    (c.brandId = d.brandId ∧ c.message = d.message) ↔ Clash c d ∨ Clash d c := by
  constructor
  · intro ⟨hbrand, hmessage⟩
    cases c with
    | chip brandId uid epoch =>
        cases d with
        | chip brandId' uid' epoch' =>
            obtain ⟨huid, hepoch⟩ := deviceMessage_inj.mp hmessage
            cases hbrand
            cases huid
            cases hepoch
            exact absurd rfl hne
        | mother brandId' authorityUid epoch' =>
            obtain ⟨huid, hepoch⟩ := deviceMessage_inj.mp hmessage
            cases hbrand
            cases hepoch
            exact .inr (.motherChip (motherUid_eq_iff.mp huid.symm))
        | honey brandId' serial =>
            cases hbrand
            exact .inr (.honeyChip hmessage.symm)
    | mother brandId authorityUid epoch =>
        cases d with
        | chip brandId' uid' epoch' =>
            obtain ⟨huid, hepoch⟩ := deviceMessage_inj.mp hmessage
            cases hbrand
            cases hepoch
            exact .inl (.motherChip (motherUid_eq_iff.mp huid))
        | mother brandId' authorityUid' epoch' =>
            obtain ⟨huid, hepoch⟩ := deviceMessage_inj.mp hmessage
            cases hbrand
            cases hepoch
            exact .inl (.mothers (motherUid_inj.mp huid))
        | honey brandId' serial =>
            cases hbrand
            exact .inr (.honeyMother hmessage.symm)
    | honey brandId serial =>
        cases d with
        | chip brandId' uid' epoch' =>
            cases hbrand
            exact .inl (.honeyChip hmessage)
        | mother brandId' authorityUid' epoch' =>
            cases hbrand
            exact .inl (.honeyMother hmessage)
        | honey brandId' serial' =>
            cases hbrand
            cases hmessage
            exact absurd rfl hne
  · intro h
    obtain h | h := h
    · exact h.feeds
    · exact ⟨h.feeds.1.symm, h.feeds.2.symm⟩

section Keys
variable (p : Primitives) (rootKey : Bytes 32) (systemId : String)

def Derivation.brandKey (d : Derivation) : Bytes 32 :=
  p.hmacSha256 rootKey.toList (d.brandMessage systemId)

/-- The HMAC has no collision between these two calls, cut to sixteen bytes or not. -/
structure CollisionFree (c d : Derivation) : Prop where
  brand : c.brandKey p rootKey systemId = d.brandKey p rootKey systemId →
    c.brandMessage systemId = d.brandMessage systemId
  truncated : (p.hmacSha256 (c.brandKey p rootKey systemId).toList c.message).toList.take 16 =
      (p.hmacSha256 (d.brandKey p rootKey systemId).toList d.message).toList.take 16 →
    c.brandKey p rootKey systemId = d.brandKey p rootKey systemId ∧ c.message = d.message

/-- The calls do not feed the same message to the HMAC under the same brand key, and
do not share a key. -/
structure Separate (c d : Derivation) : Prop where
  inputs : ¬(c.brandKey p rootKey systemId = d.brandKey p rootKey systemId ∧
    c.message = d.message)
  keys : c.key (softwareKms p rootKey systemId) ≠ d.key (softwareKms p rootKey systemId)

theorem toList_deriveChipKey (brandKey : Bytes 32) (uid epochLe : List UInt8) :
    (p.deriveChipKey brandKey uid epochLe).toList =
      (p.hmacSha256 brandKey.toList (uid ++ epochLe)).toList.take 16 := by
  apply List.ext_getElem
  · rw [Bytes.length_eq, List.length_take, Bytes.length_eq]
    rfl
  · intro i hi hi'
    rw [List.getElem_take]
    exact List.getElem_ofFn _

/-- The key is what the HMAC makes of the message, cut to its length. -/
theorem key_softwareKms (d : Derivation) :
    d.key (softwareKms p rootKey systemId) =
      .ok ((p.hmacSha256 (d.brandKey p rootKey systemId).toList d.message).toList.take d.size) := by
  cases d with
  | chip brandId uid epoch => exact congrArg Except.ok (toList_deriveChipKey p _ _ _)
  | mother brandId authorityUid epoch => exact congrArg Except.ok (toList_deriveChipKey p _ _ _)
  | honey brandId serial =>
      refine congrArg Except.ok (List.take_of_length_le ?_).symm
      rw [Bytes.length_eq]
      exact Nat.le_refl _

theorem min_size (d : Derivation) : min 16 d.size = 16 := by
  cases d <;> rfl

variable {p rootKey systemId}

/-- Two different calls are kept apart exactly where they do not clash. -/
theorem separate_iff {c d : Derivation} (hne : c ≠ d)
    (hfree : CollisionFree p rootKey systemId c d) :
    Separate p rootKey systemId c d ↔ ¬(Clash c d ∨ Clash d c) := by
  rw [← message_eq_iff hne]
  constructor
  · intro h ⟨hbrand, hmessage⟩
    refine h.inputs ⟨?_, hmessage⟩
    rw [Derivation.brandKey, Derivation.brandKey, brandMessage_inj.mpr hbrand]
  · intro h
    have hinputs : ¬(c.brandKey p rootKey systemId = d.brandKey p rootKey systemId ∧
        c.message = d.message) := by
      intro ⟨hkey, hmessage⟩
      exact h ⟨brandMessage_inj.mp (hfree.brand hkey), hmessage⟩
    refine ⟨hinputs, fun hkey => ?_⟩
    rw [key_softwareKms, key_softwareKms] at hkey
    injection hkey with hkey
    apply hinputs
    apply hfree.truncated
    have htake := congrArg (List.take 16) hkey
    rwa [List.take_take, List.take_take, min_size, min_size] at htake

end Keys

/-- Of the twelve drawn characters of a virtual card's uid the first alone counts. -/
theorem virtual_cards_clash (brandId : String) (epoch : UInt32) {nanoid nanoid' : String}
    (h : (utf8 nanoid).getD 0 0 = (utf8 nanoid').getD 0 0) :
    Clash (.mother brandId (utf8 ("vauth-" ++ nanoid)) epoch)
      (.mother brandId (utf8 ("vauth-" ++ nanoid')) epoch) := by
  have hmark : utf8 "vauth-" = [0x76, 0x61, 0x75, 0x74, 0x68, 0x2D] := by decide
  refine .mothers fun i => ?_
  rw [utf8_append, utf8_append, hmark]
  by_cases hi : i.val < 6
  · rw [List.getD_append _ _ _ _ hi, List.getD_append _ _ _ _ hi]
  · have hlast : i = 6 := by omega
    subst hlast
    exact h

section Sample

def sampleChip : Derivation := .chip "brand" ⟨[0x04, 0xA3, 0x1B, 0x2C, 0x3D, 0x4E, 0x5F], rfl⟩ 0

def sampleCard (nanoid : String) : Derivation := .mother "brand" (utf8 ("vauth-" ++ nanoid)) 0

theorem separate_chip_and_card :
    Separate transferPrimitives rootKey "test-system" sampleChip (sampleCard "x") := by
  have hfree : CollisionFree transferPrimitives rootKey "test-system" sampleChip
      (sampleCard "x") := by
    refine ⟨fun _ => rfl, fun h => absurd h ?_⟩
    decide +kernel
  refine (separate_iff (by decide) hfree).mpr fun h => ?_
  obtain h | h := h
  · cases h
  · cases h with
    | motherChip h => exact absurd (h 0) (by decide)

/-- Two virtual cards of one brand and epoch. -/
theorem virtual_cards_share_a_key :
    ¬∀ (p : Primitives) (rootKey : Bytes 32) (systemId : String) (c d : Derivation), c ≠ d →
      CollisionFree p rootKey systemId c d → Separate p rootKey systemId c d := by
  intro hall
  have hclash : Clash (sampleCard "V1StGXR8_Z5j") (sampleCard "VH9fQ2m0LkTe") :=
    virtual_cards_clash "brand" 0 (by decide)
  obtain ⟨-, hmessage⟩ := hclash.feeds
  have hseparate := hall transferPrimitives rootKey "test-system" (sampleCard "V1StGXR8_Z5j")
    (sampleCard "VH9fQ2m0LkTe") (by decide) ⟨fun _ => rfl, fun _ => ⟨rfl, hmessage⟩⟩
  exact hseparate.inputs ⟨rfl, hmessage⟩

end Sample

end RcProtocol
