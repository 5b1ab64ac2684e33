import RcProtocol.KeySeparation
import RcProtocol.Library.Memo

/-!
The software KMS with its cache of brand keys (rc-kms/src/software_kms.rs), which any
number of threads share under one lock. Every call derives what the KMS without the cache
derives, whichever threads filled the cache.
-/

namespace RcProtocol
open Library

/-- The sections of the lock around the cache. -/
abbrev brandKeyCache : Interface := memo String (Bytes 32)

namespace SoftwareKms
variable (p : Primitives) (rootKey : Bytes 32) (systemId : String)

/-- What a section derives for a missing key. -/
def brandKey (brandId : String) : Bytes 32 :=
  p.deriveBrandKey rootKey (utf8 brandId) (utf8 systemId)

def machine : Machine brandKeyCache (String → Option (Bytes 32)) :=
  Memo.machine (brandKey p rootKey systemId)

/-- The key just inserted is unwrapped. -/
def withBrandKey {α : Type} (brandId : String) (f : Bytes 32 → α) :
    Program brandKeyCache (Except String α) :=
  (Memo.lookup brandId).map fun
    | some key => .ok (f key)
    | none => .error "called `Option::unwrap()` on a `None` value"

def deriveChipKey (brandId : String) (uid : Bytes 7) (epoch : UInt32) :
    Program brandKeyCache (Except String (Bytes 16)) :=
  withBrandKey brandId fun brandKey =>
    p.deriveChipKey brandKey uid.toList (Bytes.leWord epoch).toList

def deriveHoneyKey (brandId : String) (serial : List UInt8) :
    Program brandKeyCache (Except String (Bytes 32)) :=
  withBrandKey brandId fun brandKey => p.deriveHoneyKey brandKey serial

def deriveMotherKey (brandId : String) (authorityUid : List UInt8) (epoch : UInt32) :
    Program brandKeyCache (Except String (Bytes 16)) :=
  withBrandKey brandId fun brandKey =>
    p.deriveChipKey brandKey (motherUid authorityUid).toList (Bytes.leWord epoch).toList

end SoftwareKms

namespace Derivation
variable (p : Primitives) (rootKey : Bytes 32) (systemId : String)

/-- The call, to the KMS with the cache. -/
def request : Derivation → Program brandKeyCache (Except String (List UInt8))
  | .chip brandId uid epoch =>
      (SoftwareKms.deriveChipKey p brandId uid epoch).map (·.map (·.toList))
  | .mother brandId authorityUid epoch =>
      (SoftwareKms.deriveMotherKey p brandId authorityUid epoch).map (·.map (·.toList))
  | .honey brandId serial => (SoftwareKms.deriveHoneyKey p brandId serial).map (·.map (·.toList))

/-- The calls of one thread, one after another. -/
def requests : List Derivation → Program brandKeyCache (List (Except String (List UInt8)))
  | [] => .done []
  | d :: ds => (d.request p).bind fun key => (requests ds).map (key :: ·)

def pool {ι : Type} (calls : ι → List Derivation) :
    Pool brandKeyCache (String → Option (Bytes 32)) ι (List (Except String (List UInt8))) :=
  ⟨fun _ => none, fun i => requests p (calls i)⟩

/-- The key and the message of each HMAC between the root key and the derived one. -/
def chain (d : Derivation) : List (List UInt8 × List UInt8) :=
  [(rootKey.toList, d.brandMessage systemId), ((d.brandKey p rootKey systemId).toList, d.message)]

def isChip : Derivation → Bool
  | .chip .. => true
  | _ => false

end Derivation

section Histories
variable {ι : Type} [DecidableEq ι] (p : Primitives) (rootKey : Bytes 32) (systemId : String)
  (calls : ι → List Derivation)
  (h : List (Move brandKeyCache (String → Option (Bytes 32)) ι))
  (c : Pool brandKeyCache (String → Option (Bytes 32)) ι (List (Except String (List UInt8))))

/-- The cache is not to be seen: every section hands out the key of the brand it is asked
for, every thread returns in time what the KMS without a cache returns, and no two chip
keys come from one chain. -/
structure CacheTransparent : Prop where
  sections : ∀ v ∈ h, Memo.Faithful (SoftwareKms.brandKey p rootKey systemId) v.event
  returned : ∀ i keys, c.threads i = .done keys →
    keys = (calls i).map (·.key (softwareKms p rootKey systemId))
  returns : ∀ i, 2 * (calls i).length ≤ (eventsOf i h).length → ∃ keys, c.threads i = .done keys
  derived : ∀ d : Derivation, ∃ brand device, d.chain p rootKey systemId = [brand, device] ∧
    (p.hmacSha256 brand.1 brand.2).toList = device.1 ∧
      d.key (softwareKms p rootKey systemId) =
        .ok ((p.hmacSha256 device.1 device.2).toList.take d.size)
  chains : ∀ i j, ∀ d ∈ calls i, ∀ d' ∈ calls j, d.isChip = true → d'.isChip = true → d ≠ d' →
    d.chain p rootKey systemId ≠ d'.chain p rootKey systemId

end Histories

section Calls
variable {p : Primitives} {rootKey : Bytes 32} {systemId : String}
  {log : List (Event brandKeyCache)} {n : Nat}

/-- A call makes two calls of the lock at most, and under faithful ones returns this. -/
theorem withBrandKey_meets {α β : Type} (brandId : String) (f : Bytes 32 → α) (g : α → β)
    (hlog : log.length ≤ n) :
    Meets (fun log (_ : MemoOp String) => log.length < n + 2)
      (fun log r => log.length ≤ n + 2 ∧
        ((∀ e ∈ log, Memo.Faithful (SoftwareKms.brandKey p rootKey systemId) e) →
          r = .ok (g (f (SoftwareKms.brandKey p rootKey systemId brandId))))) log
      ((SoftwareKms.withBrandKey brandId f).map (·.map g)) := by
  rw [meets_map, SoftwareKms.withBrandKey, meets_map]
  have hlookup := @Memo.lookup_meets _ _ (SoftwareKms.brandKey p rootKey systemId) brandId log n
    hlog
  refine hlookup.mono (fun _ _ h => h) ?_
  intro log' r ⟨hlength, hvalue⟩
  refine ⟨hlength, fun h => ?_⟩
  rw [hvalue h]
  rfl

theorem request_meets (d : Derivation) (hlog : log.length ≤ n) :
    Meets (fun log (_ : MemoOp String) => log.length < n + 2)
      (fun log r => log.length ≤ n + 2 ∧
        ((∀ e ∈ log, Memo.Faithful (SoftwareKms.brandKey p rootKey systemId) e) →
          r = d.key (softwareKms p rootKey systemId))) log (d.request p) := by
  cases d with
  | chip brandId uid epoch =>
      exact withBrandKey_meets brandId (fun key =>
        p.deriveChipKey key uid.toList (Bytes.leWord epoch).toList) Bytes.toList hlog
  | mother brandId authorityUid epoch =>
      exact withBrandKey_meets brandId (fun key =>
        p.deriveChipKey key (motherUid authorityUid).toList (Bytes.leWord epoch).toList)
          Bytes.toList hlog
  | honey brandId serial =>
      exact withBrandKey_meets brandId (fun key => p.deriveHoneyKey key serial) Bytes.toList hlog

theorem requests_meets (ds : List Derivation) (hlog : log.length ≤ n) :
    Meets (fun log (_ : MemoOp String) => log.length < n + 2 * ds.length)
      (fun log keys => (∀ e ∈ log, Memo.Faithful (SoftwareKms.brandKey p rootKey systemId) e) →
        keys = ds.map (·.key (softwareKms p rootKey systemId))) log
      (Derivation.requests p ds) := by
  induction ds generalizing log n with
  | nil => exact fun _ => rfl
  | cons d ds ih =>
      have hcount : n + 2 * (d :: ds).length = n + 2 + 2 * ds.length := by
        rw [List.length_cons]
        omega
      rw [Derivation.requests, meets_bind, hcount]
      have hrequest := @request_meets p rootKey systemId log n d hlog
      refine hrequest.mono (fun _ _ h => by omega) ?_
      intro log' key ⟨hlength, hkey⟩
      rw [meets_map]
      refine (ih hlength).extends.mono (fun _ _ h => h.1) ?_
      intro log'' keys ⟨hkeys, rest, hlog'', _⟩ hfaithful
      rw [hkeys hfaithful, hkey fun e he => hfaithful e (hlog'' ▸ List.mem_append_left _ he),
        List.map_cons]

end Calls

/-- Different chip calls feed different messages, to the root key or to the brand key. -/
theorem chain_injective {p : Primitives} {rootKey : Bytes 32} {systemId : String}
    {d d' : Derivation} (hd : d.isChip = true) (hd' : d'.isChip = true)
    (h : d.chain p rootKey systemId = d'.chain p rootKey systemId) : d = d' := by
  obtain ⟨hbrand, hdevice⟩ := List.cons.inj h
  have hbrand := brandMessage_inj.mp (congrArg Prod.snd hbrand)
  have hmessage := congrArg Prod.snd (List.cons.inj hdevice).1
  cases d with
  | chip brandId uid epoch =>
      cases d' with
      | chip brandId' uid' epoch' =>
          obtain ⟨huid, hepoch⟩ := deviceMessage_inj.mp hmessage
          obtain rfl : brandId = brandId' := hbrand
          rw [huid, hepoch]
      | mother => cases hd'
      | honey => cases hd'
  | mother => cases hd
  | honey => cases hd

/-- Whatever the threads ask for and however their sections interleave, they cannot tell
that there is a cache. -/
theorem brand_key_cache_transparent {ι : Type} [DecidableEq ι] (p : Primitives) (rootKey : Bytes 32)
    (systemId : String) (calls : ι → List Derivation)
    (h : List (Move brandKeyCache (String → Option (Bytes 32)) ι))
    (c : Pool brandKeyCache (String → Option (Bytes 32)) ι (List (Except String (List UInt8))))
    (run : Interleaves (SoftwareKms.machine p rootKey systemId) (Derivation.pool p calls) h c) :
    CacheTransparent p rootKey systemId calls h c := by
  obtain ⟨hfaithful, -⟩ := Memo.run_faithful run Memo.sound_empty
  have hstart : ∀ i, Meets (fun log (_ : MemoOp String) => log.length < 2 * (calls i).length)
      (fun log keys => (∀ e ∈ log, Memo.Faithful (SoftwareKms.brandKey p rootKey systemId) e) →
        keys = (calls i).map (·.key (softwareKms p rootKey systemId))) []
          ((Derivation.pool p calls).threads i) := by
    intro i
    have hmeets := @requests_meets p rootKey systemId [] 0 (calls i) (Nat.zero_le 0)
    rwa [Nat.zero_add] at hmeets
  refine ⟨hfaithful, fun i keys hi => ?_, fun i hlength => ?_, fun d => ?_, ?_⟩
  · apply run.answers hstart hi
    intro e he
    obtain ⟨v, hv, _, rfl⟩ := mem_eventsOf.mp he
    exact hfaithful v hv
  · have hmeets := run.meets hstart i
    cases hthread : c.threads i with
    | done keys => exact ⟨keys, rfl⟩
    | call op next =>
        rw [hthread] at hmeets
        exact absurd hlength (Nat.not_le.mpr hmeets.1)
  · exact ⟨_, _, rfl, rfl, key_softwareKms p rootKey systemId d⟩
  · intro i j d hd d' hd' hchip hchip' hne hchain
    exact hne (chain_injective hchip hchip' hchain)

section Sample

/-- Two threads of the same brand, one of which asks for a second brand too. -/
def cacheCalls (i : Bool) : List Derivation :=
  if i then [sampleChip] else [sampleChip, .honey "other" [1, 2, 3]]

def cacheRun : List (Move brandKeyCache (String → Option (Bytes 32)) Bool) ×
    Pool brandKeyCache (String → Option (Bytes 32)) Bool (List (Except String (List UInt8))) :=
  (Derivation.pool transferPrimitives cacheCalls).schedule
    (SoftwareKms.machine transferPrimitives rootKey "test-system")
    [(false, ()), (true, ()), (true, ()), (false, ()), (false, ()), (false, ())]

theorem cacheRun_interleaves :
    Interleaves (SoftwareKms.machine transferPrimitives rootKey "test-system")
      (Derivation.pool transferPrimitives cacheCalls) cacheRun.1 cacheRun.2 :=
  schedule_interleaves ..

theorem brand_key_cache_transparent_race :
    cacheRun.1.map (·.thread) = [false, true, true, false, false, false] ∧
      CacheTransparent transferPrimitives rootKey "test-system" cacheCalls cacheRun.1 cacheRun.2 :=
  ⟨by decide +kernel, brand_key_cache_transparent _ _ _ _ _ _ cacheRun_interleaves⟩

end Sample

end RcProtocol
