import RcProtocol.Gateway.RateLimit
import Mathlib.Algebra.BigOperators.Ring.Finset
import Mathlib.Algebra.Order.BigOperators.Group.Finset

/-!
How many requests the gateway lets through in a window of time. The bound of a limiter
is that of an address, which the client names; a peer has it once for each address it
goes by, and so, naming a new one each time, is not bounded at all.
-/

namespace RcProtocol
open Library Gateway PerIPRateLimiter

def InWindow (start t : ℚ) (r : Arrival) : Prop := start ≤ r.time ∧ r.time ≤ start + t

instance (start t : ℚ) (r : Arrival) : Decidable (InWindow start t r) :=
  inferInstanceAs (Decidable (_ ∧ _))

/-- What is let through of the requests of one peer in a window. -/
def throughFrom (p : PerIPRateLimiter) (rs : List Arrival) (peer : String) (start t : ℚ) :
    List Arrival :=
  (p.letThrough rs).filter fun r => remoteHost r.remoteAddr = peer ∧ InWindow start t r

/-- A burst and what comes back in a time; what is set below zero gives nothing. -/
def allowance (rps burst : Int) (t : ℚ) : ℚ := max (burst : ℚ) 0 + max (rps : ℚ) 0 * t

section Bounds
variable {rs : List Arrival} {p : PerIPRateLimiter} {rps burst : Int} {peer ip : String}
  {start t : ℚ}

theorem address_le (hsorted : rs.Pairwise fun r r' => r.time ≤ r'.time) (ht : 0 ≤ t)
    (p : PerIPRateLimiter) (ip : String) (start : ℚ) :
    (((p.letThrough rs).filter fun r => extractIP r = ip ∧ InWindow start t r).length : ℚ) ≤
      allowance p.rps p.burst t := by
  have hwindow : (p.letThrough rs).filter (fun r => extractIP r = ip ∧ InWindow start t r) =
      ((p.letThrough rs).filter (extractIP · = ip)).filter
        fun r => start ≤ r.time ∧ r.time ≤ start + t := by
    rw [List.filter_filter]
    apply List.filter_congr
    intro r _
    simp [InWindow, and_comm]
  have hrate : 0 ≤ p.limit := le_max_right _ _
  rw [hwindow, letThrough_address]
  exact TokenBucket.passes_window_le hrate (hsorted.filter _) ht (p.bucket ip)

/-- Of a peer no more is let through than the allowance of each address it goes by. -/
theorem through_le (hsorted : rs.Pairwise fun r r' => r.time ≤ r'.time) (ht : 0 ≤ t)
    (rps burst : Int) (peer : String) (start : ℚ) :
    ((throughFrom (newPerIPRateLimiter rps burst) rs peer start t).length : ℚ) ≤
      ((throughFrom (newPerIPRateLimiter rps burst) rs peer start t).map extractIP).toFinset.card *
        allowance rps burst t := by
  generalize hthrough : throughFrom (newPerIPRateLimiter rps burst) rs peer start t = through
  have hcount : ∀ ip, ((through.map extractIP).count ip : ℚ) ≤ allowance rps burst t := by
    intro ip
    refine le_trans (Nat.cast_le.mpr ?_) (address_le hsorted ht (newPerIPRateLimiter rps burst) ip
      start)
    rw [← hthrough, throughFrom, List.count, List.countP_map, List.countP_filter,
      ← List.countP_eq_length_filter]
    apply List.countP_mono_left
    intro r _ hr
    simp only [Function.comp_apply, beq_iff_eq, Bool.and_eq_true, decide_eq_true_eq] at hr ⊢
    exact ⟨hr.1, hr.2.2⟩
  have hsum := Multiset.toFinset_sum_count_eq (through.map extractIP : Multiset String)
  simp only [Multiset.coe_count, Multiset.coe_card, List.length_map] at hsum
  rw [← hsum, Nat.cast_sum, ← nsmul_eq_mul]
  exact Finset.sum_le_card_nsmul _ _ _ fun ip _ => hcount ip

/-- A peer that says nothing of whom it forwards for has the allowance of one address. -/
theorem through_le_of_unforwarded (hsorted : rs.Pairwise fun r r' => r.time ≤ r'.time)
    (ht : 0 ≤ t) (rps burst : Int) (start : ℚ)
    (hplain : ∀ r ∈ rs, remoteHost r.remoteAddr = peer →
      r.request.header.get "X-Forwarded-For" = "") :
    ((throughFrom (newPerIPRateLimiter rps burst) rs peer start t).length : ℚ) ≤
      allowance rps burst t := by
  refine le_trans (Nat.cast_le.mpr ?_) (address_le hsorted ht (newPerIPRateLimiter rps burst) peer
    start)
  rw [throughFrom, ← List.countP_eq_length_filter, ← List.countP_eq_length_filter]
  apply List.countP_mono_left
  intro r hr hpeer
  simp only [decide_eq_true_eq] at hpeer ⊢
  refine ⟨?_, hpeer.2⟩
  rw [extractIP, hplain r (letThrough_subset _ _ hr) hpeer.1]
  exact hpeer.1

/-- A new address is let through at once, whatever others have spent. -/
theorem letThrough_distinct (hburst : 1 ≤ p.burst) (hdistinct : (rs.map extractIP).Nodup)
    (hpath : ∀ r ∈ rs, r.request.path ≠ "/healthz")
    (hnew : ∀ r ∈ rs, p.bucket (extractIP r) = .full p.burst) : p.letThrough rs = rs := by
  induction rs generalizing p with
  | nil => rfl
  | cons r rs ih =>
      obtain ⟨hfresh, hrest⟩ := List.nodup_cons.mp hdistinct
      have hone : (1 : ℚ) ≤ p.burst := by exact_mod_cast hburst
      have hallowed : ((p.bucket (extractIP r)).allow p.limit p.burst r.time).isSome = true := by
        rw [hnew r List.mem_cons_self]
        exact TokenBucket.allow_full hone
      obtain ⟨l, hl⟩ := Option.isSome_iff_exists.mp hallowed
      have hstill : ∀ r' ∈ rs, (p.put (extractIP r) l).bucket (extractIP r') = .full p.burst := by
        intro r' hr'
        have hother : extractIP r' ≠ extractIP r := fun hsame =>
          hfresh (hsame ▸ List.mem_map_of_mem hr')
        rw [bucket_put_other hother]
        exact hnew r' (List.mem_cons_of_mem _ hr')
      have hlater : ∀ r' ∈ rs, r'.request.path ≠ "/healthz" :=
        fun r' hr' => hpath r' (List.mem_cons_of_mem _ hr')
      have hthrough : (p.put (extractIP r) l).letThrough rs = rs := ih hburst hrest hlater hstill
      rw [letThrough_passed (hpath r List.mem_cons_self) hl, hthrough]

end Bounds

section Unbounded

/-- A request of one peer, forwarded for a name of so many letters. -/
def forwardedFor (n : Nat) : Arrival where
  time := 0
  remoteAddr := "10.0.0.7:5555"
  request := ⟨"/api/verify", .received [("X-Forwarded-For", .ofList (.replicate (n + 1) 'a'))]⟩

theorem extractIP_forwardedFor (n : Nat) :
    extractIP (forwardedFor n) = .ofList (.replicate (n + 1) 'a') := by
  have hget : (forwardedFor n).request.header.get "X-Forwarded-For" =
      .ofList (.replicate (n + 1) 'a') := by
    simp [forwardedFor, Header.get, Header.values, Header.received]
  have hname : String.ofList (.replicate (n + 1) 'a') ≠ "" := by
    intro hnone
    have hlist := congrArg String.toList hnone
    simp [List.replicate_succ] at hlist
  have hword : isWhiteSpace 'a' = false := by decide
  have hcomma : ('a' ≠ ',') = True := by decide
  simp only [extractIP, hget]
  rw [if_pos hname, String.toList_ofList, List.takeWhile_replicate]
  simp [trim, hword]

theorem forwardedFor_distinct (n : Nat) :
    (((List.range n).map forwardedFor).map extractIP).Nodup := by
  rw [List.map_map]
  apply List.Nodup.map_on _ List.nodup_range
  intro i _ j _ hsame
  simp only [Function.comp_apply, extractIP_forwardedFor] at hsame
  have hlength := congrArg (fun s => s.toList.length) hsame
  simpa using hlength

/-- However many requests a peer sends at one moment, all can be let through. -/
theorem peer_unbounded {rps burst : Int} (hburst : 1 ≤ burst) (n : Nat) :
    (throughFrom (newPerIPRateLimiter rps burst) ((List.range n).map forwardedFor) "10.0.0.7"
      0 0).length = n := by
  have hall : (newPerIPRateLimiter rps burst).letThrough ((List.range n).map forwardedFor) =
      (List.range n).map forwardedFor := by
    apply letThrough_distinct hburst (forwardedFor_distinct n)
    · intro r hr
      obtain ⟨i, -, rfl⟩ := List.mem_map.mp hr
      exact (by decide : "/api/verify" ≠ "/healthz")
    · intro r _
      rfl
  have hhost : remoteHost "10.0.0.7:5555" = "10.0.0.7" := by decide
  have hpeer : ∀ r ∈ (List.range n).map forwardedFor,
      remoteHost r.remoteAddr = "10.0.0.7" ∧ InWindow 0 0 r := by
    intro r hr
    obtain ⟨i, -, rfl⟩ := List.mem_map.mp hr
    exact ⟨hhost, le_refl 0, by simp [forwardedFor]⟩
  rw [throughFrom, hall, List.filter_eq_self.mpr (by simpa using hpeer)]
  simp

end Unbounded

section Sample

/-- Two requests of one peer, for two addresses it names. -/
def namedTwo : List Arrival :=
  [{ time := 0, remoteAddr := "10.0.0.7:5555"
     request := ⟨"/api/verify", .received [("x-forwarded-for", "1.1.1.1")]⟩ },
    { time := 0, remoteAddr := "10.0.0.7:5555"
      request := ⟨"/api/verify", .received [("x-forwarded-for", "2.2.2.2, 1.1.1.1")]⟩ }]

theorem through_le_two :
    ((throughFrom (newPerIPRateLimiter 1 1) namedTwo "10.0.0.7" 0 0).length : ℚ) ≤
      ((throughFrom (newPerIPRateLimiter 1 1) namedTwo "10.0.0.7" 0 0).map
        extractIP).toFinset.card * allowance 1 1 0 :=
  through_le (by simp [namedTwo]) (le_refl 0) 1 1 "10.0.0.7" 0

/-- At once two requests of a peer pass where one is the burst; and a burst below zero is no
bound even on no requests. -/
theorem peer_over_burst :
    (namedTwo.Pairwise fun r r' => r.time ≤ r'.time) ∧
      ¬((throughFrom (newPerIPRateLimiter 1 1) namedTwo "10.0.0.7" 0 0).length : ℚ) ≤
        ((1 : Int) : ℚ) + ((1 : Int) : ℚ) * 0 ∧
      ¬((throughFrom (newPerIPRateLimiter 0 (-1)) [] "10.0.0.7" 0 0).length : ℚ) ≤
        ((-1 : Int) : ℚ) + ((0 : Int) : ℚ) * 0 := by
  have htwo : (throughFrom (newPerIPRateLimiter 1 1) namedTwo "10.0.0.7" 0 0).length = 2 := by
    decide +kernel
  refine ⟨by simp [namedTwo], ?_, ?_⟩
  · rw [htwo]
    norm_num
  · simp [throughFrom, letThrough]

end Sample

end RcProtocol
