import Mathlib.Algebra.Order.Field.Basic
import Mathlib.Tactic.Linarith
import Mathlib.Tactic.Ring

/-!
Token buckets: what passes takes a token, tokens come back at a rate, and no more of
them are kept than a burst. How many pass in a window of time is bounded by the two.
-/

namespace RcProtocol.Library

/-- The tokens left at the last time one was taken; none has been from a new bucket. -/
structure TokenBucket (K : Type) where
  tokens : K
  last : Option K
  deriving DecidableEq

namespace TokenBucket
variable {K : Type} [Field K] [LinearOrder K]

def full (burst : K) : TokenBucket K := ⟨burst, none⟩

def elapsed (b : TokenBucket K) (now : K) : K :=
  match b.last with
  | none => 0
  | some last => max 0 (now - last)

def available (rate burst : K) (b : TokenBucket K) (now : K) : K :=
  min burst (b.tokens + rate * b.elapsed now)

def taken (rate burst : K) (b : TokenBucket K) (now : K) : TokenBucket K :=
  ⟨b.available rate burst now - 1, some now⟩

/-- The bucket after one token is taken, if there is one. -/
def allow (rate burst : K) (b : TokenBucket K) (now : K) : Option (TokenBucket K) :=
  if 1 ≤ b.available rate burst now then some (b.taken rate burst now) else none

variable {α : Type} (rate burst : K) (time : α → K)

/-- The items that find a token. -/
def passes : TokenBucket K → List α → List α
  | _, [] => []
  | b, x :: xs =>
      match b.allow rate burst (time x) with
      | none => passes b xs
      | some b' => x :: passes b' xs

variable {rate burst time} {b b' : TokenBucket K} {x : α} {xs : List α} {now last start stop t : K}

@[simp] theorem taken_tokens :
    (b.taken rate burst now).tokens = b.available rate burst now - 1 := rfl

@[simp] theorem taken_last : (b.taken rate burst now).last = some now := rfl

theorem allow_eq_some (h : b.allow rate burst now = some b') :
    1 ≤ b.available rate burst now ∧ b' = b.taken rate burst now := by
  unfold allow at h
  split at h
  · next havailable => exact ⟨havailable, (Option.some.inj h).symm⟩
  · cases h

theorem passes_refused (h : b.allow rate burst (time x) = none) :
    passes rate burst time b (x :: xs) = passes rate burst time b xs := by
  rw [passes, h]

theorem passes_allowed (h : b.allow rate burst (time x) = some b') :
    passes rate burst time b (x :: xs) = x :: passes rate burst time b' xs := by
  rw [passes, h]

theorem passes_sublist (b : TokenBucket K) (xs : List α) :
    (passes rate burst time b xs).Sublist xs := by
  induction xs generalizing b with
  | nil => exact List.Sublist.refl _
  | cons x xs ih =>
      cases h : b.allow rate burst (time x) with
      | none =>
          rw [passes_refused h]
          exact (ih b).cons x
      | some b' =>
          rw [passes_allowed h]
          exact (ih b').cons_cons x

theorem available_le_burst : b.available rate burst now ≤ burst := min_le_left _ _

/-- A full bucket of at least one token lets the first item pass. -/
theorem allow_full (hburst : 1 ≤ burst) : ((full burst).allow rate burst now).isSome = true := by
  have havailable : (full burst).available rate burst now = burst := by
    simp [full, available, elapsed]
  rw [allow, if_pos (havailable.symm ▸ hburst)]
  rfl

variable [IsStrictOrderedRing K]

theorem available_le (hlast : b.last = some last) (hnow : last ≤ now) :
    b.available rate burst now ≤ b.tokens + rate * (now - last) := by
  have helapsed : b.elapsed now = now - last := by
    rw [elapsed, hlast]
    exact max_eq_right (sub_nonneg.mpr hnow)
  rw [available, helapsed]
  exact min_le_right _ _

/-- Up to a time, no more pass than there are tokens and come back. -/
theorem passes_until_le (hrate : 0 ≤ rate) (hsorted : xs.Pairwise fun x y => time x ≤ time y)
    (hlast : b.last = some last) (htokens : 0 ≤ b.tokens) (hfrom : ∀ x ∈ xs, last ≤ time x)
    (hstop : last ≤ stop) :
    (((passes rate burst time b xs).filter (time · ≤ stop)).length : K) ≤
      b.tokens + rate * (stop - last) := by
  induction xs generalizing b last with
  | nil =>
      have hback := mul_nonneg hrate (sub_nonneg.mpr hstop)
      simpa [passes] using add_nonneg htokens hback
  | cons x xs ih =>
      obtain ⟨hlater, hrest⟩ := List.pairwise_cons.mp hsorted
      have hx := hfrom x List.mem_cons_self
      cases h : b.allow rate burst (time x) with
      | none =>
          rw [passes_refused h]
          exact ih hrest hlast htokens (fun y hy => hfrom y (List.mem_cons_of_mem _ hy)) hstop
      | some b' =>
          rw [passes_allowed h]
          obtain ⟨havailable, rfl⟩ := allow_eq_some h
          by_cases hin : time x ≤ stop
          · have hpaid : b.available rate burst (time x) ≤ b.tokens + rate * (time x - last) :=
              available_le hlast hx
            have hcount := ih hrest taken_last (sub_nonneg.mpr havailable) hlater hin
            rw [List.filter_cons_of_pos (by simpa using hin), List.length_cons, Nat.cast_succ]
            have hsplit : rate * (time x - last) + rate * (stop - time x) = rate * (stop - last) := by
              ring
            rw [taken_tokens] at hcount
            linarith
          · have hnone : (passes rate burst time (b.taken rate burst (time x)) xs).filter
                (time · ≤ stop) = [] := by
              apply List.filter_eq_nil_iff.mpr
              intro y hy
              have hafter := hlater y ((passes_sublist _ xs).subset hy)
              have hout : stop < time y := lt_of_lt_of_le (not_le.mp hin) hafter
              simpa using hout
            rw [List.filter_cons_of_neg (by simpa using hin), hnone]
            have hback := mul_nonneg hrate (sub_nonneg.mpr hstop)
            simpa using add_nonneg htokens hback

theorem filter_window_le (xs : List α) (time : α → K) (start t : K) :
    ((xs.filter fun x => start ≤ time x ∧ time x ≤ start + t).length : K) ≤
      (xs.filter (time · ≤ start + t)).length := by
  apply Nat.cast_le.mpr
  rw [← List.countP_eq_length_filter, ← List.countP_eq_length_filter]
  apply List.countP_mono_left
  intro x _ hx
  simp only [decide_eq_true_eq] at hx ⊢
  exact hx.2

/-- In a window of time no more pass than a burst and what comes back meanwhile. -/
theorem passes_window_le (hrate : 0 ≤ rate) (hsorted : xs.Pairwise fun x y => time x ≤ time y)
    (ht : 0 ≤ t) (b : TokenBucket K) :
    (((passes rate burst time b xs).filter fun x => start ≤ time x ∧ time x ≤ start + t).length :
      K) ≤ max burst 0 + rate * t := by
  induction xs generalizing b with
  | nil =>
      have hback := mul_nonneg hrate ht
      simpa [passes] using add_nonneg (le_max_right burst 0) hback
  | cons x xs ih =>
      obtain ⟨hlater, hrest⟩ := List.pairwise_cons.mp hsorted
      cases h : b.allow rate burst (time x) with
      | none =>
          rw [passes_refused h]
          exact ih hrest b
      | some b' =>
          rw [passes_allowed h]
          by_cases hin : start ≤ time x ∧ time x ≤ start + t
          · obtain ⟨havailable, rfl⟩ := allow_eq_some h
            have hcount : (((passes rate burst time (b.taken rate burst (time x)) xs).filter
                (time · ≤ start + t)).length : K) ≤
                  b.available rate burst (time x) - 1 + rate * (start + t - time x) :=
              passes_until_le hrate hrest taken_last (sub_nonneg.mpr havailable) hlater hin.2
            have hfewer := filter_window_le
              (passes rate burst time (b.taken rate burst (time x)) xs) time start t
            have hwithin : rate * (start + t - time x) ≤ rate * t := by
              apply mul_le_mul_of_nonneg_left _ hrate
              linarith [hin.1]
            have hburst : b.available rate burst (time x) ≤ burst := available_le_burst
            have hmax := le_max_left burst 0
            rw [List.filter_cons_of_pos (by simpa using hin), List.length_cons, Nat.cast_succ]
            linarith
          · rw [List.filter_cons_of_neg (by simpa using hin)]
            exact ih hrest b'

end TokenBucket

end RcProtocol.Library
