import Mathlib.Algebra.Order.Ring.Rat
import RcProtocol.Gateway.Auth
import RcProtocol.Library.TokenBucket

/-!
The `RateLimit` middleware of the gateway (go-gateway, middleware/ratelimit.go): one
limiter for each address a request is taken to come from, made when the address first
appears. Limiters are exact token buckets; those of the rate package count in floats.
-/

namespace RcProtocol.Gateway
open Library

/-- A request, when it arrives (in seconds), and what the connection says of its origin. -/
structure Arrival where
  time : ℚ
  remoteAddr : String
  request : Request

/-- `net.SplitHostPort`: the host, which is in brackets when it has colons of its own, and the
port after the last colon; nothing when the text is not of that form. -/
def splitHostPort (cs : List Char) : Option (List Char × List Char) :=
  let port := (cs.reverse.takeWhile (· ≠ ':')).reverse
  let before := cs.take (cs.length - port.length - 1)
  if ':' ∉ cs then none
  else if cs.head? = some '[' then
    let host := cs.tail.takeWhile (· ≠ ']')
    if before = '[' :: host ++ [']'] ∧ '[' ∉ host ∧ '[' ∉ port ∧ ']' ∉ port then some (host, port)
    else none
  else if ':' ∉ before ∧ '[' ∉ cs ∧ ']' ∉ cs then some (before, port)
  else none

example : splitHostPort "[fe80::1%eth0]:443".toList =
    some ("fe80::1%eth0".toList, "443".toList) := by decide

example : splitHostPort "fe80::1".toList = none := by decide

/-- The host of an address; all of it when it is not a host and a port. -/
def remoteHost (remoteAddr : String) : String :=
  match splitHostPort remoteAddr.toList with
  | none => remoteAddr
  | some (host, _) => .ofList host

/-- The address a request is counted under: the first one forwarded for, before the peer's. -/
def extractIP (r : Arrival) : String :=
  let xff := r.request.header.get "X-Forwarded-For"
  if xff ≠ "" then trim (.ofList (xff.toList.takeWhile (· ≠ ',')))
  else remoteHost r.remoteAddr

structure PerIPRateLimiter where
  limiters : String → Option (TokenBucket ℚ)
  rps : Int
  burst : Int

def newPerIPRateLimiter (rps burst : Int) : PerIPRateLimiter := ⟨fun _ => none, rps, burst⟩

inductive Limited where
  | exempt
  | passed (headers : List (String × String))
  | refused (headers : List (String × String)) (rejection : Rejection)

namespace PerIPRateLimiter
variable (p : PerIPRateLimiter)

def put (ip : String) (limiter : TokenBucket ℚ) : PerIPRateLimiter :=
  { p with limiters := Function.update p.limiters ip (some limiter) }

def getLimiter (ip : String) : TokenBucket ℚ × PerIPRateLimiter :=
  match p.limiters ip with
  | some limiter => (limiter, p)
  | none => (.full p.burst, p.put ip (.full p.burst))

/-- No token comes back at a rate below zero. -/
def limit : ℚ := max p.rps 0

/-- What is left of the tokens is read from the limiter at a later moment, for a header
of a request that is let through; it is left out. -/
def rateLimit (r : Arrival) : PerIPRateLimiter × Limited :=
  if r.request.path = "/healthz" then (p, .exempt)
  else
    let ip := extractIP r
    let (ipLim, p) := p.getLimiter ip
    match ipLim.allow p.limit p.burst r.time with
    | none =>
        (p, .refused [("X-RateLimit-Limit", toString p.rps), ("X-RateLimit-Remaining", "0"),
            ("Retry-After", "1")]
          ⟨429, "RATE_LIMITED", "rate limit exceeded", r.request.header.get traceIDHeader⟩)
    | some ipLim => (p.put ip ipLim, .passed [("X-RateLimit-Limit", toString p.rps)])

/-- Of a sequence of requests, those let through at the cost of a token. -/
def letThrough (p : PerIPRateLimiter) : List Arrival → List Arrival
  | [] => []
  | r :: rs =>
      match p.rateLimit r with
      | (p, .passed _) => r :: p.letThrough rs
      | (p, _) => p.letThrough rs

/-- The limiter of an address, as it is or as it will be made. -/
def bucket (ip : String) : TokenBucket ℚ := (p.limiters ip).getD (.full p.burst)

variable {p} {ip other : String} {limiter : TokenBucket ℚ} {r : Arrival}

@[simp] theorem put_limit : (p.put ip limiter).limit = p.limit := rfl

@[simp] theorem put_burst : (p.put ip limiter).burst = p.burst := rfl

@[simp] theorem bucket_put_self : (p.put ip limiter).bucket ip = limiter := by
  simp [bucket, put]

theorem bucket_put_other (hne : other ≠ ip) : (p.put ip limiter).bucket other = p.bucket other := by
  simp [bucket, put, hne]

theorem getLimiter_eq : p.getLimiter ip = (p.bucket ip, p.put ip (p.bucket ip)) := by
  unfold getLimiter bucket
  cases h : p.limiters ip with
  | none => rfl
  | some limiter =>
      have hsame : p.put ip limiter = p := by
        rw [put, ← h, Function.update_eq_self]
      simp [hsame]

theorem rateLimit_exempt (hpath : r.request.path = "/healthz") : p.rateLimit r = (p, .exempt) := by
  rw [rateLimit, if_pos hpath]

/-- A request that finds no token leaves every limiter as it is. -/
theorem letThrough_refused {rs : List Arrival} (hpath : r.request.path ≠ "/healthz")
    (h : (p.bucket (extractIP r)).allow p.limit p.burst r.time = none) :
    p.letThrough (r :: rs) = (p.put (extractIP r) (p.bucket (extractIP r))).letThrough rs := by
  simp [letThrough, rateLimit, hpath, getLimiter_eq, h]

theorem letThrough_passed {rs : List Arrival} {l : TokenBucket ℚ}
    (hpath : r.request.path ≠ "/healthz")
    (h : (p.bucket (extractIP r)).allow p.limit p.burst r.time = some l) :
    p.letThrough (r :: rs) = r :: (p.put (extractIP r) l).letThrough rs := by
  have hput : (p.put (extractIP r) (p.bucket (extractIP r))).put (extractIP r) l =
      p.put (extractIP r) l := by
    simp [put]
  simp [letThrough, rateLimit, hpath, getLimiter_eq, h, hput]

theorem letThrough_exempt {rs : List Arrival} (hpath : r.request.path = "/healthz") :
    p.letThrough (r :: rs) = p.letThrough rs := by
  simp [letThrough, rateLimit_exempt hpath]

theorem letThrough_subset (p : PerIPRateLimiter) (rs : List Arrival) : p.letThrough rs ⊆ rs := by
  induction rs generalizing p with
  | nil => exact List.Subset.refl _
  | cons r rs ih =>
      by_cases hpath : r.request.path = "/healthz"
      · rw [letThrough_exempt hpath]
        exact List.subset_cons_of_subset r (ih p)
      cases h : (p.bucket (extractIP r)).allow p.limit p.burst r.time with
      | none =>
          rw [letThrough_refused hpath h]
          exact List.subset_cons_of_subset r (ih _)
      | some l =>
          rw [letThrough_passed hpath h]
          exact List.cons_subset_cons r (ih _)

theorem bucket_put_bucket : (p.put ip (p.bucket ip)).bucket other = p.bucket other := by
  by_cases hne : other = ip
  · rw [hne, bucket_put_self]
  · exact bucket_put_other hne

/-- What is let through for an address is what its own limiter lets pass of its requests. -/
theorem letThrough_address (p : PerIPRateLimiter) (ip : String) (rs : List Arrival) :
    (p.letThrough rs).filter (extractIP · = ip) =
      TokenBucket.passes p.limit p.burst Arrival.time (p.bucket ip)
        (rs.filter fun r => r.request.path ≠ "/healthz" ∧ extractIP r = ip) := by
  induction rs generalizing p with
  | nil => rfl
  | cons r rs ih =>
      by_cases hpath : r.request.path = "/healthz"
      · rw [letThrough_exempt hpath, List.filter_cons_of_neg (by simp [hpath])]
        exact ih p
      by_cases hip : extractIP r = ip
      · rw [List.filter_cons_of_pos (by simp [hpath, hip])]
        cases h : (p.bucket ip).allow p.limit p.burst r.time with
        | none =>
            rw [letThrough_refused hpath (hip ▸ h), TokenBucket.passes_refused h, ih]
            simp [bucket_put_bucket]
        | some l =>
            rw [letThrough_passed hpath (hip ▸ h), TokenBucket.passes_allowed h,
              List.filter_cons_of_pos (by simpa using hip), ih]
            simp [hip]
      · rw [List.filter_cons_of_neg (by simp [hip])]
        cases h : (p.bucket (extractIP r)).allow p.limit p.burst r.time with
        | none =>
            rw [letThrough_refused hpath h, ih]
            simp [bucket_put_bucket]
        | some l =>
            rw [letThrough_passed hpath h, List.filter_cons_of_neg (by simpa using hip), ih]
            simp [bucket_put_other (Ne.symm hip)]

end PerIPRateLimiter

end RcProtocol.Gateway
