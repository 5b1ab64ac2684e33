import RcProtocol.Library.Header

/-!
The identity go-bff takes from the header of a request (auth/claims.go).
-/

namespace RcProtocol.Bff
open Library

structure Claims where
  sub : String
  role : String
  orgID : String
  brandID : String
  deriving DecidableEq

/-- The claims, or why there are none. -/
def parseClaims (header : Header) : Except String Claims :=
  let sub := header.get "X-Claims-Sub"
  let role := header.get "X-Claims-Role"
  if sub = "" ∨ role = "" then
    .error "missing identity headers (X-Claims-Sub, X-Claims-Role)"
  else if role ∈ ["Platform", "Brand", "Factory", "Consumer", "Moderator"] then
    .ok ⟨sub, role, header.get "X-Claims-Org-Id", header.get "X-Claims-Brand-Id"⟩
  else .error ("invalid role: " ++ role)

/-- No one is identified without a subject. -/
theorem parseClaims_unnamed {header : Header} (h : header.values "X-Claims-Sub" = []) :
    parseClaims header = .error "missing identity headers (X-Claims-Sub, X-Claims-Role)" := by
  have hsub : header.get "X-Claims-Sub" = "" := by
    rw [Header.get, h]
    rfl
  rw [parseClaims, if_pos (.inl hsub)]

end RcProtocol.Bff
