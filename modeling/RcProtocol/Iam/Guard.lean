import RcProtocol.Library.Header

/-!
Who go-iam takes a caller for (internal/middleware/auth_guard.go), from the headers the
gateway sets, and the role its management routes ask for.
-/

namespace RcProtocol.Iam.Middleware
open Library

structure Claims where
  sub : String
  role : String
  orgID : String
  brandID : String
  deriving DecidableEq

/-- The reply of a guard that stops the request. -/
structure Refusal where
  statusCode : Nat
  error : String
  message : String
  deriving DecidableEq

def Claims.fromRequest (header : Header) : Claims :=
  ⟨header.get "X-Claims-Sub", header.get "X-Claims-Role", header.get "X-Claims-Org-Id",
    header.get "X-Claims-Brand-Id"⟩

def Claims.valid (c : Claims) : Bool :=
  c.sub ≠ "" && c.role ≠ "" && ["Platform", "Brand", "Factory", "Consumer", "Moderator"].contains c.role

/-- The claims the rest of the chain finds in the context. -/
def authGuard (header : Header) : Except Refusal Claims :=
  let claims := Claims.fromRequest header
  if claims.valid then .ok claims
  else .error ⟨401, "AUTH_REQUIRED", "valid identity claims required"⟩

def requireRole (roles : List String) (claims : Claims) : Except Refusal Claims :=
  if claims.role ∈ roles then .ok claims else .error ⟨403, "FORBIDDEN", "insufficient role"⟩

/-- What stands before every route that manages users, organizations, positions, members and
API keys. -/
def management (header : Header) : Except Refusal Claims := do
  requireRole ["Platform"] (← authGuard header)

theorem management_ok {header : Header} {c : Claims} :
    management header = .ok c ↔
      Claims.fromRequest header = c ∧ c.valid = true ∧ c.role = "Platform" := by
  rw [management, authGuard]
  constructor
  · intro h
    split at h
    · next hvalid =>
      have hrole : requireRole ["Platform"] (Claims.fromRequest header) = .ok c := h
      rw [requireRole] at hrole
      split at hrole
      · next hplatform =>
        have hc := Except.ok.inj hrole
        rw [← hc]
        exact ⟨rfl, hvalid, List.mem_singleton.mp hplatform⟩
      · cases hrole
    · cases h
  · intro h
    obtain ⟨hc, hvalid, hrole⟩ := h
    rw [hc, if_pos hvalid]
    exact if_pos (List.mem_singleton.mpr hrole)

end RcProtocol.Iam.Middleware
