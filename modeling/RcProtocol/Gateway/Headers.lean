import RcProtocol.Gateway.Auth

/-!
The rest of the gateway's checks (middleware/trace.go and middleware/headers.go), and
their order: a request is given a trace id, authenticated, and, when it writes, asked
for its idempotency key.
-/

namespace RcProtocol.Gateway
open Library

/-- A request that brings no trace id is given a fresh one. -/
def trace (fresh : String) (r : Request) : Request :=
  if r.header.get traceIDHeader = "" then r.set traceIDHeader fresh else r

def writeMethods : List String := ["POST", "PUT", "PATCH", "DELETE"]

def writeHeaders (method : String) (r : Request) : Except Rejection Request :=
  if isPublicPath r.path then .ok r
  else if method ∈ writeMethods ∧ r.header.get "X-Idempotency-Key" = "" then
    .error ⟨400, "INVALID_INPUT", "missing required header: X-Idempotency-Key",
      r.header.get traceIDHeader⟩
  else .ok r

/-- The request as the router forwards it. -/
def serve (p : Primitives) (parseWithClaims : String → Option Claims) (fresh method : String)
    (r : Request) : Except Rejection Request := do
  let r ← auth p parseWithClaims (trace fresh r)
  writeHeaders method r

end RcProtocol.Gateway
