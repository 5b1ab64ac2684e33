import RcProtocol.Library.Http

/-!
The requests go-bff sends to rc-api (upstream/client.go), and the one of its handlers
that writes (handler/app_asset.go). Of the headers of the gateway four are passed on.
-/

namespace RcProtocol.Bff
open Library

structure GatewayAuthHeaders where
  authorization : String
  traceID : String
  apiKeyHash : String
  apiKeyVerified : String

def GatewayAuthHeaders.fromRequest (header : Header) : GatewayAuthHeaders :=
  ⟨header.get "Authorization", header.get "X-Trace-Id", header.get "X-Api-Key-Hash",
    header.get "X-Api-Key-Verified"⟩

/-- The request `doInternal` sends, with those of its arguments that are not empty. -/
def doInternal (method fullURL : String) (body : Option RawMessage)
    (contentType authHeader traceID apiKeyHash apiKeyVerified : String) : OutgoingRequest :=
  let h : Header := {}
  let h := if contentType ≠ "" then h.set "Content-Type" contentType else h
  let h := if authHeader ≠ "" then h.set "Authorization" authHeader else h
  let h := if traceID ≠ "" then h.set "X-Trace-Id" traceID else h
  let h := if apiKeyHash ≠ "" then h.set "X-Api-Key-Hash" apiKeyHash else h
  let h := if apiKeyVerified ≠ "" then h.set "X-Api-Key-Verified" apiKeyVerified else h
  { method := method, url := fullURL, header := h, body := body }

structure UpstreamClient where
  rcApiBaseURL : String

namespace UpstreamClient
variable (c : UpstreamClient)

def rcApiURL (path : String) : String := c.rcApiBaseURL ++ path

def rcApiDoWithGatewayAuth (method path : String) (body : Option RawMessage) (contentType : String)
    (headers : GatewayAuthHeaders) : OutgoingRequest :=
  doInternal method (c.rcApiURL path) body contentType headers.authorization headers.traceID
    headers.apiKeyHash headers.apiKeyVerified

/-- What `TransferAsset` sends for a request with this header and body. -/
def transferAsset (assetID : String) (header : Header) (body : RawMessage) : OutgoingRequest :=
  c.rcApiDoWithGatewayAuth "POST" ("/assets/" ++ assetID ++ "/transfer") (some body)
    "application/json" (.fromRequest header)

end UpstreamClient

end RcProtocol.Bff
