import RcProtocol.Crypto.Keys
import RcProtocol.Webhooks.Queue

/-!
A worker of go-webhook (delivery/worker.go). How the text of an event list is decoded
is one of its parts.
-/

namespace RcProtocol.Webhooks
open Library

structure RetryConfig where
  maxRetries : Int
  backoffSeconds : List Int := [60, 300, 900]
  timeoutSeconds : Int := 30

structure WebhookConfig where
  webhookID : Uuid
  brandID : String
  url : String
  secret : Option String
  events : List String
  status : String
  retryConfig : Json

structure Worker where
  primitives : Primitives
  retryConfig : RetryConfig
  unmarshal : String → Option (List String)

namespace Worker
variable (w : Worker)

/-- What a scan answers where the column is NULL: it has no place for that. -/
def scanError : String :=
  "sql: Scan error on column index 6, name \"retry_config\": unsupported Scan, storing " ++
    "driver.Value type <nil> into type *json.RawMessage"

def fetchWebhookConfig (webhookID : Uuid) : Program interface (Except String WebhookConfig) :=
  (ask (.selectConfig webhookID)).map fun
    | .error e => .error ("failed to fetch webhook config: " ++ e)
    | .ok none => .error "failed to fetch webhook config: sql: no rows in result set"
    | .ok (some row) =>
        match row.retryConfig, w.unmarshal row.events.out with
        | none, _ => .error ("failed to fetch webhook config: " ++ scanError)
        | some _, none => .error "failed to parse events"
        | some retryConfig, some events =>
            .ok
              { webhookID := row.webhookID
                brandID := row.brandID
                url := row.url
                secret := row.secret
                events := events
                status := row.status
                retryConfig := retryConfig }

def generateSignature (payload : List UInt8) (secret : String) : String :=
  "sha256=" ++ hexEncode (w.primitives.hmacSha256 (utf8 secret) payload).toList

def sendHeader (config : WebhookConfig) (delivery : WebhookDelivery) : Header :=
  let h : Header := {}
  let h := h.set "Content-Type" "application/json"
  let h := h.set "User-Agent" "RCProtocol-Webhook/1.0"
  let h := h.set "X-Webhook-Event" delivery.eventType
  let h := h.set "X-Webhook-Delivery" delivery.deliveryID.display
  match config.secret with
  | none => h
  | some secret =>
      if secret ≠ "" then
        h.set "X-Webhook-Signature" (w.generateSignature (utf8 (jsonbOut delivery.payload)) secret)
      else h

def sendRequest (config : WebhookConfig) (delivery : WebhookDelivery) : OutgoingRequest where
  method := "POST"
  url := config.url
  header := w.sendHeader config delivery
  body := some ⟨jsonbOut delivery.payload, some delivery.payload⟩

/-- The status, what is read of the body, and the error. -/
def sendWebhook (config : WebhookConfig) (delivery : WebhookDelivery) :
    Program interface (Nat × List UInt8 × Option String) :=
  (ask (.send delivery.deliveryID (w.sendRequest config delivery))).map fun
    | .error (.create e) => (0, [], some ("failed to create request: " ++ e))
    | .error (.send e) => (0, [], some ("failed to send request: " ++ e))
    | .ok (statusCode, body) => (statusCode, body.take 1024, none)

def handleSuccess (delivery : WebhookDelivery) (statusCode : Nat) (responseBody : List UInt8) :
    Program interface (Except String Unit) :=
  ask (.updateSuccess delivery.deliveryID statusCode responseBody)

/-- The time of the next attempt, while there is one and the table has a delay for it. -/
def nextRetryAt (attempts : Nat) (maxRetriesReached : Bool) : Program interface (Option Time) :=
  if h : maxRetriesReached = false ∧ attempts - 1 < w.retryConfig.backoffSeconds.length then
    (ask .now).map fun now =>
      some (now + w.retryConfig.backoffSeconds.get ⟨attempts - 1, h.2⟩ * 1000000)
  else .done none

def handleFailure (delivery : WebhookDelivery) (statusCode : Nat) (responseBody : List UInt8)
    (sendErr : Option String) : Program interface (Except String Unit) :=
  let attempts := delivery.attempts + 1
  let maxRetriesReached := decide (w.retryConfig.maxRetries ≤ attempts)
  (w.nextRetryAt attempts maxRetriesReached).bind fun nextRetryAt =>
    ask (.updateFailure delivery.deliveryID (if 0 < statusCode then some statusCode else none)
      ((sendErr.map utf8).getD responseBody) nextRetryAt maxRetriesReached)

def processDelivery (delivery : WebhookDelivery) : Program interface (Except String Unit) :=
  (w.fetchWebhookConfig delivery.webhookID).attempt
    (fun e => .error ("failed to fetch webhook config: " ++ e)) fun config =>
      if config.status ≠ "Active" then .done (.ok ())
      else
        (w.sendWebhook config delivery).bind fun (statusCode, responseBody, err) =>
          if err.isSome ∨ statusCode < 200 ∨ 300 ≤ statusCode then
            w.handleFailure delivery statusCode responseBody err
          else handleSuccess delivery statusCode responseBody

/-- An error is logged, and the next delivery is taken up. -/
def processDeliveries : List WebhookDelivery → Program interface Unit
  | [] => .done ()
  | delivery :: rest => (w.processDelivery delivery).bind fun _ => processDeliveries rest

def processBatch : Program interface Unit :=
  (ask (.selectPending 10)).bind fun
    | .error _ => .done ()
    | .ok deliveries => w.processDeliveries deliveries

end Worker

end RcProtocol.Webhooks
