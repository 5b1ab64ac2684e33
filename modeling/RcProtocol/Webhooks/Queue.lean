import RcProtocol.Api.Messages
import RcProtocol.Library.Http
import RcProtocol.Library.Interleaving
import RcProtocol.Library.Postgres

/-!
The tables of the webhooks, the statements rc-api and go-webhook run on them
(webhooks/mod.rs, queue/db.go), and what else the two ask of their environment.
-/

namespace RcProtocol.Webhooks
open Library

inductive DeliveryStatus where
  | pending | sent | failed | abandoned
  deriving DecidableEq

/-- Times are counted in microseconds. -/
abbrev Time := Int

structure WebhookDelivery where
  deliveryID : Uuid
  webhookID : Uuid
  eventType : String
  payload : Json
  status : DeliveryStatus := .pending
  attempts : Nat := 0
  lastAttemptAt : Option Time := none
  nextRetryAt : Option Time := none
  responseStatus : Option Nat := none
  responseBody : Option String := none
  createdAt : Time

instance : Keyed WebhookDelivery where
  Key := Uuid
  key d := d.deliveryID
  Clash a b := a = b
  decClash _ _ := inferInstanceAs (Decidable (_ = _))
  symm h := h.symm

/-- The default of the column, in the order JSONB keeps its members. -/
def defaultRetryConfig : Json :=
  .obj [("max_retries", .num 3), ("backoff_seconds", .arr [.num 60, .num 300, .num 900])]

structure WebhookConfigRow where
  webhookID : Uuid
  brandID : String
  url : String
  secret : Option String := none
  events : TextArray
  status : String := "Active"
  retryConfig : Option Json := some defaultRetryConfig

instance : Keyed WebhookConfigRow where
  Key := Uuid
  key c := c.webhookID
  Clash a b := a = b
  decClash _ _ := inferInstanceAs (Decidable (_ = _))
  symm h := h.symm

structure Store where
  deliveries : Table WebhookDelivery := .empty
  configs : Table WebhookConfigRow := .empty

/-- An attempt failed, before there was a request or while it was sent. -/
inductive SendError where
  | create (message : String)
  | send (message : String)

/-- An exchange over HTTP names the delivery it is for. -/
inductive Op where
  | selectSubscribed (brandID eventType : String)
  | newUuid
  | utcNow
  | insertDelivery (webhookID : Uuid) (eventType : String) (payload : Json)
  | selectPending (limit : Nat)
  | selectConfig (webhookID : Uuid)
  | send (deliveryID : Uuid) (request : OutgoingRequest)
  | now
  | updateSuccess (deliveryID : Uuid) (statusCode : Nat) (responseBody : List UInt8)
  | updateFailure (deliveryID : Uuid) (statusCode : Option Nat) (responseBody : List UInt8)
      (nextRetryAt : Option Time) (maxRetriesReached : Bool)

@[reducible] def Op.Answer : Op → Type
  | .selectSubscribed .. => Except String (List Uuid)
  | .newUuid => Uuid
  | .utcNow => String
  | .selectPending _ => Except String (List WebhookDelivery)
  | .selectConfig _ => Except String (Option WebhookConfigRow)
  | .send .. => Except SendError (Nat × List UInt8)
  | .now => Time
  | .insertDelivery .. | .updateSuccess .. | .updateFailure .. => Except String Unit

abbrev interface : Interface := ⟨Op, Op.Answer⟩

def ask (op : Op) : Program interface op.Answer := .call op .done

/-- How one step goes. The rank decides which rows come first where no order is asked for. -/
structure Env where
  fails : Option String := none
  applied : Bool := false
  now : Time := 0
  utcNow : String := "1970-01-01T00:00:00+00:00"
  uuid : Uuid := .repeated 0
  rank : Uuid → Nat := fun _ => 0
  outcome : Except SendError (Nat × List UInt8) := .error (.send "connection refused")

/-- A statement takes effect, whatever it answers. -/
def Env.writes (env : Env) : Bool := env.fails.isNone || env.applied

/-- The largest value of an `INT` column. -/
def maxInt : Nat := 2147483647

def WebhookDelivery.due (now : Time) (d : WebhookDelivery) : Bool :=
  d.status = .pending && d.nextRetryAt.all (· ≤ now)

def WebhookDelivery.older (rank : Uuid → Nat) (a b : WebhookDelivery) : Bool :=
  a.createdAt < b.createdAt ||
    a.createdAt = b.createdAt && rank a.deliveryID ≤ rank b.deliveryID

def WebhookDelivery.succeed (now : Time) (statusCode : Nat) (responseBody : String)
    (d : WebhookDelivery) : WebhookDelivery :=
  { d with
    status := .sent
    attempts := d.attempts + 1
    lastAttemptAt := some now
    responseStatus := some statusCode
    responseBody := some responseBody }

def WebhookDelivery.fail (now : Time) (statusCode : Option Nat) (responseBody : String)
    (nextRetryAt : Option Time) (maxRetriesReached : Bool) (d : WebhookDelivery) :
    WebhookDelivery :=
  { d with
    status := if maxRetriesReached then .abandoned else .pending
    attempts := d.attempts + 1
    lastAttemptAt := some now
    nextRetryAt := nextRetryAt
    responseStatus := statusCode
    responseBody := some responseBody }

def WebhookConfigRow.subscribes (brandID eventType : String) (c : WebhookConfigRow) : Bool :=
  c.brandID = brandID && c.status = "Active" && c.events.any eventType

namespace Store
variable (s : Store)

def delivery (id : Uuid) : Option WebhookDelivery := s.deliveries.find (·.deliveryID = id)

def attempts (id : Uuid) : Option Nat := (s.delivery id).map (·.attempts)

def config (id : Uuid) : Option WebhookConfigRow := s.configs.find (·.webhookID = id)

def subscribed (rank : Uuid → Nat) (brandID eventType : String) : List Uuid :=
  ((s.configs.rows.filter (·.subscribes brandID eventType)).map (·.webhookID)).insertionSort
    fun a b => rank a ≤ rank b

def pending (now : Time) (rank : Uuid → Nat) (limit : Nat) : List WebhookDelivery :=
  ((s.deliveries.rows.filter (·.due now)).insertionSort fun a b => a.older rank b).take limit

/-- `UPDATE webhook_deliveries … WHERE delivery_id = $1`: the status is not asked for. -/
def updateDelivery (id : Uuid) (f : WebhookDelivery → WebhookDelivery)
    (hf : ∀ d, (f d).deliveryID = d.deliveryID) : Store :=
  { s with deliveries := s.deliveries.update (·.deliveryID = id) f hf }

/-- What a statement that writes answers and leaves, if nothing of its own is wrong. -/
def written (env : Env) (s' : Store) : Except String Unit × Store :=
  match env.fails with
  | some e => (.error e, if env.applied then s' else s)
  | none => (.ok (), s')

/-- The response has to be a text, and the update counts an attempt, which the column has
to hold. -/
def execUpdate (env : Env) (id : Uuid) (responseBody : List UInt8)
    (f : String → WebhookDelivery → WebhookDelivery)
    (hf : ∀ text d, (f text d).deliveryID = d.deliveryID) : Except String Unit × Store :=
  match textIn responseBody with
  | none => (.error "invalid byte sequence for encoding \"UTF8\"", s)
  | some text =>
      if (s.delivery id).any fun d => maxInt ≤ d.attempts then (.error "integer out of range", s)
      else s.written env (s.updateDelivery id (f text) (hf text))

def execInsert (env : Env) (webhookID : Uuid) (eventType : String) (payload : Json) :
    Except String Unit × Store :=
  if 64 < eventType.length then (.error "value too long for type character varying(64)", s)
  else if (s.config webhookID).isNone then (.error "violates foreign key constraint", s)
  else
    match s.deliveries.insert
        { deliveryID := env.uuid
          webhookID := webhookID
          eventType := eventType
          payload := payload
          createdAt := env.now } with
    | none => (.error "duplicate key value violates unique constraint", s)
    | some deliveries => s.written env { s with deliveries := deliveries }

end Store

def orFails {α : Type} (env : Env) (a : α) : Except String α :=
  match env.fails with
  | some e => .error e
  | none => .ok a

def exec (env : Env) : (op : Op) → Store → op.Answer × Store
  | .selectSubscribed brandID eventType, s =>
      (orFails env (s.subscribed env.rank brandID eventType), s)
  | .newUuid, s => (env.uuid, s)
  | .utcNow, s => (env.utcNow, s)
  | .insertDelivery webhookID eventType payload, s => s.execInsert env webhookID eventType payload
  | .selectPending limit, s => (orFails env (s.pending env.now env.rank limit), s)
  | .selectConfig id, s => (orFails env (s.config id), s)
  | .send _ _, s => (env.outcome, s)
  | .now, s => (env.now, s)
  | .updateSuccess id statusCode responseBody, s =>
      s.execUpdate env id responseBody (.succeed env.now statusCode) fun _ _ => rfl
  | .updateFailure id statusCode responseBody nextRetryAt maxRetriesReached, s =>
      s.execUpdate env id responseBody
        (fun text => .fail env.now statusCode text nextRetryAt maxRetriesReached) fun _ _ => rfl

def machine : Machine interface Store := ⟨Env, exec⟩

end RcProtocol.Webhooks
