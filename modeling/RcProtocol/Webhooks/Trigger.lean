import RcProtocol.Core.Types
import RcProtocol.Webhooks.Queue

/-!
How rc-api enqueues deliveries (webhooks/mod.rs). A statement that fails is logged and
otherwise ignored.
-/

namespace RcProtocol.Webhooks
open Library

def payloadOf (eventID eventType timestamp : String) (eventData : Json) : Json :=
  .obj [("data", eventData), ("event_id", .str eventID), ("event_type", .str eventType),
    ("timestamp", .str timestamp)]

/-- A delivery for each of the configurations. -/
def createDeliveries (eventType : String) (eventData : Json) : List Uuid → Program interface Unit
  | [] => .done ()
  | webhookID :: rest =>
      (ask .newUuid).bind fun eventID =>
        (ask .utcNow).bind fun timestamp =>
          (ask (.insertDelivery webhookID eventType
            (payloadOf eventID.display eventType timestamp eventData))).bind fun _ =>
              createDeliveries eventType eventData rest

def triggerWebhook (brandID eventType : String) (_assetID : Uuid) (eventData : Json) :
    Program interface Unit :=
  (ask (.selectSubscribed brandID eventType)).bind fun
    | .error _ => .done ()
    | .ok configs => createDeliveries eventType eventData configs

def eventTypeFromAction : AssetAction → Option String
  | .activateConfirm => some "asset.activated"
  | .legalSell => some "asset.sold"
  | .transfer => some "asset.transferred"
  | .freeze => some "asset.disputed"
  | .recover => some "asset.recovered"
  | _ => none

def triggerAssetWebhook (brandID : String) (assetID : Uuid) (action : AssetAction)
    (fromState toState actorID : String) (ownerID : Option String) : Program interface Unit :=
  match eventTypeFromAction action with
  | none => .done ()
  | some eventType =>
      (ask .utcNow).bind fun occurredAt =>
        triggerWebhook brandID eventType assetID (.obj
          [("action", .str action.asDbStr), ("actor_id", .str actorID),
            ("asset_id", .str assetID.display), ("brand_id", .str brandID),
            ("from_state", .str fromState), ("occurred_at", .str occurredAt),
            ("owner_id", .ofOption ownerID), ("to_state", .str toState)])

end RcProtocol.Webhooks
