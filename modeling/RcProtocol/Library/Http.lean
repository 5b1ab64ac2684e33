import RcProtocol.Library.Header
import RcProtocol.Library.Json

/-!
Requests one service sends to another, and how they end.
-/

namespace RcProtocol.Library

/-- A body as it was received, and the JSON value it stands for, if it is one. -/
structure RawMessage where
  text : String
  value : Option Json

structure OutgoingRequest where
  method : String
  url : String
  header : Header
  body : Option RawMessage := none

inductive HttpOutcome where
  | notCreated
  | unavailable
  | answered (statusCode : Nat) (body : RawMessage)

def HttpOutcome.succeeded : HttpOutcome → Bool
  | .answered statusCode _ => 200 ≤ statusCode && statusCode < 300
  | _ => false

end RcProtocol.Library
