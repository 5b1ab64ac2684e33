import RcProtocol.Api.Auth
import RcProtocol.Library.Http

/-!
What rc-api asks of a write before it looks at its content: a JSON body, and the
headers of its handler.
-/

namespace RcProtocol
open Library

/-- Why a request is turned away: by the extractor of the body, or by the handler. -/
inductive EnvelopeError where
  | unsupportedMediaType
  | malformedBody
  | header (err : RcError)
  deriving DecidableEq

/-- `application/json`, or another subtype of `application` with the suffix. -/
def isJsonContentType (contentType : String) : Bool :=
  let essence := (contentType.toList.takeWhile fun c => c ≠ ';' ∧ c ≠ ' ').map Char.toLower
  essence = "application/json".toList ||
    "application/".toList.isPrefixOf essence && "+json".toList.isSuffixOf essence

def extractJson (header : Header) (body : Option RawMessage) : Except EnvelopeError Json :=
  if (header.values "Content-Type").head?.any isJsonContentType then
    match body.bind (·.value) with
    | some value => .ok value
    | none => .error .malformedBody
  else .error .unsupportedMediaType

/-- The envelope of a protocol action: the extractors run before the handler. -/
def actionEnvelope (request : OutgoingRequest) : Except EnvelopeError (Json × RequiredHeaders) := do
  let payload ← extractJson request.header request.body
  let required ← (parseRequiredHeaders (.ofHeader request.header)).mapError .header
  .ok (payload, required)

def transferEnvelope (request : OutgoingRequest) : Except EnvelopeError (Json × String) := do
  let payload ← extractJson request.header request.body
  let key ← (requiredHeader (.ofHeader request.header) "X-Idempotency-Key").mapError .header
  .ok (payload, key)

end RcProtocol
