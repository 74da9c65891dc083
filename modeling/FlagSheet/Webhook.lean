import FlagSheet.Text.Blank
import FlagSheet.Webhook.Event
import FlagSheet.Webhook.Signature

namespace FlagSheet.Webhook

inductive Refusal where
  | missingSignature
  | invalidSignature
  | invalidPayload (fault : Json.Fault)
deriving DecidableEq, Repr

def Refusal.message : Refusal → String
  | missingSignature => "missing webhook signature header"
  | invalidSignature => "invalid webhook signature"
  | invalidPayload fault => "invalid webhook payload: " ++ fault.message

def authenticate (secret : String) (body : Bytes) (signature : String) : Except Refusal Unit :=
  if Signature.accepts secret body signature then .ok () else .error .invalidSignature

/-- The event of a delivery. A blank signature counts as missing. -/
def receive (secret : String) (body : Bytes) (signature : Option String) :
    Except Refusal IssueEvent :=
  match signature with
  | none => .error .missingSignature
  | some signature =>
    if Text.allBlank signature then .error .missingSignature
    else
      match authenticate secret body signature with
      | .error e => .error e
      | .ok () => (IssueEvent.parse body).mapError .invalidPayload

end FlagSheet.Webhook
