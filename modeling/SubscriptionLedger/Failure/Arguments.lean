import SubscriptionLedger.Failure.Report

namespace SubscriptionLedger

structure Parameter where
  name : String
  value? : Option Document := none

structure Arguments where
  placed : List Document
  named : Members

namespace Arguments

def take (named : Members) (name : String) : Option Document × Members :=
  (named.find? name, named.filter fun m => m.1 != name)

-- The value of every parameter in order. Each takes the next placed argument, else the one of its
-- name, else its own value; none may be given twice, and none may be left over.
def bind : List Parameter → Arguments → Except Misfit (List Document)
  | [], ⟨placed, named⟩ => if placed.isEmpty && named.isEmpty then .ok [] else .error .wrongKind
  | p :: ps, ⟨placed, named⟩ =>
    let (byName, others) := take named p.name
    match placed, byName with
    | _ :: _, some _ => .error .wrongKind
    | d :: rest, none => (bind ps ⟨rest, others⟩).map (d :: ·)
    | [], some d => (bind ps ⟨[], others⟩).map (d :: ·)
    | [], none =>
      match p.value? with
      | some d => (bind ps ⟨[], others⟩).map (d :: ·)
      | none => .error .wrongKind

end Arguments

namespace FailureKind

def must (name : String) : Parameter := { name }
def may (name : String) (value : Document := .null) : Parameter := { name, value? := some value }

def parameters : FailureKind → List Parameter
  | general | validation | authentication | authorization | notFound | billing =>
    [must "message", may "code", may "details"]
  | externalService => [must "message", must "service", may "code", may "details"]
  | userNotFound | emailNotVerified | duplicateBilling => [must "user_id"]
  | productNotFound => [must "product_ref", may "reason"]
  | defaultProductMissing => []
  | token => [must "message", must "code", may "reason"]
  | invalidToken => [may "message" (.text "Invalid authentication token"), may "reason"]
  | expiredToken => [may "message" (.text "Authentication token has expired")]
  | missingToken => [may "message" (.text "Authentication required")]
  | malformedEvent => [must "event_type", must "reason", may "event_id"]
  | invalidSessionRequest => [must "reason"]
  | webhookVerification => [may "reason"]
  | billingNotFound => [may "user_id", may "billing_id"]
  | customerNotFound => [must "user_id", must "billing_id"]
  | sessionCreationFailed => [may "session_id"]
  | paymentProcessor => [must "operation", may "stripe_error"]
  | billingUserNotFound => [must "email", must "external_subscription_id"]
  | reconciliation => [must "message", may "details"]

end FailureKind

namespace Report

def ofValues : FailureKind → List Document → Except Misfit Report
  | .externalService, [message, service, code, details] => external message service code details
  | .userNotFound, [userId] => .ok (userNotFound userId)
  | .emailNotVerified, [userId] => .ok (emailNotVerified userId)
  | .duplicateBilling, [userId] => .ok (duplicateBilling userId)
  | .productNotFound, [reference, reason] => .ok (productNotFound reference reason)
  | .defaultProductMissing, [] => .ok defaultProductMissing
  | .token, [message, code, reason] => .ok (token .token message code reason)
  | .invalidToken, [message, reason] => .ok (invalidToken message reason)
  | .expiredToken, [message] => .ok (expiredToken message)
  | .missingToken, [message] => .ok (missingToken message)
  | .malformedEvent, [type, reason, eventId] => .ok (malformedEvent type reason eventId)
  | .invalidSessionRequest, [reason] => .ok (invalidSessionRequest reason)
  | .webhookVerification, [reason] => .ok (webhookVerification reason)
  | .billingNotFound, [userId, billingId] => .ok (billingNotFound userId billingId)
  | .customerNotFound, [userId, billingId] => .ok (customerNotFound userId billingId)
  | .sessionCreationFailed, [sessionId] => .ok (sessionCreationFailed sessionId)
  | .paymentProcessor, [operation, error] => .ok (paymentProcessor operation error)
  | .billingUserNotFound, [email, subscriptionId] => .ok (billingUserNotFound email subscriptionId)
  | .reconciliation, [message, details] => .ok (reconciliation message details)
  | kind, [message, code, details] => .ok (plain kind message code details)
  | _, _ => .error .wrongKind

def make (kind : FailureKind) (arguments : Arguments) : Except Misfit Report :=
  (Arguments.bind kind.parameters arguments).bind (ofValues kind)

end Report
end SubscriptionLedger
