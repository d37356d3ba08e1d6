import SubscriptionLedger.Document.Number
import SubscriptionLedger.Document.Writer

namespace SubscriptionLedger

inductive FailureKind where
  | general
  | validation
  | authentication
  | authorization
  | notFound
  | externalService
  | userNotFound
  | emailNotVerified
  | productNotFound
  | defaultProductMissing
  | token
  | invalidToken
  | expiredToken
  | missingToken
  | billing
  | malformedEvent
  | invalidSessionRequest
  | webhookVerification
  | billingNotFound
  | customerNotFound
  | sessionCreationFailed
  | paymentProcessor
  | billingUserNotFound
  | duplicateBilling
  | reconciliation
deriving DecidableEq, Repr

namespace FailureKind

def label : FailureKind → String
  | general => "SubledgerError"
  | validation => "ValidationError"
  | authentication => "AuthenticationError"
  | authorization => "AuthorizationError"
  | notFound => "NotFoundError"
  | externalService => "ExternalServiceError"
  | userNotFound => "UserNotFoundError"
  | emailNotVerified => "EmailNotVerifiedError"
  | productNotFound => "ProductNotFoundError"
  | defaultProductMissing => "DefaultProductMissingError"
  | token => "TokenError"
  | invalidToken => "InvalidTokenError"
  | expiredToken => "ExpiredTokenError"
  | missingToken => "MissingTokenError"
  | billing => "BillingError"
  | malformedEvent => "MalformedEventError"
  | invalidSessionRequest => "InvalidSessionRequestError"
  | webhookVerification => "WebhookVerificationError"
  | billingNotFound => "BillingNotFoundError"
  | customerNotFound => "CustomerNotFoundError"
  | sessionCreationFailed => "SessionCreationFailedError"
  | paymentProcessor => "PaymentProcessorError"
  | billingUserNotFound => "BillingUserNotFoundError"
  | duplicateBilling => "DuplicateBillingError"
  | reconciliation => "ReconciliationError"

def parent? : FailureKind → Option FailureKind
  | general => none
  | validation | authentication | authorization | notFound | externalService | defaultProductMissing
  | billing => some general
  | malformedEvent | invalidSessionRequest => some validation
  | token => some authentication
  | invalidToken | expiredToken | missingToken => some token
  | emailNotVerified => some authorization
  | userNotFound | productNotFound | billingNotFound | customerNotFound => some notFound
  | paymentProcessor => some externalService
  | webhookVerification | sessionCreationFailed | billingUserNotFound | duplicateBilling
  | reconciliation => some billing

def depth : FailureKind → Nat
  | general => 0
  | validation | authentication | authorization | notFound | externalService | defaultProductMissing
  | billing => 1
  | invalidToken | expiredToken | missingToken => 3
  | _ => 2

theorem depth_parent {k p : FailureKind} (h : k.parent? = some p) : p.depth < k.depth := by
  cases k <;> simp [parent?] at h <;> subst h <;> decide

def families (k : FailureKind) : List FailureKind :=
  match _h : k.parent? with
  | none => [k]
  | some p => k :: families p
termination_by k.depth
decreasing_by exact depth_parent (by assumption)

def ownStatus? : FailureKind → Option Nat
  | general => some 500
  | validation => some 400
  | authentication => some 401
  | authorization => some 403
  | notFound => some 404
  | externalService => some 502
  | _ => none

-- The status of the answer: that of the narrowest family that has one.
def status (k : FailureKind) : Nat := (k.families.findSome? ownStatus?).getD 500

end FailureKind

structure Report where
  kind : FailureKind
  message : Document
  code : Document
  details : Document
  -- the service beyond our own that failed
  service : Option Document := none
deriving DecidableEq, Repr

namespace Report

-- A code that is nothing is replaced by the label of the kind.
def codeOr (kind : FailureKind) (code : Document) : Document :=
  if code.isTruthy then code else .text kind.label

def coded (kind : FailureKind) (message : String) (code : String) (details : Members) : Report :=
  ⟨kind, .text message, .text code, .object details, none⟩

def whenGiven (name : String) (value : Document) : Members := if value.isTruthy then [(name, value)] else []

def detailsOr (details : Document) : Document := if details.isTruthy then details else .object []

def plain (kind : FailureKind) (message code details : Document) : Report :=
  ⟨kind, message, codeOr kind code, detailsOr details, none⟩

-- A report on a service beyond our own; its name joins the details, which have to be an object.
def external (message service code details : Document) : Except Misfit Report :=
  match detailsOr details with
  | .object members =>
    .ok ⟨.externalService, message, codeOr .externalService code, .object (Members.put members "service" service),
      some service⟩
  | _ => .error .wrongKind

def reconciliation (message details : Document) : Report :=
  plain .reconciliation message (.text "RECONCILIATION_INCOMPLETE") details

def userNotFound (userId : Document) : Report :=
  coded .userNotFound ("User not found: " ++ userId.display) "USER_NOT_FOUND" [("user_id", userId)]

def emailNotVerified (userId : Document) : Report :=
  coded .emailNotVerified "Email address must be verified before purchasing a subscription"
    "EMAIL_NOT_VERIFIED" [("user_id", userId)]

def productNotFound (reference reason : Document) : Report :=
  coded .productNotFound
    ("Product not found: " ++ reference.display ++
      if reason.isTruthy then " (" ++ reason.display ++ ")" else "")
    "PRODUCT_NOT_FOUND" (("product", reference) :: whenGiven "reason" reason)

def defaultProductMissing : Report :=
  coded .defaultProductMissing "No default product is configured in the catalog" "DEFAULT_PRODUCT_MISSING" []

def token (kind : FailureKind) (message code reason : Document) : Report :=
  ⟨kind, message, codeOr kind code, .object (whenGiven "reason" reason), none⟩

def invalidToken (message reason : Document) : Report :=
  token .invalidToken message (.text "INVALID_TOKEN") reason

def expiredToken (message : Document) : Report :=
  token .expiredToken message (.text "TOKEN_EXPIRED") (.text "exp")

def missingToken (message : Document) : Report := token .missingToken message (.text "MISSING_TOKEN") .null

def malformedEvent (type reason eventId : Document) : Report :=
  coded .malformedEvent ("Malformed " ++ type.display ++ " event: " ++ reason.display) "MALFORMED_EVENT"
    ([("event_type", type), ("reason", reason)] ++ whenGiven "event_id" eventId)

def invalidSessionRequest (reason : Document) : Report :=
  coded .invalidSessionRequest ("Invalid session request: " ++ reason.display) "INVALID_SESSION_REQUEST"
    [("reason", reason)]

def webhookVerification (reason : Document) : Report :=
  coded .webhookVerification "Webhook signature verification failed" "WEBHOOK_VERIFICATION_FAILED"
    (whenGiven "reason" reason)

def billingNotFound (userId billingId : Document) : Report :=
  coded .billingNotFound "User billing not found" "BILLING_NOT_FOUND"
    (whenGiven "user_id" userId ++ whenGiven "billing_id" billingId)

def customerNotFound (userId billingId : Document) : Report :=
  coded .customerNotFound "Stripe customer not found" "CUSTOMER_NOT_FOUND"
    [("user_id", userId), ("billing_id", billingId)]

def sessionCreationFailed (sessionId : Document) : Report :=
  coded .sessionCreationFailed "Checkout URL not available" "SESSION_CREATION_FAILED"
    (whenGiven "session_id" sessionId)

def paymentProcessor (operation error : Document) : Report :=
  { coded .paymentProcessor ("Payment processor request failed: " ++ operation.display)
      "PAYMENT_PROCESSOR_ERROR"
      ([("operation", operation), ("service", .text "stripe")] ++ whenGiven "stripe_error" error) with
    service := some (.text "stripe") }

def billingUserNotFound (email subscriptionId : Document) : Report :=
  coded .billingUserNotFound ("No user matches invoice email for subscription " ++ subscriptionId.display)
    "BILLING_USER_NOT_FOUND" [("email", email), ("external_subscription_id", subscriptionId)]

def duplicateBilling (userId : Document) : Report :=
  coded .duplicateBilling ("Billing already exists for user: " ++ userId.display) "DUPLICATE_BILLING"
    [("user_id", userId)]

def status (r : Report) : Nat := r.kind.status

def body (r : Report) : Document :=
  .object [("error", r.code), ("message", r.message), ("details", r.details)]

-- Failures of bearer tokens, all but a missing one, are told to the caller as an invalid token.
def challenge? (r : Report) : Option (Option String) :=
  if r.kind.families.contains .token then
    some (if r.kind = .missingToken then none else some "invalid_token")
  else none

end Report
end SubscriptionLedger
