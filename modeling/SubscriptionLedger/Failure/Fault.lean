import SubscriptionLedger.Failure.Report
import SubscriptionLedger.Record

namespace SubscriptionLedger

inductive NoticePart where
  | type
  | object
  | linePeriodEnd
  | customerEmail
  | customer
  | linePrice
  | subscription
  | currentPeriodEnd
deriving DecidableEq, Repr

def NoticePart.word : NoticePart → String
  | type => "event type"
  | object => "data.object"
  | linePeriodEnd => "line period end"
  | customerEmail => "customer_email"
  | customer => "customer"
  | linePrice => "line item price id"
  | subscription => "subscription id"
  | currentPeriodEnd => "current_period_end"

inductive NoticeFlaw where
  | missing (part : NoticePart)
  | noItems
  | unknownStatus (status : String)
deriving DecidableEq, Repr

def NoticeFlaw.reason : NoticeFlaw → String
  | missing part => "missing " ++ part.word
  | noItems => "subscription has no items"
  | unknownStatus status => "unknown subscription status '" ++ status ++ "'"

inductive DeliveryFlaw where
  | noSecret
  | noSignature
  | signature
  -- the body is no UTF-8 text
  | bytes
  -- the body is no document
  | document
  -- the body is a document of a kind that is not accepted
  | content
deriving DecidableEq, Repr

def DeliveryFlaw.reason : DeliveryFlaw → String
  | noSecret => "webhook secret not configured"
  | noSignature => "missing signature"
  | signature => "invalid signature"
  | bytes | document | content => "invalid payload"

inductive TokenFlaw where
  -- there is no secret to check a token with
  | noSecret
  | segments
  | headerPadding
  | unreadableHeader (why : String)
  | headerNotObject
  -- the payload is said to be elsewhere, but is here
  | payloadPresent
  | payloadPadding
  | signaturePadding
  | keyId
  | criticalList
  | criticalText
  | criticalUnknown (extension : String)
  | criticalAbsent (extension : String)
  -- the payload is said to be elsewhere, but not that this is critical
  | payloadNotCritical
  -- the payload is said to be elsewhere, and is not here
  | payloadElsewhere
  | noAlgorithm
  | algorithm
  | signature
  | unreadablePayload (why : String)
  | payloadNotObject
  | issuedNotWhole
  | issuedLater
  | startNotWhole
  | startLater
  | endNotWhole
  | noAudience
  | audienceForm
  | audience
  | subject
  | tokenId
  | noEmail
deriving DecidableEq, Repr

namespace TokenFlaw

def message : TokenFlaw → String
  | noSecret => "Server authentication not configured"
  | segments => "Not enough segments"
  | headerPadding => "Invalid header padding"
  | unreadableHeader why => "Invalid header string: " ++ why
  | headerNotObject => "Invalid header string: must be a json object"
  | payloadPresent => "Payload segment must be empty when 'b64' is false."
  | payloadPadding => "Invalid payload padding"
  | signaturePadding => "Invalid crypto padding"
  | keyId => "Key ID header parameter must be a string"
  | criticalList => "Invalid 'crit' header: must be a non-empty list"
  | criticalText => "Invalid 'crit' header: values must be strings"
  | criticalUnknown extension => "Unsupported critical extension: " ++ extension
  | criticalAbsent extension => "Critical extension '" ++ extension ++ "' is missing from headers"
  | payloadNotCritical => "The 'b64' header parameter requires 'b64' to be listed in 'crit'."
  | payloadElsewhere =>
    "It is required that you pass in a value for the \"detached_payload\" argument to decode a message " ++
      "having the b64 header set to false."
  | noAlgorithm => "Algorithm not specified"
  | algorithm => "The specified alg value is not allowed"
  | signature => "Signature verification failed"
  | unreadablePayload why => "Invalid payload string: " ++ why
  | payloadNotObject => "Invalid payload string: must be a json object"
  | issuedNotWhole => "Issued At claim (iat) must be an integer."
  | issuedLater => "The token is not yet valid (iat)"
  | startNotWhole => "Not Before claim (nbf) must be an integer."
  | startLater => "The token is not yet valid (nbf)"
  | endNotWhole => "Expiration Time claim (exp) must be an integer."
  | noAudience => "Token is missing the \"aud\" claim"
  | audienceForm => "Invalid claim format in token"
  | audience => "Audience doesn't match"
  | subject => "Subject must be a string"
  | tokenId => "JWT ID must be a string"
  | noEmail => "Token has no email claim"

def reason : TokenFlaw → String
  | noSecret => "secret"
  | noEmail => "email"
  | keyId | criticalList | criticalText | criticalUnknown _ | criticalAbsent _
  | payloadNotCritical => "InvalidTokenError"
  | noAlgorithm | algorithm => "InvalidAlgorithmError"
  | signature => "InvalidSignatureError"
  | issuedNotWhole => "InvalidIssuedAtError"
  | issuedLater | startLater => "ImmatureSignatureError"
  | noAudience => "MissingRequiredClaimError"
  | audienceForm | audience => "InvalidAudienceError"
  | subject => "InvalidSubjectError"
  | tokenId => "InvalidJTIError"
  | segments | headerPadding | unreadableHeader _ | headerNotObject | payloadPresent | payloadPadding
  | signaturePadding | payloadElsewhere | unreadablePayload _ | payloadNotObject | startNotWhole
  | endNotWhole => "DecodeError"

end TokenFlaw

structure PaymentError where
  -- the provider's own name for this kind of error
  kind : String
  text : String
deriving DecidableEq, Repr

inductive Fault where
  | userNotFound (userId : Reference)
  | emailNotVerified (userId : String)
  | productNotFound (reference : Reference)
  | productNotForSale (reference : Reference)
  | defaultProductMissing
  | missingToken
  | expiredToken
  | invalidToken (flaw : TokenFlaw)
  | malformedNotice (type : String) (flaw : NoticeFlaw) (eventId : Document)
  | ambiguousProduct
  | unverified (flaw : DeliveryFlaw)
  | noBillingOfUser (userId : Reference)
  | noBilling (billingId : Reference)
  | noCustomer (userId : Reference) (billingId : String)
  | noCheckoutAddress (sessionId : Document)
  | payment (operation : String) (error : PaymentError)
  -- an invoice names an address that belongs to no user
  | payerUnknown (email subscriptionId : String)
  | duplicateBilling (userId : String)
  -- a record was canceled, but its user could not be moved
  | incomplete (billingId userId subscriptionId : String) (cause : Fault)
  | invalid (kind : RecordKind) (issues : List Issue)
  -- the store refused a call
  | storage (code : Option String)
  | connection
  | timeout
  | crash
  | misfit (m : Misfit)
  -- the secret of tokens is a key of another kind
  | foreignKey
  | unreadableSettings
  -- the service was given no name, or no version
  | nameless
  | notConfigured
  | notConnected
  -- the work was called off from outside
  | cancelled
deriving DecidableEq, Repr

namespace Fault

def report? : Fault → Option Report
  | userNotFound userId => some (.userNotFound userId)
  | emailNotVerified userId => some (.emailNotVerified (.text userId))
  | productNotFound reference => some (.productNotFound reference .null)
  | productNotForSale reference =>
    some (.productNotFound reference (.text "not available for purchase"))
  | defaultProductMissing => some .defaultProductMissing
  | missingToken => some (.missingToken (.text "Authentication required"))
  | expiredToken => some (.expiredToken (.text "Authentication token has expired"))
  | invalidToken flaw => some (.invalidToken (.text flaw.message) (.text flaw.reason))
  | malformedNotice type flaw eventId => some (.malformedEvent (.text type) (.text flaw.reason) eventId)
  | ambiguousProduct =>
    some (.invalidSessionRequest (.text "provide exactly one of product_id or price_id"))
  | unverified flaw => some (.webhookVerification (.text flaw.reason))
  | noBillingOfUser userId => some (.billingNotFound userId .null)
  | noBilling billingId => some (.billingNotFound .null billingId)
  | noCustomer userId billingId => some (.customerNotFound userId (.text billingId))
  | noCheckoutAddress sessionId => some (.sessionCreationFailed sessionId)
  | payment operation error => some (.paymentProcessor (.text operation) (.text error.text))
  | payerUnknown email subscriptionId => some (.billingUserNotFound (.text email) (.text subscriptionId))
  | duplicateBilling userId => some (.duplicateBilling (.text userId))
  | incomplete billingId userId subscriptionId _ =>
    some (.reconciliation (.text "Cancellation cascade incomplete")
      (.object [("billing_id", .text billingId), ("user_id", .text userId),
        ("external_subscription_id", .text subscriptionId)]))
  | invalid _ _ | storage _ | connection | timeout | crash | misfit _ | foreignKey | unreadableSettings
  | nameless | notConfigured | notConnected | cancelled => none

def connectionMessage? : Fault → Option String
  | notConfigured =>
    some ("Supabase configuration missing. " ++
      "Set SUPABASE_URL and SUPABASE_SERVICE_ROLE_KEY environment variables.")
  | notConnected =>
    some ("Supabase client not initialized. " ++
      "Call init_supabase_client() during application startup.")
  | _ => none

end Fault

-- Turns the outcome of a check, or of a conversion, into the outcome of a piece of work.
def Checked.orInvalid (kind : RecordKind) : Checked α → Except Fault α
  | .ok a => .ok a
  | .error issues => .error (.invalid kind issues)

def Except.orMisfit : Except Misfit α → Except Fault α
  | .ok a => .ok a
  | .error m => .error (.misfit m)

def Settings.load (environment : Environment) : Except Fault Settings :=
  match Settings.members environment with
  | .ok members => (Settings.form members).orInvalid .settings
  | .error e =>
    match e.complaint with
    | .tooDeep _ => .error (.misfit .tooDeep)
    | _ => .error .unreadableSettings

end SubscriptionLedger
