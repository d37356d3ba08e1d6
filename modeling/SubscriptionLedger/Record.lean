import SubscriptionLedger.Billing.Event
import SubscriptionLedger.Service.Settings

namespace SubscriptionLedger

structure Health where
  status : String
  version : String
deriving DecidableEq, Repr

structure Readiness where
  status : String
  database : String
  payments : String
deriving DecidableEq, Repr

namespace Health

def form : Form Health := mk <$> .required "status" Rule.text <*> .required "version" Rule.text

def toDocument (h : Health) : Document := .object [("status", .text h.status), ("version", .text h.version)]

def healthy (version : String) : Health := ⟨"healthy", version⟩

end Health

namespace Readiness

def form : Form Readiness :=
  mk <$> .required "status" Rule.text <*> .required "database" Rule.text <*> .required "payments" Rule.text

def toDocument (r : Readiness) : Document :=
  .object [("status", .text r.status), ("database", .text r.database), ("payments", .text r.payments)]

def assess (connected configured : Bool) : Readiness where
  status := if connected && configured then "ready" else "degraded"
  database := if connected then "connected" else "unavailable"
  payments := if configured then "configured" else "unconfigured"

end Readiness

structure Claims where
  subject : String
  email : Option String
  emailConfirmedAt : Option String
  emailVerified : Option Bool
  -- seconds after 1970 from which the token is no longer good
  expires : Int
  -- seconds after 1970 at which the token was issued
  issued : Int
  audience : String
  role : String
deriving DecidableEq, Repr

structure Identity where
  id : String
  email : String
  emailVerified : Bool
  lastSignIn : Option Moment
  role : String
deriving DecidableEq, Repr

namespace Claims

def form : Form Claims :=
  mk <$> .required "sub" Rule.text <*> .optional "email" Rule.text <*> .optional "email_confirmed_at" Rule.text
    <*> .optional "email_verified" Rule.truth <*> .required "exp" Rule.whole <*> .required "iat" Rule.whole
    <*> .defaulted "aud" "authenticated" Rule.text <*> .defaulted "role" "authenticated" Rule.text

-- The explicit claim decides; without it, a time of confirmation does.
def isEmailVerified (c : Claims) : Bool := c.emailVerified.getD c.emailConfirmedAt.isSome

def toDocument (c : Claims) : Document :=
  .object [("sub", .text c.subject), ("email", .ofText? c.email), ("email_confirmed_at", .ofText? c.emailConfirmedAt),
    ("email_verified", .ofOption .bool c.emailVerified), ("exp", .int c.expires), ("iat", .int c.issued),
    ("aud", .text c.audience), ("role", .text c.role)]

end Claims

namespace Identity

def form : Form Identity :=
  mk <$> .required "id" Rule.text <*> .required "email" Rule.mail <*> .defaulted "email_verified" false Rule.truth
    <*> .optional "last_sign_in" Rule.moment <*> .defaulted "role" "user" Rule.text

def toDocument (i : Identity) : Document :=
  .object [("id", .text i.id), ("email", .text i.email), ("email_verified", .bool i.emailVerified),
    ("last_sign_in", .ofOption .ofMoment i.lastSignIn), ("role", .text i.role)]

end Identity

structure CheckoutRequest where
  productId : Option String
  priceId : Option String
  successUrl : String
  cancelUrl : String
deriving DecidableEq, Repr

structure PortalRequest where
  returnUrl : String
deriving DecidableEq, Repr

structure CheckoutSession where
  id : String
  url : String
deriving DecidableEq, Repr

structure PortalSession where
  url : String
deriving DecidableEq, Repr

namespace CheckoutRequest

def form : Form CheckoutRequest :=
  mk <$> .optional "product_id" Rule.text <*> .optional "price_id" Rule.text
    <*> .required "success_url" (Rule.textAtLeast 1) <*> .required "cancel_url" (Rule.textAtLeast 1)

def toDocument (r : CheckoutRequest) : Document :=
  .object [("product_id", .ofText? r.productId), ("price_id", .ofText? r.priceId),
    ("success_url", .text r.successUrl), ("cancel_url", .text r.cancelUrl)]

end CheckoutRequest

namespace PortalRequest

def form : Form PortalRequest := mk <$> .required "return_url" (Rule.textAtLeast 1)

def toDocument (r : PortalRequest) : Document := .object [("return_url", .text r.returnUrl)]

end PortalRequest

namespace CheckoutSession

def form : Form CheckoutSession := mk <$> .required "session_id" Rule.text <*> .required "url" Rule.text

def toDocument (s : CheckoutSession) : Document := .object [("session_id", .text s.id), ("url", .text s.url)]

end CheckoutSession

namespace PortalSession

def form : Form PortalSession := mk <$> .required "url" Rule.text

def toDocument (s : PortalSession) : Document := .object [("url", .text s.url)]

end PortalSession

inductive RecordKind where
  | user
  | product
  | billing
  | newBilling
  | billingUpdate
  -- an event whose kind is known beforehand
  | eventOf (kind : EventKind)
  -- an event that names its own kind
  | event
  | reconciliation
  | acknowledgement
  | checkoutSession
  | portalSession
  | checkoutRequest
  | portalRequest
  | summary
  | claims
  | identity
  | health
  | readiness
  | settings
deriving DecidableEq, Repr

inductive Record where
  | user (r : User)
  | product (r : Product)
  | billing (r : Billing)
  | newBilling (r : NewBilling)
  | billingUpdate (r : BillingUpdate)
  | event (r : Event)
  | reconciliation (r : Reconciliation)
  | acknowledgement (r : Acknowledgement)
  | checkoutSession (r : CheckoutSession)
  | portalSession (r : PortalSession)
  | checkoutRequest (r : CheckoutRequest)
  | portalRequest (r : PortalRequest)
  | summary (r : Summary)
  | claims (r : Claims)
  | identity (r : Identity)
  | health (r : Health)
  | readiness (r : Readiness)
  | settings (r : Settings)
deriving DecidableEq, Repr

namespace Record

def rule : RecordKind → Rule Record
  | .user => Form.record (user <$> User.form)
  | .product => Form.record (product <$> Product.form)
  | .billing => Form.record (billing <$> Billing.form)
  | .newBilling => Form.record (newBilling <$> NewBilling.form)
  | .billingUpdate => Form.record (billingUpdate <$> BillingUpdate.form)
  | .eventOf kind => Form.record (event <$> Event.formOf kind)
  | .event => fun d => (Event.rule d).map event
  | .reconciliation => Form.record (reconciliation <$> Reconciliation.form)
  | .acknowledgement => Form.record (acknowledgement <$> Acknowledgement.form)
  | .checkoutSession => Form.record (checkoutSession <$> CheckoutSession.form)
  | .portalSession => Form.record (portalSession <$> PortalSession.form)
  | .checkoutRequest => Form.record (checkoutRequest <$> CheckoutRequest.form)
  | .portalRequest => Form.record (portalRequest <$> PortalRequest.form)
  | .summary => Form.record (summary <$> Summary.form)
  | .claims => Form.record (claims <$> Claims.form)
  | .identity => Form.record (identity <$> Identity.form)
  | .health => Form.record (health <$> Health.form)
  | .readiness => Form.record (readiness <$> Readiness.form)
  | .settings => Form.record (settings <$> Settings.form)

def toDocument : Record → Document
  | user r => r.toDocument
  | product r => r.toDocument
  | billing r => r.toDocument
  | newBilling r => r.toDocument
  | billingUpdate r => r.toDocument
  | event r => r.toDocument
  | reconciliation r => r.toDocument
  | acknowledgement r => r.toDocument
  | checkoutSession r => r.toDocument
  | portalSession r => r.toDocument
  | checkoutRequest r => r.toDocument
  | portalRequest r => r.toDocument
  | summary r => r.toDocument
  | claims r => r.toDocument
  | identity r => r.toDocument
  | health r => r.toDocument
  | readiness r => r.toDocument
  | settings r => r.toDocument

end Record
end SubscriptionLedger
