import SubscriptionLedger.Form

namespace SubscriptionLedger

inductive BillingStatus where
  | active
  | pastDue
  | canceled
deriving DecidableEq, Repr

namespace BillingStatus

def word : BillingStatus → String
  | active => "active"
  | pastDue => "past_due"
  | canceled => "canceled"

def ofWord? : String → Option BillingStatus
  | "active" => some active
  | "past_due" => some pastDue
  | "canceled" => some canceled
  | _ => none

@[simp] theorem ofWord?_word (s : BillingStatus) : ofWord? s.word = some s := by cases s <;> rfl

def rule : Rule BillingStatus := Rule.choice ofWord? .unknownChoice

def toDocument (s : BillingStatus) : Document := .text s.word

end BillingStatus

structure Billing where
  id : String
  userId : String
  productId : String
  subscriptionId : Option String
  customerId : Option String
  status : BillingStatus
  -- end of the paid window
  expiresAt : Moment
  createdAt : Option Moment
  updatedAt : Option Moment
deriving DecidableEq, Repr

structure NewBilling where
  userId : String
  productId : String
  subscriptionId : String
  customerId : Option String
  status : BillingStatus
  expiresAt : Moment
deriving DecidableEq, Repr

-- Fields that are nothing stay as they are.
structure BillingUpdate where
  productId : Option String := none
  subscriptionId : Option String := none
  customerId : Option String := none
  status : Option BillingStatus := none
  expiresAt : Option Moment := none
deriving DecidableEq, Repr

namespace Billing

def form : Form Billing :=
  mk <$> .required "id" Rule.text <*> .required "user_id" Rule.text <*> .required "product_id" Rule.text
    <*> .optional "external_subscription_id" Rule.text <*> .optional "external_customer_id" Rule.text
    <*> .required "status" BillingStatus.rule <*> .required "expires_at" Rule.moment
    <*> .optional "created_at" Rule.moment <*> .optional "updated_at" Rule.moment

def toDocument (b : Billing) : Document :=
  .object [("id", .text b.id), ("user_id", .text b.userId), ("product_id", .text b.productId),
    ("external_subscription_id", .ofText? b.subscriptionId), ("external_customer_id", .ofText? b.customerId),
    ("status", b.status.toDocument), ("expires_at", .ofMoment b.expiresAt),
    ("created_at", .ofOption .ofMoment b.createdAt), ("updated_at", .ofOption .ofMoment b.updatedAt)]

def apply (b : Billing) (u : BillingUpdate) : Billing :=
  { b with
    productId := u.productId.getD b.productId
    subscriptionId := u.subscriptionId.or b.subscriptionId
    customerId := u.customerId.or b.customerId
    status := u.status.getD b.status
    expiresAt := u.expiresAt.getD b.expiresAt }

end Billing

namespace NewBilling

def form : Form NewBilling :=
  mk <$> .required "user_id" Rule.text <*> .required "product_id" Rule.text
    <*> .required "external_subscription_id" Rule.text <*> .optional "external_customer_id" Rule.text
    <*> .defaulted "status" .active BillingStatus.rule <*> .required "expires_at" Rule.moment

def columns (b : NewBilling) : Members :=
  [("user_id", .text b.userId), ("product_id", .text b.productId),
    ("external_subscription_id", .text b.subscriptionId), ("external_customer_id", .ofText? b.customerId),
    ("status", b.status.toDocument), ("expires_at", .ofMoment b.expiresAt)]

def toDocument (b : NewBilling) : Document := .object b.columns

end NewBilling

namespace BillingUpdate

def form : Form BillingUpdate :=
  mk <$> .optional "product_id" Rule.text <*> .optional "external_subscription_id" Rule.text
    <*> .optional "external_customer_id" Rule.text <*> .optional "status" BillingStatus.rule
    <*> .optional "expires_at" Rule.moment

def allColumns (u : BillingUpdate) : Members :=
  [("product_id", .ofText? u.productId), ("external_subscription_id", .ofText? u.subscriptionId),
    ("external_customer_id", .ofText? u.customerId), ("status", .ofOption BillingStatus.toDocument u.status),
    ("expires_at", .ofOption .ofMoment u.expiresAt)]

def columns (u : BillingUpdate) : Members := u.allColumns.filter fun c => c.2 != .null

def toDocument (u : BillingUpdate) : Document := .object u.allColumns

end BillingUpdate

structure Product where
  id : String
  name : String
  description : Option String
  price : Int
  currency : String
  -- the payment provider's name for the price, without which nothing can be sold
  priceId : Option String
  providerProductId : Option String
  active : Bool
  isDefault : Bool
  createdAt : Option Moment
  updatedAt : Option Moment
deriving DecidableEq, Repr

namespace Product

def form : Form Product :=
  mk <$> .required "id" Rule.text <*> .required "name" Rule.text <*> .optional "description" Rule.text
    <*> .required "price" (Rule.wholeAtLeast 0) <*> .defaulted "currency" "usd" Rule.text
    <*> .optional "external_price_id" Rule.text <*> .optional "external_product_id" Rule.text
    <*> .defaulted "active" true Rule.truth <*> .defaulted "is_default" false Rule.truth
    <*> .optional "created_at" Rule.moment <*> .optional "updated_at" Rule.moment

-- A product is for sale while it is active and has a price at the payment provider.
def purchasable (p : Product) : Bool := p.active && p.priceId.any (· != "")

def toDocument (p : Product) : Document :=
  .object [("id", .text p.id), ("name", .text p.name), ("description", .ofText? p.description),
    ("price", .int p.price), ("currency", .text p.currency), ("external_price_id", .ofText? p.priceId),
    ("external_product_id", .ofText? p.providerProductId), ("active", .bool p.active),
    ("is_default", .bool p.isDefault), ("created_at", .ofOption .ofMoment p.createdAt),
    ("updated_at", .ofOption .ofMoment p.updatedAt)]

end Product

structure User where
  id : String
  email : String
  name : Option String
  password : Option String
  age : Option Int
  phone : Option String
  emailVerified : Bool
  -- nothing until billing has placed the user
  currentProductId : Option String
  refreshToken : Option String
  emailToken : Option String
  createdAt : Option Moment
  updatedAt : Option Moment
deriving DecidableEq, Repr

namespace User

def form : Form User :=
  mk <$> .required "id" Rule.text <*> .required "email" Rule.mail <*> .optional "name" Rule.text
    <*> .optional "password" Rule.text <*> .optional "age" (Rule.wholeAtLeast 0) <*> .optional "phone" Rule.text
    <*> .defaulted "email_verified" false Rule.truth <*> .optional "current_product_id" Rule.text
    <*> .optional "refresh_token" Rule.text <*> .optional "email_token" Rule.text
    <*> .optional "created_at" Rule.moment <*> .optional "updated_at" Rule.moment

def toDocument (u : User) : Document :=
  .object [("id", .text u.id), ("email", .text u.email), ("name", .ofText? u.name),
    ("password", .ofText? u.password), ("age", .ofOption .int u.age), ("phone", .ofText? u.phone),
    ("email_verified", .bool u.emailVerified), ("current_product_id", .ofText? u.currentProductId),
    ("refresh_token", .ofText? u.refreshToken), ("email_token", .ofText? u.emailToken),
    ("created_at", .ofOption .ofMoment u.createdAt), ("updated_at", .ofOption .ofMoment u.updatedAt)]

end User

structure Summary where
  hasSubscription : Bool
  billing : Option Billing
  product : Option Product
deriving DecidableEq, Repr

namespace Summary

def form : Form Summary :=
  mk <$> .required "has_subscription" Rule.truth <*> .optional "billing" (Form.record Billing.form)
    <*> .optional "product" (Form.record Product.form)

def toDocument (s : Summary) : Document :=
  .object [("has_subscription", .bool s.hasSubscription), ("billing", .ofOption Billing.toDocument s.billing),
    ("product", .ofOption Product.toDocument s.product)]

end Summary
end SubscriptionLedger
