import SubscriptionLedger.Program

namespace SubscriptionLedger.Gateway

open Program

def sellable (reference : Reference) : Option Product → Program Product
  | none => fail (.productNotFound reference)
  | some product => if product.purchasable then done product else fail (.productNotForSale reference)

def resolve (productId priceId : Reference) : Program Product :=
  match productId.isTruthy, priceId.isTruthy with
  | true, false => do sellable productId (← query (.productById productId))
  | false, true => do sellable priceId (← query (.productByPrice priceId))
  | _, _ => fail .ambiguousProduct

-- A known customer is used again, so that a second purchase makes no second customer.
def checkoutRequest (user : User) (product : Product) (customerId : Option String)
    (successUrl cancelUrl : Document) : PaymentRequest :=
  .checkout (.ofText? product.priceId) successUrl cancelUrl (.ofText? customerId)
    (if customerId.getD "" = "" then .text user.email else .null)
    (.object [("product_id", .text product.id), ("user_id", .text user.id)])

def checkout (userId : Reference) (successUrl cancelUrl : Document) (productId priceId : Reference) :
    Program CheckoutSession := do
  match ← query (.userById userId) with
  | none => fail (.userNotFound userId)
  | some user =>
    if !user.emailVerified then
      fail (.emailNotVerified user.id)
    else
      let product ← resolve productId priceId
      let billing ← query (.billingByUser user.id)
      let customerId := billing.bind (·.customerId)
      let session ← payment (checkoutRequest user product customerId successUrl cancelUrl)
      if !session.url.isTruthy then
        fail (.noCheckoutAddress session.id)
      else
        ofExcept <| Checked.orInvalid .checkoutSession <|
          CheckoutSession.form [("session_id", session.id), ("url", session.url)]

def portal (userId : Reference) (returnUrl : Document) : Program PortalSession := do
  match ← query (.billingByUser userId) with
  | none => fail (.noBillingOfUser userId)
  | some billing =>
    let customerId := billing.customerId.getD ""
    if customerId = "" then
      fail (.noCustomer userId billing.id)
    else
      let session ← payment (.portal customerId returnUrl)
      ofExcept <| Checked.orInvalid .portalSession <| PortalSession.form [("url", session.url)]

def hasSubscription (billing : Option Billing) : Bool := billing.any (·.status == .active)

def summary (userId : Reference) : Program Summary := do
  match ← query (.userById userId) with
  | none => fail (.userNotFound userId)
  | some user =>
    let billing ← query (.billingByUser userId)
    let productId := user.currentProductId.getD ""
    let product ← if productId = "" then pure none else query (.productById productId)
    return ⟨hasSubscription billing, billing, product⟩

end SubscriptionLedger.Gateway
