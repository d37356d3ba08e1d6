import SubscriptionLedger.Http.Route
import SubscriptionLedger.Identity.Token
import SubscriptionLedger.Purchase.Gateway
import SubscriptionLedger.Service.Container
import SubscriptionLedger.Webhook.Delivery

namespace SubscriptionLedger

structure App where
  settings : Settings
  connection : Connection

namespace App

open Http Program

-- Starts the service, which needs a name and a version; a store that is named has to be reachable.
def start (environment : Environment) : Except Fault App :=
  (Settings.load environment).bind fun settings =>
    if settings.appName = "" || settings.appVersion = "" then .error .nameless
    else if settings.databaseUrl = "" then .ok ⟨settings, {}⟩
    else match ({} : Connection).establish (.ok settings) with
      | (.ok _, connection) => .ok ⟨settings, connection⟩
      | (.error f, _) => .error f

def stop (app : App) : App := { app with connection := app.connection.drop }

def verification (app : App) : Verification := ⟨app.settings.webhookSecret, app.settings.webhookTolerance⟩

def account (app : App) : PaymentAccount := ⟨app.settings.paymentKey, app.settings.paymentVersion⟩

def connected (app : App) : Program Unit := ofExcept (app.connection.get.map fun _ => ())

def ok (d : Document) : Program Response := ofExcept (Response.json 200 d [])

def bearer? (header : String) : Option String :=
  let cs := header.toList
  let scheme := Text.lower (String.ofList (cs.takeWhile (· != ' ')))
  let token := String.ofList (Text.trim Text.isBlank ((cs.dropWhile (· != ' ')).drop 1))
  if scheme = "bearer" && token ≠ "" then some token else none

def unauthorized (message : String) (error : Option String) : Except Fault Response :=
  (Response.detail 401 message [("www-authenticate", challenge error (error.map fun _ => message))]).sendable

-- How a refused token is told; every other fault stays one.
def refusedToken (f : Fault) : Except Fault Response :=
  match f.report?.bind fun r => r.challenge?.map fun error => (r.message.display, error) with
  | some (message, error) => unauthorized message error
  | none => .error f

def asCaller (mac : Mac) (app : App) (now : Instant) (r : Request) (work : Identity → Program Response) :
    Program Response :=
  match (r.headers.get? "authorization").bind bearer? with
  | none => ofExcept (unauthorized "Missing authorization header" none)
  | some token =>
    match Token.identify mac app.settings.tokenSecret now token with
    | .ok identity => work identity
    | .error f => ofExcept (refusedToken f)

-- Does some work with the record in a body; what is wrong with the body is told last.
def withRecord (form : Form α) (c : Content) (work : α → Program Response) : Program Response :=
  match record form c with
  | .ok a => work a
  | .error issues => if isQuotable c then ofExcept (unprocessable issues) else fail (.misfit .badValue)

-- Work for a caller who sends a record. A body that is no document is refused before anything else.
def withBody (mac : Mac) (app : App) (now : Instant) (r : Request) (form : Form α)
    (work : Identity → α → Program Response) : Program Response :=
  match content r with
  | .error e => ofExcept e.response
  | .ok c =>
    app.asCaller mac now r fun identity => do
      app.connected
      withRecord form c (work identity)

def deliveryFault : Fault → Program Response
  | .unverified _ => done (.detail 400 "Webhook signature verification failed" [])
  | f => fail f

def webhook (mac : Mac) (app : App) (now : Instant) (r : Request) : Program Response := do
  app.connected
  let work := receive mac app.verification (.ofInstant now) ⟨r.body, r.headers.get? "stripe-signature"⟩
  (work.bind fun a => ok a.toDocument).handle deliveryFault

def product (id : String) : Program Response := do
  match ← query (.productById id) with
  | some p => ok p.toDocument
  | none => fail (.productNotFound id)

def readiness (app : App) : Readiness :=
  .assess app.connection.client.isSome (app.settings.paymentKey ≠ "" && app.settings.webhookSecret ≠ "")

def endpoint (mac : Mac) (app : App) (now : Instant) (r : Request) : Endpoint → Program Response
  | .health => ok (Health.healthy app.settings.appVersion).toDocument
  | .readiness => ok app.readiness.toDocument
  | .products => do
    app.connected
    let products ← query .activeProducts
    ok (.list (products.map Product.toDocument))
  | .product id => do
    app.connected
    product id
  | .webhook => app.webhook mac now r
  | .checkout =>
    app.withBody mac now r CheckoutRequest.form fun identity b => do
      let session ← Gateway.checkout identity.id b.successUrl b.cancelUrl (.ofText? b.productId)
        (.ofText? b.priceId)
      ok session.toDocument
  | .portal =>
    app.withBody mac now r PortalRequest.form fun identity b => do
      let session ← Gateway.portal identity.id b.returnUrl
      ok session.toDocument
  | .summary =>
    app.asCaller mac now r fun identity => do
      app.connected
      let summary ← Gateway.summary identity.id
      ok summary.toDocument

def reported (f : Fault) : Program Response :=
  match f.report? with
  | some r => ofExcept (Response.json r.status r.body [])
  | none => fail f

def route (mac : Mac) (app : App) (now : Instant) (r : Request) : Program Response :=
  match Route.of app.settings.enableBilling r.method r.path with
  | .endpoint e => (app.endpoint mac now r e).handle reported
  | .otherMethod allowed => done (.detail 405 "Method Not Allowed" [("allow", allowed)])
  | .redirect path => done ⟨307, [("location", location r.authority path r.query)], .empty⟩
  | .nowhere => done (.detail 404 "Not Found" [])

def withOrigin (p : OriginPolicy) (request : Headers) (r : Response) : Response :=
  { r with headers := r.headers ++ p.simpleHeaders request }

def serve (mac : Mac) (app : App) (now : Instant) (r : Request) : Program Response :=
  let policy := OriginPolicy.ofSettings app.settings
  match OriginPolicy.preflight? r.method r.headers with
  | some f => done ((policy.answer f).toOption.getD .internalError)
  | none =>
    ((app.route mac now r).bind fun response => done (withOrigin policy r.headers response)).handle fun _ =>
      done .internalError

end App
end SubscriptionLedger
