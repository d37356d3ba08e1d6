import SubscriptionLedger.Failure.Fault

namespace SubscriptionLedger

namespace Notice

def memberOf (d : Document) (name : String) : Except Misfit Document :=
  match d with
  | .object members => .ok (Members.get members name)
  | _ => .error .notAnObject

-- The first that counts as present, else nothing.
def first (ds : List Document) : Document := (ds.find? (·.isTruthy)).getD .null

def reference (d : Document) : Document :=
  let name := match d with
    | .object members => Members.get members "id"
    | _ => d
  if name.isTruthy then .text name.display else .null

-- The first element of something that counts as present; only lists and texts have one.
def firstElement : Document → Except Misfit Document
  | .list (d :: _) => .ok d
  | .text s =>
    match s.toList with
    | c :: _ => .ok (.text (String.ofList [c]))
    | [] => .error .missing
  | .object _ => .error .missing
  | _ => .error .wrongKind

def linePrice (line : Document) : Except Misfit Document := do
  let price ← memberOf line "price"
  let plan ← memberOf line "plan"
  return first [reference price, line.dig ["pricing", "price_details", "price"], reference plan]

def invoiceSubscription (invoice : Document) : Except Misfit Document := do
  let lines := invoice.dig ["lines", "data"]
  let line ← if lines.isTruthy then firstElement lines else pure (.object [])
  let direct ← memberOf invoice "subscription"
  let ofLine ← memberOf line "subscription"
  return first [reference direct, reference (invoice.dig ["parent", "subscription_details", "subscription"]),
    reference ofLine, reference (line.dig ["parent", "subscription_item_details", "subscription"])]

def status? : String → Option BillingStatus
  | "active" | "trialing" => some .active
  | "past_due" | "unpaid" | "incomplete" | "paused" => some .pastDue
  | "canceled" | "incomplete_expired" => some .canceled
  | _ => none

def revokes (word : Document) : Bool :=
  word = .text "canceled" || word = .text "unpaid" || word = .text "incomplete_expired"

structure Context where
  eventId : Document
  type : String
  object : Document

namespace Context

def refuse (c : Context) (flaw : NoticeFlaw) : Except Fault α :=
  .error (.malformedNotice c.type flaw c.eventId)

-- A part that must be there and must not be an empty text.
def require (c : Context) (part : NoticePart) (d : Document) : Except Fault Document :=
  if d = .null || d = .text "" then c.refuse (.missing part) else .ok d

-- What every event carries; the provider's name of the notice has to be a text, if it has one.
def head (c : Context) : Checked EventHead :=
  (Checked.field "event_id" (Rule.nullable Rule.text) c.eventId).map fun id => ⟨id, c.type⟩

def ignored (c : Context) (reason : String) : Except Fault Event :=
  Checked.orInvalid (.eventOf .ignored) (c.head.map fun head => Event.ignored ⟨head, reason⟩)

end Context

def moment (d : Document) : Except Misfit Moment := d.whole.bind Moment.ofUnix

open Checked (field)

def invoicePaid (c : Context) : Except Fault Event := do
  let lines := c.object.dig ["lines", "data"]
  if !lines.isTruthy then
    c.ignored "invoice has no line items"
  else
    let line ← Except.orMisfit (firstElement lines)
    let periodEnd ← c.require .linePeriodEnd (line.dig ["period", "end"])
    let email ← c.require .customerEmail (c.object.member "customer_email")
    let customer ← c.require .customer (reference (c.object.member "customer"))
    let price ← Except.orMisfit (linePrice line)
    let price ← c.require .linePrice price
    let subscription ← Except.orMisfit (invoiceSubscription c.object)
    let subscription ← c.require .subscription subscription
    let periodEnd ← Except.orMisfit (moment periodEnd)
    Checked.orInvalid (.eventOf .invoicePaid) <|
      (c.head.map fun head email customer price subscription =>
          Event.paid ⟨head, email, customer, price, subscription, periodEnd⟩)
        |>.both (field "customer_email" Rule.text email) |>.both (field "customer_id" Rule.text customer)
        |>.both (field "external_price_id" Rule.text price)
        |>.both (field "external_subscription_id" Rule.text subscription)

def invoicePaymentFailed (c : Context) : Except Fault Event := do
  let subscription ← Except.orMisfit (invoiceSubscription c.object)
  let subscription ← c.require .subscription subscription
  Checked.orInvalid (.eventOf .invoicePaymentFailed) <|
    (c.head.map fun head subscription => Event.paymentFailed ⟨head, subscription⟩)
      |>.both (field "external_subscription_id" Rule.text subscription)

def subscriptionStatus (c : Context) (word : Document) : Except Fault (Option BillingStatus) :=
  if !word.isTruthy then .ok none
  else match word with
    | .list _ | .object _ => .error (.misfit .wrongKind)
    | _ =>
      match (match word with | .text s => status? s | _ => none) with
      | some s => .ok (some s)
      | none => c.refuse (.unknownStatus word.display)

-- Lists and objects have no place among words.
def revocation : Document → Except Misfit Bool
  | .list _ | .object _ => .error .wrongKind
  | word => .ok (revokes word)

def subscriptionUpdated (c : Context) : Except Fault Event := do
  let items := c.object.dig ["items", "data"]
  if !items.isTruthy then
    c.refuse .noItems
  else
    let item ← Except.orMisfit (firstElement items)
    let word := c.object.member "status"
    let status ← subscriptionStatus c word
    let ofItem ← Except.orMisfit (memberOf item "current_period_end")
    let periodEnd ← c.require .currentPeriodEnd (first [c.object.member "current_period_end", ofItem])
    let cancelAt := c.object.member "cancel_at"
    let id ← c.require .subscription (c.object.member "id")
    let periodEnd ← Except.orMisfit (moment periodEnd)
    let cancelAt ← if cancelAt.isTruthy then (Except.orMisfit (moment cancelAt)).map some else pure none
    let price ← Except.orMisfit (linePrice item)
    let revoked ← Except.orMisfit (revocation word)
    Checked.orInvalid (.eventOf .subscriptionUpdated) <|
      (c.head.map fun head id price => Event.updated ⟨head, id, status, periodEnd, cancelAt, price, revoked⟩)
        |>.both (field "external_subscription_id" Rule.text id)
        |>.both (field "external_price_id" (Rule.nullable Rule.text) price)

def subscriptionDeleted (c : Context) : Except Fault Event := do
  let id ← c.require .subscription (c.object.member "id")
  Checked.orInvalid (.eventOf .subscriptionDeleted) <|
    (c.head.map fun head id => Event.deleted ⟨head, id⟩) |>.both (field "external_subscription_id" Rule.text id)

def reader? : String → Option (Context → Except Fault Event)
  | "invoice.paid" => some invoicePaid
  | "invoice.payment_failed" => some invoicePaymentFailed
  | "customer.subscription.updated" => some subscriptionUpdated
  | "customer.subscription.deleted" => some subscriptionDeleted
  | _ => none

def context (members : Members) : Context where
  eventId := Members.get members "id"
  type := let d := Members.get members "type"; if d.isTruthy then d.display else ""
  object := (Document.object members).dig ["data", "object"]

end Notice

def Event.ofNotice (notice : Document) : Except Fault Event :=
  match notice with
  | .object members =>
    let c := Notice.context members
    if c.type = "" then c.refuse (.missing .type)
    else match Notice.reader? c.type with
      | none => c.ignored "event type not reconciled"
      | some read => if c.object.isObject then read c else c.refuse (.missing .object)
  | _ => .error (.misfit .notAnObject)

end SubscriptionLedger
