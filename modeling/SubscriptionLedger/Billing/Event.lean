import SubscriptionLedger.Billing.Record

namespace SubscriptionLedger

inductive EventKind where
  | invoicePaid
  | invoicePaymentFailed
  | subscriptionUpdated
  | subscriptionDeleted
  | ignored
deriving DecidableEq, Repr

namespace EventKind

def word : EventKind → String
  | invoicePaid => "invoice_paid"
  | invoicePaymentFailed => "invoice_payment_failed"
  | subscriptionUpdated => "subscription_updated"
  | subscriptionDeleted => "subscription_deleted"
  | ignored => "ignored"

def ofWord? : String → Option EventKind
  | "invoice_paid" => some invoicePaid
  | "invoice_payment_failed" => some invoicePaymentFailed
  | "subscription_updated" => some subscriptionUpdated
  | "subscription_deleted" => some subscriptionDeleted
  | "ignored" => some ignored
  | _ => none

@[simp] theorem ofWord?_word (k : EventKind) : ofWord? k.word = some k := by cases k <;> rfl

def rule : Rule EventKind := Rule.choice ofWord? .unknownChoice

def constant (kind : EventKind) : Rule EventKind :=
  Rule.choice (fun w => if w = kind.word then some kind else none) .otherConstant

end EventKind

structure EventHead where
  id : Option String
  type : String
deriving DecidableEq, Repr

structure InvoicePaid where
  head : EventHead
  customerEmail : String
  customerId : String
  priceId : String
  subscriptionId : String
  periodEnd : Moment
deriving DecidableEq, Repr

structure InvoicePaymentFailed where
  head : EventHead
  subscriptionId : String
deriving DecidableEq, Repr

structure SubscriptionUpdated where
  head : EventHead
  subscriptionId : String
  status : Option BillingStatus
  currentPeriodEnd : Moment
  cancelAt : Option Moment
  priceId : Option String
  -- the subscription no longer pays for access, whatever its status
  revokesAccess : Bool
deriving DecidableEq, Repr

structure SubscriptionDeleted where
  head : EventHead
  subscriptionId : String
deriving DecidableEq, Repr

structure Ignored where
  head : EventHead
  reason : String
deriving DecidableEq, Repr

inductive Event where
  | paid (e : InvoicePaid)
  | paymentFailed (e : InvoicePaymentFailed)
  | updated (e : SubscriptionUpdated)
  | deleted (e : SubscriptionDeleted)
  | ignored (e : Ignored)
deriving DecidableEq, Repr

-- A scheduled cancellation ends the paid window before the period does.
def SubscriptionUpdated.effectiveExpiry (e : SubscriptionUpdated) : Moment := e.cancelAt.getD e.currentPeriodEnd

namespace Event

def kind : Event → EventKind
  | paid _ => .invoicePaid
  | paymentFailed _ => .invoicePaymentFailed
  | updated _ => .subscriptionUpdated
  | deleted _ => .subscriptionDeleted
  | ignored _ => .ignored

def head : Event → EventHead
  | paid e => e.head
  | paymentFailed e => e.head
  | updated e => e.head
  | deleted e => e.head
  | ignored e => e.head

def subscriptionId? : Event → Option String
  | paid e => some e.subscriptionId
  | paymentFailed e => some e.subscriptionId
  | updated e => some e.subscriptionId
  | deleted e => some e.subscriptionId
  | ignored _ => none

def headForm (kind : EventKind) : Form EventHead :=
  (fun id type _ => ⟨id, type⟩) <$> .optional "event_id" Rule.text <*> .required "event_type" Rule.text
    <*> .defaulted "kind" kind kind.constant

def formOf : EventKind → Form Event
  | .invoicePaid =>
    (fun h email customer price subscription periodEnd =>
        paid ⟨h, email, customer, price, subscription, periodEnd⟩)
      <$> headForm .invoicePaid <*> .required "customer_email" Rule.text <*> .required "customer_id" Rule.text
      <*> .required "external_price_id" Rule.text <*> .required "external_subscription_id" Rule.text
      <*> .required "period_end" Rule.moment
  | .invoicePaymentFailed =>
    (fun h subscription => paymentFailed ⟨h, subscription⟩)
      <$> headForm .invoicePaymentFailed <*> .required "external_subscription_id" Rule.text
  | .subscriptionUpdated =>
    (fun h subscription status periodEnd cancel price revokes =>
        updated ⟨h, subscription, status, periodEnd, cancel, price, revokes⟩)
      <$> headForm .subscriptionUpdated <*> .required "external_subscription_id" Rule.text
      <*> .optional "status" BillingStatus.rule <*> .required "current_period_end" Rule.moment
      <*> .optional "cancel_at" Rule.moment <*> .optional "external_price_id" Rule.text
      <*> .defaulted "revokes_access" false Rule.truth
  | .subscriptionDeleted =>
    (fun h subscription => deleted ⟨h, subscription⟩)
      <$> headForm .subscriptionDeleted <*> .required "external_subscription_id" Rule.text
  | .ignored => (fun h reason => ignored ⟨h, reason⟩) <$> headForm .ignored <*> .required "reason" Rule.text

def rule : Rule Event
  | .object members =>
    match Members.find? members "kind" with
    | none => .refuse .noTag (.object members)
    | some tag =>
      match (match tag with | .text w => EventKind.ofWord? w | _ => none) with
      | some kind => Checked.under (.field kind.word) ((formOf kind) members)
      | none => .refuse .unknownTag (.object members)
  | d => .refuse .notAttributes d

def headColumns (e : Event) : Members :=
  [("event_id", .ofText? e.head.id), ("event_type", .text e.head.type), ("kind", .text e.kind.word)]

def ownColumns : Event → Members
  | paid e =>
    [("customer_email", .text e.customerEmail), ("customer_id", .text e.customerId),
      ("external_price_id", .text e.priceId), ("external_subscription_id", .text e.subscriptionId),
      ("period_end", .ofMoment e.periodEnd)]
  | paymentFailed e => [("external_subscription_id", .text e.subscriptionId)]
  | updated e =>
    [("external_subscription_id", .text e.subscriptionId),
      ("status", .ofOption BillingStatus.toDocument e.status),
      ("current_period_end", .ofMoment e.currentPeriodEnd), ("cancel_at", .ofOption .ofMoment e.cancelAt),
      ("external_price_id", .ofText? e.priceId), ("revokes_access", .bool e.revokesAccess)]
  | deleted e => [("external_subscription_id", .text e.subscriptionId)]
  | ignored e => [("reason", .text e.reason)]

def toDocument (e : Event) : Document := .object (e.headColumns ++ e.ownColumns)

end Event

inductive Outcome where
  -- state was written
  | applied
  -- understood, but there is nothing that it could change
  | noop
  -- a kind of event that is not reconciled
  | ignored
deriving DecidableEq, Repr

namespace Outcome

def word : Outcome → String
  | applied => "applied"
  | noop => "noop"
  | ignored => "ignored"

def ofWord? : String → Option Outcome
  | "applied" => some applied
  | "noop" => some noop
  | "ignored" => some ignored
  | _ => none

@[simp] theorem ofWord?_word (o : Outcome) : ofWord? o.word = some o := by cases o <;> rfl

def rule : Rule Outcome := Rule.choice ofWord? .unknownChoice

end Outcome

structure Reconciliation where
  kind : EventKind
  outcome : Outcome
  billingId : Option String := none
  detail : Option String := none
deriving DecidableEq, Repr

namespace Reconciliation

def form : Form Reconciliation :=
  mk <$> .required "kind" EventKind.rule <*> .required "outcome" Outcome.rule
    <*> .optional "billing_id" Rule.text <*> .optional "detail" Rule.text

def toDocument (r : Reconciliation) : Document :=
  .object [("kind", .text r.kind.word), ("outcome", .text r.outcome.word), ("billing_id", .ofText? r.billingId),
    ("detail", .ofText? r.detail)]

end Reconciliation

structure Acknowledgement where
  received : Bool
  kind : EventKind
  outcome : Outcome
deriving DecidableEq, Repr

namespace Acknowledgement

def form : Form Acknowledgement :=
  mk <$> .defaulted "received" true Rule.truth <*> .required "kind" EventKind.rule
    <*> .required "outcome" Outcome.rule

def toDocument (a : Acknowledgement) : Document :=
  .object [("received", .bool a.received), ("kind", .text a.kind.word), ("outcome", .text a.outcome.word)]

end Acknowledgement

def Reconciliation.acknowledge (r : Reconciliation) : Acknowledgement := ⟨true, r.kind, r.outcome⟩

end SubscriptionLedger
