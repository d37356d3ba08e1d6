import SubscriptionLedger.Billing.Notice
import SubscriptionLedger.Program

namespace SubscriptionLedger.Reconcile

open Program

def applied (kind : EventKind) (b : Billing) : Reconciliation :=
  { kind, outcome := .applied, billingId := some b.id }

def noop (kind : EventKind) (detail : String) : Reconciliation :=
  { kind, outcome := .noop, detail := some detail }

def unknownSubscription (kind : EventKind) : Reconciliation := noop kind "unknown subscription id"

def opening (user : User) (product : Product) (e : InvoicePaid) : NewBilling where
  userId := user.id
  productId := product.id
  subscriptionId := e.subscriptionId
  customerId := some e.customerId
  status := .active
  expiresAt := e.periodEnd

-- What a payment changes in a record; the product only where it is another one.
def renewal (existing : Billing) (product : Product) (e : InvoicePaid) : BillingUpdate where
  productId := if existing.productId ≠ product.id then some product.id else none
  subscriptionId := some e.subscriptionId
  customerId := some e.customerId
  status := some .active
  expiresAt := some e.periodEnd

def renew (existing : Billing) (product : Product) (e : InvoicePaid) : Program Billing :=
  query (.updateBilling existing.id (renewal existing product e))

-- Opens the user's record. If another process has opened it meanwhile, that one is renewed.
def openBilling (user : User) (product : Product) (e : InvoicePaid) : Program Billing :=
  ask (.createBilling (opening user product e)) fun
    | .ok b => done b
    | .error (.duplicateBilling userId) => do
      match ← query (.billingByUser user.id) with
      | some existing => renew existing product e
      | none => fail (.duplicateBilling userId)
    | .error f => fail f

def settle (user : User) (product : Product) (e : InvoicePaid) : Program Billing := do
  match ← query (.billingByUser user.id) with
  | some existing => renew existing product e
  | none => openBilling user product e

def assign (user : User) (productId : String) : Program Unit :=
  if user.currentProductId = some productId then done ()
  else do
    let _ ← query (.assignProduct user.id productId)

-- The user may have been moved since it was found, so it is looked up again under its key.
def paidUnderKey (found : User) (product : Product) (e : InvoicePaid) : Program Reconciliation := do
  let user := (← query (.userById found.id)).getD found
  let b ← settle user product e
  assign user product.id
  return applied .invoicePaid b

-- A payment gives access to the product of its price until the end of its period. A price of no
-- product is let go; a mail address of no user is a fault.
def paid (e : InvoicePaid) : Program Reconciliation := do
  match ← query (.productByPrice e.priceId) with
  | none => return noop .invoicePaid "unknown price id"
  | some product =>
    match ← query (.userByEmail e.customerEmail) with
    | none => fail (.payerUnknown e.customerEmail e.subscriptionId)
    | some found => holding found.id (paidUnderKey found product e)

-- Works on the record that carries a subscription, while holding the key of its user. The record is
-- read again under the key, and left alone if it carries another subscription by then.
def withRecord (kind : EventKind) (subscriptionId : String) (work : Billing → Program Reconciliation) :
    Program Reconciliation := do
  match ← query (.billingBySubscription subscriptionId) with
  | none => return unknownSubscription kind
  | some found =>
    holding found.userId do
      match ← query (.billingByUser found.userId) with
      | none => return unknownSubscription kind
      | some current =>
        if current.subscriptionId = some subscriptionId then work current
        else return unknownSubscription kind

def paymentFailed (e : InvoicePaymentFailed) : Program Reconciliation :=
  withRecord .invoicePaymentFailed e.subscriptionId fun current => do
    let b ← query (.updateBilling current.id { status := some .pastDue })
    return applied .invoicePaymentFailed b

-- The product that an update moves a record to: that of its price, if it has one and it is not the
-- product that the record has already.
def movedTo (current : Billing) (priceId : Option String) : Program (Option String) :=
  match priceId with
  | none | some "" => done none
  | some priceId => do
    match ← query (.productByPrice priceId) with
    | none => return none
    | some product => return if product.id ≠ current.productId then some product.id else none

def takesAway (e : SubscriptionUpdated) : Bool := e.revokesAccess || e.status == some .canceled

-- The product that the user of an updated record is to have: the default one when access ends.
def destination (e : SubscriptionUpdated) (moved : Option String) : Program (Option String) :=
  if takesAway e then do
    let product ← query .defaultProduct
    return some product.id
  else done moved

def moveUser (userId : String) : Option String → Program Unit
  | none => done ()
  | some productId => do
    let _ ← query (.assignProduct userId productId)

def updated (e : SubscriptionUpdated) : Program Reconciliation :=
  withRecord .subscriptionUpdated e.subscriptionId fun current => do
    let moved ← movedTo current e.priceId
    let target ← destination e moved
    let b ← query (.updateBilling current.id
      { productId := moved, status := e.status, expiresAt := some e.effectiveExpiry })
    moveUser b.userId target
    return applied .subscriptionUpdated b

-- Moves the user of a canceled record to the default product; what then fails is told as an
-- incomplete cancellation, unless the work was called off.
def downgrade (b : Billing) (product : Product) (subscriptionId : String) : Program Unit :=
  ask (.assignProduct b.userId product.id) fun
    | .ok _ => done ()
    | .error .cancelled => fail .cancelled
    | .error f => fail (.incomplete b.id b.userId subscriptionId f)

-- The end of a subscription ends the paid window now and takes the paid product away. The default
-- product is looked up before anything is written.
def deleted (now : Moment) (e : SubscriptionDeleted) : Program Reconciliation :=
  withRecord .subscriptionDeleted e.subscriptionId fun current => do
    let product ← query .defaultProduct
    let b ← query (.updateBilling current.id
      { status := some .canceled, expiresAt := some now })
    downgrade b product e.subscriptionId
    return applied .subscriptionDeleted b

end Reconcile

def reconcile (now : Moment) : Event → Program Reconciliation
  | .paid e => Reconcile.paid e
  | .paymentFailed e => Reconcile.paymentFailed e
  | .updated e => Reconcile.updated e
  | .deleted e => Reconcile.deleted now e
  | .ignored e => .done { kind := .ignored, outcome := .ignored, detail := some e.reason }

def reconcileNotice (now : Moment) (notice : Document) : Program Reconciliation := do
  let event ← Program.ofExcept (Event.ofNotice notice)
  reconcile now event

end SubscriptionLedger
