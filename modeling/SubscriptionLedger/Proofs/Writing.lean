import SubscriptionLedger.Proofs.Plain
import SubscriptionLedger.Proofs.Store

namespace SubscriptionLedger

def Account.row (a : Account) : Row :=
  [("id", .text a.user.id), ("email", .text a.address), ("name", .ofText? a.user.name),
    ("password", .ofText? a.user.password), ("age", .ofOption .int a.user.age), ("phone", .ofText? a.user.phone),
    ("email_verified", .bool a.user.emailVerified), ("current_product_id", .ofText? a.user.currentProductId),
    ("refresh_token", .ofText? a.user.refreshToken), ("email_token", .ofText? a.user.emailToken),
    ("created_at", .ofOption .ofMoment a.user.createdAt)]

def Billing.row (b : Billing) : Row :=
  [("id", .text b.id), ("user_id", .text b.userId), ("product_id", .text b.productId),
    ("external_subscription_id", .ofText? b.subscriptionId), ("external_customer_id", .ofText? b.customerId),
    ("status", b.status.toDocument), ("expires_at", .ofMoment b.expiresAt),
    ("created_at", .ofOption .ofMoment b.createdAt)]

def Ledger.store (L : Ledger) : Store := ⟨L.accounts.map Account.row, L.catalog, L.billings.map Billing.row, L.inserted⟩

-- An account whose address can be read, with a product that has a name and moments of the calendar.
structure Account.Written (a : Account) : Prop where
  mail : Rule.mail (.text a.address) = .ok a.user.email
  age : ∀ n ∈ a.user.age, 0 ≤ n
  product : ∀ p ∈ a.user.currentProductId, p ≠ ""
  created : ∀ t ∈ a.user.createdAt, t.Proper
  timeless : a.user.updatedAt = none

structure Billing.Written (b : Billing) : Prop where
  expires : b.expiresAt.Proper
  created : ∀ t ∈ b.createdAt, t.Proper
  timeless : b.updatedAt = none

structure Ledger.Written (L : Ledger) : Prop where
  accounts : ∀ a ∈ L.accounts, Account.Written a
  billings : ∀ b ∈ L.billings, Billing.Written b

theorem Rule.moment_ofOption {t : Option Moment} (proper : ∀ m ∈ t, m.Proper) :
    Rule.nullable Rule.moment (.ofOption .ofMoment t) = .ok t := by
  cases t with
  | none => rfl
  | some m =>
    change Checked.map some (Rule.moment (.ofMoment m)) = _
    rw [Rule.moment_text (proper m rfl)]
    rfl

theorem Rule.age_ofOption {n : Option Int} (least : ∀ i ∈ n, 0 ≤ i) :
    (Rule.wholeAtLeast 0).nullable (.ofOption .int n) = .ok n := by
  cases n with
  | none => rfl
  | some i =>
    have below : ¬ i < 0 := Int.not_lt.2 (least i rfl)
    simp [Document.ofOption, Rule.nullable, Rule.wholeAtLeast, Rule.whole, Checked.map, below]

theorem Document.truthy_ofText? {p : Option String} (named : ∀ s ∈ p, s ≠ "") :
    (if (Document.ofText? p).isTruthy then .text (Document.ofText? p).display else .null) = Document.ofText? p := by
  cases p with
  | none => rfl
  | some s =>
    have truthy : (Document.text s).isTruthy = true := by simp [Document.isTruthy, named s rfl]
    change (if (Document.text s).isTruthy then _ else _) = _
    rw [if_pos truthy]
    rfl

theorem Rule.mail_of_normal? (normal : Mail.normal? s = some address) : Rule.mail (.text s) = .ok address := by
  unfold Rule.mail
  dsimp only
  rw [normal]

theorem Account.stands_row {a : Account} (written : a.Written) : Account.Stands a.row a where
  read := by
    have columns : User.Columns a.row a.user :=
      { id := rfl, email := congrArg some written.mail, name := rfl, password := rfl,
        age := Rule.age_ofOption written.age, phone := rfl, emailVerified := by simp [Account.row, Row.flag, Members.find?_cons, Document.isTruthy],
        currentProductId := Document.truthy_ofText? written.product, refreshToken := rfl, emailToken := rfl,
        createdAt := Rule.moment_ofOption written.created, updatedAt := by rw [written.timeless]; rfl }
    rw [User.ofRow_eq_ok.2 columns]
    exact congrArg (fun t => Except.ok { a.user with updatedAt := t }) written.timeless.symm
  id := rfl
  address := rfl

theorem Billing.stands_row {b : Billing} (written : b.Written) : Billing.Stands b.row b where
  read := by
    have columns : Billing.Columns b.row b :=
      { id := rfl, userId := rfl, productId := rfl, subscriptionId := rfl, customerId := rfl, status := rfl,
        expiresAt := congrArg some (Rule.moment_text written.expires),
        createdAt := Rule.moment_ofOption written.created, updatedAt := by rw [written.timeless]; rfl }
    rw [Billing.ofRow_eq_ok.2 columns]
    exact congrArg (fun t => Except.ok { b with updatedAt := t }) written.timeless.symm
  id := rfl
  userId := rfl

theorem Ledger.store_shows {L : Ledger} (written : L.Written) : L.store.Shows L where
  users := List.forall₂_map_left_iff.2 (List.forall₂_same.2 fun a member => Account.stands_row (written.accounts a member))
  products := rfl
  billings := List.forall₂_map_left_iff.2 (List.forall₂_same.2 fun b member => Billing.stands_row (written.billings b member))
  inserted := rfl

namespace Shop

def free : Row := [("id", .text "free"), ("name", .text "Free"), ("price", .int 0), ("is_default", .bool true)]

def pro : Row :=
  [("id", .text "pro"), ("name", .text "Pro"), ("price", .int 900), ("external_price_id", .text "price-pro")]

def team : Row :=
  [("id", .text "team"), ("name", .text "Team"), ("price", .int 2900), ("external_price_id", .text "price-team")]

def ann (plan : String) : Account where
  address := "ann@shop.com"
  user :=
    { id := "ann", email := "ann@shop.com", name := none, password := none, age := none, phone := none,
      emailVerified := true, currentProductId := some plan, refreshToken := none, emailToken := none,
      createdAt := none, updatedAt := none }

def bill (status : BillingStatus) (plan : String) : Billing where
  id := "bill-" ++ toString 1
  userId := "ann"
  productId := plan
  subscriptionId := some "sub"
  customerId := none
  status := status
  expiresAt := ⟨0, some 0⟩
  createdAt := none
  updatedAt := none

def ledger (status : BillingStatus) (billed served : String) : Ledger :=
  ⟨[ann served], [free, pro, team], [bill status billed], 1⟩

def freePlan : Product where
  id := "free"
  name := "Free"
  description := none
  price := 0
  currency := "usd"
  priceId := none
  providerProductId := none
  active := true
  isDefault := true
  createdAt := none
  updatedAt := none

def proPlan : Product where
  id := "pro"
  name := "Pro"
  description := none
  price := 900
  currency := "usd"
  priceId := some "price-pro"
  providerProductId := none
  active := true
  isDefault := false
  createdAt := none
  updatedAt := none

def change (status : Option BillingStatus) (priceId : Option String) : SubscriptionUpdated where
  head := ⟨none, "customer.subscription.updated"⟩
  subscriptionId := "sub"
  status := status
  currentPeriodEnd := ⟨1893456000000000, some 0⟩
  cancelAt := none
  priceId := priceId
  revokesAccess := false

def cancellation : SubscriptionDeleted where
  head := ⟨none, "customer.subscription.deleted"⟩
  subscriptionId := "sub"

theorem productOf_pro (status : BillingStatus) (billed served : String) :
    (ledger status billed served).productOf "price-pro" = .ok (some proPlan) := by
  have here : Query.first? Product.ofRow (([free, pro, team].filter (Row.matches · [("external_price_id", "price-pro")])).take 1)
      = .ok (some proPlan) := by decide +kernel
  exact here

theorem defaultProduct_free (status : BillingStatus) (billed served : String) :
    (ledger status billed served).defaultProduct = .ok freePlan := by
  have here : Query.first Product.ofRow .defaultProductMissing
      (([free, pro, team].filter (Row.matches · [("is_default", .bool true)])).take 1) = .ok freePlan := by decide +kernel
  exact here

theorem defaults (status : BillingStatus) (billed served : String) :
    (ledger status billed served).catalog.filter (Row.matches · [("is_default", .bool true)]) = [free] := by
  have here : [free, pro, team].filter (Row.matches · [("is_default", .bool true)]) = [free] := by decide +kernel
  exact here

theorem tied_iff {tie : Billing → Option String → Prop} (status : BillingStatus) (billed served : String) :
    (∀ b ∈ (ledger status billed served).billings, ∀ a ∈ (ledger status billed served).accounts, a.user.id = b.userId →
      tie b a.user.currentProductId) ↔ tie (bill status billed) (some served) := by
  simp [ledger, ann, bill]

theorem sound (status : BillingStatus) (billed served : String) : (ledger status billed served).Sound where
  ids := List.pairwise_singleton _ _
  slots := List.pairwise_singleton _ _
  fresh := by
    intro b member n above same
    cases List.mem_singleton.1 member
    cases Ledger.generated_injective same
    exact absurd above (lt_irrefl 1)
  users := List.pairwise_singleton _ _
  addresses := List.pairwise_singleton _ _
  named := by
    intro row member p read
    have named : [free, pro, team].all (fun row => (Product.ofRow row).toOption.all fun p => p.id ≠ "") = true := by
      decide +kernel
    have here := List.all_eq_true.1 named row member
    rw [read] at here
    exact of_decide_eq_true here

theorem shows_ (status : BillingStatus) (billed served : String) (named : served ≠ "") :
    (ledger status billed served).store.Shows (ledger status billed served) := by
  refine Ledger.store_shows ⟨?_, ?_⟩
  · refine List.forall_mem_singleton.2 ⟨?_, nofun, ?_, nofun, rfl⟩
    · exact Rule.mail_of_normal? Mail.normal?_ann
    · rintro p ⟨⟩
      exact named
  · exact List.forall_mem_singleton.2 ⟨show Moment.Proper ⟨0, some 0⟩ by decide, nofun, rfl⟩

end Shop
end SubscriptionLedger
