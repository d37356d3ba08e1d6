import SubscriptionLedger.Proofs.Challenge
import SubscriptionLedger.Proofs.Failing

namespace SubscriptionLedger

theorem Mail.ne_empty_of_normal? (normal : normal? s = some address) : address ≠ "" := by
  unfold normal? at normal
  dsimp only at normal
  split at normal
  · cases normal
  · obtain ⟨a, -, rfl⟩ := Option.map_eq_some_iff.1 normal
    simp [Address.shown]

theorem User.email_ne_empty (read : User.ofRow row = .ok u) : u.email ≠ "" := by
  obtain ⟨d, -, mail⟩ := Option.map_eq_some_iff.1 (User.ofRow_eq_ok.1 read).email
  cases d with
  | text s => exact Mail.ne_empty_of_normal? (Rule.mail_text_eq_ok.1 mail)
  | _ => cases mail

def Product.ForSale (p : Product) (price : String) : Prop := p.active ∧ p.priceId = some price ∧ price ≠ ""

theorem Product.purchasable_iff {p : Product} : p.purchasable ↔ ∃ price, p.ForSale price := by
  unfold purchasable ForSale
  cases p.priceId <;> simp

namespace Store

variable {s : Store} {now : Moment} {table : Table} {column : String} {value id : Reference}

-- What a store holds under a value of a column: the record in the first row with it, or nothing.
def Holds (s : Store) (table : Table) (column : String) (value : Document) (read : Row → Except Fault α) (held : Option α) :
    Prop :=
  ((s.rows table).find? (·.matches [(column, value)])).mapM read = .ok held

theorem Holds.unique {read : Row → Except Fault α} (one : s.Holds table column value read a)
    (other : s.Holds table column value read b) : a = b := Except.ok.inj (one.symm.trans other)

theorem Holds.read {read : Row → Except Fault α} (holds : s.Holds table column value read (some a)) :
    ∃ row, read row = .ok a := by
  unfold Holds at holds
  cases found : (s.rows table).find? (·.matches [(column, value)]) with
  | none =>
    rw [found] at holds
    cases holds
  | some row =>
    rw [found] at holds
    obtain ⟨_, known, same⟩ := Except.map_eq_ok.1 holds
    cases same
    exact ⟨row, known⟩

theorem holds_iff {read : Row → Except Fault α} : s.Holds table column value read held ↔
    Query.first? read ((s.rows table).find? (·.matches [(column, value)])).toList = .ok held := by
  unfold Holds
  cases found : (s.rows table).find? (·.matches [(column, value)]) with
  | none => exact Iff.rfl
  | some row =>
    have full := List.find?_some found
    cases row with
    | nil => cases full
    | cons => exact Iff.rfl

theorem userById_eq_ok {held : Option User} :
    (s.ask now (.userById id)).1 = .ok held ↔ s.Holds .users "id" id User.ofRow held := by
  rw [ask_lookup s rfl]
  exact holds_iff.symm

theorem productById_eq_ok {held : Option Product} :
    (s.ask now (.productById id)).1 = .ok held ↔ s.Holds .products "id" id Product.ofRow held := by
  rw [ask_lookup s rfl]
  exact holds_iff.symm

theorem productByPrice_eq_ok {held : Option Product} :
    (s.ask now (.productByPrice id)).1 = .ok held ↔ s.Holds .products "external_price_id" id Product.ofRow held := by
  rw [ask_lookup s rfl]
  exact holds_iff.symm

theorem billingByUser_eq_ok {held : Option Billing} :
    (s.ask now (.billingByUser id)).1 = .ok held ↔ s.Holds .billings "user_id" id Billing.ofRow held := by
  rw [ask_lookup s rfl]
  exact holds_iff.symm

end Store

def Call.Selects : Call → Prop
  | .select _ _ _ _ => True
  | _ => False

theorem Query.Reads.selects {q : Query} (reads : q.Reads) (now : Moment) : (q.call now).Selects := by
  cases q with
  | assignProduct | createBilling | updateBilling => exact reads.elim
  | _ => trivial

theorem Journal.ask_notes (j : Journal) (w : Surroundings) (q : Query) :
    (j.ask w q).2.calls = j.calls ++ [q.call w.now] ∧ (j.ask w q).2.payments = j.payments := by
  unfold Journal.ask
  dsimp only
  split <;> exact ⟨rfl, rfl⟩

namespace Program

variable {s : Store} {w : Surroundings} {now : Moment} {reasons : Fault → Prop} {sales : PaymentRequest → Prop} {p : Program α}

def Frugal : Nat → Program α → Prop
  | _, done _ | _, fail _ => True
  | n, ask q next => q.Reads ∧ ∀ reply, Frugal n (next reply)
  | 0, pay _ _ => False
  | n + 1, pay _ next => ∀ reply, Frugal n (next reply)
  | n, acquire _ next => ∀ reply, Frugal n (next reply)
  | n, release _ next => Frugal n next

theorem frugal_ofExcept (n : Nat) (x : Except Fault α) : (ofExcept x).Frugal n := by
  cases x <;> cases n <;> trivial

theorem frugal_query {f : q.Reply → Program α} (reads : q.Reads) (goesOn : ∀ a, (f a).Frugal n) :
    (query q >>= f).Frugal n := by
  cases n <;> exact ⟨reads, fun reply => by cases reply <;> first | exact goesOn _ | trivial⟩

theorem frugal_payment {f : PaymentReply → Program α} (goesOn : ∀ a, (f a).Frugal n) :
    (payment r >>= f).Frugal (n + 1) := by
  intro reply
  cases reply with
  | ok a => exact goesOn a
  | error => cases n <;> trivial

theorem Frugal.run (frugal : p.Frugal n) (w : Surroundings) (j : Journal) :
    (p.run w j).2.payments.length ≤ j.payments.length + n ∧ ∀ c ∈ (p.run w j).2.calls, c ∈ j.calls ∨ c.Selects := by
  induction p generalizing n j with
  | done | fail => exact ⟨Nat.le_add_right _ _, fun c => .inl⟩
  | ask q next ih =>
    have reads : q.Reads ∧ ∀ reply, (next reply).Frugal n := by cases n <;> exact frugal
    obtain ⟨calls, payments⟩ := j.ask_notes w q
    obtain ⟨often, selects⟩ := ih _ (reads.2 (j.ask w q).1) (j.ask w q).2
    rw [payments] at often
    refine ⟨often, fun c called => ?_⟩
    rcases selects c called with before | select
    · rw [calls, List.mem_append, List.mem_singleton] at before
      refine before.imp_right fun here => ?_
      rw [here]
      exact reads.1.selects w.now
    · exact .inr select
  | pay r next ih =>
    cases n with
    | zero => exact frugal.elim
    | succ n =>
      obtain ⟨often, selects⟩ := ih _ (frugal (w.provider r)) { j with payments := j.payments ++ [r] }
      rw [List.length_append, List.length_singleton] at often
      exact ⟨often.trans (by omega), selects⟩
  | acquire key next ih =>
    refine ih _ ?_ j
    cases n <;> exact frugal _
  | release key next ih =>
    refine ih ?_ j
    cases n <;> exact frugal

-- A program that looks at a store, and is refused for a reason or pays last of all.
inductive Gated (s : Store) (now : Moment) (reasons : Fault → Prop) (sales : PaymentRequest → Prop) : Program α → Prop where
  | refuse (reason : reasons f) : Gated s now reasons sales (.fail f)
  | read {next : Except Fault q.Reply → Program α} (reads : q.Reads) (stops : ∀ f, next (.error f) = .fail f)
      (goesOn : ∀ a, (s.ask now q).1 = .ok a → Gated s now reasons sales (next (.ok a))) :
      Gated s now reasons sales (.ask q next)
  | pay {next : Except Fault PaymentReply → Program α} (sale : sales r) (ends : ∀ reply, ∃ x, next reply = ofExcept x) :
      Gated s now reasons sales (.pay r next)

theorem gated_query {f : q.Reply → Program α} (reads : q.Reads)
    (goesOn : ∀ a, (s.ask now q).1 = .ok a → Gated s now reasons sales (f a)) : Gated s now reasons sales (query q >>= f) :=
  .read reads (fun _ => rfl) goesOn

theorem gated_payment {f : PaymentReply → Program α} (sale : sales r) (ends : ∀ a, ∃ x, f a = ofExcept x) :
    Gated s now reasons sales (payment r >>= f) := by
  refine .pay sale fun reply => ?_
  cases reply with
  | ok a => exact ends a
  | error g => exact ⟨.error g, rfl⟩

theorem Gated.run {j : Journal} (gated : Gated s w.now reasons sales p) (faulty : w.Faulty faults) (here : j.store = s) :
    (p.run w j).2.store = s ∧
      (p.refusals w j ≠ [] ∧ (p.run w j).2.payments = j.payments ∨ p.refusals w j = [] ∧
        ((∃ f, reasons f ∧ (p.run w j).1 = .error f ∧ (p.run w j).2.payments = j.payments) ∨
          ∃ r, sales r ∧ (p.run w j).2.payments = j.payments ++ [r])) := by
  induction gated generalizing j with
  | refuse reason => exact ⟨here, .inr ⟨rfl, .inl ⟨_, reason, rfl, rfl⟩⟩⟩
  | @read q next reads stops goesOn ih =>
    have unpaid := (j.ask_notes w q).2
    unfold Program.run Program.refusals
    dsimp only
    rcases Journal.ask_steps faulty here (s.ask_reads_steps w.now reads) with
      ⟨f, refused, stays⟩ | ⟨⟨a, told⟩, reply, after⟩
    · rw [refused, stops]
      exact ⟨stays, .inl ⟨List.cons_ne_nil _ _, unpaid⟩⟩
    · have later := ih a told (after.trans (s.ask_reads w.now reads))
      rw [unpaid] at later
      rw [reply, told]
      exact later
  | @pay r next sale ends =>
    obtain ⟨x, ended⟩ := ends (w.provider r)
    unfold Program.run Program.refusals
    rw [ended]
    cases x <;> exact ⟨here, .inr ⟨rfl, .inr ⟨r, sale, rfl⟩⟩⟩

structure Guarded (w : Surroundings) (s : Store) (reasons : Fault → Prop) (sales : PaymentRequest → Prop) (p : Program α) :
    Prop where
  -- whatever disturbs it
  selects : ∀ w j, ∀ c ∈ (p.run w j).2.calls, c ∈ j.calls ∨ c.Selects
  once : ∀ w j, (p.run w j).2.payments.length ≤ j.payments.length + 1
  stays : (p.run w { store := s }).2.store = s
  sells : ∀ r ∈ (p.run w { store := s }).2.payments, sales r
  -- unless a call fails
  settles : p.refusals w { store := s } = [] → (∃ f, reasons f) ∨ ∃ r, sales r
  pays : p.refusals w { store := s } = [] → (∃ r, sales r) → ∃ r, (p.run w { store := s }).2.payments = [r]
  refuses : p.refusals w { store := s } = [] → ∀ f, reasons f →
    (p.run w { store := s }).1 = .error f ∧ (p.run w { store := s }).2.payments = []

theorem Gated.guarded (gated : Gated s w.now reasons sales p) (frugal : p.Frugal 1) (faulty : w.Faulty faults)
    (one : ∀ f g, reasons f → reasons g → f = g) (apart : ∀ f r, reasons f → ¬ sales r) :
    p.Guarded w s reasons sales := by
  obtain ⟨stays, ends⟩ := gated.run (j := { store := s }) faulty rfl
  refine ⟨fun w j => (frugal.run w j).2, fun w j => (frugal.run w j).1, stays, ?_, ?_, ?_, ?_⟩
  · intro r paid
    rcases ends with ⟨-, unpaid⟩ | ⟨-, ⟨f, -, -, unpaid⟩ | ⟨r', sale, once⟩⟩
    · rw [unpaid] at paid
      cases paid
    · rw [unpaid] at paid
      cases paid
    · rw [once] at paid
      cases List.mem_singleton.1 paid
      exact sale
  · intro calm
    rcases ends with ⟨fails, -⟩ | ⟨-, ⟨f, reason, -⟩ | ⟨r, sale, -⟩⟩
    · exact absurd calm fails
    · exact .inl ⟨f, reason⟩
    · exact .inr ⟨r, sale⟩
  · rintro calm ⟨r, sale⟩
    rcases ends with ⟨fails, -⟩ | ⟨-, ⟨f, reason, -⟩ | ⟨r', -, once⟩⟩
    · exact absurd calm fails
    · exact absurd sale (apart f r reason)
    · exact ⟨r', once⟩
  · intro calm f reason
    rcases ends with ⟨fails, -⟩ | ⟨-, ⟨g, other, told, unpaid⟩ | ⟨r, sale, -⟩⟩
    · exact absurd calm fails
    · cases one f g reason other
      exact ⟨told, unpaid⟩
    · exact absurd sale (apart f r reason)

theorem refusals_query {f : q.Reply → Program α} {j : Journal} (here : j.store = s) (told : (s.ask now q).1 = .ok a) :
    (query q >>= f).refusals (.quiet now) j = (f a).refusals (.quiet now) (j.ask (.quiet now) q).2 := by
  subst here
  have asked : j.ask (.quiet now) q = (.ok a, (j.ask (.quiet now) q).2) := Prod.ext told rfl
  change refusals _ (.ask q _) j = _
  rw [refusals, asked]
  rfl

end Program

-- What is sent to the provider for a purchase: the price, what is bought and by whom, and either the customer that is known
-- or an address.
structure PaymentRequest.Orders (sent : Members) (user : User) (product : Product) (price : String) (customer : Option String) :
    Prop where
  items : sent.find? "line_items" = some (.list [.object [("price", .text price), ("quantity", .int 1)]])
  metadata : sent.find? "metadata" = some (.object [("product_id", .text product.id), ("user_id", .text user.id)])
  known : sent.find? "customer" = customer.map .text
  address : sent.find? "customer_email" = if customer.isSome then none else some (.text user.email)

namespace Gateway

open Program

inductive Refers (productId priceId : Reference) : String → Reference → Prop where
  | product (given : productId.isTruthy) (only : ¬ priceId.isTruthy) : Refers productId priceId "id" productId
  | price (only : ¬ productId.isTruthy) (given : priceId.isTruthy) : Refers productId priceId "external_price_id" priceId

-- Why nothing can be sold: the first of the conditions on what is referred to that fails.
inductive Unsold (s : Store) (productId priceId : Reference) : Fault → Prop where
  | ambiguous (same : productId.isTruthy = priceId.isTruthy) : Unsold s productId priceId .ambiguousProduct
  | unknown (refers : Refers productId priceId column reference)
      (none : s.Holds .products column reference Product.ofRow none) : Unsold s productId priceId (.productNotFound reference)
  | unavailable (refers : Refers productId priceId column reference)
      (known : s.Holds .products column reference Product.ofRow (some product)) (unsold : ∀ price, ¬ product.ForSale price) :
      Unsold s productId priceId (.productNotForSale reference)

-- Why a checkout is refused: the first of its conditions that fails.
inductive Refuses (s : Store) (userId productId priceId : Reference) : Fault → Prop where
  | unknown (none : s.Holds .users "id" userId User.ofRow none) : Refuses s userId productId priceId (.userNotFound userId)
  | unverified (known : s.Holds .users "id" userId User.ofRow (some user)) (unverified : ¬ user.emailVerified) :
      Refuses s userId productId priceId (.emailNotVerified user.id)
  | unsold (known : s.Holds .users "id" userId User.ofRow (some user)) (verified : user.emailVerified)
      (unsold : Unsold s productId priceId f) : Refuses s userId productId priceId f

structure Sale (s : Store) (userId productId priceId : Reference) (user : User) (product : Product) (price : String)
    (billing : Option Billing) : Prop where
  account : s.Holds .users "id" userId User.ofRow (some user)
  verified : user.emailVerified
  offer : ∃ column reference, Refers productId priceId column reference ∧
    s.Holds .products column reference Product.ofRow (some product)
  forSale : product.ForSale price
  record : s.Holds .billings "user_id" (.text user.id) Billing.ofRow billing

def Sells (s : Store) (userId successUrl cancelUrl productId priceId : Document) (r : PaymentRequest) : Prop :=
  ∃ user product price billing, Sale s userId productId priceId user product price billing ∧
    (∃ customerId customerEmail, r = .checkout (.text price) successUrl cancelUrl customerId customerEmail
      (.object [("product_id", .text product.id), ("user_id", .text user.id)])) ∧
    ∀ account, PaymentRequest.Orders (r.arguments account) user product price
      ((billing.bind (·.customerId)).filter (· ≠ ""))

inductive Turns (s : Store) (userId : Reference) : Fault → Prop where
  | unknown (none : s.Holds .billings "user_id" userId Billing.ofRow none) : Turns s userId (.noBillingOfUser userId)
  | nameless (known : s.Holds .billings "user_id" userId Billing.ofRow (some b)) (none : b.customerId.getD "" = "") :
      Turns s userId (.noCustomer userId b.id)

def Admits (s : Store) (userId returnUrl : Document) (r : PaymentRequest) : Prop :=
  ∃ b id, s.Holds .billings "user_id" userId Billing.ofRow (some b) ∧ b.customerId = some id ∧ id ≠ "" ∧
    r = .portal (.text id) returnUrl ∧ ∀ account, (r.arguments account).find? "customer" = some (.text id)

variable {s : Store} {now : Moment} {userId productId priceId reference : Reference} {column : String} {user : User}
  {product : Product} {price : String} {f g : Fault} {r : PaymentRequest} {reasons : Fault → Prop} {sales : PaymentRequest → Prop}

theorem find?_options (account : PaymentAccount) (name : String) (key : name ≠ "api_key") (version : name ≠ "stripe_version") :
    Members.find? (PaymentRequest.PaymentAccount.options account) name = none := by
  unfold PaymentRequest.PaymentAccount.options
  split <;> simp [Members.find?_cons, key.symm, version.symm]

theorem payer_eq (addressed : user.email ≠ "") (customerId : Option String) :
    PaymentRequest.payer (.ofText? customerId) (if customerId.getD "" = "" then .text user.email else .null) =
      (customerId.filter (· ≠ "")).elim [("customer_email", .text user.email)] fun id => [("customer", .text id)] := by
  unfold PaymentRequest.payer
  cases customerId with
  | none => simp [Document.ofText?, Document.ofOption, Document.isTruthy, addressed]
  | some id =>
    by_cases empty : id = "" <;>
      simp [Document.ofText?, Document.ofOption, Document.isTruthy, Option.filter, addressed, empty]

theorem orders_checkoutRequest (addressed : user.email ≠ "") (priced : product.priceId = some price) (customerId : Option String)
    (successUrl cancelUrl : Document) (account : PaymentAccount) :
    PaymentRequest.Orders ((checkoutRequest user product customerId successUrl cancelUrl).arguments account) user product price
      (customerId.filter (· ≠ "")) := by
  have others := find?_options account
  unfold checkoutRequest PaymentRequest.arguments PaymentRequest.own
  dsimp only
  rw [priced, payer_eq addressed]
  cases customerId.filter (· ≠ "") <;> constructor <;>
    simp [Members.find?_cons, Document.ofText?, Document.ofOption, Document.isTruthy, others]

theorem Refers.apart (refers : Refers productId priceId column reference) : productId.isTruthy ≠ priceId.isTruthy := by
  cases refers with
  | product given only | price only given => simp [given, only]

theorem Refers.unique (one : Refers productId priceId column reference) (other : Refers productId priceId column' reference') :
    column = column' ∧ reference = reference' := by
  cases one with
  | product given only =>
    cases other with
    | product => exact ⟨rfl, rfl⟩
    | price _ also => exact absurd also only
  | price only given =>
    cases other with
    | product also => exact absurd also only
    | price => exact ⟨rfl, rfl⟩

theorem Unsold.unique (one : Unsold s productId priceId f) (other : Unsold s productId priceId g) : f = g := by
  cases one with
  | ambiguous same =>
    cases other with
    | ambiguous => rfl
    | unknown refers | unavailable refers => exact absurd same refers.apart
  | unknown refers none =>
    cases other with
    | ambiguous same => exact absurd same refers.apart
    | unknown also =>
      obtain ⟨-, rfl⟩ := refers.unique also
      rfl
    | unavailable also known =>
      obtain ⟨rfl, rfl⟩ := refers.unique also
      cases none.unique known
  | unavailable refers known =>
    cases other with
    | ambiguous same => exact absurd same refers.apart
    | unknown also none =>
      obtain ⟨rfl, rfl⟩ := refers.unique also
      cases none.unique known
    | unavailable also =>
      obtain ⟨-, rfl⟩ := refers.unique also
      rfl

theorem Refuses.unique (one : Refuses s userId productId priceId f) (other : Refuses s userId productId priceId g) : f = g := by
  cases one with
  | unknown none =>
    cases other with
    | unknown => rfl
    | unverified known | unsold known => cases none.unique known
  | unverified known unverified =>
    cases other with
    | unknown none => cases none.unique known
    | unverified also =>
      cases known.unique also
      rfl
    | unsold also verified =>
      cases known.unique also
      exact absurd verified unverified
  | unsold known verified unsold =>
    cases other with
    | unknown none => cases none.unique known
    | unverified also unverified =>
      cases known.unique also
      exact absurd verified unverified
    | unsold _ _ also => exact unsold.unique also

theorem Refuses.apart (refuses : Refuses s userId productId priceId f) :
    ¬ Sells s userId successUrl cancelUrl productId priceId r := by
  rintro ⟨user, product, price, billing, sale, -⟩
  obtain ⟨column, reference, refers, offered⟩ := sale.offer
  cases refuses with
  | unknown none => cases none.unique sale.account
  | unverified known unverified =>
    cases known.unique sale.account
    exact unverified sale.verified
  | unsold _ _ unsold =>
    cases unsold with
    | ambiguous same => exact refers.apart same
    | unknown also none =>
      obtain ⟨rfl, rfl⟩ := refers.unique also
      cases none.unique offered
    | unavailable also known unsold =>
      obtain ⟨rfl, rfl⟩ := refers.unique also
      cases known.unique offered
      exact unsold price sale.forSale

theorem Sale.sells (sale : Sale s userId productId priceId user product price billing) (successUrl cancelUrl : Document) :
    Sells s userId successUrl cancelUrl productId priceId
      (checkoutRequest user product (billing.bind (·.customerId)) successUrl cancelUrl) := by
  obtain ⟨-, priced, -⟩ := sale.forSale
  obtain ⟨row, read⟩ := sale.account.read
  refine ⟨user, product, price, billing, sale, ?_, fun account => ?_⟩
  · unfold checkoutRequest
    rw [priced]
    exact ⟨_, _, rfl⟩
  · exact orders_checkoutRequest (User.email_ne_empty read) priced _ successUrl cancelUrl account

theorem gated_sellable {f : Product → Program α} (refers : Refers productId priceId column reference)
    (found : s.Holds .products column reference Product.ofRow held)
    (fails : ∀ cause, Unsold s productId priceId cause → reasons cause)
    (goesOn : ∀ product price, held = some product → product.ForSale price → Gated s now reasons sales (f product)) :
    Gated s now reasons sales (sellable reference held >>= f) := by
  cases held with
  | none => exact .refuse (fails _ (.unknown refers found))
  | some product =>
    unfold sellable
    dsimp only
    split
    · rename_i purchasable
      obtain ⟨price, forSale⟩ := Product.purchasable_iff.1 purchasable
      exact goesOn product price rfl forSale
    · rename_i unpurchasable
      exact .refuse (fails _ (.unavailable refers found fun price forSale =>
        unpurchasable (Product.purchasable_iff.2 ⟨price, forSale⟩)))

theorem gated_resolve {f : Product → Program α} (fails : ∀ cause, Unsold s productId priceId cause → reasons cause)
    (goesOn : ∀ column reference product price, Refers productId priceId column reference →
      s.Holds .products column reference Product.ofRow (some product) → product.ForSale price →
      Gated s now reasons sales (f product)) :
    Gated s now reasons sales (resolve productId priceId >>= f) := by
  unfold resolve
  cases first : productId.isTruthy <;> cases second : priceId.isTruthy
  · exact .refuse (fails _ (.ambiguous (first.trans second.symm)))
  · have refers : Refers productId priceId "external_price_id" priceId := .price (by simp [first]) second
    dsimp only
    rw [LawfulMonad.bind_assoc]
    refine gated_query trivial fun held told => ?_
    have found := Store.productByPrice_eq_ok.1 told
    refine gated_sellable refers found fails ?_
    rintro product price rfl forSale
    exact goesOn _ _ product price refers found forSale
  · have refers : Refers productId priceId "id" productId := .product first (by simp [second])
    dsimp only
    rw [LawfulMonad.bind_assoc]
    refine gated_query trivial fun held told => ?_
    have found := Store.productById_eq_ok.1 told
    refine gated_sellable refers found fails ?_
    rintro product price rfl forSale
    exact goesOn _ _ product price refers found forSale
  · exact .refuse (fails _ (.ambiguous (first.trans second.symm)))

theorem gated_checkout (s : Store) (now : Moment) (userId successUrl cancelUrl productId priceId : Document) :
    Gated s now (Refuses s userId productId priceId) (Sells s userId successUrl cancelUrl productId priceId)
      (checkout userId successUrl cancelUrl productId priceId) := by
  unfold checkout
  refine gated_query trivial fun held told => ?_
  have account := Store.userById_eq_ok.1 told
  cases held with
  | none => exact .refuse (.unknown account)
  | some user =>
    dsimp only
    split
    · rename_i unverified
      exact .refuse (.unverified account (by simpa using unverified))
    · rename_i verified
      have verified : user.emailVerified := by simpa using verified
      refine gated_resolve (fun cause => .unsold account verified) fun column reference product price refers offered forSale => ?_
      refine gated_query trivial fun billing reply => ?_
      have sale : Sale s userId productId priceId user product price billing :=
        ⟨account, verified, ⟨column, reference, refers, offered⟩, forSale, Store.billingByUser_eq_ok.1 reply⟩
      refine gated_payment (sale.sells successUrl cancelUrl) fun session => ?_
      split
      · exact ⟨.error _, rfl⟩
      · exact ⟨_, rfl⟩

theorem frugal_sellable {f : Product → Program α} (goesOn : ∀ product, (f product).Frugal 1) (reference : Reference)
    (held : Option Product) : (sellable reference held >>= f).Frugal 1 := by
  cases held with
  | none => trivial
  | some product =>
    unfold sellable
    dsimp only
    split
    · exact goesOn product
    · trivial

theorem frugal_resolve {f : Product → Program α} (goesOn : ∀ product, (f product).Frugal 1) (productId priceId : Reference) :
    (resolve productId priceId >>= f).Frugal 1 := by
  unfold resolve
  split
  · rw [LawfulMonad.bind_assoc]
    exact frugal_query trivial (frugal_sellable goesOn productId)
  · rw [LawfulMonad.bind_assoc]
    exact frugal_query trivial (frugal_sellable goesOn priceId)
  · trivial

theorem frugal_checkout (userId successUrl cancelUrl productId priceId : Document) :
    (checkout userId successUrl cancelUrl productId priceId).Frugal 1 := by
  unfold checkout
  refine frugal_query trivial fun held => ?_
  cases held with
  | none => trivial
  | some user =>
    dsimp only
    split
    · trivial
    · refine frugal_resolve (fun product => ?_) productId priceId
      refine frugal_query trivial fun billing => frugal_payment fun session => ?_
      split
      · trivial
      · exact frugal_ofExcept 0 _

theorem frugal_portal (userId returnUrl : Document) : (portal userId returnUrl).Frugal 1 := by
  unfold portal
  refine frugal_query trivial fun held => ?_
  cases held with
  | none => trivial
  | some billing =>
    dsimp only
    split
    · trivial
    · exact frugal_payment fun session => frugal_ofExcept 0 _

theorem gated_portal (s : Store) (now : Moment) (userId returnUrl : Document) :
    Gated s now (Turns s userId) (Admits s userId returnUrl) (portal userId returnUrl) := by
  unfold portal
  refine gated_query trivial fun held told => ?_
  have record := Store.billingByUser_eq_ok.1 told
  cases held with
  | none => exact .refuse (.unknown record)
  | some billing =>
    dsimp only
    split
    · rename_i nameless
      exact .refuse (.nameless record nameless)
    · rename_i named
      refine gated_payment ?_ fun session => ⟨_, rfl⟩
      cases customer : billing.customerId with
      | none =>
        rw [customer] at named
        exact absurd rfl named
      | some id =>
        rw [customer] at named
        refine ⟨billing, id, record, customer, named, rfl, fun account => ?_⟩
        simp [PaymentRequest.arguments, PaymentRequest.own, Members.find?_cons]

theorem Turns.unique (one : Turns s userId f) (other : Turns s userId g) : f = g := by
  cases one with
  | unknown none =>
    cases other with
    | unknown => rfl
    | nameless known => cases none.unique known
  | nameless known =>
    cases other with
    | unknown none => cases none.unique known
    | nameless also =>
      cases known.unique also
      rfl

theorem Turns.apart (turns : Turns s userId f) : ¬ Admits s userId returnUrl r := by
  rintro ⟨b, id, record, customer, named, -⟩
  cases turns with
  | unknown none => cases none.unique record
  | nameless known nameless =>
    cases known.unique record
    rw [customer] at nameless
    exact named nameless

end Gateway

namespace App

open Http

def From (mac : Mac) (app : App) (now : Instant) (r : Request) (userId : String) : Prop :=
  ∃ token i, (r.headers.get? "authorization").bind bearer? = some token ∧
    Token.identify mac app.settings.tokenSecret now token = .ok i ∧ i.id = userId

section Callers

variable {mac : Mac} {app : App} {now now' : Instant} {r r' : Request} {userId : String}

theorem asCaller_of_from (work : String → Program Response) (comes : app.From mac now r userId) :
    app.asCaller mac now r (fun i => work i.id) = work userId := by
  obtain ⟨token, i, bearer, accepted, same⟩ := comes
  unfold asCaller
  rw [bearer]
  dsimp only
  rw [accepted, ← same]

theorem asCaller_from (work : String → Program Response) (first : app.From mac now r userId)
    (second : app.From mac now' r' userId) :
    app.asCaller mac now r (fun i => work i.id) = app.asCaller mac now' r' (fun i => work i.id) :=
  (asCaller_of_from work first).trans (asCaller_of_from work second).symm

theorem withBody_from (form : Form α) (work : String → α → Program Response) (first : app.From mac now r userId)
    (second : app.From mac now' r' userId) (body : content r = content r') :
    app.withBody mac now r form (fun i => work i.id) = app.withBody mac now' r' form (fun i => work i.id) := by
  unfold withBody
  rw [body]
  cases content r' with
  | error e => rfl
  | ok c =>
    exact asCaller_from (fun id => do
      app.connected
      withRecord form c (work id)) first second

theorem purchase_from (first : app.From mac now r userId) (second : app.From mac now' r' userId) (body : content r = content r') :
    app.endpoint mac now r .checkout = app.endpoint mac now' r' .checkout ∧
      app.endpoint mac now r .portal = app.endpoint mac now' r' .portal := by
  unfold endpoint
  dsimp only
  constructor
  · exact withBody_from CheckoutRequest.form (fun id b => do
      let session ← Gateway.checkout id b.successUrl b.cancelUrl (.ofText? b.productId) (.ofText? b.priceId)
      ok session.toDocument) first second body
  · exact withBody_from PortalRequest.form (fun id b => do
      let session ← Gateway.portal id b.returnUrl
      ok session.toDocument) first second body

end Callers

end App

-- How purchases are guarded. Nothing is written, and one request at most is made: a checkout for a user with a verified
-- address and a product that is for sale, the portal for a customer. What is refused is refused for the first condition that
-- fails. Callers whose tokens name the same user get the same.
theorem Gateway.guards_purchases {w : Surroundings} (faulty : w.Faulty faults) (s : Store) :
    (∀ userId successUrl cancelUrl productId priceId, (checkout userId successUrl cancelUrl productId priceId).Guarded w s
      (Refuses s userId productId priceId) (Sells s userId successUrl cancelUrl productId priceId)) ∧
    (∀ userId returnUrl, (portal userId returnUrl).Guarded w s (Turns s userId) (Admits s userId returnUrl)) ∧
    ∀ (mac : Mac) (app : App) now now' r r' userId, app.From mac now r userId → app.From mac now' r' userId →
      Http.content r = Http.content r' → app.endpoint mac now r .checkout = app.endpoint mac now' r' .checkout ∧
        app.endpoint mac now r .portal = app.endpoint mac now' r' .portal := by
  refine ⟨?_, ?_, ?_⟩
  · intro userId successUrl cancelUrl productId priceId
    exact (gated_checkout s w.now userId successUrl cancelUrl productId priceId).guarded
      (frugal_checkout userId successUrl cancelUrl productId priceId) faulty (fun _ _ => Refuses.unique) fun _ _ => Refuses.apart
  · intro userId returnUrl
    exact (gated_portal s w.now userId returnUrl).guarded (frugal_portal userId returnUrl) faulty (fun _ _ => Turns.unique)
      fun _ _ => Turns.apart
  · exact fun _ _ _ _ _ _ _ => App.purchase_from

namespace Shop

def closed : Store := (ledger .canceled "team" "free").store

theorem pro_sold : (Surroundings.quiet ⟨0, some 0⟩).Faulty (fun _ => none) ∧
    ∃ r, ((Gateway.checkout "ann" "thanks" "back" "pro" .null).run (.quiet ⟨0, some 0⟩) { store := closed }).2.payments = [r] ∧
      ∀ account, (r.arguments account).find? "customer_email" = some "ann@shop.com" := by
  have faulty : (Surroundings.quiet ⟨0, some 0⟩).Faulty fun _ => none := fun _ => rfl
  have told : ((closed.ask ⟨0, some 0⟩ (.userById "ann")).1.map (Option.map User.timeless)) = .ok (some (ann "free").user) :=
    (Store.agrees_userById (shows_ .canceled "team" "free" (by decide)) "ann").1
  obtain ⟨held, reply, same⟩ := Except.map_eq_ok.1 told
  obtain ⟨user, rfl, timeless⟩ := Option.map_eq_some_iff.1 same
  have email : user.email = "ann@shop.com" := congrArg User.email timeless
  have verified : user.emailVerified := congrArg User.emailVerified timeless
  have id : user.id = "ann" := congrArg User.id timeless
  have offer : closed.Holds .products "id" "pro" Product.ofRow (some proPlan) := by
    unfold Store.Holds
    decide
  have record : closed.Holds .billings "user_id" (.text user.id) Billing.ofRow (some (bill .canceled "team")) := by
    rw [id]
    unfold Store.Holds
    decide
  have sale : Gateway.Sale closed "ann" "pro" .null user proPlan "price-pro" (some (bill .canceled "team")) :=
    ⟨Store.userById_eq_ok.1 reply, verified, ⟨_, _, .product (by decide) (by decide), offer⟩,
      ⟨rfl, rfl, by decide⟩, record⟩
  have calm : (Gateway.checkout "ann" "thanks" "back" "pro" .null).refusals (.quiet ⟨0, some 0⟩) { store := closed } = [] := by
    unfold Gateway.checkout
    refine (Program.refusals_query rfl reply).trans ?_
    dsimp only
    rw [if_neg (by simp [verified])]
    change Program.refusals _ ((Program.query (.productById "pro") >>= _) >>= _) _ = _
    rw [LawfulMonad.bind_assoc]
    refine (Program.refusals_query rfl (Store.productById_eq_ok.2 offer)).trans ?_
    exact (Program.refusals_query rfl (Store.billingByUser_eq_ok.2 record)).trans rfl
  obtain ⟨guarded, -, -⟩ := Gateway.guards_purchases faulty closed
  have checkout := guarded "ann" "thanks" "back" "pro" .null
  obtain ⟨r, paid⟩ := checkout.pays calm ⟨_, sale.sells "thanks" "back"⟩
  refine ⟨faulty, r, paid, fun account => ?_⟩
  obtain ⟨other, _, _, billing, sold, -, orders⟩ := checkout.sells r (by rw [paid]; exact List.mem_singleton_self r)
  cases sold.account.unique sale.account
  cases sold.record.unique record
  rw [(orders account).address, ← email]
  rfl

end Shop
end SubscriptionLedger
