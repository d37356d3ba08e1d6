import Mathlib.Data.List.Nodup
import Mathlib.Data.List.Pairwise
import Mathlib.Data.String.Basic
import Std.Data.String.ToNat
import SubscriptionLedger.Store

namespace SubscriptionLedger

-- When a record was changed last is written with every change and read by no program.
def Billing.timeless (b : Billing) : Billing := { b with updatedAt := none }
def User.timeless (u : User) : User := { u with updatedAt := none }

def User.moved (u : User) (productId : String) : User := { u with currentProductId := some productId }

def Billing.shares (a b : Billing) : Bool :=
  a.userId = b.userId || (a.subscriptionId.isSome && a.subscriptionId = b.subscriptionId)

-- An account of the directory, with the address that it is found under.
structure Account where
  address : String
  user : User
deriving DecidableEq

structure Ledger where
  accounts : List Account
  -- products are never written, so their rows stay as they are
  catalog : List Row
  billings : List Billing
  inserted : Nat
deriving DecidableEq

namespace Ledger

def account? (L : Ledger) (id : Document) : Option Account := L.accounts.find? fun a => .text a.user.id = id

def accountAt? (L : Ledger) (address : String) : Option Account := L.accounts.find? (·.address = address)

def billing? (L : Ledger) (id : Document) : Option Billing := L.billings.find? fun b => .text b.id = id

def billingOf? (L : Ledger) (userId : Document) : Option Billing :=
  L.billings.find? fun b => .text b.userId = userId

def carrier? (L : Ledger) (subscriptionId : Document) : Option Billing :=
  L.billings.find? fun b => b.subscriptionId.any fun s => .text s = subscriptionId

def offered (L : Ledger) (column : String) (value : Document) : List Row :=
  (L.catalog.filter (·.matches [(column, value)])).take 1

def productOf (L : Ledger) (priceId : Document) : Except Fault (Option Product) :=
  Query.first? Product.ofRow (L.offered "external_price_id" priceId)

def defaultProduct (L : Ledger) : Except Fault Product :=
  Query.first Product.ofRow .defaultProductMissing (L.offered "is_default" (.bool true))

def opened (L : Ledger) (now : Moment) (new : NewBilling) : Billing where
  id := "bill-" ++ toString (L.inserted + 1)
  userId := new.userId
  productId := new.productId
  subscriptionId := some new.subscriptionId
  customerId := new.customerId
  status := new.status
  expiresAt := new.expiresAt
  createdAt := some now
  updatedAt := none

def add (L : Ledger) (b : Billing) : Ledger :=
  { L with billings := L.billings ++ [b], inserted := L.inserted + 1 }

def amend (L : Ledger) (id : Document) (u : BillingUpdate) : Ledger :=
  { L with billings := L.billings.map fun b => if .text b.id = id then b.apply u else b }

def move (L : Ledger) (userId : Document) (productId : String) : Ledger :=
  { L with
    accounts := L.accounts.map fun a =>
      if .text a.user.id = userId then { a with user := a.user.moved productId } else a }

def ask (now : Moment) (L : Ledger) : (q : Query) → Except Fault q.Reply × Ledger
  | .productById id => (Query.first? Product.ofRow (L.offered "id" id), L)
  | .productByPrice priceId => (L.productOf priceId, L)
  | .activeProducts =>
    (Query.activeProducts.answer
      (Store.select ⟨[], L.catalog, [], 0⟩ .products [("active", .bool true)] (some "price") none), L)
  | .defaultProduct => (L.defaultProduct, L)
  | .userById id => (.ok ((L.account? id).map (·.user)), L)
  | .userByEmail email => (.ok ((L.accountAt? (Query.keptEmail email)).map (·.user)), L)
  | .assignProduct userId productId =>
    match L.account? userId with
    | none => (.error (.userNotFound userId), L)
    | some a => (.ok (a.user.moved productId.display), L.move userId productId.display)
  | .billingByUser userId => (.ok (L.billingOf? userId), L)
  | .billingBySubscription subscriptionId => (.ok (L.carrier? subscriptionId), L)
  | .createBilling new =>
    if L.billings.any (L.opened now new).shares then (.error (.duplicateBilling new.userId), L)
    else (.ok (L.opened now new), L.add (L.opened now new))
  | .updateBilling id u =>
    match L.billing? id with
    | none => (.error (.noBilling id), L)
    | some b =>
      if L.billings.any (fun other => .text other.id ≠ id && (b.apply u).shares other) then (.error Store.violation, L)
      else (.ok (b.apply u), L.amend id u)

-- Names and slots are each taken once, generated names are still free, and a product has a name.
structure Sound (L : Ledger) : Prop where
  ids : L.billings.Pairwise fun a b => a.id ≠ b.id
  slots : L.billings.Pairwise fun a b => ¬ a.shares b
  fresh : ∀ b ∈ L.billings, ∀ n, L.inserted < n → b.id ≠ "bill-" ++ toString n
  users : L.accounts.Pairwise fun a b => a.user.id ≠ b.user.id
  addresses : L.accounts.Pairwise fun a b => a.address ≠ b.address
  named : ∀ row ∈ L.catalog, ∀ p, Product.ofRow row = .ok p → p.id ≠ ""

end Ledger

theorem Billing.shares_symm {a b : Billing} (shared : a.shares b) : b.shares a := by
  unfold shares at *
  simp only [Bool.or_eq_true, Bool.and_eq_true, decide_eq_true_eq] at *
  rcases shared with owner | ⟨some, same⟩
  · exact .inl owner.symm
  · exact .inr ⟨same ▸ some, same.symm⟩

@[simp] theorem Billing.id_apply (b : Billing) (u : BillingUpdate) : (b.apply u).id = b.id := rfl
@[simp] theorem Billing.userId_apply (b : Billing) (u : BillingUpdate) : (b.apply u).userId = b.userId := rfl

namespace Ledger

variable {L : Ledger} {b other : Billing} {a : Account}

theorem eq_of_apart {α β : Type} {xs : List α} {x y : α} {f : α → β} (apart : xs.Pairwise fun x y => f x ≠ f y) (first : x ∈ xs)
    (second : y ∈ xs) (same : f x = f y) : x = y :=
  List.inj_on_of_nodup_map (List.pairwise_map.2 apart) first second same

theorem find?_of_only {α : Type} {xs : List α} {x : α} {p : α → Bool} (member : x ∈ xs) (holds : p x)
    (only : ∀ y ∈ xs, p y → y = x) : xs.find? p = some x := by
  cases found : xs.find? p with
  | none => exact absurd holds (List.find?_eq_none.1 found x member)
  | some y => rw [only y (List.mem_of_find?_eq_some found) (List.find?_some found)]

theorem generated_injective (same : "bill-" ++ toString (m : Nat) = "bill-" ++ toString (n : Nat)) : m = n :=
  Nat.repr_inj.1 ((String.append_right_inj _).1 same)

namespace Sound

theorem billing?_eq_some (sound : L.Sound) : L.billing? (.text name) = some b ↔ b ∈ L.billings ∧ b.id = name := by
  constructor
  · intro found
    exact ⟨List.mem_of_find?_eq_some found, by simpa using List.find?_some found⟩
  · rintro ⟨member, rfl⟩
    refine find?_of_only member (by simp) fun other there same => ?_
    exact eq_of_apart sound.ids there member (by simpa using same)

theorem account?_eq_some (sound : L.Sound) : L.account? (.text name) = some a ↔ a ∈ L.accounts ∧ a.user.id = name := by
  constructor
  · intro found
    exact ⟨List.mem_of_find?_eq_some found, by simpa using List.find?_some found⟩
  · rintro ⟨member, rfl⟩
    refine find?_of_only member (by simp) fun other there same => ?_
    exact eq_of_apart (f := fun a : Account => a.user.id) sound.users there member (by simpa using same)

theorem eq_of_shares (sound : L.Sound) (first : b ∈ L.billings) (second : other ∈ L.billings)
    (shared : b.shares other) : b = other := by
  by_contra distinct
  have symmetric : Std.Symm fun x y : Billing => ¬ x.shares y :=
    ⟨fun _ _ apart shared => apart (Billing.shares_symm shared)⟩
  exact sound.slots.forall first second distinct shared

theorem billingOf?_eq_some (sound : L.Sound) :
    L.billingOf? (.text owner) = some b ↔ b ∈ L.billings ∧ b.userId = owner := by
  constructor
  · intro found
    exact ⟨List.mem_of_find?_eq_some found, by simpa using List.find?_some found⟩
  · rintro ⟨member, rfl⟩
    refine find?_of_only member (by simp) fun other there same => ?_
    refine sound.eq_of_shares there member ?_
    simp only [decide_eq_true_eq, Document.text.injEq] at same
    simp [Billing.shares, same]

theorem carrier?_eq_some (sound : L.Sound) :
    L.carrier? (.text subscription) = some b ↔ b ∈ L.billings ∧ b.subscriptionId = some subscription := by
  constructor
  · intro found
    refine ⟨List.mem_of_find?_eq_some found, ?_⟩
    have carries := List.find?_some found
    obtain ⟨s, carried, same⟩ := (Option.any_eq_true _ _).1 carries
    rw [carried]
    simpa using same
  · rintro ⟨member, carried⟩
    refine find?_of_only member (by simp [carried]) fun other there same => ?_
    refine sound.eq_of_shares there member ?_
    simp only [Option.any_eq_true, decide_eq_true_eq, Document.text.injEq, exists_eq_right] at same
    simp [Billing.shares, same, carried]

end Sound

theorem amend_sound (sound : L.Sound) (found : L.billing? name = some b)
    (apart : ∀ other ∈ L.billings, Document.text other.id ≠ name → ¬ (b.apply u).shares other) :
    (L.amend name u).Sound where
  ids := by
    refine List.pairwise_map.2 (sound.ids.imp fun {x y} distinct => ?_)
    split <;> split <;> exact distinct
  slots := by
    have target : ∀ x ∈ L.billings, Document.text x.id = name → x = b := by
      intro x member here
      subst here
      exact Option.some.inj ((sound.billing?_eq_some.2 ⟨member, rfl⟩).symm.trans found)
    refine List.pairwise_map.2 (List.Pairwise.imp_of_mem ?_ (sound.ids.and sound.slots))
    intro x y hx hy ⟨distinct, slots⟩
    split
    · rename_i here
      split
      · rename_i there
        exact absurd (Document.text.inj (here.trans there.symm)) distinct
      · rename_i there
        rw [target x hx here]
        exact apart y hy there
    · rename_i here
      split
      · rename_i there
        rw [target y hy there]
        intro shared
        exact apart x hx here (Billing.shares_symm shared)
      · exact slots
  fresh := by
    intro c member n above
    obtain ⟨x, old, rfl⟩ := List.mem_map.1 member
    have free := sound.fresh x old n above
    split <;> exact free
  users := sound.users
  addresses := sound.addresses
  named := sound.named

theorem move_sound (sound : L.Sound) : (L.move name productId).Sound where
  ids := sound.ids
  slots := sound.slots
  fresh := sound.fresh
  users := by
    refine List.pairwise_map.2 (sound.users.imp fun {x y} distinct => ?_)
    split <;> split <;> exact distinct
  addresses := by
    refine List.pairwise_map.2 (sound.addresses.imp fun {x y} distinct => ?_)
    split <;> split <;> exact distinct
  named := sound.named

theorem add_sound (sound : L.Sound) (apart : ∀ other ∈ L.billings, ¬ (L.opened now new).shares other) :
    (L.add (L.opened now new)).Sound where
  ids := by
    refine List.pairwise_append.2 ⟨sound.ids, List.pairwise_singleton _ _, ?_⟩
    intro x old y fresh
    rw [List.mem_singleton.1 fresh]
    exact sound.fresh x old _ (Nat.lt_succ_self _)
  slots := by
    refine List.pairwise_append.2 ⟨sound.slots, List.pairwise_singleton _ _, ?_⟩
    intro x old y fresh shared
    rw [List.mem_singleton.1 fresh] at shared
    exact apart x old (Billing.shares_symm shared)
  fresh := by
    intro x member n above
    have later : L.inserted + 1 < n := above
    rcases List.mem_append.1 member with old | fresh
    · exact sound.fresh x old n (by omega)
    · rw [List.mem_singleton.1 fresh]
      intro same
      have number := generated_injective same
      omega
  users := sound.users
  addresses := sound.addresses
  named := sound.named

theorem ask_sound (sound : L.Sound) (now : Moment) (q : Query) : (L.ask now q).2.Sound := by
  cases q with
  | assignProduct userId productId =>
    dsimp only [ask]
    split
    · exact sound
    · exact move_sound sound
  | createBilling new =>
    dsimp only [ask]
    split
    · exact sound
    · rename_i free
      refine add_sound sound fun other member shared => free ?_
      exact List.any_eq_true.2 ⟨other, member, shared⟩
  | updateBilling name u =>
    dsimp only [ask]
    split
    · exact sound
    · rename_i b found
      split
      · exact sound
      · rename_i free
        refine amend_sound sound found fun other member distinct shared => free ?_
        exact List.any_eq_true.2 ⟨other, member, by simp [distinct, shared]⟩
  | _ => exact sound

end Ledger
end SubscriptionLedger
