import SubscriptionLedger.Proofs.Resubscription

namespace SubscriptionLedger

structure Accord where
  -- what holds of the ledger at all times
  whole : Ledger → Prop
  -- what every call may make of it
  passes : Ledger → Ledger → Prop
  refl : ∀ M, passes M M
  trans : ∀ {M N O}, passes M N → passes N O → passes M O

-- A program that keeps to an accord and ends well, if the others keep to it.
def Program.Secures (accord : Accord) (post : α → Ledger → Prop) : Program α → Ledger → Prop
  | done a, M => post a M
  | fail _, _ => False
  | ask q next, M => ∀ N now, accord.passes M N → N.Sound → accord.whole N →
      accord.passes N (N.ask now q).2 ∧ accord.whole (N.ask now q).2 ∧
        (next (N.ask now q).1).Secures accord post (N.ask now q).2
  | pay _ _, _ => False
  | acquire _ next, M => (next (.ok ())).Secures accord post M
  | release _ next, M => next.Secures accord post M

def Accord.Lasting (accord : Accord) (known : Ledger → Prop) : Prop := ∀ M N, accord.passes M N → known M → known N

section Programs

open Program

variable {accord : Accord} {p p' : Program α} {post : α → Ledger → Prop} {M N : Ledger} {q : Query} {key : String}

theorem secures_passes (lasting : ∀ a, accord.Lasting (post a)) (secures : p.Secures accord post M) (passes : accord.passes M N) :
    p.Secures accord post N := by
  induction p with
  | done a => exact lasting a M N passes secures
  | fail | pay => exact secures
  | ask q next => exact fun O now later => secures O now (accord.trans passes later)
  | acquire _ next ih => exact ih _ secures
  | release _ next ih => exact ih secures

theorem secures_leadsTo (leads : p.LeadsTo p') (secures : p.Secures accord post M) : p'.Secures accord post M := by
  induction leads with
  | here => exact secures
  | pay => exact secures.elim
  | acquire _ ih => exact ih secures
  | release _ ih => exact ih secures

theorem secures_bind {mid : α → Ledger → Prop} {post : β → Ledger → Prop} {f : α → Program β} (secures : p.Secures accord mid M)
    (goesOn : ∀ a N, mid a N → (f a).Secures accord post N) : (p.bind f).Secures accord post M := by
  induction p generalizing M with
  | done a => exact goesOn a M secures
  | fail | pay => exact secures.elim
  | ask q next ih =>
    intro N now passes sound whole
    obtain ⟨after, kept, later⟩ := secures N now passes sound whole
    exact ⟨after, kept, ih _ later⟩
  | acquire _ next ih => exact ih _ secures
  | release _ next ih => exact ih secures

theorem secures_frame {known : Ledger → Prop} (lasting : accord.Lasting known) (secures : p.Secures accord post M) (now : known M) :
    p.Secures accord (fun a N => post a N ∧ known N) M := by
  induction p generalizing M with
  | done a => exact ⟨secures, now⟩
  | fail | pay => exact secures.elim
  | ask q next ih =>
    intro N moment passes sound whole
    obtain ⟨after, kept, later⟩ := secures N moment passes sound whole
    exact ⟨after, kept, ih _ later (lasting _ _ after (lasting _ _ passes now))⟩
  | acquire _ next ih => exact ih _ secures now
  | release _ next ih => exact ih secures now

theorem secures_thenRelease (secures : p.Secures accord post M) : (p.thenRelease key).Secures accord post M := by
  induction p generalizing M with
  | done | fail | pay => exact secures
  | ask q next ih =>
    intro N now passes sound whole
    obtain ⟨after, kept, later⟩ := secures N now passes sound whole
    exact ⟨after, kept, ih _ later⟩
  | acquire _ next ih => exact ih _ secures
  | release _ next ih => exact ih secures

theorem secures_holding (secures : p.Secures accord post M) : (holding key p).Secures accord post M := secures_thenRelease secures

theorem secures_query {f : q.Reply → Program α} (answered : ∀ N now, accord.passes M N → N.Sound → accord.whole N →
    ∃ a N', N.ask now q = (.ok a, N') ∧ accord.passes N N' ∧ accord.whole N' ∧ (f a).Secures accord post N') :
    (query q >>= f).Secures accord post M := by
  intro N now passes sound whole
  obtain ⟨a, N', asked, after, kept, later⟩ := answered N now passes sound whole
  rw [asked]
  exact ⟨after, kept, later⟩

theorem secures_look {f : q.Reply → Program α} (answered : ∀ N now, accord.passes M N → N.Sound → accord.whole N →
    ∃ a, N.ask now q = (.ok a, N) ∧ (f a).Secures accord post N) : (query q >>= f).Secures accord post M := by
  apply secures_query
  intro N now passes sound whole
  obtain ⟨a, asked, later⟩ := answered N now passes sound whole
  exact ⟨a, N, asked, accord.refl N, whole, later⟩

end Programs

namespace World

variable {accord : Accord} {w : World α} {post : α → Ledger → Prop} {L : Ledger} {id : String} {result : Except Fault α}

structure Accords (accord : Accord) (post : α → Ledger → Prop) (w : World α) (L : Ledger) : Prop where
  reads : w.Reads L
  whole : accord.whole L
  jobs : ∀ id p, w.left id = some p → p.Secures accord post L

theorem Accords.advance (lasting : ∀ a, accord.Lasting (post a)) (accords : w.Accords accord post L) (clock : w.now.Clock) (id : String) :
    ∃ M, (w.advance id).1.Accords accord post M := by
  obtain ⟨M, reads, ⟨rfl, leads⟩ | ⟨q, next, there, rfl, leads⟩⟩ := accords.reads.advance clock id
  · refine ⟨M, reads, accords.whole, fun other p stood => ?_⟩
    obtain ⟨before, started, later⟩ := leads.source stood
    exact secures_leadsTo later (accords.jobs other before started)
  · obtain ⟨passes, whole, secures⟩ := accords.jobs id _ there L w.now (accord.refl L) accords.reads.sound accords.whole
    refine ⟨_, reads, whole, fun other p stood => ?_⟩
    obtain ⟨before, started, later⟩ := leads.source stood
    by_cases here : other = id
    · rw [here, Function.update_self] at started
      cases started
      exact secures_leadsTo later secures
    · rw [Function.update_of_ne here] at started
      exact secures_leadsTo later (secures_passes lasting (accords.jobs other before started) passes)

theorem Accords.follow (lasting : ∀ a, accord.Lasting (post a)) (accords : w.Accords accord post L) (schedule : List (Moment × String))
    (clock : ∀ x ∈ schedule, x.1.Clock) : ∃ M, (w.follow schedule).Accords accord post M := by
  induction schedule generalizing w L with
  | nil => exact ⟨L, accords⟩
  | cons x rest ih =>
    have reset : World.Accords accord post { w with now := x.1 } L :=
      ⟨⟨accords.reads.shows_, accords.reads.sound, accords.reads.plain⟩, accords.whole, accords.jobs⟩
    obtain ⟨M, further⟩ := reset.advance lasting (clock x (.head _)) x.2
    exact ih further fun y there => clock y (.tail _ there)

theorem Accords.ended (accords : w.Accords accord post L) (ended : w.ending? id = some result) : ∃ a, result = .ok a ∧ post a L := by
  have secured := accords.jobs id _ (left_of_ending? ended)
  cases result with
  | ok a => exact ⟨a, rfl, secured⟩
  | error => exact secured.elim

end World

abbrev Sale := InvoicePaid × Product

section Defs

variable (sales : List Sale)

def Billing.SoldIn (b : Billing) : Prop := ∃ x ∈ sales, b.productId = x.2.id

-- An active record that one of the payments has been written to.
structure Billing.PaidIn (b : Billing) : Prop where
  sold : b.SoldIn sales
  active : b.status = .active
  payment : ∃ x ∈ sales, b.subscriptionId = some x.1.subscriptionId ∧ b.customerId = some x.1.customerId ∧
    b.expiresAt = x.1.periodEnd

namespace Ledger

def ServedIn (M : Ledger) (userId : String) : Prop :=
  ∃ a, M.account? (.text userId) = some a ∧ ∃ x ∈ sales, a.user.currentProductId = some x.2.id

structure Races (M : Ledger) (userId : String) : Prop where
  prices : ∀ x ∈ sales, M.productOf x.1.priceId = .ok (some x.2)
  payers : ∀ x ∈ sales, ∃ a, M.accountAt? (Query.keptEmail x.1.customerEmail) = some a ∧ a.user.id = userId
  others : ∀ b ∈ M.billings, b.userId ≠ userId → ∀ x ∈ sales, b.subscriptionId ≠ some x.1.subscriptionId

-- The record of the user after a call is the one before, and what a payment has made of it a payment has made of it.
structure Onward (userId : String) (M N : Ledger) : Prop where
  record : ∀ b ∈ M.billings, b.userId = userId → ∃ c ∈ N.billings, c.userId = userId ∧ c.id = b.id ∧
    (b.SoldIn sales → c.SoldIn sales) ∧ (b.PaidIn sales → c.PaidIn sales)
  served : M.ServedIn sales userId → N.ServedIn sales userId

def Entered (userId : String) (M : Ledger) (id : String) : Prop :=
  ∃ b ∈ M.billings, b.userId = userId ∧ b.id = id ∧ b.PaidIn sales

def Fulfilled (userId : String) (r : Reconciliation) (M : Ledger) : Prop :=
  ∃ b, r = Reconcile.applied .invoicePaid b ∧ M.Entered sales userId b.id ∧ M.ServedIn sales userId

-- All of the one record of a user comes from one payment, and the user is on its product.
def Converged (M : Ledger) (userId : String) : Prop :=
  ∃ b, M.billings.filter (·.userId = userId) = [b] ∧ b.status = .active ∧
    (∃ x ∈ sales, b.subscriptionId = some x.1.subscriptionId ∧ b.customerId = some x.1.customerId ∧
      b.productId = x.2.id ∧ b.expiresAt = x.1.periodEnd) ∧
    ∃ a, M.account? (.text userId) = some a ∧ a.user.currentProductId = some b.productId

end Ledger

end Defs

namespace Ledger

variable {L M N O : Ledger} {sales : List Sale} {userId : String} {now : Moment} {b c : Billing} {e : InvoicePaid} {product : Product}

theorem Onward.refl (M : Ledger) : M.Onward sales userId M := ⟨fun b there owner => ⟨b, there, owner, rfl, id, id⟩, id⟩

theorem Onward.trans (first : M.Onward sales userId N) (second : N.Onward sales userId O) : M.Onward sales userId O := by
  refine ⟨fun b there owner => ?_, fun served => second.served (first.served served)⟩
  obtain ⟨c, middle, owner', name, sold, paid⟩ := first.record b there owner
  obtain ⟨d, last, owner'', name', sold', paid'⟩ := second.record c middle owner'
  exact ⟨d, last, owner'', name'.trans name, fun was => sold' (sold was), fun was => paid' (paid was)⟩

def accord (sales : List Sale) (userId : String) : Accord where
  whole M := M.Races sales userId
  passes M N := M.Onward sales userId N
  refl := Onward.refl
  trans := Onward.trans

theorem lasting_entered (id : String) : (accord sales userId).Lasting (·.Entered sales userId id) := by
  intro M N onward ⟨b, there, owner, name, paid⟩
  obtain ⟨c, later, owner', name', -, paid'⟩ := onward.record b there owner
  exact ⟨c, later, owner', name'.trans name, paid' paid⟩

theorem lasting_served (known : Prop) : (accord sales userId).Lasting fun M => known → M.ServedIn sales userId :=
  fun _ _ onward served was => onward.served (served was)

theorem lasting_fulfilled (r : Reconciliation) : (accord sales userId).Lasting (Fulfilled sales userId r) := by
  intro M N onward ⟨b, same, entered, served⟩
  exact ⟨b, same, lasting_entered b.id M N onward entered, Onward.served onward served⟩

theorem Races.kin (races : L.Races sales userId) (kin : M.Kin L)
    (others : ∀ b ∈ M.billings, b.userId ≠ userId → ∀ x ∈ sales, b.subscriptionId ≠ some x.1.subscriptionId) :
    M.Races sales userId where
  prices := by
    intro x there
    rw [← races.prices x there]
    exact productOf_congr kin.catalog _
  payers := by
    intro x there
    obtain ⟨a, found, owner⟩ := races.payers x there
    obtain ⟨a', found', same⟩ := accountAt?_kin kin found
    exact ⟨a', found', same.trans owner⟩
  others := others

theorem Races.owner (races : M.Races sales userId) (sale : (e, product) ∈ sales) (there : b ∈ M.billings)
    (carries : b.subscriptionId = some e.subscriptionId) : b.userId = userId := by
  by_contra other
  exact races.others b there other (e, product) sale carries

theorem Races.renewed (races : M.Races sales userId) (sound : M.Sound) (sale : (e, product) ∈ sales) (there : b ∈ M.billings)
    (owner : b.userId = userId) (existing : Billing) (now : Moment) :
    M.ask now (.updateBilling b.id (Reconcile.renewal existing product e)) =
      (.ok (b.apply (Reconcile.renewal existing product e)), M.amend b.id (Reconcile.renewal existing product e)) := by
  have found : M.billing? (.text b.id) = some b := sound.billing?_eq_some.2 ⟨there, rfl⟩
  have free : ¬ M.billings.any fun other => Document.text other.id ≠ .text b.id &&
      (b.apply (Reconcile.renewal existing product e)).shares other := by
    intro met
    obtain ⟨other, near, shared⟩ := List.any_eq_true.1 met
    rw [Bool.and_eq_true, decide_eq_true_eq] at shared
    obtain ⟨distinct, shared⟩ := shared
    refine distinct (congrArg (fun b : Billing => Document.text b.id) (eq_of_owner sound near there ?_))
    rw [owner]
    unfold Billing.shares Billing.apply Reconcile.renewal at shared
    simp only [Bool.or_eq_true, Bool.and_eq_true, decide_eq_true_eq, Option.some_or] at shared
    rcases shared with same | ⟨-, same⟩
    · exact same.symm.trans owner
    · exact races.owner sale near (of_decide_eq_true same).symm
  unfold ask
  dsimp only
  rw [found]
  exact if_neg free

theorem renewed_onward (sound : M.Sound) (sale : (e, product) ∈ sales) (there : b ∈ M.billings) (owner : b.userId = userId)
    {existing : Billing} (sold : existing.productId = product.id → b.SoldIn sales) :
    M.Onward sales userId (M.amend b.id (Reconcile.renewal existing product e)) ∧
      (M.amend b.id (Reconcile.renewal existing product e)).Entered sales userId b.id := by
  have written : b.apply (Reconcile.renewal existing product e) ∈ (M.amend b.id (Reconcile.renewal existing product e)).billings :=
    List.mem_map.2 ⟨b, there, if_pos rfl⟩
  have soldNow : (b.apply (Reconcile.renewal existing product e)).SoldIn sales := by
    by_cases same : existing.productId = product.id
    · obtain ⟨x, near, of⟩ := sold same
      refine ⟨x, near, ?_⟩
      rw [← of]
      simp [Billing.apply, Reconcile.renewal, same]
    · refine ⟨(e, product), sale, ?_⟩
      simp [Billing.apply, Reconcile.renewal, same]
  have paid : (b.apply (Reconcile.renewal existing product e)).PaidIn sales :=
    ⟨soldNow, rfl, (e, product), sale, rfl, rfl, rfl⟩
  refine ⟨⟨fun c near mine => ?_, id⟩, _, written, owner, rfl, paid⟩
  rw [eq_of_owner sound near there (mine.trans owner.symm)]
  exact ⟨_, written, owner, rfl, fun _ => soldNow, fun _ => paid⟩

theorem Races.amend (races : M.Races sales userId) (sound : M.Sound) (there : b ∈ M.billings) (owner : b.userId = userId)
    (u : BillingUpdate) : (M.amend b.id u).Races sales userId := by
  refine races.kin (amend_kin M _ u) fun c amended other x sale => ?_
  obtain ⟨d, near, rfl⟩ := List.mem_map.1 amended
  by_cases here : Document.text d.id = .text b.id
  · rw [eq_of_apart sound.ids near there (Document.text.inj here), if_pos rfl] at other
    exact absurd owner other
  · rw [if_neg here] at other ⊢
    exact races.others d near other x sale

section Steps

open Program Reconcile

variable {user found : User}

theorem secures_renew {existing : Billing} (sale : (e, product) ∈ sales)
    (known : ∃ b ∈ M.billings, b.userId = userId ∧ b.id = existing.id ∧ (existing.productId = product.id → b.SoldIn sales)) :
    (renew existing product e).Secures (accord sales userId) (fun b N => N.Entered sales userId b.id) M := by
  unfold renew
  rw [← bind_pure (query _)]
  refine secures_query fun N now onward sound races => ?_
  obtain ⟨b, there, owner, name, sold⟩ := known
  obtain ⟨c, near, owner', name', sold', -⟩ := Onward.record onward b there owner
  rw [← name, ← name', Races.renewed races sound sale near owner' existing now]
  obtain ⟨after, entered⟩ := renewed_onward sound sale near owner' fun same => sold' (sold same)
  exact ⟨_, _, rfl, after, Races.amend races sound near owner' _, entered⟩

theorem secures_openBilling (sale : (e, product) ∈ sales) (mine : user.id = userId) :
    (openBilling user product e).Secures (accord sales userId) (fun b N => N.Entered sales userId b.id) M := by
  intro N now _ sound races
  have races : N.Races sales userId := races
  subst mine
  unfold ask
  dsimp only
  split
  · rename_i met
    refine ⟨Onward.refl N, races, ?_⟩
    obtain ⟨b, there, shared⟩ := List.any_eq_true.1 met
    have owner : b.userId = user.id := by
      unfold Billing.shares at shared
      simp only [Bool.or_eq_true, Bool.and_eq_true, decide_eq_true_eq] at shared
      rcases shared with same | ⟨-, same⟩
      · exact same.symm
      · exact races.owner sale there same.symm
    refine secures_look fun O now onward sound _ => ?_
    obtain ⟨c, near, owner', -⟩ := Onward.record onward b there owner
    have found : O.billingOf? (.text user.id) = some c := sound.billingOf?_eq_some.2 ⟨near, owner'⟩
    refine ⟨some c, Prod.ext (congrArg Except.ok found) rfl, secures_renew sale ⟨c, near, owner', rfl, fun same => ?_⟩⟩
    exact ⟨(e, product), sale, same⟩
  · rename_i free
    have none : ∀ b ∈ N.billings, b.userId ≠ user.id := by
      intro b there owner
      refine free (List.any_eq_true.2 ⟨b, there, ?_⟩)
      unfold Billing.shares
      rw [owner]
      simp [opened, opening]
    have written : N.opened now (opening user product e) ∈ (N.add (N.opened now (opening user product e))).billings :=
      List.mem_append_right _ (.head _)
    refine ⟨⟨fun b there owner => absurd owner (none b there), id⟩, ?_, ?_⟩
    · refine races.kin (add_kin N _) fun b there other x sold => ?_
      rcases List.mem_append.1 there with old | new
      · exact races.others b old other x sold
      · cases List.mem_singleton.1 new
        exact absurd rfl other
    · exact ⟨_, written, rfl, rfl, ⟨(e, product), sale, rfl⟩, rfl, (e, product), sale, rfl, rfl, rfl⟩

theorem secures_settle (sale : (e, product) ∈ sales) (mine : user.id = userId) :
    (settle user product e).Secures (accord sales userId) (fun b N => N.Entered sales userId b.id) M := by
  refine secures_look fun N now _ sound _ => ⟨N.billingOf? (.text user.id), rfl, ?_⟩
  cases found : N.billingOf? (.text user.id) with
  | none => exact secures_openBilling sale mine
  | some b =>
    obtain ⟨there, owner⟩ := sound.billingOf?_eq_some.1 found
    refine secures_renew sale ⟨b, there, owner.trans mine, rfl, fun same => ?_⟩
    exact ⟨(e, product), sale, same⟩

theorem Races.account (races : M.Races sales userId) (sale : x ∈ sales) (sound : M.Sound) :
    ∃ a, M.account? (.text userId) = some a := by
  obtain ⟨a, found, owner⟩ := races.payers x sale
  exact ⟨a, sound.account?_eq_some.2 ⟨List.mem_of_find?_eq_some found, owner⟩⟩

theorem secures_assign (sale : (e, product) ∈ sales) (mine : user.id = userId)
    (seen : user.currentProductId = some product.id → M.ServedIn sales userId) :
    (assign user product.id).Secures (accord sales userId) (fun _ N => N.ServedIn sales userId) M := by
  unfold assign
  split
  · rename_i there
    exact seen there
  · refine secures_query fun N now _ sound races => ?_
    have races : N.Races sales userId := races
    subst mine
    obtain ⟨a, known⟩ := races.account sale sound
    have moved : (N.move (.text user.id) product.id).ServedIn sales user.id := by
      refine ⟨{ a with user := a.user.moved product.id }, ?_, (e, product), sale, rfl⟩
      rw [account?_move, known, Option.map_some, if_pos (congrArg Document.text (sound.account?_eq_some.1 known).2)]
    unfold ask
    dsimp only
    rw [known]
    refine ⟨_, _, rfl, ⟨fun b there owner => ⟨b, there, owner, rfl, id, id⟩, fun _ => moved⟩, ?_, moved⟩
    exact races.kin (move_kin N _ _) races.others

theorem secures_paidUnderKey (sale : (e, product) ∈ sales) (mine : found.id = userId) :
    (paidUnderKey found product e).Secures (accord sales userId) (Fulfilled sales userId) M := by
  refine secures_look fun N now _ sound races => ?_
  have races : N.Races sales userId := races
  obtain ⟨a, known⟩ := races.account sale sound
  have owner := (sound.account?_eq_some.1 known).2
  refine ⟨some a.user, ?_, ?_⟩
  · unfold ask
    dsimp only
    rw [mine, known]
    rfl
  · have seen : a.user.currentProductId = some product.id → N.ServedIn sales userId :=
      fun same => ⟨a, known, (e, product), sale, same⟩
    refine secures_bind (secures_frame (lasting_served _) (secures_settle sale owner) seen) fun b O ⟨entered, served⟩ => ?_
    refine secures_bind (secures_frame (lasting_entered b.id) (secures_assign sale owner served) entered) ?_
    exact fun _ _ ⟨moved, kept⟩ => ⟨b, rfl, kept, moved⟩

theorem secures_paid (sale : (e, product) ∈ sales) :
    (paid e).Secures (accord sales userId) (Fulfilled sales userId) M := by
  refine secures_look fun N now _ _ races => ?_
  have races : N.Races sales userId := races
  refine ⟨some product, Prod.ext (races.prices _ sale) rfl, ?_⟩
  refine secures_look fun N now _ _ races => ?_
  have races : N.Races sales userId := races
  obtain ⟨a, known, owner⟩ := races.payers _ sale
  refine ⟨some a.user, ?_, secures_holding (secures_paidUnderKey sale owner)⟩
  unfold ask
  dsimp only
  rw [known]
  rfl

end Steps

end Ledger

namespace World

open Ledger

variable {calls : List Calling} {s : Store} {L : Ledger} {sales : List Sale} {userId : String}

theorem filter_owner (sound : L.Sound) (there : b ∈ L.billings) (owner : b.userId = userId) :
    L.billings.filter (·.userId = userId) = [b] := by
  have only : L.billings.filter (·.userId = userId) = L.billings.filter (· = b) := by
    refine List.filter_congr fun c near => decide_eq_decide.2 ⟨fun mine => ?_, fun same => ?_⟩
    · exact eq_of_owner sound near there (mine.trans owner.symm)
    · rw [same, owner]
  have once : L.billings.Nodup := sound.ids.imp fun distinct same => distinct (congrArg Billing.id same)
  rw [only, List.filter_eq, List.count_eq_one_of_mem once there]
  rfl

theorem accords_spread (shows_ : s.Shows L) (sound : L.Sound) (proper : ∀ c ∈ calls, c.Proper) (now : Moment) (benches : Nat)
    (bench : Calling → Nat) (races : L.Races sales userId) (paying : calls.map (·.event) = sales.map fun x => .paid x.1) :
    (spread now s benches bench calls).Accords (accord sales userId) (Fulfilled sales userId) L := by
  refine ⟨reads_spread now shows_ sound benches bench proper, races, fun id p there => ?_⟩
  rw [left_spread] at there
  obtain ⟨c, found, rfl⟩ := Option.map_eq_some_iff.1 there
  have event : c.event ∈ sales.map fun x => .paid x.1 := paying ▸ List.mem_map.2 ⟨c, List.mem_of_find?_eq_some found, rfl⟩
  obtain ⟨x, sale, same⟩ := List.mem_map.1 event
  unfold Calling.program
  rw [← same]
  exact secures_paid sale

-- Payments of one user, carried out on any number of processes, come to one active record, which one of them has been
-- written to, while its product and the user's are such as have been paid for. They all end well. If all of them
-- are for one product, they converge.
theorem payments_settle (shows_ : s.Shows L) (sound : L.Sound) (ids : (calls.map (·.id)).Nodup)
    (proper : ∀ c ∈ calls, c.Proper) (now : Moment) (benches : Nat) (bench : Calling → Nat)
    {schedule : List (Moment × String)} (clock : ∀ x ∈ schedule, x.1.Clock) (races : L.Races sales userId)
    (paying : calls.map (·.event) = sales.map fun x => .paid x.1) (some_ : calls ≠ [])
    (finished : ((spread now s benches bench calls).follow schedule).jobs.all isFinished) :
    ∃ M b, ((spread now s benches bench calls).follow schedule).store.Shows M ∧
      M.billings.filter (·.userId = userId) = [b] ∧ b.PaidIn sales ∧ M.ServedIn sales userId ∧
      (∀ c ∈ calls, ((spread now s benches bench calls).follow schedule).ending? c.id =
        some (.ok (Reconcile.applied .invoicePaid b))) ∧
      ((∀ x ∈ sales, ∀ y ∈ sales, x.2.id = y.2.id) → M.Converged sales userId) := by
  have accords := accords_spread shows_ sound proper now benches bench races paying
  obtain ⟨M, ends⟩ := accords.follow lasting_fulfilled schedule clock
  have ended : ∀ c ∈ calls, ∃ r, ((spread now s benches bench calls).follow schedule).ending? c.id = some (.ok r) ∧
      M.Fulfilled sales userId r := by
    intro c member
    have begun : (spread now s benches bench calls).left c.id = some c.program := by
      rw [left_spread, find?_calling ids member]
      rfl
    obtain ⟨rest, stays⟩ := follow_left begun schedule
    obtain ⟨result, last⟩ := ending?_of_finished finished stays
    obtain ⟨r, rfl, well⟩ := ends.ended last
    exact ⟨r, last, well⟩
  obtain ⟨c, member⟩ := List.exists_mem_of_ne_nil calls some_
  obtain ⟨-, -, b', -, ⟨b, there, owner, -, paid⟩, served⟩ := ended c member
  have only := filter_owner ends.reads.sound there owner
  refine ⟨M, b, ends.reads.shows_, only, paid, served, fun c member => ?_, fun one => ?_⟩
  · obtain ⟨r, last, b', rfl, ⟨d, near, owner', name, -⟩, -⟩ := ended c member
    rw [last, eq_of_owner ends.reads.sound there near (owner.trans owner'.symm)]
    unfold Reconcile.applied
    rw [name]
  · obtain ⟨x, sale, subscription, customer, expiry⟩ := paid.payment
    obtain ⟨y, sale', product⟩ := paid.sold
    obtain ⟨a, known, z, sale'', plan⟩ := served
    refine ⟨b, only, paid.active, ⟨x, sale, subscription, customer, product.trans (one y sale' x sale), expiry⟩, a, known, ?_⟩
    rw [plan, product, one z sale'' y sale']

end World

namespace Shop

def teamPlan : Product where
  id := "team"
  name := "Team"
  description := none
  price := 2900
  currency := "usd"
  priceId := some "price-team"
  providerProductId := none
  active := true
  isDefault := false
  createdAt := none
  updatedAt := none

def enlarged : InvoicePaid :=
  { renewed with
    customerId := "team-customer"
    priceId := "price-team"
    subscriptionId := "team-sub"
    periodEnd := ⟨1896134400000000, some 0⟩ }

def teamPayment : Calling := ⟨"team", .paid enlarged, ⟨0, some 0⟩⟩

def sold : List Sale := [(renewed, proPlan), (enlarged, teamPlan)]

def racing : List (Moment × String) :=
  (List.replicate 5 "payment" ++ List.replicate 5 "team" ++ ["payment", "team", "payment", "team"]).map fun id => (⟨0, some 0⟩, id)

def raced : World Reconciliation :=
  (World.spread ⟨0, some 0⟩ (ledger .canceled "team" "free").store 2 (fun c => if c.id = "team" then 1 else 0)
    [payment, teamPayment]).follow racing

def mixed : Billing := (bill .canceled "team").paidFor proPlan enlarged

theorem productOf_team (status : BillingStatus) (billed served : String) :
    (ledger status billed served).productOf "price-team" = .ok (some teamPlan) := by
  have here : Query.first? Product.ofRow (([free, pro, team].filter (Row.matches · [("external_price_id", "price-team")])).take 1)
      = .ok (some teamPlan) := by decide +kernel
  exact here

theorem races_sold : (ledger .canceled "team" "free").Races sold "ann" where
  prices := List.forall_mem_cons.2 ⟨productOf_pro _ _ _, List.forall_mem_singleton.2 (productOf_team _ _ _)⟩
  payers := by
    have payer : (ledger .canceled "team" "free").accountAt? (Query.keptEmail "ann@shop.com") = some (ann "free") := by
      decide +kernel
    exact List.forall_mem_cons.2 ⟨⟨_, payer, rfl⟩, List.forall_mem_singleton.2 ⟨_, payer, rfl⟩⟩
  others := List.forall_mem_singleton.2 fun other => absurd rfl other

theorem proper_sold : ∀ c ∈ [payment, teamPayment], c.Proper := by
  refine List.forall_mem_cons.2 ⟨⟨?_, by decide⟩, List.forall_mem_singleton.2 ⟨?_, by decide⟩⟩
  · change Moment.Proper ⟨1893456000000000, some 0⟩
    decide
  · change Moment.Proper ⟨1896134400000000, some 0⟩
    decide

theorem clock_racing : ∀ x ∈ racing, x.1.Clock := by decide

theorem raced_ends : raced.jobs.all World.isFinished ∧ ∀ M, raced.store.Shows M →
    M.billings = [mixed] ∧ M.accounts = [ann "team"] := by
  obtain ⟨jobs, shown⟩ := World.shows_of_rehearsal (shows_ .canceled "team" "free" (by decide)) (sound _ _ _) proper_sold
    ⟨0, some 0⟩ 2 (fun c => if c.id = "team" then 1 else 0) clock_racing
  have ends : ((World.spread ⟨0, some 0⟩ ⟨[], [], [], 0⟩ 2 (fun c => if c.id = "team" then 1 else 0)
      [payment, teamPayment]).rehearse (ledger .canceled "team" "free") racing).jobs.all World.isFinished := by decide +kernel
  have rest : ((World.spread ⟨0, some 0⟩ ⟨[], [], [], 0⟩ 2 (fun c => if c.id = "team" then 1 else 0)
      [payment, teamPayment]).rehearsed (ledger .canceled "team" "free") racing).billings = [mixed] ∧
      ((World.spread ⟨0, some 0⟩ ⟨[], [], [], 0⟩ 2 (fun c => if c.id = "team" then 1 else 0)
      [payment, teamPayment]).rehearsed (ledger .canceled "team" "free") racing).accounts = [ann "team"] := by decide +kernel
  refine ⟨?_, fun M shows_ => ?_⟩
  · unfold raced
    rw [jobs]
    exact ends
  · rw [Store.shows_unique shows_ shown]
    exact rest

theorem payments_settled : ∃ M b, raced.store.Shows M ∧ M.billings.filter (·.userId = "ann") = [b] ∧ b.PaidIn sold ∧
    M.ServedIn sold "ann" ∧
    (∀ c ∈ [payment, teamPayment], raced.ending? c.id = some (.ok (Reconcile.applied .invoicePaid b))) ∧
    ((∀ x ∈ sold, ∀ y ∈ sold, x.2.id = y.2.id) → M.Converged sold "ann") := by
  have ids : ([payment, teamPayment].map (·.id)).Nodup := by decide
  exact World.payments_settle (shows_ .canceled "team" "free" (by decide)) (sound _ _ _) ids proper_sold ⟨0, some 0⟩ 2
    (fun c => if c.id = "team" then 1 else 0) clock_racing races_sold rfl (List.cons_ne_nil _ _) raced_ends.1

-- The record is for the pro plan, which the payment that all the rest of it comes from was not for; and ann is on the
-- team plan.
theorem payments_mixed : (ledger .canceled "team" "free").store.Shows (ledger .canceled "team" "free") ∧
    (ledger .canceled "team" "free").Sound ∧ (ledger .canceled "team" "free").Races sold "ann" ∧
    (∀ c ∈ [payment, teamPayment], c.Proper) ∧ [payment, teamPayment].map (·.event) = sold.map (fun x => .paid x.1) ∧
    raced.jobs.all World.isFinished ∧ ∀ M, raced.store.Shows M →
      M.billings = [mixed] ∧ M.accounts = [ann "team"] ∧ ¬ M.Converged sold "ann" := by
  refine ⟨shows_ .canceled "team" "free" (by decide), sound _ _ _, races_sold, proper_sold, rfl, raced_ends.1, ?_⟩
  intro M shows_
  obtain ⟨billings, accounts⟩ := raced_ends.2 M shows_
  refine ⟨billings, accounts, fun converged => ?_⟩
  obtain ⟨b, only, -, ⟨x, sale, subscription, -, product, -⟩, -⟩ := converged
  rw [billings] at only
  have same : [mixed] = [b] := only
  cases same
  have apart : ∀ x ∈ sold, mixed.subscriptionId = some x.1.subscriptionId → mixed.productId ≠ x.2.id := by decide
  exact apart x sale subscription product

end Shop
end SubscriptionLedger
