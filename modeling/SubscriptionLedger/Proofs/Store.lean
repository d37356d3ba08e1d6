import Mathlib.Data.List.Forall2
import SubscriptionLedger.Proofs.Ledger
import SubscriptionLedger.Proofs.Rows

namespace SubscriptionLedger

-- A row that an account can be read out of. Only texts are found by name and address.
structure Account.Stands (row : Row) (a : Account) : Prop where
  read : (User.ofRow row).map User.timeless = .ok a.user
  id : Members.find? row "id" = some (.text a.user.id)
  address : Members.find? row "email" = some (.text a.address)

structure Billing.Stands (row : Row) (b : Billing) : Prop where
  read : (Billing.ofRow row).map Billing.timeless = .ok b
  id : Members.find? row "id" = some (.text b.id)
  userId : Members.find? row "user_id" = some (.text b.userId)

structure Store.Shows (s : Store) (L : Ledger) : Prop where
  users : List.Forall₂ Account.Stands s.users L.accounts
  products : s.products = L.catalog
  billings : List.Forall₂ Billing.Stands s.billings L.billings
  inserted : s.inserted = L.inserted

def Query.timeless : (q : Query) → q.Reply → q.Reply
  | .userById _ | .userByEmail _ => Option.map User.timeless
  | .assignProduct _ _ => User.timeless
  | .billingByUser _ | .billingBySubscription _ => Option.map Billing.timeless
  | .createBilling _ | .updateBilling _ _ => Billing.timeless
  | .productById _ | .productByPrice _ => fun reply => reply
  | .activeProducts => fun reply => reply
  | .defaultProduct => fun reply => reply

-- A query that asks for texts, and writes moments of the calendar and products that have a name.
def Query.Plain : Query → Prop
  | .billingBySubscription id => ∃ s, id = .text s
  | .assignProduct _ productId => ∃ s, productId = .text s ∧ s ≠ ""
  | .createBilling new => new.expiresAt.Proper
  | .updateBilling _ u => ∀ t ∈ u.expiresAt, t.Proper
  | _ => True

theorem Except.map_eq_ok {x : Except ε α} {f : α → β} : x.map f = .ok r ↔ ∃ a, x = .ok a ∧ f a = r := by
  cases x <;> simp [Except.map]

section Rows

variable {row : Row} {b : Billing} {a : Account}

theorem Document.same_text (s : String) (d : Document) : Document.same (.text s) d = decide (.text s = d) := by
  cases d <;> simp [Document.same, Document.sameNumber?, beq_eq_decide]

theorem Row.matches_text {name : String} (held : Members.find? row name = some (.text s)) (d : Document) :
    row.matches [(name, d)] = decide (.text s = d) := by
  simp [Row.matches, held, Document.same_text]

theorem Billing.Stands.columns (stands : Billing.Stands row b) : ∃ t, Billing.Columns row { b with updatedAt := t } := by
  obtain ⟨whole, read, same⟩ := Except.map_eq_ok.1 stands.read
  refine ⟨whole.updatedAt, ?_⟩
  rw [← same]
  exact Billing.ofRow_eq_ok.1 read

theorem Billing.stands_of_columns {t : Option Moment} (columns : Billing.Columns row { b with updatedAt := t })
    (plain : b.updatedAt = none) (id : Members.find? row "id" = some (.text b.id))
    (userId : Members.find? row "user_id" = some (.text b.userId)) : Billing.Stands row b where
  read := by
    rw [Billing.ofRow_eq_ok.2 columns]
    change Except.ok { b with updatedAt := none } = Except.ok b
    rw [← plain]
  id := id
  userId := userId

theorem Billing.Stands.timeless (stands : Billing.Stands row b) : b.updatedAt = none := by
  obtain ⟨whole, read, same⟩ := Except.map_eq_ok.1 stands.read
  rw [← same]
  rfl

theorem Billing.Stands.get_subscription (stands : Billing.Stands row b) :
    Members.get row "external_subscription_id" = .ofText? b.subscriptionId := by
  obtain ⟨t, columns⟩ := stands.columns
  exact columns.subscriptionId

theorem Billing.Stands.matches_subscription (stands : Billing.Stands row b) (s : String) :
    row.matches [("external_subscription_id", .text s)] = b.subscriptionId.any fun carried => .text carried = Document.text s := by
  have held := stands.get_subscription
  unfold Members.get at held
  unfold Row.matches
  cases found : Members.find? row "external_subscription_id" with
  | none =>
    rw [found] at held
    cases carried : b.subscriptionId with
    | none => simp [found]
    | some t => simp [carried, Document.ofText?, Document.ofOption] at held
  | some d =>
    rw [found, Option.getD_some] at held
    cases carried : b.subscriptionId with
    | none =>
      rw [carried] at held
      subst held
      simp [found, Document.ofText?, Document.ofOption, Document.same, Document.sameNumber?]
    | some t =>
      rw [carried] at held
      subst held
      simp [found, Document.ofText?, Document.ofOption, Document.same_text]

theorem Document.text_bne_null (s : String) : (Document.text s != .null) = true := bne_iff_ne.2 nofun

theorem Billing.Stands.sameSlot (first : Billing.Stands row b) (second : Billing.Stands row' b') :
    Store.sameSlot row row' = b.shares b' := by
  have mine := first.get_subscription
  have theirs := second.get_subscription
  unfold Store.sameSlot Billing.shares
  rw [Members.get_of_find? first.userId, Members.get_of_find? second.userId, mine, theirs]
  cases b.subscriptionId <;> cases b'.subscriptionId <;>
    simp [Document.same_text, Document.text_bne_null, Document.ofText?, Document.ofOption]

theorem Billing.Stands.update (stands : Billing.Stands row b) (window : ∀ t ∈ u.expiresAt, t.Proper)
    (clock : Moment.Clock now) : Billing.Stands (row.putAll (Query.stamped now u.columns)) (b.apply u) := by
  obtain ⟨t, columns⟩ := stands.columns
  have written := Billing.columns_update columns window clock
  refine Billing.stands_of_columns (b := b.apply u) written ?_ ?_ ?_
  · exact stands.timeless
  · rw [BillingUpdate.find?_unsaid rfl (by decide)]
    exact stands.id
  · rw [BillingUpdate.find?_unsaid rfl (by decide)]
    exact stands.userId

theorem Account.Stands.columns (stands : Account.Stands row a) :
    ∃ t, User.Columns row { a.user with updatedAt := t } := by
  obtain ⟨whole, read, same⟩ := Except.map_eq_ok.1 stands.read
  refine ⟨whole.updatedAt, ?_⟩
  rw [← same]
  exact User.ofRow_eq_ok.1 read

theorem Account.Stands.timeless (stands : Account.Stands row a) : a.user.updatedAt = none := by
  obtain ⟨whole, read, same⟩ := Except.map_eq_ok.1 stands.read
  rw [← same]
  rfl

theorem Account.Stands.move (stands : Account.Stands row a) (named : product ≠ "") (clock : Moment.Clock now) :
    Account.Stands (row.putAll (Query.stamped now [("current_product_id", .text product)]))
      { a with user := a.user.moved product } := by
  have other {name : String} (apart : "current_product_id" ≠ name) (old : "updated_at" ≠ name) :
      Members.find? (row.putAll (Query.stamped now [("current_product_id", .text product)])) name =
        Members.find? row name := by
    rw [Members.find?_putAll (by simp [Query.stamped])]
    unfold Query.stamped
    rw [List.singleton_append, Members.find?_cons, if_neg apart, Members.find?_cons, if_neg old]
    rfl
  obtain ⟨t, columns⟩ := stands.columns
  constructor
  · rw [User.ofRow_eq_ok.2 (User.columns_move columns named clock)]
    change Except.ok { a.user.moved product with updatedAt := none } = Except.ok (a.user.moved product)
    rw [← stands.timeless]
    rfl
  · rw [other (by decide) (by decide)]
    exact stands.id
  · rw [other (by decide) (by decide)]
    exact stands.address

end Rows

section Lists

variable {α β : Type} {R : α → β → Prop} {xs : List α} {ys : List β} {p : α → Bool} {q : β → Bool}

theorem related_find? (related : List.Forall₂ R xs ys) (agree : ∀ x y, R x y → p x = q y) :
    (xs.find? p = none ∧ ys.find? q = none) ∨
      ∃ x y before after before' after', xs = before ++ x :: after ∧ ys = before' ++ y :: after' ∧
        xs.find? p = some x ∧ ys.find? q = some y ∧ R x y ∧ p x ∧ q y ∧
        List.Forall₂ R before before' ∧ List.Forall₂ R after after' ∧ (∀ x ∈ before, ¬ p x) ∧ ∀ y ∈ before', ¬ q y := by
  induction related with
  | nil => exact .inl ⟨rfl, rfl⟩
  | @cons x y xs ys here rest ih =>
    have both := agree x y here
    cases holds : p x with
    | true =>
      rw [holds] at both
      refine .inr ⟨x, y, [], xs, [], ys, rfl, rfl, ?_, ?_, here, holds, both.symm, .nil, rest, ?_, ?_⟩
      · simp [List.find?, holds]
      · simp [List.find?, ← both]
      · simp
      · simp
    | false =>
      rw [holds] at both
      rcases ih with ⟨none, none'⟩ | ⟨x', y', before, after, before', after', rfl, rfl, found, found', same, px, qy,
        front, back, first, first'⟩
      · exact .inl ⟨by simp [List.find?, holds, none], by simp [List.find?, ← both, none']⟩
      · refine .inr ⟨x', y', x :: before, after, y :: before', after', rfl, rfl, ?_, ?_, same, px, qy, .cons here front,
          back, ?_, ?_⟩
        · simp [List.find?, holds, found]
        · simp [List.find?, ← both, found']
        · simpa [holds] using first
        · simpa [← both] using first'

theorem related_any (related : List.Forall₂ R xs ys) (agree : ∀ x y, R x y → p x = q y) : xs.any p = ys.any q := by
  induction related with
  | nil => rfl
  | cons here rest ih => rw [List.any_cons, List.any_cons, agree _ _ here, ih]

theorem related_none (related : List.Forall₂ R xs ys) (agree : ∀ x y, R x y → p x = q y) (none : ∀ y ∈ ys, ¬ q y) :
    ∀ x ∈ xs, ¬ p x := by
  induction related with
  | nil => simp
  | cons here rest ih =>
    obtain ⟨first, others⟩ := List.forall_mem_cons.1 none
    exact List.forall_mem_cons.2 ⟨by rw [agree _ _ here]; exact first, ih others⟩

theorem map_chosen {before after : List β} {y : β} {c : β → Prop} [DecidablePred c] (f : β → β)
    (front : ∀ y ∈ before, ¬ c y) (chosen : c y) (back : ∀ y ∈ after, ¬ c y) :
    (before ++ y :: after).map (fun y => if c y then f y else y) = before ++ f y :: after := by
  have same : ∀ ys : List β, (∀ y ∈ ys, ¬ c y) → ys.map (fun y => if c y then f y else y) = ys := by
    intro ys others
    refine (List.map_congr_left fun y member => if_neg (others y member)).trans ?_
    exact List.map_id' ys
  rw [List.map_append, List.map_cons, same before front, same after back, if_pos chosen]

theorem any_unchosen {before after : List β} {y : β} {c : β → Prop} [DecidablePred c] (q : β → Bool)
    (front : ∀ y ∈ before, ¬ c y) (chosen : c y) (back : ∀ y ∈ after, ¬ c y) :
    (before ++ y :: after).any (fun y => ¬ c y && q y) = (before ++ after).any q := by
  have same : ∀ ys : List β, (∀ y ∈ ys, ¬ c y) → ys.any (fun y => ¬ c y && q y) = ys.any q := by
    intro ys others
    induction ys with
    | nil => rfl
    | cons y rest ih =>
      obtain ⟨first, last⟩ := List.forall_mem_cons.1 others
      rw [List.any_cons, List.any_cons, ih last]
      simp [first]
  rw [List.any_append, List.any_cons, same before front, same after back, List.any_append]
  simp [chosen]

theorem take_one_filter (xs : List α) (p : α → Bool) : (xs.filter p).take 1 = (xs.find? p).toList := by
  induction xs with
  | nil => rfl
  | cons x rest ih => cases holds : p x <;> simp [List.find?, holds, ih]

end Lists

namespace Store

variable {now : Moment} {rows : List Row} {row : Row}

theorem changeRows_none (table : Table) (filters : Filters) (columns : Members) (before : List Row)
    (others : ∀ r ∈ rows, ¬ r.matches filters) :
    changeRows table filters columns before rows = (.ok [], before ++ rows) := by
  induction rows generalizing before with
  | nil => simp [changeRows]
  | cons r rest ih =>
    obtain ⟨here, there⟩ := List.forall_mem_cons.1 others
    rw [changeRows, if_neg here, ih (before ++ [r]) there]
    simp

theorem changeRows_one (table : Table) (filters : Filters) (columns : Members) (before : List Row)
    (others : ∀ r ∈ front, ¬ r.matches filters) (chosen : row.matches filters)
    (rest : ∀ r ∈ back, ¬ r.matches filters) :
    changeRows table filters columns before (front ++ row :: back) =
      if clashes table (before ++ front ++ back) (row.putAll columns) then
        (.error violation, before ++ front ++ row :: back)
      else (.ok [row.putAll columns], before ++ front ++ row.putAll columns :: back) := by
  induction front generalizing before with
  | nil =>
    rw [List.nil_append, changeRows, if_pos chosen, List.append_nil]
    dsimp only
    split
    · rfl
    · rw [changeRows_none table filters columns _ rest]
      simp [Except.map]
  | cons r front ih =>
    obtain ⟨here, there⟩ := List.forall_mem_cons.1 others
    rw [List.cons_append, changeRows, if_neg here, ih (before ++ [r]) there]
    simp

variable {s : Store} {L : Ledger}

theorem ask_lookup (s : Store) {q : Query} {column : String} {value : Document}
    (call : q.call now = Query.lookup table column value) :
    s.ask now q = (q.answer (.ok ((s.rows table).find? (·.matches [(column, value)])).toList), s) := by
  unfold ask
  rw [call]
  unfold Query.lookup perform select
  simp only [pure, Except.pure, bind, Except.bind, take_one_filter]

theorem first?_related {α β : Type} {read : Row → Except Fault α} {strip : α → α} {R : Row → β → Prop} {v : β → α}
    {xs : List β} {q : β → Bool} (related : List.Forall₂ R rows xs)
    (agree : ∀ row x, R row x → row.matches filters = q x)
    (reads : ∀ row x, R row x → row ≠ [] ∧ (read row).map strip = .ok (v x)) :
    (Query.first? read (rows.find? (·.matches filters)).toList).map (Option.map strip) =
      .ok ((xs.find? q).map v) := by
  rcases related_find? related agree with
    ⟨none, none'⟩ | ⟨row, x, before, after, before', after', -, -, found, found', same, -⟩
  · rw [none, none']
    rfl
  · obtain ⟨full, here⟩ := reads row x same
    rw [found, found']
    cases row with
    | nil => exact absurd rfl full
    | cons c cs =>
      obtain ⟨whole, known, seen⟩ := Except.map_eq_ok.1 here
      change ((read (c :: cs)).map some).map (Option.map strip) = _
      rw [known, Option.map_some, ← seen]
      rfl

theorem Account.Stands.reads {a : Account} (stands : Account.Stands row a) :
    row ≠ [] ∧ (User.ofRow row).map User.timeless = .ok a.user := by
  refine ⟨?_, stands.read⟩
  rintro rfl
  cases stands.id

theorem Billing.Stands.reads {b : Billing} (stands : Billing.Stands row b) :
    row ≠ [] ∧ (Billing.ofRow row).map Billing.timeless = .ok b := by
  refine ⟨?_, stands.read⟩
  rintro rfl
  cases stands.id

-- A store answers as the ledger that it shows, and shows the ledger that comes out of it.
def Agrees (s : Store) (L : Ledger) (now : Moment) (q : Query) : Prop :=
  (s.ask now q).1.map q.timeless = (L.ask now q).1 ∧ (s.ask now q).2.Shows (L.ask now q).2

theorem agrees_userById (shows_ : s.Shows L) (name : Document) : s.Agrees L now (.userById name) := by
  unfold Agrees
  rw [ask_lookup s rfl]
  refine ⟨?_, shows_⟩
  exact first?_related shows_.users (fun row a stands => Row.matches_text stands.id name) fun row a => Account.Stands.reads

theorem agrees_userByEmail (shows_ : s.Shows L) (email : String) : s.Agrees L now (.userByEmail email) := by
  unfold Agrees
  rw [ask_lookup s rfl]
  refine ⟨?_, shows_⟩
  refine first?_related shows_.users (fun row a stands => ?_) fun row a => Account.Stands.reads
  rw [Row.matches_text stands.address]
  simp

theorem agrees_billingByUser (shows_ : s.Shows L) (name : Document) : s.Agrees L now (.billingByUser name) := by
  unfold Agrees
  rw [ask_lookup s rfl]
  refine ⟨?_, shows_⟩
  have read := first?_related (v := fun b => b) shows_.billings
    (fun row b stands => Row.matches_text stands.userId name) fun row b => Billing.Stands.reads
  rwa [Option.map_id'] at read

theorem agrees_billingBySubscription (shows_ : s.Shows L) (name : String) :
    s.Agrees L now (.billingBySubscription name) := by
  unfold Agrees
  rw [ask_lookup s rfl]
  refine ⟨?_, shows_⟩
  have read := first?_related (v := fun b => b) shows_.billings
    (fun row b stands => stands.matches_subscription name) fun row b => Billing.Stands.reads
  rwa [Option.map_id'] at read

theorem map_timeless_productOf (x : Except Fault α) : x.map (fun a => a) = x := by
  cases x <;> rfl

theorem agrees_product (shows_ : s.Shows L) {q : Query} {column : String} {value : Document}
    (call : q.call now = Query.lookup .products column value) (plain : q.timeless = fun reply => reply)
    (reply : L.ask now q = (q.read (L.offered column value), L)) : s.Agrees L now q := by
  unfold Agrees
  rw [ask_lookup s call, reply, plain, map_timeless_productOf]
  refine ⟨?_, shows_⟩
  unfold Ledger.offered
  rw [take_one_filter, ← shows_.products]
  rfl

theorem agrees_activeProducts (shows_ : s.Shows L) : s.Agrees L now .activeProducts := by
  unfold Agrees
  refine ⟨?_, shows_⟩
  change ((Query.activeProducts).answer (s.select .products [("active", .bool true)] (some "price") none)).map
    (fun a => a) = _
  rw [map_timeless_productOf]
  unfold select rows
  rw [shows_.products]
  rfl

theorem clashes_users (others : List Row) (row : Row) : clashes .users others row = false := rfl

theorem assign_unknown (standing : List.Forall₂ Account.Stands s.users L.accounts) (unknown : L.account? userId = none)
    (productId : Document) : s.ask now (.assignProduct userId productId) = (.error (.userNotFound userId), s) := by
  have agree (row : Row) (a : Account) (stands : a.Stands row) := Row.matches_text stands.id userId
  unfold ask
  dsimp only [Query.call, perform, update, Store.rows]
  rcases related_find? standing agree with ⟨none, -⟩ | ⟨_, _, _, _, _, _, -, -, -, found, -⟩
  · rw [changeRows_none _ _ _ _ (List.find?_eq_none.1 none)]
    rfl
  · cases unknown.symm.trans found

theorem assign_known (standing : List.Forall₂ Account.Stands s.users L.accounts)
    (users : L.accounts.Pairwise fun a b => a.user.id ≠ b.user.id) (known : L.account? userId = some a) :
    ∃ before row after before' after', s.users = before ++ row :: after ∧ L.accounts = before' ++ a :: after' ∧
      Account.Stands row a ∧ List.Forall₂ Account.Stands before before' ∧ List.Forall₂ Account.Stands after after' ∧
      (∀ x ∈ before', ¬ Document.text x.user.id = userId) ∧ Document.text a.user.id = userId ∧
      (∀ x ∈ after', ¬ Document.text x.user.id = userId) ∧
      ∀ now productId, s.ask now (.assignProduct userId productId) =
        (User.ofRow (row.putAll (Query.stamped now [("current_product_id", productId)])),
          { s with users := before ++ row.putAll (Query.stamped now [("current_product_id", productId)]) :: after }) := by
  have agree (row : Row) (a : Account) (stands : a.Stands row) := Row.matches_text stands.id userId
  rcases related_find? standing agree with
    ⟨-, none⟩ | ⟨row, b, before, after, before', after', rows, accounts, -, found, stands, chosen, here, front, back,
      first, first'⟩
  · cases known.symm.trans none
  · cases Option.some.inj (known.symm.trans found)
    rw [accounts] at users
    have last' : ∀ y ∈ after', ¬ decide (Document.text y.user.id = userId) := by
      intro y member same
      have distinct := (List.pairwise_cons.1 (List.pairwise_append.1 users).2.1).1 y member
      exact distinct (Document.text.inj ((of_decide_eq_true here).trans (of_decide_eq_true same).symm))
    have last := related_none back agree last'
    simp only [decide_eq_true_eq] at first' here last'
    refine ⟨before, row, after, before', after', rows, accounts, stands, front, back, first', here, last', ?_⟩
    intro now productId
    unfold ask
    dsimp only [Query.call, perform, update, Store.rows]
    rw [rows, changeRows_one _ _ _ _ first chosen last, clashes_users, if_neg Bool.false_ne_true]
    rfl

theorem agrees_assignProduct (shows_ : s.Shows L) (users : L.accounts.Pairwise fun a b => a.user.id ≠ b.user.id)
    (clock : Moment.Clock now) (userId : Document) (named : product ≠ "") :
    s.Agrees L now (.assignProduct userId (.text product)) := by
  unfold Agrees Ledger.ask
  dsimp only
  cases known : L.account? userId with
  | none =>
    rw [assign_unknown shows_.users known]
    exact ⟨rfl, shows_⟩
  | some a =>
    obtain ⟨before, row, after, before', after', -, accounts, stands, front, back, first, here, last, asked⟩ :=
      assign_known shows_.users users known
    have moved := stands.move named clock
    rw [asked]
    refine ⟨moved.read, ?_, shows_.products, shows_.billings, shows_.inserted⟩
    dsimp only [Ledger.move, Document.display_text]
    rw [accounts, map_chosen (fun a : Account => { a with user := a.user.moved product }) first here last]
    exact List.rel_append front (.cons moved back)

theorem update_none (others : ∀ r ∈ s.billings, ¬ r.matches [("id", name)]) (u : BillingUpdate) :
    s.ask now (.updateBilling name u) = (.error (.noBilling name), s) := by
  unfold ask
  dsimp only [Query.call, perform, update, Store.rows]
  rw [changeRows_none _ _ _ _ others]
  rfl

theorem update_one (rows : s.billings = before ++ row :: after) (first : ∀ r ∈ before, ¬ r.matches [("id", name)])
    (chosen : row.matches [("id", name)]) (last : ∀ r ∈ after, ¬ r.matches [("id", name)]) (now : Moment) (u : BillingUpdate) :
    s.ask now (.updateBilling name u) =
      if clashes .billings (before ++ after) (row.putAll (Query.stamped now u.columns)) then (.error violation, s)
      else (Billing.ofRow (row.putAll (Query.stamped now u.columns)),
        { s with billings := before ++ row.putAll (Query.stamped now u.columns) :: after }) := by
  unfold ask
  dsimp only [Query.call, perform, update, Store.rows]
  rw [rows, changeRows_one _ _ _ _ first chosen last]
  rw [List.nil_append]
  split
  · refine Prod.ext rfl ?_
    change { s with billings := before ++ row :: after } = s
    rw [← rows]
  · rfl

theorem update_unknown (entries : List.Forall₂ Billing.Stands s.billings L.billings) (unknown : L.billing? name = none)
    (u : BillingUpdate) : s.ask now (.updateBilling name u) = (.error (.noBilling name), s) := by
  have agree (row : Row) (b : Billing) (stands : b.Stands row) := Row.matches_text stands.id name
  rcases related_find? entries agree with ⟨none, -⟩ | ⟨_, _, _, _, _, _, -, -, -, found, -⟩
  · exact update_none (List.find?_eq_none.1 none) u
  · cases unknown.symm.trans found

theorem update_known (entries : List.Forall₂ Billing.Stands s.billings L.billings)
    (ids : L.billings.Pairwise fun a b => a.id ≠ b.id) (known : L.billing? name = some b) :
    ∃ before row after before' after', s.billings = before ++ row :: after ∧ L.billings = before' ++ b :: after' ∧
      Billing.Stands row b ∧ List.Forall₂ Billing.Stands before before' ∧ List.Forall₂ Billing.Stands after after' ∧
      (∀ x ∈ before', ¬ Document.text x.id = name) ∧ Document.text b.id = name ∧
      (∀ x ∈ after', ¬ Document.text x.id = name) ∧
      ∀ now u, s.ask now (.updateBilling name u) =
        if clashes .billings (before ++ after) (row.putAll (Query.stamped now u.columns)) then (.error violation, s)
        else (Billing.ofRow (row.putAll (Query.stamped now u.columns)),
          { s with billings := before ++ row.putAll (Query.stamped now u.columns) :: after }) := by
  have agree (row : Row) (b : Billing) (stands : b.Stands row) := Row.matches_text stands.id name
  rcases related_find? entries agree with
    ⟨-, none⟩ | ⟨row, c, before, after, before', after', rows, records, -, found, stands, chosen, here, front, back,
      first, first'⟩
  · cases known.symm.trans none
  · cases Option.some.inj (known.symm.trans found)
    rw [records] at ids
    have last' : ∀ y ∈ after', ¬ decide (Document.text y.id = name) := by
      intro y member same
      have distinct := (List.pairwise_cons.1 (List.pairwise_append.1 ids).2.1).1 y member
      exact distinct (Document.text.inj ((of_decide_eq_true here).trans (of_decide_eq_true same).symm))
    have last := related_none back agree last'
    simp only [decide_eq_true_eq] at first' here last'
    exact ⟨before, row, after, before', after', rows, records, stands, front, back, first', here, last',
      update_one rows first chosen last⟩

theorem agrees_updateBilling (shows_ : s.Shows L) (ids : L.billings.Pairwise fun a b => a.id ≠ b.id)
    (clock : Moment.Clock now) (name : Document) (window : ∀ t ∈ u.expiresAt, t.Proper) :
    s.Agrees L now (.updateBilling name u) := by
  unfold Agrees Ledger.ask
  dsimp only
  cases known : L.billing? name with
  | none =>
    rw [update_unknown shows_.billings known]
    exact ⟨rfl, shows_⟩
  | some b =>
    obtain ⟨before, row, after, before', after', -, records, stands, front, back, first, here, last, asked⟩ :=
      update_known shows_.billings ids known
    have amended := stands.update window clock
    have apart : clashes .billings (before ++ after) (row.putAll (Query.stamped now u.columns)) =
        L.billings.any fun other => Document.text other.id ≠ name && (b.apply u).shares other := by
      rw [records, any_unchosen (b.apply u).shares first here last]
      exact related_any (List.rel_append front back) fun other b' there => amended.sameSlot there
    rw [asked, apart]
    dsimp only
    split
    · exact ⟨rfl, shows_⟩
    · refine ⟨amended.read, shows_.users, shows_.products, ?_, shows_.inserted⟩
      dsimp only [Ledger.amend]
      rw [records, map_chosen (fun b : Billing => b.apply u) first here last]
      exact List.rel_append front (.cons amended back)

theorem insert_taken (s : Store) (taken : clashes table (s.rows table) (s.newRow now columns) = true) :
    s.insert now table columns = (.error violation, s) := by
  unfold insert
  dsimp only
  rw [if_pos taken]

theorem insert_free (s : Store) (free : clashes table (s.rows table) (s.newRow now columns) = false) :
    s.insert now table columns = (.ok [s.newRow now columns],
      { s.setRows (s.rows table ++ [s.newRow now columns]) table with inserted := s.inserted + 1 }) := by
  unfold insert
  dsimp only
  rw [if_neg (by rw [free]; decide)]

theorem create_asked (shows_ : s.Shows L) (clock : Moment.Clock now) (window : new.expiresAt.Proper) :
    ∃ row, Billing.Stands row (L.opened now new) ∧ s.ask now (.createBilling new) =
      if L.billings.any (L.opened now new).shares then (.error (.duplicateBilling new.userId), s)
      else (Billing.ofRow row, { s with billings := s.billings ++ [row], inserted := s.inserted + 1 }) := by
  have stands : Billing.Stands (newRow s now new.columns) (L.opened now new) := by
    have columns := Billing.columns_new s window clock
    rw [shows_.inserted] at columns
    refine Billing.stands_of_columns columns rfl ?_ ?_
    · rw [NewBilling.find?_row, shows_.inserted]
      rfl
    · rw [NewBilling.find?_row]
      rfl
  have apart : clashes .billings s.billings (newRow s now new.columns) = L.billings.any (L.opened now new).shares :=
    related_any shows_.billings fun other b there => stands.sameSlot there
  refine ⟨_, stands, ?_⟩
  unfold ask
  dsimp only [Query.call, perform]
  cases taken : L.billings.any (L.opened now new).shares with
  | true =>
    rw [insert_taken s (apart.trans taken)]
    rfl
  | false =>
    rw [insert_free s (apart.trans taken)]
    rfl

theorem agrees_createBilling (shows_ : s.Shows L) (clock : Moment.Clock now) (window : new.expiresAt.Proper) :
    s.Agrees L now (.createBilling new) := by
  obtain ⟨row, stands, asked⟩ := create_asked shows_ clock window
  unfold Agrees Ledger.ask
  dsimp only
  rw [asked]
  split
  · exact ⟨rfl, shows_⟩
  · exact ⟨stands.read, shows_.users, shows_.products, List.rel_append shows_.billings (.cons stands .nil),
      congrArg (· + 1) shows_.inserted⟩

theorem ask_shows (shows_ : s.Shows L) (sound : L.Sound) (clock : Moment.Clock now) (plain : q.Plain) :
    s.Agrees L now q := by
  cases q with
  | productById name => exact agrees_product shows_ rfl rfl rfl
  | productByPrice name => exact agrees_product shows_ rfl rfl rfl
  | activeProducts => exact agrees_activeProducts shows_
  | defaultProduct => exact agrees_product shows_ rfl rfl rfl
  | userById name => exact agrees_userById shows_ name
  | userByEmail email => exact agrees_userByEmail shows_ email
  | assignProduct name productId =>
    obtain ⟨product, rfl, named⟩ := plain
    exact agrees_assignProduct shows_ sound.users clock name named
  | billingByUser name => exact agrees_billingByUser shows_ name
  | billingBySubscription name =>
    obtain ⟨subscription, rfl⟩ := plain
    exact agrees_billingBySubscription shows_ subscription
  | createBilling new => exact agrees_createBilling shows_ clock plain
  | updateBilling name u => exact agrees_updateBilling shows_ sound.ids clock name plain

end Store
end SubscriptionLedger
