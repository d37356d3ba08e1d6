import Mathlib.Logic.Basic
import SubscriptionLedger.Proofs.Moment
import SubscriptionLedger.Store

namespace SubscriptionLedger

theorem Except.bind_eq_ok {x : Except ε α} {f : α → Except ε β} :
    (x >>= f) = .ok r ↔ ∃ a, x = .ok a ∧ f a = .ok r := by
  cases x <;> simp [bind, Except.bind]

namespace Members

theorem get_of_find? {ms : Members} (found : ms.find? name = some d) : ms.get name = d := by
  rw [get, found, Option.getD_some]

theorem find?_append (ms more : Members) (name : String) :
    Members.find? (ms ++ more) name = (ms.find? name).or (more.find? name) := by
  simp [find?, Option.map_or]

theorem find?_isNone {ms : Members} (absent : name ∉ ms.map (·.1)) : ms.find? name = none := by
  induction ms with
  | nil => rfl
  | cons m rest ih =>
    obtain ⟨n, d⟩ := m
    simp only [List.map_cons, List.mem_cons, not_or] at absent
    rw [find?_cons, if_neg (Ne.symm absent.1), ih absent.2]

theorem find?_filter {ms : Members} (keep : Document → Bool) (distinct : (ms.map (·.1)).Nodup) (name : String) :
    Members.find? (ms.filter fun m => keep m.2) name = (ms.find? name).filter keep := by
  induction ms with
  | nil => rfl
  | cons m rest ih =>
    obtain ⟨n, d⟩ := m
    obtain ⟨fresh, apart⟩ := List.nodup_cons.1 distinct
    have ih := ih apart
    by_cases same : n = name
    · subst same
      rw [find?_isNone fresh] at ih
      by_cases kept : keep d <;> simp [kept, find?_cons, ih, Option.filter]
    · by_cases kept : keep d <;> simp [kept, find?_cons, same, ih]

theorem find?_putAll {changes : Members} (distinct : (changes.map (·.1)).Nodup) (ms : Members) (name : String) :
    Members.find? (ms.putAll changes) name = (changes.find? name).or (ms.find? name) := by
  induction changes generalizing ms with
  | nil => rfl
  | cons m rest ih =>
    obtain ⟨n, d⟩ := m
    obtain ⟨fresh, apart⟩ := List.nodup_cons.1 distinct
    change Members.find? (Members.putAll (Members.put ms n d) rest) name = _
    rw [ih apart, find?_cons]
    by_cases same : n = name
    · subst same
      rw [find?_isNone fresh, find?_put_same, if_pos rfl]
      rfl
    · rw [find?_put_other _ _ (Ne.symm same), if_neg same]

end Members

section Reading

theorem Checked.map_eq_ok {f : α → β} {c : Checked α} : Checked.map f c = .ok r ↔ ∃ a, c = .ok a ∧ f a = r := by
  cases c <;> simp [Checked.map]

theorem Checked.both_eq_ok {f : Checked (α → β)} {c : Checked α} :
    Checked.both f c = .ok r ↔ ∃ g a, f = .ok g ∧ c = .ok a ∧ g a = r := by
  cases f <;> cases c <;> simp [Checked.both]

theorem Checked.under_eq_ok {c : Checked α} : Checked.under step c = .ok r ↔ c = .ok r := by
  cases c <;> simp [Checked.under]

theorem Checked.orInvalid_eq_ok {c : Checked α} : Checked.orInvalid kind c = .ok r ↔ c = .ok r := by
  cases c <;> simp [Checked.orInvalid]

theorem Form.map_eq_ok {f : α → β} {form : Form α} {ms : Members} :
    (f <$> form) ms = .ok r ↔ ∃ a, form ms = .ok a ∧ f a = r := Checked.map_eq_ok

theorem Form.seq_eq_ok {f : Form (α → β)} {form : Form α} {ms : Members} :
    (f <*> form) ms = .ok r ↔ ∃ g a, f ms = .ok g ∧ form ms = .ok a ∧ g a = r := Checked.both_eq_ok

theorem Form.required_eq_ok {rule : Rule α} {ms : Members} :
    Form.required name rule ms = .ok r ↔ ∃ d, Members.find? ms name = some d ∧ rule d = .ok r := by
  unfold Form.required
  cases Members.find? ms name <;> simp [Checked.under_eq_ok, Checked.refuse]

theorem Form.defaulted_eq_ok {rule : Rule α} {ms : Members} :
    Form.defaulted name value rule ms = .ok r ↔ ((Members.find? ms name).map rule).getD (.ok value) = .ok r := by
  unfold Form.defaulted
  cases Members.find? ms name <;> simp [Checked.under_eq_ok]

theorem Form.optional_eq_ok {rule : Rule α} {ms : Members} :
    Form.optional name rule ms = .ok r ↔ rule.nullable (Members.get ms name) = .ok r := by
  unfold Form.optional Form.defaulted Members.get
  cases Members.find? ms name with
  | none => simp [Rule.nullable]
  | some d => simp [Checked.under_eq_ok]

theorem Rule.text_eq_ok : Rule.text d = .ok s ↔ d = .text s := by
  cases d <;> simp [Rule.text, Checked.refuse]

theorem Rule.nullable_text_eq_ok : Rule.text.nullable d = .ok s ↔ d = .ofText? s := by
  cases d <;> cases s <;>
    simp [Rule.nullable, Rule.text, Checked.refuse, Document.ofText?, Document.ofOption, Checked.map]

theorem Rule.truth_bool_eq_ok : Rule.truth (.bool b) = .ok r ↔ b = r := by
  simp [Rule.truth]

theorem Rule.moment_told (tellable : m.Tellable) : Rule.moment (.ofMoment m) = .ok m.told := by
  unfold Rule.moment Document.ofMoment
  dsimp only
  rw [Moment.ofText?_text_told tellable]

theorem Rule.moment_text (proper : m.Proper) : Rule.moment (.ofMoment m) = .ok m := by
  rw [Rule.moment_told proper.tellable, proper.told_eq]

theorem Rule.moment_columnText (proper : m.Proper) : Rule.moment (.text m.columnText) = .ok m := by
  unfold Rule.moment
  dsimp only
  rw [Moment.ofText?_columnText proper]

theorem BillingStatus.ofWord?_eq_some : BillingStatus.ofWord? w = some s ↔ w = s.word := by
  constructor
  · intro read
    unfold BillingStatus.ofWord? at read
    split at read
    all_goals cases read
    all_goals rfl
  · rintro rfl
    exact BillingStatus.ofWord?_word s

theorem BillingStatus.rule_eq_ok : BillingStatus.rule d = .ok s ↔ d = s.toDocument := by
  unfold BillingStatus.rule Rule.choice BillingStatus.toDocument
  cases d with
  | text w =>
    rw [Document.text.injEq, ← BillingStatus.ofWord?_eq_some]
    dsimp only
    cases BillingStatus.ofWord? w <;> simp [Checked.refuse]
  | _ => simp [Checked.refuse]

theorem Row.demand_eq_ok {row : Row} : Row.demand row c = .ok d ↔ Members.find? row c = some d := by
  unfold Row.demand
  cases Members.find? row c <;> simp

theorem Row.status_eq_ok {row : Row} : Row.status row = .ok d ↔
    ∃ s : BillingStatus, Members.find? row "status" = some s.toDocument ∧ s.toDocument = d := by
  unfold Row.status
  simp only [Except.bind_eq_ok, Row.demand_eq_ok]
  constructor
  · rintro ⟨word, here, read⟩
    cases word with
    | text w =>
      dsimp only at read
      cases known : BillingStatus.ofWord? w with
      | none => simp [known] at read
      | some s =>
        rw [BillingStatus.ofWord?_eq_some] at known
        subst known
        simp at read
        exact ⟨s, here, read⟩
    | _ => contradiction
  · rintro ⟨s, here, rfl⟩
    refine ⟨_, here, ?_⟩
    simp [BillingStatus.toDocument]

end Reading

structure Billing.Columns (row : Row) (b : Billing) : Prop where
  id : (Members.find? row "id").map Document.display = some b.id
  userId : (Members.find? row "user_id").map Document.display = some b.userId
  productId : (Members.find? row "product_id").map Document.display = some b.productId
  subscriptionId : Members.get row "external_subscription_id" = .ofText? b.subscriptionId
  customerId : Members.get row "external_customer_id" = .ofText? b.customerId
  status : Members.find? row "status" = some b.status.toDocument
  expiresAt : (Members.find? row "expires_at").map Rule.moment = some (.ok b.expiresAt)
  createdAt : Rule.nullable Rule.moment (Members.get row "created_at") = .ok b.createdAt
  updatedAt : Rule.nullable Rule.moment (Members.get row "updated_at") = .ok b.updatedAt

theorem Billing.ofRow_eq_ok {row : Row} : Billing.ofRow row = .ok b ↔ Billing.Columns row b := by
  unfold Billing.ofRow Billing.form
  simp only [Row.demandId, bind_assoc, Except.bind_eq_ok, pure_bind, Checked.orInvalid_eq_ok, Row.demand_eq_ok,
    Row.status_eq_ok, Form.seq_eq_ok, Form.map_eq_ok, Form.required_eq_ok, Form.optional_eq_ok, Rule.text_eq_ok,
    Rule.nullable_text_eq_ok, Members.get, Row.column]
  obtain ⟨i, u, p, sub, c, s, t, made, last⟩ := b
  simp [Members.find?_cons, BillingStatus.rule_eq_ok]
  constructor
  · rintro ⟨_, id, _, user, _, product, _, status, _, expires, ⟨⟨⟨⟨subscription, customer⟩, same⟩, moment⟩, created⟩,
      updated, rfl, rfl, rfl⟩
    exact ⟨by simp [id], by simp [user], by simp [product], subscription, customer, by simp [status, same],
      by simp [expires, moment], created, updated⟩
  · rintro ⟨id, user, product, subscription, customer, status, expires, created, updated⟩
    obtain ⟨_, here, rfl⟩ := Option.map_eq_some_iff.1 id
    obtain ⟨_, owner, rfl⟩ := Option.map_eq_some_iff.1 user
    obtain ⟨_, plan, rfl⟩ := Option.map_eq_some_iff.1 product
    obtain ⟨_, last, moment⟩ := Option.map_eq_some_iff.1 expires
    exact ⟨_, here, _, owner, _, plan, s, status, _, last, ⟨⟨⟨⟨subscription, customer⟩, rfl⟩, moment⟩, created⟩,
      updated, rfl, rfl, rfl⟩

structure User.Columns (row : Row) (u : User) : Prop where
  id : (Members.find? row "id").map Document.display = some u.id
  email : (Members.find? row "email").map Rule.mail = some (.ok u.email)
  name : Members.get row "name" = .ofText? u.name
  password : Members.get row "password" = .ofText? u.password
  age : (Rule.wholeAtLeast 0).nullable (Members.get row "age") = .ok u.age
  phone : Members.get row "phone" = .ofText? u.phone
  emailVerified : Row.flag row "email_verified" false = u.emailVerified
  currentProductId : (if (Members.get row "current_product_id").isTruthy then
    .text (Members.get row "current_product_id").display else .null) = Document.ofText? u.currentProductId
  refreshToken : Members.get row "refresh_token" = .ofText? u.refreshToken
  emailToken : Members.get row "email_token" = .ofText? u.emailToken
  createdAt : Rule.nullable Rule.moment (Members.get row "created_at") = .ok u.createdAt
  updatedAt : Rule.nullable Rule.moment (Members.get row "updated_at") = .ok u.updatedAt

theorem User.ofRow_eq_ok {row : Row} : User.ofRow row = .ok u ↔ User.Columns row u := by
  unfold User.ofRow User.form
  simp only [Row.demandId, bind_assoc, Except.bind_eq_ok, pure_bind, Checked.orInvalid_eq_ok, Row.demand_eq_ok,
    Form.seq_eq_ok, Form.map_eq_ok, Form.required_eq_ok, Form.optional_eq_ok, Rule.text_eq_ok,
    Rule.nullable_text_eq_ok, Members.get, Row.column, Form.defaulted_eq_ok]
  obtain ⟨i, m, n, p, a, h, v, c, r, e, made, last⟩ := u
  simp [Members.find?_cons, Rule.truth_bool_eq_ok, -Bool.exists_bool]
  constructor
  · rintro ⟨_, id, _, email, ⟨⟨⟨⟨⟨⟨⟨⟨mail, name⟩, password⟩, age⟩, phone⟩, product⟩, refresh⟩, token⟩, created⟩,
      updated, rfl, verified⟩
    exact ⟨by simp [id], by simp [email, mail], name, password, age, phone, verified, product, refresh, token, created,
      updated⟩
  · rintro ⟨id, email, name, password, age, phone, verified, product, refresh, token, created, updated⟩
    obtain ⟨_, here, rfl⟩ := Option.map_eq_some_iff.1 id
    obtain ⟨_, address, mail⟩ := Option.map_eq_some_iff.1 email
    exact ⟨_, here, _, address, ⟨⟨⟨⟨⟨⟨⟨⟨mail, name⟩, password⟩, age⟩, phone⟩, product⟩, refresh⟩, token⟩, created⟩,
      updated, rfl, verified⟩

section Writing

variable {now : Moment} {row : Row} {b : Billing} {u : BillingUpdate} {new : NewBilling}

theorem BillingUpdate.nodup_stamped (now : Moment) (u : BillingUpdate) :
    ((Query.stamped now u.columns).map (·.1)).Nodup := by
  have all : ((u.allColumns ++ [("updated_at", Document.text now.instant.columnText)]).map (·.1)).Nodup := by
    simp [BillingUpdate.allColumns]
  unfold Query.stamped BillingUpdate.columns
  exact all.sublist ((List.filter_sublist.append_right _).map _)

theorem BillingUpdate.find?_columns (u : BillingUpdate) (name : String) :
    Members.find? u.columns name = (Members.find? u.allColumns name).filter (· != .null) := by
  unfold BillingUpdate.columns
  rw [Members.find?_filter (· != .null)]
  simp [BillingUpdate.allColumns]

theorem BillingUpdate.find?_said {write : α → Document} (said : Members.find? u.allColumns name = some (.ofOption write v))
    (something : ∀ a, write a ≠ .null) (other : name ≠ "updated_at") :
    Members.find? (row.putAll (Query.stamped now u.columns)) name = (v.map write).or (Members.find? row name) := by
  rw [Members.find?_putAll (u.nodup_stamped now)]
  unfold Query.stamped
  rw [Members.find?_append, u.find?_columns, said, Members.find?_cons, if_neg (Ne.symm other)]
  cases v with
  | none => rfl
  | some a => simp [Document.ofOption, Option.filter, something a]

theorem BillingUpdate.find?_unsaid (unsaid : Members.find? u.allColumns name = none) (other : name ≠ "updated_at") :
    Members.find? (row.putAll (Query.stamped now u.columns)) name = Members.find? row name := by
  rw [Members.find?_putAll (u.nodup_stamped now)]
  unfold Query.stamped
  rw [Members.find?_append, u.find?_columns, unsaid, Members.find?_cons, if_neg (Ne.symm other)]
  rfl

theorem BillingUpdate.find?_stamp :
    Members.find? (row.putAll (Query.stamped now u.columns)) "updated_at" = some (.text now.instant.columnText) := by
  rw [Members.find?_putAll (u.nodup_stamped now)]
  unfold Query.stamped
  rw [Members.find?_append, u.find?_columns]
  rfl

theorem Members.get_or (d : Option Document) (ms : Members) (name : String) :
    (d.or (ms.find? name)).getD .null = d.getD (ms.get name) := by
  cases d <;> rfl

def NewBilling.told (new : NewBilling) : NewBilling := { new with expiresAt := new.expiresAt.told }

def BillingUpdate.told (u : BillingUpdate) : BillingUpdate := { u with expiresAt := u.expiresAt.map Moment.told }

theorem NewBilling.told_eq (window : new.expiresAt.Proper) : new.told = new := by
  unfold told
  rw [window.told_eq]

theorem BillingUpdate.told_eq (window : ∀ t ∈ u.expiresAt, t.Proper) : u.told = u := by
  unfold told
  cases given : u.expiresAt with
  | none => rw [Option.map_none, ← given]
  | some t => rw [Option.map_some, (window t given).told_eq, ← given]

theorem Billing.columns_update_told (columns : Columns row b) (window : ∀ t ∈ u.expiresAt, t.Tellable)
    (clock : Moment.Clock now) : Columns (row.putAll (Query.stamped now u.columns))
      { b.apply u.told with updatedAt := some (Moment.ofInstant now.instant) } where
  id := by
    rw [BillingUpdate.find?_unsaid rfl (by decide)]
    exact columns.id
  userId := by
    rw [BillingUpdate.find?_unsaid rfl (by decide)]
    exact columns.userId
  productId := by
    change _ = some (u.productId.getD b.productId)
    rw [BillingUpdate.find?_said rfl nofun (by decide)]
    cases u.productId with
    | none => exact columns.productId
    | some p => rfl
  subscriptionId := by
    change _ = Document.ofText? (u.subscriptionId.or b.subscriptionId)
    rw [Members.get, BillingUpdate.find?_said rfl nofun (by decide), Members.get_or, columns.subscriptionId]
    cases u.subscriptionId <;> rfl
  customerId := by
    change _ = Document.ofText? (u.customerId.or b.customerId)
    rw [Members.get, BillingUpdate.find?_said rfl nofun (by decide), Members.get_or, columns.customerId]
    cases u.customerId <;> rfl
  status := by
    change _ = some (u.status.getD b.status).toDocument
    rw [BillingUpdate.find?_said rfl nofun (by decide), columns.status]
    cases u.status <;> rfl
  expiresAt := by
    change _ = some (Except.ok ((u.expiresAt.map Moment.told).getD b.expiresAt))
    rw [BillingUpdate.find?_said rfl nofun (by decide)]
    cases given : u.expiresAt with
    | none => exact columns.expiresAt
    | some t => exact congrArg some (Rule.moment_told (window t given))
  createdAt := by
    rw [Members.get, BillingUpdate.find?_unsaid rfl (by decide)]
    exact columns.createdAt
  updatedAt := by
    rw [Members.get, BillingUpdate.find?_stamp]
    change (Rule.moment (.text now.instant.columnText)).map some = _
    rw [Instant.columnText, Rule.moment_columnText clock.greenwich]
    rfl

theorem Billing.columns_update (columns : Columns row b) (window : ∀ t ∈ u.expiresAt, t.Proper)
    (clock : Moment.Clock now) : Columns (row.putAll (Query.stamped now u.columns))
      { b.apply u with updatedAt := some (Moment.ofInstant now.instant) } := by
  have written := Billing.columns_update_told columns (fun t given => (window t given).tellable) clock
  rwa [BillingUpdate.told_eq window] at written

theorem NewBilling.find?_row (s : Store) (now : Moment) (new : NewBilling) (name : String) :
    Members.find? (s.newRow now new.columns) name =
      (Members.find? (new.columns ++ [("created_at", .text now.columnText), ("updated_at", .text now.columnText)])
        name).or (Members.find? [("id", .text ("bill-" ++ toString (s.inserted + 1)))] name) := by
  unfold Store.newRow
  rw [Members.find?_putAll]
  simp [NewBilling.columns]

def NewBilling.opened (new : NewBilling) (id : String) (now : Moment) : Billing where
  id := id
  userId := new.userId
  productId := new.productId
  subscriptionId := some new.subscriptionId
  customerId := new.customerId
  status := new.status
  expiresAt := new.expiresAt
  createdAt := some now
  updatedAt := some now

theorem Billing.columns_new_told (s : Store) (window : new.expiresAt.Tellable) (clock : Moment.Clock now) :
    Columns (s.newRow now new.columns) (new.told.opened ("bill-" ++ toString (s.inserted + 1)) now) := by
  have clocked : Rule.nullable Rule.moment (.text now.columnText) = .ok (some now) := by
    change (Rule.moment (.text now.columnText)).map some = _
    rw [Rule.moment_columnText clock.here]
    rfl
  constructor
  all_goals
    try unfold Members.get
    rw [NewBilling.find?_row]
  case expiresAt => exact congrArg some (Rule.moment_told window)
  case createdAt => exact clocked
  case updatedAt => exact clocked
  all_goals rfl

theorem Billing.columns_new (s : Store) (window : new.expiresAt.Proper) (clock : Moment.Clock now) :
    Columns (s.newRow now new.columns) (new.opened ("bill-" ++ toString (s.inserted + 1)) now) := by
  have opened := Billing.columns_new_told s window.tellable clock
  rwa [NewBilling.told_eq window] at opened

theorem User.columns_move {u : User} (columns : Columns row u) (named : product ≠ "") (clock : Moment.Clock now) :
    Columns (row.putAll (Query.stamped now [("current_product_id", .text product)]))
      { u with currentProductId := some product, updatedAt := some (Moment.ofInstant now.instant) } := by
  have read (name : String) : Members.find?
      (row.putAll (Query.stamped now [("current_product_id", .text product)])) name =
        if "current_product_id" = name then some (.text product)
        else if "updated_at" = name then some (.text now.instant.columnText) else Members.find? row name := by
    rw [Members.find?_putAll (by simp [Query.stamped])]
    unfold Query.stamped
    rw [List.singleton_append, Members.find?_cons, Members.find?_cons]
    split
    · rfl
    · split <;> rfl
  have other (name : String) (apart : "current_product_id" ≠ name) (old : "updated_at" ≠ name) :
      Members.find? (row.putAll (Query.stamped now [("current_product_id", .text product)])) name =
        Members.find? row name := by
    rw [read, if_neg apart, if_neg old]
  obtain ⟨id, email, name, password, age, phone, verified, product, refresh, token, created, updated⟩ := columns
  constructor
  case currentProductId =>
    unfold Members.get
    rw [read, if_pos rfl]
    simp [Document.isTruthy, named, Document.display, Document.ofText?, Document.ofOption]
  case updatedAt =>
    unfold Members.get
    rw [read, if_neg (by decide), if_pos rfl]
    change (Rule.moment (.text now.instant.columnText)).map some = _
    rw [Instant.columnText, Rule.moment_columnText clock.greenwich]
    rfl
  all_goals
    first
    | unfold Members.get
    | unfold Row.flag
    | skip
    rw [other _ (by decide) (by decide)]
    assumption

end Writing

end SubscriptionLedger
