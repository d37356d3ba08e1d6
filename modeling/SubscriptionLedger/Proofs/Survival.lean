import SubscriptionLedger.Proofs.Store

namespace SubscriptionLedger

def Row.Holds (row : Row) (column s : String) : Prop := Members.find? row column = some (.text s)

instance (row : Row) (column s : String) : Decidable (row.Holds column s) := inferInstanceAs (Decidable (_ = _))

def Billing.Taken (b : Billing) (rows : List Row) : Prop :=
  ∃ row ∈ rows, row.Holds "user_id" b.userId ∨ ∃ s ∈ b.subscriptionId, row.Holds "external_subscription_id" s

instance (b : Billing) (rows : List Row) : Decidable (b.Taken rows) :=
  inferInstanceAs (Decidable (∃ row ∈ rows, _ ∨ ∃ s ∈ b.subscriptionId, _))

def Billing.changed (b : Billing) (u : BillingUpdate) (now : Moment) : Billing :=
  { b.apply u with updatedAt := some (Moment.ofInstant now.instant) }

section Rows

variable {row other : Row} {column s : String} {b : Billing}

theorem Row.get_eq_text : Members.get row column = .text s ↔ row.Holds column s := by
  unfold Members.get Holds
  cases Members.find? row column <;> simp

theorem Row.matches_iff : row.matches [(column, .text s)] ↔ row.Holds column s := by
  unfold Row.matches Holds
  cases found : Members.find? row column with
  | none => simp [found]
  | some d => cases d <;> simp [found, Document.same, Document.sameNumber?]

theorem sameSlot_iff (user : row.Holds "user_id" b.userId)
    (subscription : Members.get row "external_subscription_id" = .ofText? b.subscriptionId) :
    Store.sameSlot row other = true ↔
      other.Holds "user_id" b.userId ∨ ∃ s ∈ b.subscriptionId, other.Holds "external_subscription_id" s := by
  unfold Store.sameSlot
  rw [Row.get_eq_text.2 user, subscription, Document.same_text, Bool.or_eq_true, decide_eq_true_iff, eq_comm, Row.get_eq_text]
  refine or_congr_right ?_
  cases b.subscriptionId with
  | none => simp [Document.ofText?, Document.ofOption]
  | some s =>
    simp only [Document.ofText?, Document.ofOption, Document.text_bne_null, Document.same_text, Bool.true_and, decide_eq_true_iff]
    rw [eq_comm, Row.get_eq_text]
    simp

theorem clashes_iff (rows : List Row) (user : row.Holds "user_id" b.userId)
    (subscription : Members.get row "external_subscription_id" = .ofText? b.subscriptionId) :
    Store.clashes .billings rows row = true ↔ b.Taken rows := by
  unfold Store.clashes Billing.Taken
  simp [sameSlot_iff user subscription]

end Rows

namespace Store

variable {s : Store} {L : Ledger} {now : Moment} {new : NewBilling} {u : BillingUpdate} {b : Billing} {row : Row} {before after : List Row}
  {column value id : String}

def Finds (s : Store) (b : Billing) : Prop :=
  ∀ now, s.ask now (.billingByUser (.text b.userId)) = (.ok (some b), s) ∧
    ∀ subscription ∈ b.subscriptionId, s.ask now (.billingBySubscription (.text subscription)) = (.ok (some b), s)

theorem find?_held (rows : s.billings = before ++ row :: after) (first : ∀ r ∈ before, ¬ r.Holds column value)
    (held : row.Holds column value) : s.billings.find? (·.matches [(column, .text value)]) = some row := by
  rw [rows, List.find?_append, List.find?_eq_none.2 fun r there => (mt Row.matches_iff.1 (first r there)), Option.none_or]
  exact List.find?_cons_of_pos (Row.matches_iff.2 held)

-- A record is found if no row before its own has its user or its subscription.
theorem finds_of_untaken (rows : s.billings = before ++ row :: after) (user : row.Holds "user_id" b.userId)
    (read : Billing.ofRow row = .ok b) (untaken : ¬ b.Taken before) : s.Finds b := by
  have full : ∃ c cs, row = c :: cs := by
    cases row with
    | nil => cases user
    | cons c cs => exact ⟨c, cs, rfl⟩
  obtain ⟨c, cs, rfl⟩ := full
  intro now
  constructor
  · rw [ask_lookup s rfl]
    change (Query.answer _ (.ok (s.billings.find? _).toList), s) = _
    rw [find?_held rows (fun r there held => untaken ⟨r, there, .inl held⟩) user]
    change ((Billing.ofRow _).map some, s) = _
    rw [read]
    rfl
  · intro subscription carried
    have held : Row.Holds (c :: cs) "external_subscription_id" subscription := by
      rw [← Row.get_eq_text, (Billing.ofRow_eq_ok.1 read).subscriptionId, Option.mem_def.1 carried]
      rfl
    rw [ask_lookup s rfl]
    change (Query.answer _ (.ok (s.billings.find? _).toList), s) = _
    rw [find?_held rows (fun r there held => untaken ⟨r, there, .inr ⟨_, carried, held⟩⟩) held]
    change ((Billing.ofRow _).map some, s) = _
    rw [read]
    rfl

theorem Shows.finds (shows_ : s.Shows L) (sound : L.Sound) (member : b ∈ L.billings) : ∃ kept, kept.timeless = b ∧ s.Finds kept := by
  have agree (row : Row) (c : Billing) (stands : c.Stands row) := Row.matches_text stands.userId (.text b.userId)
  have known : L.billingOf? (.text b.userId) = some b := sound.billingOf?_eq_some.2 ⟨member, rfl⟩
  rcases related_find? shows_.billings agree with
    ⟨-, none⟩ | ⟨row, c, before, after, before', after', rows, records, -, found, stands, -, -, front, -, first, first'⟩
  · cases none.symm.trans known
  · cases Option.some.inj (found.symm.trans known)
    obtain ⟨kept, read, rfl⟩ := Except.map_eq_ok.1 stands.read
    refine ⟨kept, rfl, finds_of_untaken rows stands.userId read ?_⟩
    rintro ⟨r, there, user | ⟨subscription, carries, held⟩⟩
    · exact first r there (Row.matches_iff.2 user)
    · refine related_none front (fun row c stands => stands.matches_subscription subscription) (fun c earlier carried => ?_) r there
        (Row.matches_iff.2 held)
      -- an earlier record of the subscription would be the record itself
      have standing : c ∈ L.billings := records ▸ List.mem_append_left _ earlier
      obtain ⟨other, carries', same⟩ := (Option.any_eq_true _ _).1 carried
      cases of_decide_eq_true same
      cases (sound.carrier?_eq_some.2 ⟨standing, carries'⟩).symm.trans (sound.carrier?_eq_some.2 ⟨member, carries⟩)
      exact first' _ earlier (by simp)

def opened (s : Store) (now : Moment) (new : NewBilling) : Billing := new.opened ("bill-" ++ toString (s.inserted + 1)) now

structure Creates (s : Store) (now : Moment) (new : NewBilling) (b : Billing) : Prop where
  refused : b.Taken s.billings → s.ask now (.createBilling new) = (.error (.duplicateBilling new.userId), s)
  created : ¬ b.Taken s.billings → ∃ row s', s.ask now (.createBilling new) = (.ok b, s') ∧ Billing.ofRow row = .ok b ∧
    s' = { s with billings := s.billings ++ [row], inserted := s.inserted + 1 } ∧ s'.Finds b

structure Updates (s : Store) (now : Moment) (id : Reference) (u : BillingUpdate) (before after : List Row) (b : Billing) : Prop where
  refused : b.Taken (before ++ after) → s.ask now (.updateBilling id u) = (.error violation, s)
  updated : ¬ b.Taken (before ++ after) → ∃ row s', s.ask now (.updateBilling id u) = (.ok b, s') ∧ Billing.ofRow row = .ok b ∧
    s' = { s with billings := before ++ row :: after } ∧ s'.Finds b

theorem creates (clock : Moment.Clock now) (window : new.expiresAt.Tellable) : s.Creates now new (s.opened now new.told) := by
  have columns := Billing.columns_new_told s window clock
  have user : (s.newRow now new.columns).Holds "user_id" new.userId := by
    unfold Row.Holds
    rw [NewBilling.find?_row]
    rfl
  have clash : clashes .billings s.billings (s.newRow now new.columns) = true ↔ (s.opened now new.told).Taken s.billings :=
    clashes_iff _ user columns.subscriptionId
  have read : Billing.ofRow (s.newRow now new.columns) = .ok (s.opened now new.told) := Billing.ofRow_eq_ok.2 columns
  constructor
  · intro taken
    unfold ask
    dsimp only [Query.call, perform]
    rw [insert_taken s (clash.2 taken)]
    rfl
  · intro free
    refine ⟨s.newRow now new.columns, _, ?_, read, rfl, finds_of_untaken rfl user read free⟩
    unfold ask
    dsimp only [Query.call, perform]
    rw [insert_free s (Bool.eq_false_iff.2 (mt clash.1 free))]
    exact congrArg (·, _) read

theorem updates {id : String} (clock : Moment.Clock now) (window : ∀ t ∈ u.expiresAt, t.Tellable)
    (rows : s.billings = before ++ row :: after) (named : row.Holds "id" id) (once : ∀ r ∈ before ++ after, ¬ r.Holds "id" id)
    (user : row.Holds "user_id" b.userId) (read : Billing.ofRow row = .ok b) :
    s.Updates now (.text id) u before after (b.changed u.told now) := by
  have columns := Billing.columns_update_told (Billing.ofRow_eq_ok.1 read) window clock
  have user' : Row.Holds (row.putAll (Query.stamped now u.columns)) "user_id" b.userId := by
    unfold Row.Holds
    rw [BillingUpdate.find?_unsaid rfl (by decide)]
    exact user
  have read' := Billing.ofRow_eq_ok.2 columns
  obtain ⟨first, last⟩ := List.forall_mem_append.1 once
  have asked := update_one rows (fun r there => mt Row.matches_iff.1 (first r there)) (Row.matches_iff.2 named)
    (fun r there => mt Row.matches_iff.1 (last r there)) now u
  have clash : clashes .billings (before ++ after) _ = true ↔ (b.changed u.told now).Taken (before ++ after) :=
    clashes_iff _ user' columns.subscriptionId
  constructor
  · intro taken
    rw [if_pos (clash.2 taken)] at asked
    exact asked
  · intro free
    rw [if_neg (mt clash.1 free)] at asked
    refine ⟨_, _, asked.trans (congrArg (·, _) read'), read', rfl, finds_of_untaken rfl user' read' ?_⟩
    rintro ⟨r, there, holds⟩
    exact free ⟨r, List.mem_append_left _ there, holds⟩

-- Records survive the store, but for what an offset has beyond whole minutes.
theorem records_survive (s : Store) (clock : Moment.Clock now) :
    (∀ new : NewBilling, new.expiresAt.Tellable → s.Creates now new (s.opened now new.told)) ∧
    (∀ before row after id b u, s.billings = before ++ row :: after → row.Holds "id" id →
      (∀ r ∈ before ++ after, ¬ r.Holds "id" id) → row.Holds "user_id" b.userId → Billing.ofRow row = .ok b →
      (∀ t ∈ u.expiresAt, t.Tellable) → s.Updates now (.text id) u before after (b.changed u.told now)) ∧
    (∀ id u, (∀ row ∈ s.billings, ¬ row.matches [("id", id)]) → s.ask now (.updateBilling id u) = (.error (.noBilling id), s)) ∧
    ∀ t : Moment, (t.told.instant = t.instant ↔ ∀ offset ∈ t.offset, offset % perMinute = 0) ∧
      ((∀ offset ∈ t.offset, offset % perMinute = 0) → t.told = t) := by
  refine ⟨fun new window => creates clock window, ?_, fun id u others => update_none others u, fun t => ?_⟩
  · intro before row after id b u rows named once user read window
    exact updates clock window rows named once user read
  · exact ⟨Moment.instant_told, Moment.told_eq_iff.2⟩

end Store

namespace Shop

def greenwichNoon : Moment := ⟨1718452800000000, some 0⟩

def annsRow : Row :=
  [("id", "b1"), ("user_id", "ann"), ("product_id", "pro"), ("external_subscription_id", "sub"), ("status", "active"),
    ("expires_at", "2024-07-15T00:00:00+02:00")]

def annsRecord : Billing where
  id := "b1"
  userId := "ann"
  productId := "pro"
  subscriptionId := some "sub"
  customerId := none
  status := .active
  expiresAt := ⟨1721001600000000, some 7200000000⟩
  createdAt := none
  updatedAt := none

def annsStore : Store := { users := [], products := [], billings := [annsRow] }

def bobs : NewBilling := ⟨"bob", "pro", "sub2", some "cus", .pastDue, ⟨1721046600000500, some 7200000000⟩⟩

def extension : BillingUpdate := { customerId := some "cus1", expiresAt := some ⟨1723593600000000, none⟩ }

theorem bob_joins_and_ann_extends : Moment.Clock greenwichNoon ∧
    (∃ row s', annsStore.ask greenwichNoon (.createBilling bobs) = (.ok (annsStore.opened greenwichNoon bobs.told), s') ∧
      s'.billings = [annsRow, row] ∧ s'.Finds (annsStore.opened greenwichNoon bobs.told)) ∧
    ∃ row s', annsStore.ask greenwichNoon (.updateBilling "b1" extension) = (.ok (annsRecord.changed extension.told greenwichNoon), s') ∧
      s'.billings = [row] ∧ s'.Finds (annsRecord.changed extension.told greenwichNoon) := by
  have clock : Moment.Clock greenwichNoon := by decide
  have read : Billing.ofRow annsRow = .ok annsRecord := by decide +kernel
  obtain ⟨creates, updates, -⟩ := Store.records_survive annsStore clock
  obtain ⟨row, s', asked, -, rfl, finds⟩ := (creates bobs (Moment.Proper.tellable (by decide))).created (by decide)
  obtain ⟨row', s'', asked', -, rfl, finds'⟩ := (updates [] annsRow [] "b1" annsRecord extension rfl rfl (List.forall_mem_nil _)
    rfl read fun t given => by cases given; exact Moment.Proper.tellable (by decide)).updated (by decide)
  exact ⟨clock, ⟨row, _, asked, rfl, finds⟩, row', _, asked', rfl, finds'⟩

-- The subscription ends at two o'clock on a clock that is two hours and half a minute ahead of Greenwich.
def halfMinuteAhead : BillingUpdate := { status := some .canceled, expiresAt := some ⟨1718460000000000, some 7230000000⟩ }

theorem half_minute_lost : ∃ b s', annsStore.ask greenwichNoon (.updateBilling "b1" halfMinuteAhead) = (.ok b, s') ∧
    (s'.ask greenwichNoon (.billingByUser "ann")).1 = .ok (some b) ∧ b.expiresAt = ⟨1718460000000000, some 7200000000⟩ ∧
    ∀ t ∈ halfMinuteAhead.expiresAt, b.expiresAt.instant ≠ t.instant :=
  ⟨{ annsRecord with status := .canceled, expiresAt := ⟨1718460000000000, some 7200000000⟩, updatedAt := some greenwichNoon }, _, rfl, rfl,
    rfl, by decide⟩

end Shop
end SubscriptionLedger
