import SubscriptionLedger.Proofs.Running

namespace SubscriptionLedger

def Event.Noticed (e : Event) : Prop := ∃ notice, Event.ofNotice notice = .ok e

-- Moments that can be written, and no access taken away while the status stays or is active.
def Event.Consistent (e : Event) : Prop :=
  e.Proper ∧ match e with
    | .updated u => u.revokesAccess → u.status = some .pastDue ∨ u.status = some .canceled
    | _ => True

namespace Notice

variable {c : Context} {e : Event} {d d' : Document}

theorem orMisfit_eq_ok {x : Except Misfit α} : Except.orMisfit x = .ok a ↔ x = .ok a := by
  cases x <;> simp [Except.orMisfit]

theorem moment_proper (read : moment d = .ok m) : m.Proper := by
  unfold moment at read
  cases whole : d.whole with
  | error => rw [whole] at read; cases read
  | ok n =>
    rw [whole] at read
    exact Moment.proper_ofUnix read

theorem ignored_eq_ok (read : c.ignored reason = .ok e) : ∃ head, e = .ignored ⟨head, reason⟩ := by
  unfold Context.ignored at read
  obtain ⟨head, -, rfl⟩ := Checked.map_eq_ok.1 (Checked.orInvalid_eq_ok.1 read)
  exact ⟨head, rfl⟩

theorem require_eq_ok {part : NoticePart} (given : c.require part d = .ok d') : d' = d := by
  unfold Context.require Context.refuse at given
  split at given
  · cases given
  · exact (Except.ok.inj given).symm

structure TellsPayment (c : Context) (line : Document) (p : InvoicePaid) : Prop where
  first : firstElement (c.object.dig ["lines", "data"]) = .ok line
  price : linePrice line = .ok (.text p.priceId)
  period : moment (line.dig ["period", "end"]) = .ok p.periodEnd

structure TellsUpdate (c : Context) (item : Document) (u : SubscriptionUpdated) : Prop where
  first : firstElement (c.object.dig ["items", "data"]) = .ok item
  status : subscriptionStatus c (c.object.member "status") = .ok u.status
  period : ∃ ofItem, memberOf item "current_period_end" = .ok ofItem ∧
    moment (Notice.first [c.object.member "current_period_end", ofItem]) = .ok u.currentPeriodEnd
  cancellation : if (c.object.member "cancel_at").isTruthy then ∃ m, moment (c.object.member "cancel_at") = .ok m ∧ u.cancelAt = some m
    else u.cancelAt = none
  price : linePrice item = .ok (.ofText? u.priceId)
  revokes : revocation (c.object.member "status") = .ok u.revokesAccess

theorem invoicePaid_made (read : invoicePaid c = .ok e) :
    (c.object.dig ["lines", "data"]).isTruthy = false ∧ (∃ head reason, e = .ignored ⟨head, reason⟩) ∨
      ∃ line p, e = .paid p ∧ TellsPayment c line p := by
  unfold invoicePaid at read
  dsimp only at read
  split at read
  · rename_i absent
    obtain ⟨head, rfl⟩ := ignored_eq_ok read
    exact .inl ⟨by simpa using absent, _, _, rfl⟩
  · simp only [Except.bind_eq_ok, orMisfit_eq_ok] at read
    obtain ⟨line, first, _, period, _, -, _, -, _, price, _, named, _, -, _, -, _, time, made⟩ := read
    simp only [Checked.orInvalid_eq_ok, Checked.both_eq_ok, Checked.map_eq_ok] at made
    obtain ⟨_, _, ⟨_, _, ⟨_, _, ⟨_, _, ⟨head, -, rfl⟩, -, rfl⟩, -, rfl⟩, text, rfl⟩, -, rfl⟩ := made
    cases require_eq_ok period
    cases require_eq_ok named
    rw [Rule.text_eq_ok.1 (Checked.under_eq_ok.1 text)] at price
    exact .inr ⟨line, _, rfl, first, price, time⟩

theorem invoicePaymentFailed_made (read : invoicePaymentFailed c = .ok e) : ∃ failed, e = .paymentFailed failed := by
  unfold invoicePaymentFailed at read
  simp only [Except.bind_eq_ok, Checked.orInvalid_eq_ok, Checked.both_eq_ok, Checked.map_eq_ok] at read
  obtain ⟨_, -, _, -, _, _, ⟨head, -, rfl⟩, -, rfl⟩ := read
  exact ⟨_, rfl⟩

theorem subscriptionDeleted_made (read : subscriptionDeleted c = .ok e) : ∃ deleted, e = .deleted deleted := by
  unfold subscriptionDeleted at read
  simp only [Except.bind_eq_ok, Checked.orInvalid_eq_ok, Checked.both_eq_ok, Checked.map_eq_ok] at read
  obtain ⟨_, -, _, _, ⟨head, -, rfl⟩, -, rfl⟩ := read
  exact ⟨_, rfl⟩

theorem updated_made {periodEnd : Moment} {cancelAt : Option Moment} {name item word : Document}
    (read : (do
      let price ← Except.orMisfit (linePrice item)
      let revoked ← Except.orMisfit (revocation word)
      Checked.orInvalid (.eventOf .subscriptionUpdated) <|
        (c.head.map fun head id price => Event.updated ⟨head, id, status, periodEnd, cancelAt, price, revoked⟩)
          |>.both (Checked.field "external_subscription_id" Rule.text name)
          |>.both (Checked.field "external_price_id" (Rule.nullable Rule.text) price)) = .ok e) :
    ∃ u, e = .updated u ∧ u.status = status ∧ u.currentPeriodEnd = periodEnd ∧ u.cancelAt = cancelAt ∧
      linePrice item = .ok (.ofText? u.priceId) ∧ revocation word = .ok u.revokesAccess := by
  simp only [Except.bind_eq_ok, orMisfit_eq_ok, Checked.orInvalid_eq_ok, Checked.both_eq_ok, Checked.map_eq_ok] at read
  obtain ⟨price, priced, revoked, told, _, _, ⟨_, _, ⟨head, -, rfl⟩, -, rfl⟩, text, rfl⟩ := read
  rw [Rule.nullable_text_eq_ok.1 (Checked.under_eq_ok.1 text)] at priced
  exact ⟨_, rfl, rfl, rfl, rfl, priced, told⟩

theorem subscriptionUpdated_made (read : subscriptionUpdated c = .ok e) : ∃ item u, e = .updated u ∧ TellsUpdate c item u := by
  unfold subscriptionUpdated at read
  dsimp only at read
  split at read
  · cases read
  · simp only [Except.bind_eq_ok, orMisfit_eq_ok] at read
    obtain ⟨item, first, status, known, ofItem, inner, _, given, id, -, periodEnd, time, read⟩ := read
    cases require_eq_ok given
    split at read
    · rename_i set
      obtain ⟨cancelAt, cut, read⟩ := Except.bind_eq_ok.1 read
      obtain ⟨m, stamp, rfl⟩ := Except.map_eq_ok.1 cut
      obtain ⟨u, rfl, rfl, rfl, cancel, price, revokes⟩ := updated_made read
      refine ⟨item, u, rfl, first, known, ⟨_, inner, time⟩, ?_, price, revokes⟩
      rw [if_pos set]
      exact ⟨m, orMisfit_eq_ok.1 stamp, cancel⟩
    · rename_i unset
      obtain ⟨u, rfl, rfl, rfl, cancel, price, revokes⟩ := updated_made read
      refine ⟨item, u, rfl, first, known, ⟨_, inner, time⟩, ?_, price, revokes⟩
      rw [if_neg unset]
      exact cancel

theorem subscriptionStatus_of_revocation (known : subscriptionStatus c word = .ok status)
    (revoked : revocation word = .ok true) : status = some .pastDue ∨ status = some .canceled := by
  unfold revocation at revoked
  split at revoked
  · cases revoked
  · cases revoked
  · unfold revokes at revoked
    simp only [Except.ok.injEq, Bool.or_eq_true, decide_eq_true_eq] at revoked
    rcases revoked with (rfl | rfl) | rfl
    · exact .inr (Except.ok.inj known).symm
    · exact .inl (Except.ok.inj known).symm
    · exact .inr (Except.ok.inj known).symm

theorem TellsUpdate.consistent {u : SubscriptionUpdated} (updates : TellsUpdate c item u) : (Event.updated u).Consistent := by
  obtain ⟨-, known, ⟨_, -, window⟩, cancellation, -, told⟩ := updates
  constructor
  · change Moment.Proper (u.cancelAt.getD u.currentPeriodEnd)
    split at cancellation
    · obtain ⟨m, stamp, cancel⟩ := cancellation
      rw [cancel]
      exact moment_proper stamp
    · rw [cancellation]
      exact moment_proper window
  · intro revoked
    rw [revoked] at told
    exact subscriptionStatus_of_revocation known told

inductive Carries (c : Context) : Event → Prop where
  | paid (pays : TellsPayment c line p) : Carries c (.paid p)
  | paymentFailed (e : InvoicePaymentFailed) : Carries c (.paymentFailed e)
  | updated (updates : TellsUpdate c item u) : Carries c (.updated u)
  | deleted (e : SubscriptionDeleted) : Carries c (.deleted e)
  | ignored (e : Ignored) : Carries c (.ignored e)

theorem reader_carries (known : reader? type = some reader) (read : reader c = .ok e) : Carries c e := by
  unfold reader? at known
  split at known <;> cases known
  · rcases invoicePaid_made read with ⟨-, _, _, rfl⟩ | ⟨_, _, rfl, pays⟩
    · exact .ignored _
    · exact .paid pays
  · obtain ⟨_, rfl⟩ := invoicePaymentFailed_made read
    exact .paymentFailed _
  · obtain ⟨_, _, rfl, updates⟩ := subscriptionUpdated_made read
    exact .updated updates
  · obtain ⟨_, rfl⟩ := subscriptionDeleted_made read
    exact .deleted _

theorem ofNotice_carries {members : Members} (read : Event.ofNotice (.object members) = .ok e) : Carries (context members) e := by
  unfold Event.ofNotice at read
  dsimp only at read
  split at read
  · cases read
  · split at read
    · obtain ⟨head, rfl⟩ := ignored_eq_ok read
      exact .ignored _
    · rename_i known
      split at read
      · exact reader_carries known read
      · cases read

end Notice

theorem Event.Noticed.consistent {e : Event} (noticed : e.Noticed) : e.Consistent := by
  obtain ⟨notice, read⟩ := noticed
  cases notice with
  | object members =>
    cases Notice.ofNotice_carries read with
    | paid pays => exact ⟨Notice.moment_proper pays.period, trivial⟩
    | updated updates => exact updates.consistent
    | paymentFailed | deleted | ignored => exact ⟨trivial, trivial⟩
  | _ => cases read

end SubscriptionLedger
