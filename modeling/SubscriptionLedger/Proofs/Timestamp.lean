import SubscriptionLedger.Proofs.Footprint
import SubscriptionLedger.Proofs.Straying
import SubscriptionLedger.Proofs.Survival
import SubscriptionLedger.Proofs.Timeline

namespace SubscriptionLedger

def Event.paidUntil? : Event → Option Moment
  | .paid e => some e.periodEnd
  | .updated e => some e.effectiveExpiry
  | _ => none

namespace Notice

-- Where news tell the end of what is paid for: the line of an invoice; for a subscription its cancellation, if one is set,
-- and otherwise its own period or else that of its item.
inductive Sends (o : Document) : EventKind → Document → Prop where
  | period (first : firstElement (o.dig ["lines", "data"]) = .ok line) : Sends o .invoicePaid (line.dig ["period", "end"])
  | cancellation (set : (o.member "cancel_at").isTruthy = true) : Sends o .subscriptionUpdated (o.member "cancel_at")
  | current (unset : (o.member "cancel_at").isTruthy = false) (own : (o.member "current_period_end").isTruthy = true) :
      Sends o .subscriptionUpdated (o.member "current_period_end")
  | item (unset : (o.member "cancel_at").isTruthy = false) (none : (o.member "current_period_end").isTruthy = false)
      (first : firstElement (o.dig ["items", "data"]) = .ok item) (counts : (item.dig ["current_period_end"]).isTruthy = true) :
      Sends o .subscriptionUpdated (item.dig ["current_period_end"])

variable {c : Context} {d d' : Document} {e : Event} {m m' : Moment} {n n' : Int}

theorem moment_eq_ok : moment d = .ok m ↔
    ∃ n, d.whole = .ok n ∧ Moment.firstSecond ≤ n ∧ n ≤ Moment.lastSecond ∧ m = ⟨n * perSecond, some 0⟩ := by
  unfold moment
  cases d.whole with
  | error => simp [Except.bind]
  | ok n =>
    change Moment.ofUnix n = .ok m ↔ _
    by_cases within : Moment.firstSecond ≤ n ∧ n ≤ Moment.lastSecond
    · have read : Moment.ofUnix n = _ := moment_int within.1 within.2
      rw [read]
      simp [within, eq_comm]
    · have beyond : n < Moment.firstSecond ∨ Moment.lastSecond < n := by omega
      obtain ⟨flaw, failed⟩ := ofUnix_error_iff.2 beyond
      rw [failed]
      simp
      omega

-- What a clock in Greenwich shows after so many seconds is what the moment shows, if it is in the years 1 to 9999; otherwise
-- there is no moment.
theorem moment_shows (whole : d.whole = .ok n) : ∃ r, Reading.At n r ∧ (∀ r', Reading.At n r' → r' = r) ∧
    if 1 ≤ r.date.year ∧ r.date.year ≤ 9999 then
      ∃ m, moment d = .ok m ∧ m.reading = r ∧ m.micros = 0 ∧ m.offset = some 0 ∧ m.instant = ⟨n * perSecond⟩
    else ∃ flaw, moment d = .error flaw := by
  refine ⟨Reading.ofSeconds n, Reading.at_ofSeconds n, fun r' shown => Reading.at_iff.1 shown, ?_⟩
  split
  · rename_i within
    obtain ⟨low, high⟩ := (Moment.year_ofSeconds_iff n).1 within
    exact ⟨_, moment_eq_ok.2 ⟨n, whole, low, high, rfl⟩, Moment.reading_seconds n _, Moment.micros_seconds n _, rfl,
      congrArg Instant.mk (sub_zero _)⟩
  · rename_i beyond
    refine moment_error_iff.2 fun n' same => ?_
    rw [whole] at same
    cases same
    have outside := mt (Moment.year_ofSeconds_iff n).2 beyond
    omega

theorem moment_lt_iff (first : moment d = .ok m) (second : moment d' = .ok m') (whole : d.whole = .ok n) (whole' : d'.whole = .ok n') :
    n < n' ↔ m.instant.micros < m'.instant.micros := by
  obtain ⟨k, same, -, -, rfl⟩ := moment_eq_ok.1 first
  obtain ⟨k', same', -, -, rfl⟩ := moment_eq_ok.1 second
  cases Except.ok.inj (whole.symm.trans same)
  cases Except.ok.inj (whole'.symm.trans same')
  change _ ↔ n * perSecond - 0 < n' * perSecond - 0
  unfold perSecond
  omega

theorem moment_inj_iff (first : moment d = .ok m) (second : moment d' = .ok m') (whole : d.whole = .ok n) (whole' : d'.whole = .ok n') :
    n = n' ↔ m = m' := by
  constructor
  · rintro rfl
    unfold moment at first second
    rw [whole] at first
    rw [whole'] at second
    exact Except.ok.inj (first.symm.trans second)
  · rintro rfl
    have later := moment_lt_iff first second whole whole'
    have earlier := moment_lt_iff second first whole' whole
    omega

theorem TellsPayment.sends {p : InvoicePaid} (pays : TellsPayment c line p) :
    ∃ d, Sends c.object .invoicePaid d ∧ moment d = .ok p.periodEnd :=
  ⟨_, .period pays.first, pays.period⟩

theorem TellsUpdate.sends {u : SubscriptionUpdated} (updates : TellsUpdate c item u) :
    ∃ d, Sends c.object .subscriptionUpdated d ∧ moment d = .ok u.effectiveExpiry := by
  obtain ⟨leads, -, ⟨ofItem, inner, window⟩, cancellation, -, -⟩ := updates
  unfold SubscriptionUpdated.effectiveExpiry
  split at cancellation
  · rename_i set
    obtain ⟨m, stamp, cancel⟩ := cancellation
    rw [cancel]
    exact ⟨_, .cancellation set, stamp⟩
  · rename_i unset
    rw [Bool.not_eq_true] at unset
    rw [cancellation]
    cases own : (c.object.member "current_period_end").isTruthy with
    | true =>
      rw [first_of_isTruthy own] at window
      exact ⟨_, .current unset own, window⟩
    | false =>
      rw [first_of_idle own] at window
      rw [memberOf_eq] at inner
      split at inner
      · cases inner
        cases counts : (item.dig ["current_period_end"]).isTruthy with
        | true =>
          rw [first_of_isTruthy counts] at window
          exact ⟨_, .item unset own leads counts, window⟩
        | false =>
          rw [first_of_idle counts] at window
          cases window
      · cases inner

end Notice

theorem Event.ofNotice_sends {notice : Members} {e : Event} {m : Moment} (read : ofNotice (.object notice) = .ok e)
    (told : e.paidUntil? = some m) :
    ∃ d, Notice.Sends (Notice.context notice).object e.kind d ∧ Notice.moment d = .ok m := by
  cases Notice.ofNotice_carries read with
  | paid pays =>
    cases told
    exact pays.sends
  | updated updates =>
    cases told
    exact updates.sends
  | paymentFailed | deleted | ignored => cases told

section Rows

variable {s : Store} {L : Ledger} {now : Moment} {x : Effect} {b : Billing} {e : Event} {m : Moment} {faults : Nat → Option Fault}
  {d : Decision} {run : Except Fault Reconciliation × Ledger}

theorem Ledger.Applies.expiresAt (applies : L.Applies now e x) (told : e.paidUntil? = some m) : x.new.expiresAt = m := by
  cases applies <;> cases told <;> rfl

theorem Decision.Makes.written (makes : d.Makes now L kind x) : L.written now d = L ∧ (∃ f, L.enact now d = (.error f, L)) ∨
    x.new ∈ (L.written now d).billings ∧ (L.enact now d).2.billings = (L.written now d).billings := by
  have placed : ∀ (M : Ledger) (b : Billing) (t : Sequel), (M.finish b t).2.billings = M.billings := by
    intro M b t
    rw [M.finish_placed b t]
    cases t.target <;> rfl
  unfold Ledger.written Ledger.enact
  cases makes with
  | amend member window covers places =>
    dsimp only
    split
    · exact .inl ⟨rfl, _, rfl⟩
    · exact .inr ⟨List.mem_map.2 ⟨_, member, if_pos rfl⟩, placed _ _ _⟩
  | create window places =>
    dsimp only
    split
    · exact .inl ⟨rfl, _, rfl⟩
    · exact .inr ⟨List.mem_append_right _ (List.mem_singleton.2 rfl), placed _ _ _⟩

theorem Decision.Makes.leaves (makes : d.Makes now L kind x) (comes : L.Comes now faults d run) :
    run.2 = L ∧ (∃ f, run.1 = .error f) ∨ x.new ∈ run.2.billings := by
  rcases comes with rfl | ⟨-, f, rfl | rfl⟩
  · rcases makes.written with ⟨-, f, refused⟩ | ⟨there, same⟩
    · exact .inl ⟨by rw [refused], f, by rw [refused]⟩
    · exact .inr (same ▸ there)
  · exact .inl ⟨rfl, f, rfl⟩
  · rcases makes.written with ⟨same, -⟩ | ⟨there, -⟩
    · exact .inl ⟨same, f, rfl⟩
    · exact .inr there

theorem Ledger.Comes.rests {outcome : Except Fault Reconciliation} (comes : L.Comes now faults (.rest outcome) run) :
    run.2 = L ∧ (run.1 = outcome ∨ ∃ f, run.1 = .error f) := by
  rcases comes with rfl | ⟨-, f, rfl | rfl⟩
  · exact ⟨rfl, .inl rfl⟩
  · exact ⟨rfl, .inr ⟨f, rfl⟩⟩
  · exact ⟨rfl, .inr ⟨f, rfl⟩⟩

theorem Ledger.Becomes.leaves (becomes : L.Becomes now e d) (comes : L.Comes now faults d run) (told : e.paidUntil? = some m) :
    run.2 = L ∧ (∀ r, run.1 = .ok r → r.outcome ≠ .applied) ∨
      ∃ x, L.Applies now e x ∧ x.new.expiresAt = m ∧ x.new ∈ run.2.billings := by
  cases becomes with
  | fails =>
    obtain ⟨same, failed | ⟨f, failed⟩⟩ := comes.rests
    all_goals exact .inl ⟨same, by rw [failed]; rintro r ⟨⟩⟩
  | rests quiet =>
    obtain ⟨same, rested | ⟨f, failed⟩⟩ := comes.rests
    · exact .inl ⟨same, by rw [rested]; rintro r ⟨⟩; exact quiet.unapplied⟩
    · exact .inl ⟨same, by rw [failed]; rintro r ⟨⟩⟩
  | makes applies _ _ makes =>
    rcases makes.leaves comes with ⟨same, f, failed⟩ | there
    · exact .inl ⟨same, by rw [failed]; rintro r ⟨⟩⟩
    · exact .inr ⟨_, applies, applies.expiresAt told, there⟩

theorem Store.deliver_leaves {w : Surroundings} (shows_ : s.Shows L) (sound : L.Sound) (clock : w.now.Clock) (faulty : w.Faulty faults)
    (proper : e.Proper) (told : e.paidUntil? = some m) :
    (s.deliver w e).2.Shows L ∧ (∀ r, (s.deliver w e).1 = .ok r → r.outcome ≠ .applied) ∨
      ∃ x kept, L.Applies w.now e x ∧ kept.timeless = x.new ∧ kept.expiresAt = m ∧ (s.deliver w e).2.Finds kept := by
  obtain ⟨run, comes, result, after, whole⟩ := deliver_comes shows_ sound clock faulty proper
  rw [result]
  rcases (Ledger.becomes_decision sound clock proper).leaves comes told with ⟨same, unapplied⟩ | ⟨x, applies, ends, there⟩
  · exact .inl ⟨same ▸ after, unapplied⟩
  · obtain ⟨kept, same, finds⟩ := after.finds whole there
    have end_ : kept.timeless.expiresAt = m := by rw [same, ends]
    exact .inr ⟨x, kept, applies, same, end_, finds⟩

end Rows

-- Timestamps are exact: what becomes a moment, in which order, and what is found of it in the store.
theorem Store.timestamps_exact :
    (∀ d n, d.whole = .ok n → ∃ r, Reading.At n r ∧ (∀ r', Reading.At n r' → r' = r) ∧
      if 1 ≤ r.date.year ∧ r.date.year ≤ 9999 then
        ∃ m, Notice.moment d = .ok m ∧ m.reading = r ∧ m.micros = 0 ∧ m.offset = some 0 ∧ m.instant = ⟨n * perSecond⟩
      else ∃ flaw, Notice.moment d = .error flaw) ∧
    (∀ d d' n n' m m', d.whole = .ok n → d'.whole = .ok n' → Notice.moment d = .ok m → Notice.moment d' = .ok m' →
      (n < n' ↔ m.instant.micros < m'.instant.micros) ∧ (n = n' ↔ m = m')) ∧
    ∀ (s : Store) (L : Ledger) (w : Surroundings) faults notice e m, s.Shows L → L.Sound → w.now.Clock → w.Faulty faults →
      Event.ofNotice (.object notice) = .ok e → e.paidUntil? = some m →
      (∃ d n, Notice.Sends (Notice.context notice).object e.kind d ∧ d.whole = .ok n ∧ Notice.moment d = .ok m ∧
        m.instant = ⟨n * perSecond⟩) ∧
      ((s.deliver w e).2.Shows L ∧ (∀ r, (s.deliver w e).1 = .ok r → r.outcome ≠ .applied) ∨
        ∃ x kept, L.Applies w.now e x ∧ kept.timeless = x.new ∧ kept.expiresAt = m ∧ (s.deliver w e).2.Finds kept) := by
  refine ⟨fun d n whole => Notice.moment_shows whole, fun d d' n n' m m' whole whole' first second => ?_, ?_⟩
  · exact ⟨Notice.moment_lt_iff first second whole whole', Notice.moment_inj_iff first second whole whole'⟩
  · intro s L w faults notice e m shows_ sound clock faulty read told
    obtain ⟨d, sends, stamp⟩ := Event.ofNotice_sends read told
    obtain ⟨n, whole, -, -, same⟩ := Notice.moment_eq_ok.1 stamp
    refine ⟨⟨d, n, sends, whole, stamp, ?_⟩, ?_⟩
    · rw [same]
      exact congrArg Instant.mk (sub_zero _)
    · exact s.deliver_leaves shows_ sound clock faulty (Event.Noticed.consistent ⟨_, read⟩).1 told

namespace Shop

def leapDay : Moment := ⟨1709251199000000, some 0⟩

def leapNotice : Members :=
  [("type", "customer.subscription.updated"), ("data", .object [("object", .object [("id", "sub"), ("cancel_at", .int 1709251199),
    ("current_period_end", .int 1893456000), ("items", .object [("data", .list [.object []])])])])]

def leapChange : Event := .updated { change none none with cancelAt := some leapDay }

theorem canceled_on_leap_day :
    (∃ m, Notice.moment (.int 1709251199) = .ok m ∧ m.reading = ⟨⟨2024, 2, 29⟩, 23, 59, 59⟩ ∧ Reading.At 1709251199 m.reading) ∧
    leapDay.instant.micros < (⟨1893456000000000, some 0⟩ : Moment).instant.micros ∧
    Event.ofNotice (.object leapNotice) = .ok leapChange ∧
    ((ledger .active "pro" "pro").store.deliver quiet leapChange).1 = .ok ⟨.subscriptionUpdated, .applied, some "bill-1", none⟩ ∧
    ∃ x kept, (ledger .active "pro" "pro").Applies quiet.now leapChange x ∧ kept.timeless = x.new ∧ kept.expiresAt = leapDay ∧
      ((ledger .active "pro" "pro").store.deliver quiet leapChange).2.Finds kept := by
  obtain ⟨shows_moment, orders, leaves⟩ := Store.timestamps_exact
  obtain ⟨r, shown, -, made⟩ := shows_moment (.int 1709251199) 1709251199 rfl
  have date : r = ⟨⟨2024, 2, 29⟩, 23, 59, 59⟩ := (Reading.at_iff.1 shown).trans (by decide)
  rw [if_pos (by rw [date]; decide)] at made
  obtain ⟨m, stamp, reads, -⟩ := made
  have standing := shows_ .active "pro" "pro" (by decide)
  have calm : quiet.Calm := Surroundings.calm_quiet (by decide)
  have read : Event.ofNotice (.object leapNotice) = .ok leapChange := by decide +kernel
  have comes : ((ledger .active "pro" "pro").enact quiet.now ((ledger .active "pro" "pro").decision quiet.now leapChange)).1 =
      .ok ⟨.subscriptionUpdated, .applied, some "bill-1", none⟩ := by
    decide +kernel
  have returns := (Store.deliver_calm standing (sound _ _ _) calm (Event.Noticed.consistent ⟨_, read⟩).1).1.trans comes
  refine ⟨⟨m, stamp, reads.trans date, reads.symm ▸ shown⟩, ?_, read, returns, ?_⟩
  · exact (orders (.int 1709251199) (.int 1893456000) _ _ leapDay _ rfl rfl (by decide +kernel) (by decide +kernel)).1.1 (by decide)
  · obtain ⟨-, ⟨-, unapplied⟩ | left⟩ := leaves _ _ quiet (fun _ => none) leapNotice leapChange leapDay standing (sound _ _ _)
      calm.clock (fun _ => rfl) read rfl
    · exact absurd rfl (unapplied _ returns)
    · exact left

end Shop
end SubscriptionLedger
