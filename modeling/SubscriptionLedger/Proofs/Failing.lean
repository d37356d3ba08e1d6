import SubscriptionLedger.Proofs.Redelivery

namespace SubscriptionLedger

def Program.refusals (w : Surroundings) : Program α → Journal → List (Query × Fault)
  | done _, _ | fail _, _ => []
  | ask q next, j =>
    let (reply, j') := j.ask w q
    (match reply with | .ok _ => [] | .error f => [(q, f)]) ++ refusals w (next reply) j'
  | pay r next, j => refusals w (next (w.provider r)) { j with payments := j.payments ++ [r] }
  | acquire _ next, j => refusals w (next (.ok ())) j
  | release _ next, j => refusals w next j

def Store.refusals (s : Store) (w : Surroundings) (e : Event) : List (Query × Fault) :=
  (reconcile w.now e).refusals w { store := s }

def Query.Moves : Query → Prop
  | .assignProduct _ _ => True
  | _ => False

theorem Query.Reads.not_moves {q : Query} (reads : q.Reads) : ¬ q.Moves := by
  cases q with
  | assignProduct => exact reads.elim
  | _ => exact fun moves => moves

structure Ledger.Keyed (L : Ledger) : Prop where
  ids : L.billings.Pairwise fun a b => a.id ≠ b.id
  users : L.accounts.Pairwise fun a b => a.user.id ≠ b.user.id
  named : ∀ row ∈ L.catalog, ∀ p, Product.ofRow row = .ok p → p.id ≠ ""

structure Store.Rewrites (s s' : Store) (b : Billing) : Prop where
  users : s'.users = s.users
  products : s'.products = s.products
  billings : ∃ before old row after, s.billings = before ++ old ++ after ∧ s'.billings = before ++ row :: after ∧
    Billing.ofRow row = .ok b ∧ (old = [] ∨ ∃ r, old = [r] ∧ Members.find? r "id" = Members.find? row "id")

theorem Ledger.Sound.keyed {L : Ledger} (sound : L.Sound) : L.Keyed := ⟨sound.ids, sound.users, sound.named⟩

namespace Store

variable {s : Store} {L : Ledger} {now : Moment}

theorem ask_reads (s : Store) (now : Moment) {q : Query} (reads : q.Reads) : (s.ask now q).2 = s := by
  cases q with
  | assignProduct | createBilling | updateBilling => exact reads.elim
  | _ => rfl

theorem ask_reads_steps (s : Store) (now : Moment) {q : Query} (reads : q.Reads) :
    (∃ f, s.ask now q = (.error f, s)) ∨ ∃ a, (s.ask now q).1 = .ok a := by
  cases told : (s.ask now q).1 with
  | error f => exact .inl ⟨f, Prod.ext told (ask_reads s now reads)⟩
  | ok a => exact .inr ⟨a, rfl⟩

theorem ask_assign (standing : List.Forall₂ Account.Stands s.users L.accounts)
    (users : L.accounts.Pairwise fun a b => a.user.id ≠ b.user.id) (clock : now.Clock) (named : plan ≠ "") (userId : Document) :
    (∃ f, s.ask now (.assignProduct userId (.text plan)) = (.error f, s)) ∨
      ∃ u, (s.ask now (.assignProduct userId (.text plan))).1 = .ok u := by
  cases known : L.account? userId with
  | none => exact .inl ⟨_, assign_unknown standing known _⟩
  | some a =>
    obtain ⟨before, row, after, -, -, -, -, stands, -, -, -, -, -, asked⟩ := assign_known standing users known
    obtain ⟨u, read, -⟩ := Except.map_eq_ok.1 (stands.move named clock).read
    rw [asked]
    exact .inr ⟨u, read⟩

theorem ask_update (shows_ : s.Shows L) (ids : L.billings.Pairwise fun a b => a.id ≠ b.id) (clock : now.Clock)
    (window : ∀ t ∈ u.expiresAt, t.Proper) (name : Document) :
    (∃ f, s.ask now (.updateBilling name u) = (.error f, s)) ∨
      ∃ b c, (s.ask now (.updateBilling name u)).1 = .ok b ∧ s.Rewrites (s.ask now (.updateBilling name u)).2 b ∧
        L.billing? name = some c ∧ b.timeless = c.apply u := by
  cases known : L.billing? name with
  | none => exact .inl ⟨_, update_unknown shows_.billings known u⟩
  | some c =>
    obtain ⟨before, row, after, -, -, rows, -, stands, -, -, -, -, -, asked⟩ := update_known shows_.billings ids known
    have amended := stands.update window clock
    obtain ⟨b, read, same⟩ := Except.map_eq_ok.1 amended.read
    rw [asked]
    split
    · exact .inl ⟨_, rfl⟩
    · refine .inr ⟨b, c, read, ⟨rfl, rfl, before, [row], _, after, ?_, rfl, read, .inr ⟨row, rfl, ?_⟩⟩, rfl, same⟩
      · rw [rows, List.append_assoc]
        rfl
      · rw [stands.id, amended.id, Billing.id_apply]

theorem ask_create (shows_ : s.Shows L) (clock : now.Clock) (window : new.expiresAt.Proper) :
    (∃ f, s.ask now (.createBilling new) = (.error f, s)) ∨
      ∃ b, (s.ask now (.createBilling new)).1 = .ok b ∧ s.Rewrites (s.ask now (.createBilling new)).2 b ∧
        b.timeless = L.opened now new := by
  obtain ⟨row, stands, asked⟩ := create_asked shows_ clock window
  obtain ⟨b, read, same⟩ := Except.map_eq_ok.1 stands.read
  rw [asked]
  split
  · exact .inl ⟨_, rfl⟩
  · exact .inr ⟨b, read, ⟨rfl, rfl, s.billings, [], row, [], by simp, rfl, read, .inl rfl⟩, same⟩

end Store

def Store.told (s : Store) (now : Moment) : Knowledge := fun q a => (s.ask now q).1 = .ok a

-- The record of an event has been written as in a calm delivery, and the move of its user alone was refused.
def Store.CutShort (s s' calm : Store) (e : Event) (refused : List (Query × Fault)) (f : Fault) : Prop :=
  ∃ b plan cause, refused = [(.assignProduct b.userId plan, cause)] ∧ f = e.blame b cause ∧
    b.subscriptionId = e.subscriptionId? ∧ s.Rewrites s' b ∧ calm.billings = s'.billings

section Runs

open Program

variable {s s' : Store} {L : Ledger} {now : Moment} {told : Knowledge} {e : Event} {w : Surroundings} {j j' : Journal}
  {p : Program Reconciliation} {b : Billing}

theorem Journal.ask_cases (faulty : w.Faulty faults) (j : Journal) (q : Query) :
    (∃ f, (j.ask w q).1 = .error (q.explain f) ∧ (j.ask w q).2.store = j.store) ∨
      (j.ask w q).1 = (j.store.ask w.now q).1 ∧ (j.ask w q).2.store = (j.store.ask w.now q).2 := by
  unfold Journal.ask
  dsimp only
  rw [faulty]
  cases faults (j.calls ++ [q.call w.now]).length with
  | some f => exact .inl ⟨f, rfl, rfl⟩
  | none => exact .inr ⟨rfl, rfl⟩

-- Of a call that the store refuses without a change, or else carries out, the same is true when it may also be kept
-- from the store.
theorem Journal.ask_steps (faulty : w.Faulty faults) (here : j.store = s) {q : Query} {carried : Prop}
    (steps : (∃ f, s.ask w.now q = (.error f, s)) ∨ carried) :
    (∃ f, (j.ask w q).1 = .error f ∧ (j.ask w q).2.store = s) ∨
      carried ∧ (j.ask w q).1 = (s.ask w.now q).1 ∧ (j.ask w q).2.store = (s.ask w.now q).2 := by
  subst here
  rcases Journal.ask_cases faulty j q with ⟨f, refused, stays⟩ | ⟨reply, after⟩
  · exact .inl ⟨_, refused, stays⟩
  · rcases steps with ⟨f, refused⟩ | done
    · rw [refused] at reply after
      exact .inl ⟨f, reply, after⟩
    · exact .inr ⟨done, reply, after⟩

theorem Journal.ask_quiet (now : Moment) (j : Journal) (q : Query) :
    (j.ask (.quiet now) q).1 = (j.store.ask now q).1 ∧ (j.ask (.quiet now) q).2.store = (j.store.ask now q).2 := ⟨rfl, rfl⟩

theorem Program.run_thenRelease (p : Program α) (w : Surroundings) (j : Journal) :
    (p.thenRelease key).run w j = p.run w j := by
  induction p generalizing j with
  | done | fail => rfl
  | ask q next ih => exact ih _ _
  | pay r next ih => exact ih _ _
  | acquire _ next ih => exact ih _ _
  | release _ next ih => exact ih _

theorem Program.refusals_thenRelease (p : Program α) (w : Surroundings) (j : Journal) :
    (p.thenRelease key).refusals w j = p.refusals w j := by
  induction p generalizing j with
  | done | fail => rfl
  | ask q next ih => exact congrArg (_ ++ ·) (ih _ _)
  | pay r next ih => exact ih _ _
  | acquire _ next ih => exact ih _ _
  | release _ next ih => exact ih _

theorem Store.Shows.billing_of_reply (shows_ : s.Shows L) {userId : String}
    (reply : s.told now (.billingByUser (.text userId)) (some b)) : b.timeless ∈ L.billings ∧ b.userId = userId := by
  have agrees : s.Agrees L now (.billingByUser userId) := Store.agrees_billingByUser shows_ (.text userId)
  have same := agrees.1
  rw [show (s.ask now (.billingByUser (.text userId))).1 = _ from reply] at same
  have found : L.billingOf? (.text userId) = some b.timeless := (Except.ok.inj same).symm
  have owner : b.timeless.userId = userId := by simpa using List.find?_some found
  exact ⟨List.mem_of_find?_eq_some found, owner⟩

theorem Store.Shows.offers_named (shows_ : s.Shows L) (keyed : L.Keyed) (offers : (s.told now).Offers plan) : plan ≠ "" := by
  obtain ⟨product, rfl, reply | ⟨price, reply⟩⟩ := offers
  · have agrees : s.Agrees L now .defaultProduct := Store.agrees_product shows_ rfl rfl rfl
    have same := agrees.1
    rw [show (s.ask now .defaultProduct).1 = _ from reply] at same
    exact Ledger.defaultProduct_named keyed.named same.symm
  · have agrees : s.Agrees L now (.productByPrice price) := Store.agrees_product shows_ rfl rfl rfl
    have same := agrees.1
    rw [show (s.ask now (.productByPrice price)).1 = _ from reply] at same
    exact Ledger.offered_named keyed.named same.symm

theorem Ledger.Keyed.billing?_eq (keyed : L.Keyed) (member : b.timeless ∈ L.billings) (known : L.billing? (.text b.id) = some c) :
    c = b.timeless := by
  have name : c.id = b.id := by simpa using List.find?_some known
  exact Ledger.eq_of_apart keyed.ids (List.mem_of_find?_eq_some known) member name

theorem Ends.run (ends : Ends told e userId b p) (owner : b.userId = userId) (named : ∀ plan, told.Offers plan → plan ≠ "")
    (standing : List.Forall₂ Account.Stands s.users L.accounts) (keyed : L.Keyed) (clock : w.now.Clock)
    (faulty : w.Faulty faults) (here : j.store = s) (fails : (p.run w j).1 = .error f) :
    (p.run w j).2.store = s ∧
      ∃ plan cause, p.refusals w j = [(.assignProduct b.userId plan, cause)] ∧ f = e.blame b cause := by
  cases ends with
  | done => cases fails
  | @move mover plan r next offers user moved refused =>
    obtain rfl : mover = b.userId := by
      rcases user with same | same
      · exact same.trans owner.symm
      · exact same
    unfold Program.run at fails ⊢
    unfold Program.refusals
    dsimp only at fails ⊢
    rcases Journal.ask_steps faulty here (Store.ask_assign standing keyed.users clock (named plan offers) b.userId) with
      ⟨cause, told, stays⟩ | ⟨⟨u, told⟩, reply, -⟩
    · rw [told, refused] at fails ⊢
      exact ⟨stays, plan, cause, rfl, (Except.error.inj fails).symm⟩
    · rw [reply, told, moved] at fails
      cases fails

theorem Ends.billings (ends : Ends told e userId b p) (now : Moment) (j : Journal) :
    (p.run (.quiet now) j).2.store.billings = j.store.billings := by
  cases ends with
  | done => rfl
  | @move mover plan r next _ _ moved refused =>
    unfold Program.run
    dsimp only
    cases (j.ask (.quiet now) (.assignProduct mover plan)).1 with
    | ok u =>
      rw [moved]
      rfl
    | error f =>
      rw [refused]
      rfl

theorem Ends.cutShort (ends : Ends (s.told w.now) e userId b p) (owner : b.userId = userId)
    (about : b.subscriptionId = e.subscriptionId?) (rewrites : s.Rewrites s' b) (shows_ : s.Shows L) (keyed : L.Keyed)
    (clock : w.now.Clock) (faulty : w.Faulty faults) (here : j.store = s') (there : j'.store = s')
    (fails : (p.run w j).1 = .error f) :
    s.CutShort (p.run w j).2.store (p.run (.quiet w.now) j').2.store e (p.refusals w j) f := by
  have standing : List.Forall₂ Account.Stands s'.users L.accounts := by
    rw [rewrites.users]
    exact shows_.users
  obtain ⟨stays, plan, cause, refused, told⟩ :=
    ends.run owner (fun _ => shows_.offers_named keyed) standing keyed clock faulty here fails
  refine ⟨b, plan, cause, refused, told, about, ?_, ?_⟩
  · rw [stays]
    exact rewrites
  · rw [ends.billings, there, stays]

-- A payment whose row is refused finds no row of its user, as it has found none before.
theorem Rechecks.run (rechecks : Rechecks new next again) (absent : s.told w.now (.billingByUser (.text new.userId)) none)
    (faulty : w.Faulty faults) (here : j.store = s) (f : Fault) :
    ((next (.error f)).run w j).2.store = s ∧ ∀ r ∈ (next (.error f)).refusals w j, ¬ r.1.Moves := by
  rcases rechecks.refused f with stops | ⟨owner, -, looks⟩
  · rw [stops]
    exact ⟨here, List.forall_mem_nil _⟩
  · rw [looks]
    unfold Program.run Program.refusals
    dsimp only
    rcases Journal.ask_steps faulty here (s.ask_reads_steps w.now (q := .billingByUser (.text new.userId)) trivial) with
      ⟨f, refused, stays⟩ | ⟨-, reply, after⟩
    · rw [refused, rechecks.fails]
      exact ⟨stays, List.forall_mem_singleton.2 id⟩
    · rw [reply, show (s.ask w.now (.billingByUser (.text new.userId))).1 = _ from absent, rechecks.vain]
      exact ⟨after, List.forall_mem_nil _⟩

-- A program that fails on a store has changed nothing and no move was refused, or it was cut short at the move of the user.
def Store.Halts (s : Store) (w : Surroundings) (e : Event) (p : Program Reconciliation) : Prop :=
  ∀ j j' f, j.store = s → j'.store = s → (p.run w j).1 = .error f →
    ((p.run w j).2.store = s ∧ ∀ r ∈ p.refusals w j, ¬ r.1.Moves) ∨
      s.CutShort (p.run w j).2.store (p.run (.quiet w.now) j').2.store e (p.refusals w j) f

theorem halts_read {next : Except Fault q.Reply → Program Reconciliation} (faulty : w.Faulty faults) (reads : q.Reads)
    (stops : ∀ f, next (.error f) = .fail f) (goesOn : ∀ a, s.told w.now q a → s.Halts w e (next (.ok a))) :
    s.Halts w e (.ask q next) := by
  intro j j' f here there fails
  obtain ⟨calm, kept⟩ := Journal.ask_quiet w.now j' q
  unfold Program.run Program.refusals
  unfold Program.run at fails
  dsimp only at fails ⊢
  rcases Journal.ask_steps faulty here (s.ask_reads_steps w.now reads) with
    ⟨g, refused, stays⟩ | ⟨⟨a, told⟩, reply, after⟩
  · rw [refused, stops]
    exact .inl ⟨stays, List.forall_mem_singleton.2 reads.not_moves⟩
  · rw [there] at calm kept
    rw [calm, told]
    rw [reply, told] at fails ⊢
    exact goesOn a told _ _ f (after.trans (s.ask_reads w.now reads)) (kept.trans (s.ask_reads w.now reads)) fails

theorem Work.halts (work : Work (s.told w.now) w.now e p) (proper : ∀ t ∈ e.window? w.now, t.Proper) (shows_ : s.Shows L)
    (keyed : L.Keyed) (clock : w.now.Clock) (faulty : w.Faulty faults) : s.Halts w e p := by
  induction work with
  | done => exact fun _ _ _ _ _ => nofun
  | read reads _ _ stops _ ih => exact halts_read faulty reads stops ih
  | @amend u userId b next found carries window _ stops ends =>
    intro j j' f here there fails
    obtain ⟨member, owner⟩ := shows_.billing_of_reply found
    obtain ⟨calm, kept⟩ := Journal.ask_quiet w.now j' (.updateBilling (.text b.id) u)
    unfold Program.run Program.refusals
    unfold Program.run at fails
    dsimp only at fails ⊢
    rcases Journal.ask_steps faulty here (Store.ask_update shows_ keyed.ids clock (fun t sets => proper t (window t sets))
      (.text b.id)) with ⟨g, refused, stays⟩ | ⟨⟨new, c, told, rewrites, known, same⟩, reply, after⟩
    · rw [refused, stops]
      exact .inl ⟨stays, List.forall_mem_singleton.2 id⟩
    · cases keyed.billing?_eq member known
      rw [there] at calm kept
      rw [calm, told]
      rw [reply, told] at fails ⊢
      exact .inr ((ends new).cutShort ((congrArg Billing.userId same).trans owner)
        ((congrArg Billing.subscriptionId same).trans carries) rewrites shows_ keyed clock faulty after kept fails)
  | @create new next again absent opens window _ ends rechecks _ _ =>
    intro j j' f here there fails
    obtain ⟨calm, kept⟩ := Journal.ask_quiet w.now j' (.createBilling new)
    unfold Program.run Program.refusals
    unfold Program.run at fails
    dsimp only at fails ⊢
    rcases Journal.ask_steps faulty here (Store.ask_create shows_ clock (proper _ window)) with
      ⟨g, refused, stays⟩ | ⟨⟨b, told, rewrites, same⟩, reply, after⟩
    · obtain ⟨kept, others⟩ := rechecks.run absent faulty stays g
      rw [refused]
      exact .inl ⟨kept, List.forall_mem_cons.2 ⟨id, others⟩⟩
    · rw [there] at calm kept
      rw [calm, told]
      rw [reply, told] at fails ⊢
      exact .inr ((ends b).cutShort (congrArg Billing.userId same)
        ((congrArg Billing.subscriptionId same).trans (Event.subscription_of_opens opens).symm) rewrites shows_ keyed clock
        faulty after kept fails)

theorem Course.halts (course : Course (s.told w.now) w.now e p) (proper : ∀ t ∈ e.window? w.now, t.Proper)
    (shows_ : s.Shows L) (keyed : L.Keyed) (clock : w.now.Clock) (faulty : w.Faulty faults) : s.Halts w e p := by
  induction course with
  | done => exact fun _ _ _ _ _ => nofun
  | unpaid => exact fun _ _ _ here _ _ => .inl ⟨here, List.forall_mem_nil _⟩
  | read reads _ _ stops _ ih => exact halts_read faulty reads stops ih
  | @enter p key work =>
    intro j j' f here there fails
    change ((p.thenRelease key).run w j).1 = .error f at fails
    change (((p.thenRelease key).run w j).2.store = s ∧ ∀ r ∈ (p.thenRelease key).refusals w j, ¬ r.1.Moves) ∨
      s.CutShort ((p.thenRelease key).run w j).2.store ((p.thenRelease key).run (.quiet w.now) j').2.store e
        ((p.thenRelease key).refusals w j) f
    rw [Program.run_thenRelease] at fails ⊢
    rw [Program.run_thenRelease, Program.refusals_thenRelease]
    exact work.halts proper shows_ keyed clock faulty j j' f here there fails

end Runs

-- A reconciliation that fails has changed nothing and no move was refused, or it has written the record of its
-- event as a calm one does, and the move of the user was refused and nothing else.
theorem Store.deliver_fails {s : Store} {L : Ledger} {w : Surroundings} {e : Event} (shows_ : s.Shows L) (keyed : L.Keyed)
    (clock : w.now.Clock) (faulty : w.Faulty faults) (proper : e.Proper) (fails : (s.deliver w e).1 = .error f) :
    ((s.deliver w e).2 = s ∧ ∀ r ∈ s.refusals w e, ¬ r.1.Moves) ∨
      s.CutShort (s.deliver w e).2 (s.deliver (.quiet w.now) e).2 e (s.refusals w e) f :=
  (course_reconcile (s.told w.now) w.now e).halts (proper.window clock.here) shows_ keyed clock faulty _ _ f rfl rfl fails

namespace Shop

-- The fifth call of a cancellation is the move of its user. When it is refused, the record has been canceled.
theorem cancellation_fails :
    (((ledger .active "pro" "pro").store.deliver (.failing ⟨0, some 0⟩ 5 .timeout) (.deleted cancellation)).2 =
        (ledger .active "pro" "pro").store ∧
      ∀ r ∈ (ledger .active "pro" "pro").store.refusals (.failing ⟨0, some 0⟩ 5 .timeout) (.deleted cancellation), ¬ r.1.Moves) ∨
    (ledger .active "pro" "pro").store.CutShort
      ((ledger .active "pro" "pro").store.deliver (.failing ⟨0, some 0⟩ 5 .timeout) (.deleted cancellation)).2
      ((ledger .active "pro" "pro").store.deliver (.quiet ⟨0, some 0⟩) (.deleted cancellation)).2 (.deleted cancellation)
      ((ledger .active "pro" "pro").store.refusals (.failing ⟨0, some 0⟩ 5 .timeout) (.deleted cancellation))
      (.incomplete "bill-1" "ann" "sub" .timeout) := by
  have fails : ((ledger .active "pro" "pro").store.deliver (.failing ⟨0, some 0⟩ 5 .timeout) (.deleted cancellation)).1 =
      .error (.incomplete "bill-1" "ann" "sub" .timeout) := by decide +kernel
  exact Store.deliver_fails (shows_ .active "pro" "pro" (by decide)) (sound _ _ _).keyed (by decide)
    (Surroundings.failing_faulty ⟨0, some 0⟩ 5 .timeout) trivial fails

end Shop
end SubscriptionLedger
