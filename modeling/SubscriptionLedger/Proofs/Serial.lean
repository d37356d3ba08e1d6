import Mathlib.Logic.Function.Basic
import SubscriptionLedger.Proofs.Delivery

namespace SubscriptionLedger

structure Calling where
  id : String
  event : Event
  reading : Moment
deriving DecidableEq

namespace Calling

def program (c : Calling) : Program Reconciliation := reconcile c.reading c.event

def decision (c : Calling) (L : Ledger) : Decision := L.decision c.reading c.event

end Calling

structure Calling.Proper (c : Calling) : Prop where
  event : c.event.Proper
  reading : c.reading.Proper

def Store.serve (s : Store) (x : Calling × Moment) : Except Fault Reconciliation × Store :=
  ((x.1.program.run (.quiet x.2) { store := s }).1, (x.1.program.run (.quiet x.2) { store := s }).2.store)

def Store.serveAll (s : Store) (order : List (Calling × Moment)) : Store := order.foldl (fun s x => (s.serve x).2) s

namespace Ledger

def serve (L : Ledger) (x : Calling × Moment) : Except Fault Reconciliation × Ledger := L.enact x.2 (x.1.decision L)

def after (L : Ledger) (order : List (Calling × Moment)) : Ledger := order.foldl (fun M x => (M.serve x).2) L

def Tells (L : Ledger) (order : List (Calling × Moment)) (c : Calling) (result : Except Fault Reconciliation) : Prop :=
  ∃ before now behind, order = before ++ (c, now) :: behind ∧ ((L.after before).serve (c, now)).1 = result

def Visits (L : Ledger) (order : List (Calling × Moment)) (P : Ledger → Prop) : Prop :=
  ∃ before, before <+: order ∧ P (L.after before)

structure Grows (L : Ledger) (order order' : List (Calling × Moment)) (x : Calling × Moment) : Prop where
  visits : ∀ P, L.Visits order P → L.Visits order' P
  tells : ∀ c result, L.Tells order c result → L.Tells order' c result
  perm : order'.Perm (x :: order)

variable {L M N : Ledger} {order before behind : List (Calling × Moment)} {c : Calling} {x : Calling × Moment}
  {P : Ledger → Prop}

theorem after_append (L : Ledger) (before behind : List (Calling × Moment)) :
    L.after (before ++ behind) = (L.after before).after behind := List.foldl_append

theorem after_snoc (L : Ledger) (order : List (Calling × Moment)) (x : Calling × Moment) :
    L.after (order ++ [x]) = ((L.after order).serve x).2 := after_append L order [x]

theorem visits_here (holds : P (L.after order)) : L.Visits order P := ⟨order, List.prefix_refl _, holds⟩

theorem grows_append (L : Ledger) (order : List (Calling × Moment)) (x : Calling × Moment) :
    L.Grows order (order ++ [x]) x where
  visits := by
    rintro P ⟨before, here, holds⟩
    exact ⟨before, here.trans (List.prefix_append _ _), holds⟩
  tells := by
    rintro c result ⟨before, now, behind, rfl, same⟩
    exact ⟨before, now, behind ++ [x], by simp, same⟩
  perm := List.perm_append_singleton x order

theorem tells_append (L : Ledger) (order : List (Calling × Moment)) (c : Calling) (now : Moment) :
    L.Tells (order ++ [(c, now)]) c ((L.after order).serve (c, now)).1 := ⟨order, now, [], rfl, rfl⟩

-- A call that changes nothing at a point of an order can be put in there.
theorem grows_insert (same : ((L.after before).serve x).2 = L.after before) :
    L.Grows (before ++ behind) (before ++ x :: behind) x := by
  have through : ∀ more, L.after (before ++ x :: more) = L.after (before ++ more) := by
    intro more
    rw [after_append, after_append]
    change ((L.after before).serve x).2.after more = _
    rw [same]
  refine ⟨?_, ?_, List.perm_middle⟩
  · rintro P ⟨point, ⟨rest, split⟩, holds⟩
    rcases List.append_eq_append_iff.1 split with ⟨more, rfl, -⟩ | ⟨more, rfl, rfl⟩
    · exact ⟨point, by rw [List.append_assoc]; exact List.prefix_append _ _, holds⟩
    · refine ⟨before ++ x :: more, ⟨rest, by simp⟩, ?_⟩
      rw [through]
      exact holds
  · rintro c result ⟨point, now, rest, split, told⟩
    rcases List.append_eq_append_iff.1 split.symm with ⟨more, rfl, here⟩ | ⟨more, rfl, rfl⟩
    · cases more with
      | nil =>
        rw [List.nil_append] at here
        subst here
        rw [List.append_nil] at same ⊢
        refine ⟨point ++ [x], now, rest, by simp, ?_⟩
        rw [after_append]
        change ((((L.after point).serve x).2).serve (c, now)).1 = result
        rw [same]
        exact told
      | cons first more =>
        cases here
        exact ⟨point, now, more ++ x :: behind, by simp, told⟩
    · refine ⟨before ++ x :: more, now, rest, by simp, ?_⟩
      rw [through]
      exact told

theorem grows_rest (visits : L.Visits order fun M => c.decision M = .rest outcome) (now : Moment) :
    ∃ order', L.Grows order order' (c, now) ∧ L.after order' = L.after order ∧ L.Tells order' c outcome := by
  obtain ⟨before, ⟨behind, rfl⟩, rests⟩ := visits
  have served : (L.after before).serve (c, now) = (outcome, L.after before) := by
    unfold serve
    rw [rests]
    rfl
  refine ⟨before ++ (c, now) :: behind, grows_insert (by rw [served]), ?_, before, now, behind, rfl, by rw [served]⟩
  rw [after_append, after_append]
  change ((L.after before).serve (c, now)).2.after behind = _
  rw [served]

theorem serve_shows {s : Store} (shows_ : s.Shows L) (sound : L.Sound) (proper : x.1.Proper) (clock : x.2.Clock) :
    (s.serve x).1 = (L.serve x).1 ∧ (s.serve x).2.Shows (L.serve x).2 ∧ (L.serve x).2.Sound := by
  have comes : L.run x.2 (fun _ => none) 0 x.1.program = L.serve x := run_reconcile sound x.2 x.1.reading 0 x.1.event
  have faulty : (Surroundings.quiet x.2).Faulty fun _ => none := fun _ => rfl
  obtain ⟨result, shown⟩ := Program.run_shows (j := { store := s }) (plain_reconcile proper.reading proper.event) clock faulty
    shows_ sound
  rw [← comes]
  exact ⟨result, shown, run_sound sound x.2 (fun _ => none) 0 x.1.program⟩

theorem serveAll_shows {s : Store} (shows_ : s.Shows L) (sound : L.Sound) (proper : ∀ x ∈ order, x.1.Proper)
    (clock : ∀ x ∈ order, x.2.Clock) : (s.serveAll order).Shows (L.after order) ∧ (L.after order).Sound := by
  induction order generalizing s L with
  | nil => exact ⟨shows_, sound⟩
  | cons x rest ih =>
    obtain ⟨-, shown, kept⟩ := serve_shows shows_ sound (proper x (.head _)) (clock x (.head _))
    exact ih shown kept (fun y there => proper y (.tail _ there)) fun y there => clock y (.tail _ there)

-- The same catalog, and the same accounts wherever their users are.
structure Kin (M L : Ledger) : Prop where
  catalog : M.catalog = L.catalog
  accounts : M.accounts.map (fun a => (a.address, a.user.id)) = L.accounts.map fun a => (a.address, a.user.id)

structure Matches (M L : Ledger) (userId : String) : Prop where
  record : M.billingOf? (.text userId) = L.billingOf? (.text userId)
  account : M.account? (.text userId) = L.account? (.text userId)

theorem Kin.refl (L : Ledger) : L.Kin L := ⟨rfl, rfl⟩

theorem Kin.trans (first : N.Kin M) (second : M.Kin L) : N.Kin L :=
  ⟨first.catalog.trans second.catalog, first.accounts.trans second.accounts⟩

theorem Kin.symm (kin : M.Kin L) : L.Kin M := ⟨kin.catalog.symm, kin.accounts.symm⟩

theorem Matches.refl (L : Ledger) (userId : String) : L.Matches L userId := ⟨rfl, rfl⟩

theorem Matches.trans (first : N.Matches M userId) (second : M.Matches L userId) : N.Matches L userId :=
  ⟨first.record.trans second.record, first.account.trans second.account⟩

theorem find?_kin {q : String × String → Bool} (kin : M.Kin L) :
    (M.accounts.find? fun a => q (a.address, a.user.id)).map (fun a => (a.address, a.user.id)) =
      (L.accounts.find? fun a => q (a.address, a.user.id)).map fun a => (a.address, a.user.id) := by
  have each : ∀ K : Ledger, (K.accounts.find? fun a => q (a.address, a.user.id)).map (fun a => (a.address, a.user.id)) =
      (K.accounts.map fun a => (a.address, a.user.id)).find? q := fun K => List.find?_map.symm
  rw [each, each, kin.accounts]

theorem accountAt?_kin (kin : M.Kin L) (found : L.accountAt? address = some a) :
    ∃ a', M.accountAt? address = some a' ∧ a'.user.id = a.user.id := by
  have same := find?_kin (q := fun pair => pair.1 = address) kin
  change (M.accountAt? address).map _ = (L.accountAt? address).map _ at same
  rw [found, Option.map_some] at same
  obtain ⟨a', here, pair⟩ := Option.map_eq_some_iff.1 same
  exact ⟨a', here, (Prod.mk.inj pair).2⟩

theorem accountAt?_eq_none_kin (kin : M.Kin L) (unknown : L.accountAt? address = none) : M.accountAt? address = none := by
  have same := find?_kin (q := fun pair => pair.1 = address) kin
  change (M.accountAt? address).map _ = (L.accountAt? address).map _ at same
  rw [unknown] at same
  exact Option.map_eq_none_iff.1 same

theorem look_own (same : M.Matches L userId) (shop : M.catalog = L.catalog) (own : q.Own userId) : M.look q = L.look q := by
  cases q with
  | productByPrice price =>
    unfold look ask productOf offered
    dsimp only
    rw [shop]
  | defaultProduct =>
    unfold look ask
    dsimp only
    unfold defaultProduct offered
    rw [shop]
  | userById id =>
    cases own
    unfold look ask
    dsimp only
    rw [same.account]
  | billingByUser id =>
    cases own
    unfold look ask
    dsimp only
    rw [same.record]
  | _ => exact own.elim

theorem settles_congr (same : M.Matches L userId) (shop : M.catalog = L.catalog) (settles : Settles L userId p d) :
    Settles M userId p d := by
  induction settles with
  | done => exact .done
  | fail => exact .fail
  | read own stops goesOn ih =>
    refine .read own stops ?_
    rw [look_own same shop own]
    exact ih
  | amend found follows stops => exact .amend (same.record.trans found) follows stops
  | create absent owner follows stops ih => exact .create (same.record.trans absent) owner follows ih

section Writes

variable {b : Billing} {u : BillingUpdate} {userId other : String}

theorem amend_kin (L : Ledger) (name : Document) (u : BillingUpdate) : (L.amend name u).Kin L := ⟨rfl, rfl⟩

theorem add_kin (L : Ledger) (b : Billing) : (L.add b).Kin L := ⟨rfl, rfl⟩

theorem move_kin (L : Ledger) (name : Document) (plan : String) : (L.move name plan).Kin L := by
  refine ⟨rfl, ?_⟩
  unfold move
  rw [List.map_map]
  refine List.map_congr_left fun a _ => ?_
  dsimp only [Function.comp]
  split <;> rfl

theorem billingOf?_amend (L : Ledger) (name owner : Document) (u : BillingUpdate) :
    (L.amend name u).billingOf? owner = (L.billingOf? owner).map fun b => if .text b.id = name then b.apply u else b := by
  unfold billingOf? amend
  rw [List.find?_map]
  refine congrArg (Option.map _) (congrArg (List.find? · L.billings) (funext fun b => ?_))
  dsimp only [Function.comp]
  split <;> rfl

theorem amend_matches (sound : L.Sound) (member : b ∈ L.billings) (distinct : other ≠ b.userId) :
    (L.amend (.text b.id) u).Matches L other := by
  refine ⟨?_, rfl⟩
  rw [billingOf?_amend]
  cases found : L.billingOf? (.text other) with
  | none => rfl
  | some c =>
    obtain ⟨there, owner⟩ := sound.billingOf?_eq_some.1 found
    have apart : ¬ Document.text c.id = .text b.id := by
      intro same
      rw [eq_of_apart sound.ids there member (Document.text.inj same)] at owner
      exact distinct owner.symm
    rw [Option.map_some, if_neg apart]

theorem amend_rows (sound : L.Sound) (member : b ∈ L.billings) (u : BillingUpdate) :
    ∀ x ∈ L.billings, ∀ s, x.subscriptionId = some s →
      (∃ x' ∈ (L.amend (.text b.id) u).billings, x'.userId = x.userId ∧ x'.subscriptionId = some s) ∨
        (L.amend (.text b.id) u).carrier? (.text s) = none := by
  intro x there s carries
  by_cases here : x = b
  · subst here
    by_cases kept : (x.apply u).subscriptionId = some s
    · exact .inl ⟨x.apply u, List.mem_map.2 ⟨x, there, if_pos rfl⟩, rfl, kept⟩
    · refine .inr (List.find?_eq_none.2 fun y' amended carried => ?_)
      obtain ⟨y, old, rfl⟩ := List.mem_map.1 amended
      obtain ⟨s', carried', same⟩ := (Option.any_eq_true _ _).1 carried
      cases of_decide_eq_true same
      by_cases same : Document.text y.id = .text x.id
      · rw [if_pos same, eq_of_apart sound.ids old there (Document.text.inj same)] at carried'
        exact kept carried'
      · rw [if_neg same] at carried'
        refine same (congrArg (fun b : Billing => Document.text b.id) ?_)
        exact Option.some.inj ((sound.carrier?_eq_some.2 ⟨old, carried'⟩).symm.trans (sound.carrier?_eq_some.2 ⟨there, carries⟩))
  · refine .inl ⟨x, List.mem_map.2 ⟨x, there, if_neg fun same => here ?_⟩, rfl, carries⟩
    exact eq_of_apart sound.ids there member (Document.text.inj same)

theorem add_matches (distinct : other ≠ b.userId) : (L.add b).Matches L other := by
  refine ⟨?_, rfl⟩
  unfold billingOf? add
  rw [List.find?_append, List.find?_cons]
  have apart : decide (Document.text b.userId = .text other) = false := by
    simpa using Ne.symm distinct
  rw [apart]
  simp

theorem move_matches (distinct : other ≠ userId) : (L.move (.text userId) plan).Matches L other := by
  refine ⟨rfl, ?_⟩
  rw [account?_move]
  cases found : L.account? (.text other) with
  | none => rfl
  | some a =>
    have owner : a.user.id = other := by simpa using List.find?_some found
    rw [Option.map_some, if_neg]
    intro same
    exact distinct (owner.symm.trans (Document.text.inj same))

end Writes

end Ledger

-- Where a user will be after the move that it waits for.
def Account.ahead (pending : String → Option String) (a : Account) : Account :=
  match pending a.user.id with
  | none => a
  | some plan => { a with user := a.user.moved plan }

namespace Ledger

variable {L : Ledger} {pending : String → Option String} {userId : String}

-- A ledger after the moves that its users wait for.
def ahead (L : Ledger) (pending : String → Option String) : Ledger :=
  { L with accounts := L.accounts.map (Account.ahead pending) }

theorem id_ahead (pending : String → Option String) (a : Account) : (a.ahead pending).user.id = a.user.id := by
  unfold Account.ahead
  split <;> rfl

theorem address_ahead (pending : String → Option String) (a : Account) : (a.ahead pending).address = a.address := by
  unfold Account.ahead
  split <;> rfl

theorem ahead_nothing (none : ∀ userId, pending userId = none) (L : Ledger) : L.ahead pending = L := by
  have each : L.accounts.map (Account.ahead pending) = L.accounts := by
    refine (List.map_congr_left fun a _ => ?_).trans (List.map_id' L.accounts)
    unfold Account.ahead
    rw [none]
  unfold ahead
  rw [each]

theorem ahead_kin (L : Ledger) (pending : String → Option String) : (L.ahead pending).Kin L := by
  refine ⟨rfl, ?_⟩
  unfold ahead
  rw [List.map_map]
  refine List.map_congr_left fun a _ => ?_
  dsimp only [Function.comp]
  rw [id_ahead, address_ahead]

theorem ahead_sound (sound : L.Sound) (pending : String → Option String) : (L.ahead pending).Sound where
  ids := sound.ids
  slots := sound.slots
  fresh := sound.fresh
  users := by
    refine List.pairwise_map.2 (sound.users.imp fun {x y} distinct => ?_)
    rw [id_ahead, id_ahead]
    exact distinct
  addresses := by
    refine List.pairwise_map.2 (sound.addresses.imp fun {x y} distinct => ?_)
    rw [address_ahead, address_ahead]
    exact distinct
  named := sound.named

theorem ahead_matches (waits : pending userId = none) (L : Ledger) : (L.ahead pending).Matches L userId := by
  refine ⟨rfl, ?_⟩
  have each : (L.ahead pending).account? (.text userId) = (L.account? (.text userId)).map (Account.ahead pending) := by
    unfold account? ahead
    rw [List.find?_map]
    refine congrArg (Option.map _) (congrArg (List.find? · L.accounts) (funext fun a => ?_))
    dsimp only [Function.comp]
    rw [id_ahead]
  rw [each]
  cases found : L.account? (.text userId) with
  | none => rfl
  | some a =>
    have owner : a.user.id = userId := by simpa using List.find?_some found
    rw [Option.map_some]
    unfold Account.ahead
    rw [owner, waits]

theorem ahead_move (L : Ledger) (pending : String → Option String) (userId plan : String) :
    (L.ahead pending).move (.text userId) plan = L.ahead (Function.update pending userId (some plan)) := by
  unfold ahead move
  rw [List.map_map]
  refine congrArg (fun as => { L with accounts := as }) (List.map_congr_left fun a _ => ?_)
  dsimp only [Function.comp]
  rw [id_ahead]
  by_cases owner : a.user.id = userId
  · rw [if_pos (congrArg Document.text owner)]
    unfold Account.ahead
    rw [owner, Function.update_self]
    split <;> rfl
  · rw [if_neg fun same => owner (Document.text.inj same)]
    unfold Account.ahead
    rw [Function.update_of_ne owner]

theorem move_ahead (waits : pending userId = some plan) (L : Ledger) :
    (L.move (.text userId) plan).ahead (Function.update pending userId none) = L.ahead pending := by
  unfold ahead move
  rw [List.map_map]
  refine congrArg (fun as => { L with accounts := as }) (List.map_congr_left fun a _ => ?_)
  dsimp only [Function.comp]
  by_cases owner : a.user.id = userId
  · rw [if_pos (congrArg Document.text owner)]
    have there : ({ a with user := a.user.moved plan } : Account).user.id = userId := owner
    unfold Account.ahead
    rw [there, Function.update_self, owner, waits]
  · rw [if_neg fun same => owner (Document.text.inj same)]
    unfold Account.ahead
    rw [Function.update_of_ne owner]

-- A move after a write can as well be waited for.
theorem finish_ahead {b : Billing} (waits : pending b.userId = none) (L : Ledger) (t : Sequel) :
    (L.ahead pending).finish b t = ((L.finish b t).1, L.ahead (Function.update pending b.userId
      (if (L.account? (.text b.userId)).isSome then t.target else none))) := by
  have stays : Function.update pending b.userId none = pending := by
    rw [← waits]
    exact Function.update_eq_self b.userId pending
  unfold finish
  rw [(ahead_matches waits L).account]
  cases t.target with
  | none => rw [ite_self, stays]
  | some plan =>
    dsimp only
    cases L.account? (.text b.userId) with
    | none =>
      change _ = (_, L.ahead (Function.update pending b.userId none))
      rw [stays]
    | some a => exact congrArg (Prod.mk _) (ahead_move L pending b.userId plan)

theorem finish_kin (L : Ledger) (b : Billing) (t : Sequel) : (L.finish b t).2.Kin L := by
  unfold finish
  cases t.target with
  | none => exact .refl L
  | some plan =>
    dsimp only
    cases L.account? (.text b.userId) with
    | none => exact .refl L
    | some a => exact move_kin L _ plan

theorem enact_kin (now : Moment) (L : Ledger) (d : Decision) : (L.enact now d).2.Kin L := by
  cases d with
  | rest outcome => exact .refl L
  | amend b u t =>
    unfold enact
    dsimp only
    split
    · exact .refl L
    · exact (finish_kin _ _ _).trans (amend_kin L _ u)
  | create new t =>
    unfold enact
    dsimp only
    split
    · exact .refl L
    · exact (finish_kin _ _ _).trans (add_kin L _)

theorem written_kin (now : Moment) (L : Ledger) (d : Decision) : (L.written now d).Kin L := by
  cases d with
  | rest outcome => exact .refl L
  | amend b u t =>
    unfold written
    dsimp only
    split
    · exact .refl L
    · exact amend_kin L _ u
  | create new t =>
    unfold written
    dsimp only
    split
    · exact .refl L
    · exact add_kin L _

theorem Comes.kin {d : Decision} {result : Except Fault Reconciliation × Ledger} (comes : L.Comes now faults d result) :
    result.2.Kin L := by
  rcases comes with calm | ⟨-, f, none | half⟩
  · rw [calm]
    exact enact_kin now L d
  · rw [none]
    exact .refl L
  · rw [half]
    exact written_kin now L d

theorem after_kin (L : Ledger) (order : List (Calling × Moment)) : (L.after order).Kin L := by
  induction order generalizing L with
  | nil => exact .refl L
  | cons x rest ih => exact (ih _).trans (enact_kin x.2 L _)

theorem visits_imp {order : List (Calling × Moment)} {P Q : Ledger → Prop} (visits : L.Visits order P)
    (implies : ∀ M : Ledger, M.Kin L → P M → Q M) : L.Visits order Q := by
  obtain ⟨before, early, holds⟩ := visits
  exact ⟨before, early, implies _ (after_kin L before) holds⟩

end Ledger
end SubscriptionLedger
