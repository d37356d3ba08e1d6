import SubscriptionLedger.Program.Run
import SubscriptionLedger.Proofs.Course

namespace SubscriptionLedger

def Query.Named : (q : Query) → Except Fault q.Reply → Prop
  | .productById _, .ok (some product) => product.id ≠ ""
  | .productByPrice _, .ok (some product) => product.id ≠ ""
  | .defaultProduct, .ok product => product.id ≠ ""
  | _, _ => True

-- Runs a program on a ledger. The call of a number may fail before it is carried out; `made` calls have
-- been made already.
def Ledger.run (now : Moment) (faults : Nat → Option Fault) :
    (made : Nat) → Program α → Ledger → Except Fault α × Ledger
  | _, .done a, L => (.ok a, L)
  | _, .fail f, L => (.error f, L)
  | made, .ask q next, L =>
    match faults (made + 1) with
    | some f => run now faults (made + 1) (next (q.answer (.error f))) L
    | none => run now faults (made + 1) (next (L.ask now q).1) (L.ask now q).2
  | made, .pay _ next, L => run now faults made (next (.error .connection)) L
  | made, .acquire _ next, L => run now faults made (next (.ok ())) L
  | made, .release _ next, L => run now faults made next L

namespace Program

def Plain : Program α → Prop
  | done _ => True
  | fail _ => True
  | ask q next =>
    q.Plain ∧ (∀ reply, next (reply.map q.timeless) = next reply) ∧ ∀ reply, q.Named reply → (next reply).Plain
  | pay _ _ => False
  | acquire _ next => ∀ granted, (next granted).Plain
  | release _ next => next.Plain

variable {p work : Program α} {q : Query}

theorem plain_thenRelease (plain : p.Plain) : (p.thenRelease key).Plain := by
  induction p with
  | done | fail => exact plain
  | ask q next ih =>
    obtain ⟨here, blind, rest⟩ := plain
    exact ⟨here, fun reply => congrArg (thenRelease key) (blind reply), fun reply named => ih reply (rest reply named)⟩
  | pay => exact plain
  | acquire other next ih => exact fun granted => ih granted (plain granted)
  | release other next ih => exact ih plain

theorem plain_holding (plain : work.Plain) : (holding key work).Plain := by
  intro granted
  cases granted with
  | ok => exact plain_thenRelease plain
  | error => trivial

theorem plain_ask {next : Except Fault q.Reply → Program α} (plain : q.Plain)
    (blind : ∀ a, next (.ok (q.timeless a)) = next (.ok a)) (goesOn : ∀ a, q.Named (.ok a) → (next (.ok a)).Plain)
    (fails : ∀ f, (next (.error f)).Plain) : (ask q next).Plain := by
  refine ⟨plain, fun reply => ?_, fun reply known => ?_⟩
  · cases reply with
    | ok a => exact blind a
    | error => rfl
  · cases reply with
    | ok a => exact goesOn a known
    | error f => exact fails f

end Program

namespace Ledger

variable {L : Ledger}

theorem offered_named (named : ∀ row ∈ L.catalog, ∀ p, Product.ofRow row = .ok p → p.id ≠ "")
    (read : Query.first? Product.ofRow (L.offered column value) = .ok (some product)) : product.id ≠ "" := by
  have inside : ∀ row ∈ L.offered column value, row ∈ L.catalog := fun row member =>
    (List.mem_filter.1 (List.mem_of_mem_take member)).1
  cases found : L.offered column value with
  | nil => simp [found, Query.first?] at read
  | cons row rest =>
    rw [found] at read inside
    cases row with
    | nil => simp [Query.first?] at read
    | cons c cs =>
      obtain ⟨p, here, same⟩ := Except.map_eq_ok.1 read
      cases same
      exact named _ (inside _ (.head _)) _ here

theorem defaultProduct_named (named : ∀ row ∈ L.catalog, ∀ p, Product.ofRow row = .ok p → p.id ≠ "")
    (read : L.defaultProduct = .ok product) : product.id ≠ "" := by
  unfold defaultProduct at read
  cases found : L.offered "is_default" (.bool true) with
  | nil => simp [found, Query.first] at read
  | cons row rest =>
    rw [found] at read
    have member : row ∈ L.offered "is_default" (.bool true) := by simp [found]
    exact named row (List.mem_filter.1 (List.mem_of_mem_take member)).1 _ read

theorem ask_named (sound : L.Sound) (now : Moment) (q : Query) : q.Named (L.ask now q).1 := by
  cases q with
  | productById id =>
    cases read : ((L.ask now (.productById id)).1 : Except Fault (Option Product)) with
    | error => trivial
    | ok found =>
      cases found with
      | none => trivial
      | some product => exact offered_named sound.named read
  | productByPrice id =>
    cases read : ((L.ask now (.productByPrice id)).1 : Except Fault (Option Product)) with
    | error => trivial
    | ok found =>
      cases found with
      | none => trivial
      | some product => exact offered_named sound.named read
  | defaultProduct =>
    cases read : ((L.ask now .defaultProduct).1 : Except Fault Product) with
    | error => trivial
    | ok product => exact defaultProduct_named sound.named read
  | _ => trivial

theorem run_sound (sound : L.Sound) (now : Moment) (faults : Nat → Option Fault) (made : Nat) (p : Program α) :
    (L.run now faults made p).2.Sound := by
  induction p generalizing made L with
  | done | fail => exact sound
  | ask q next ih =>
    unfold run
    cases faults (made + 1) with
    | some f => exact ih _ sound _
    | none => exact ih _ (ask_sound sound now q) _
  | pay _ next ih => exact ih _ sound _
  | acquire _ next ih => exact ih _ sound _
  | release _ next ih => exact ih sound _

end Ledger

def Surroundings.Faulty (w : Surroundings) (faults : Nat → Option Fault) : Prop :=
  ∀ n, w.disturbances n = ((faults n).map Disturbance.fault).toList

theorem Program.run_shows {p : Program α} {j : Journal} {L : Ledger} {w : Surroundings} (plain : p.Plain)
    (clock : w.now.Clock) (faulty : w.Faulty faults) (shows_ : j.store.Shows L) (sound : L.Sound) :
    (p.run w j).1 = (L.run w.now faults j.calls.length p).1 ∧
      (p.run w j).2.store.Shows (L.run w.now faults j.calls.length p).2 := by
  induction p generalizing j L with
  | done | fail => exact ⟨rfl, shows_⟩
  | ask q next ih =>
    obtain ⟨here, blind, rest⟩ := plain
    have count : (j.calls ++ [q.call w.now]).length = j.calls.length + 1 := by simp
    unfold run Ledger.run Journal.ask
    dsimp only
    rw [count, faulty]
    cases faults (j.calls.length + 1) with
    | some f =>
      have later := @ih (q.answer (.error f)) { j with calls := j.calls ++ [q.call w.now] } L
        (rest _ (by cases q <;> trivial)) shows_ sound
      rwa [count] at later
    | none =>
      obtain ⟨reply, after⟩ := Store.ask_shows shows_ sound clock here
      have same : next (L.ask w.now q).1 = next (j.store.ask w.now q).1 := by
        rw [← reply]
        exact blind _
      have later := @ih (L.ask w.now q).1
        { j with store := (j.store.ask w.now q).2, calls := j.calls ++ [q.call w.now] } (L.ask w.now q).2
        (rest _ (Ledger.ask_named sound w.now q)) after (Ledger.ask_sound sound w.now q)
      rw [count] at later
      change (run w (next (j.store.ask w.now q).1) _).1 = _ ∧ (run w (next (j.store.ask w.now q).1) _).2.store.Shows _
      rw [← same]
      exact later
  | pay => exact plain.elim
  | acquire _ next ih => exact ih _ (plain _) shows_ sound
  | release _ next ih => exact ih plain shows_ sound

def Event.Proper : Event → Prop
  | .paid e => e.periodEnd.Proper
  | .updated e => e.effectiveExpiry.Proper
  | _ => True

theorem Event.Proper.window {e : Event} (proper : e.Proper) (reading : now.Proper) : ∀ t ∈ e.window? now, t.Proper := by
  cases e with
  | paid | updated =>
    rintro t ⟨⟩
    exact proper
  | deleted =>
    rintro t ⟨⟩
    exact reading
  | _ => exact nofun

def named : Knowledge := fun q a => q.Named (.ok a)

theorem named_of_offers (offers : named.Offers plan) : plan ≠ "" := by
  obtain ⟨product, rfl, reply | ⟨price, reply⟩⟩ := offers
  · exact reply
  · exact reply

theorem Query.Due.plain {q : Query} (due : q.Due named now e) (proper : ∀ t ∈ e.window? now, t.Proper) : q.Plain := by
  cases q with
  | assignProduct =>
    obtain ⟨product, rfl, offers⟩ := due
    exact ⟨product, rfl, named_of_offers offers⟩
  | createBilling => exact proper _ due
  | updateBilling => exact fun t sets => proper t (due t sets)
  | _ => exact due

theorem plain_rules (proper : ∀ t ∈ e.window? now, t.Proper) : Rules named now e fun _ p => p.Plain where
  done _ _ := trivial
  handedOn _ := trivial
  raised _ _ _ := trivial
  asked _ _ _ due := Program.plain_ask (due.plain proper)

theorem plain_reconcile (reading : now.Proper) (proper : e.Proper) : (reconcile now e).Plain := by
  have rules := plain_rules (proper.window reading)
  exact (course_reconcile named now e).follows rules fun _ _ work => Program.plain_holding (work.follows rules)

end SubscriptionLedger
