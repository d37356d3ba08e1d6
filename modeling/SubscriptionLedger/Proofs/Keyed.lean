import SubscriptionLedger.Concurrency.World
import SubscriptionLedger.Proofs.Lock
import SubscriptionLedger.Proofs.Placing

namespace SubscriptionLedger

namespace Program

def Asks : Program α → Prop
  | done _ => True
  | fail _ => True
  | ask _ next => ∀ reply, (next reply).Asks
  | _ => False

-- A program that asks the store, and works under one key at its end, if at all.
def Keyed : Program α → Prop
  | done _ => True
  | fail _ => True
  | ask _ next => ∀ reply, (next reply).Keyed
  | acquire key next => ∃ work : Program α, work.Asks ∧ acquire key next = holding key work
  | _ => False

variable {α : Type} {p work : Program α}

theorem Asks.cases (asks : p.Asks) : (∃ result, p = .ofExcept result) ∨ ∃ q next, p = .ask q next := by
  cases p with
  | done a => exact .inl ⟨.ok a, rfl⟩
  | fail f => exact .inl ⟨.error f, rfl⟩
  | ask q next => exact .inr ⟨q, next, rfl⟩
  | pay | acquire | release => exact asks.elim

theorem Keyed.cases (keyed : p.Keyed) : (∃ result, p = .ofExcept result) ∨ (∃ q next, p = .ask q next) ∨
    ∃ key work, p = .holding key work ∧ work.Asks := by
  cases p with
  | done a => exact .inl ⟨.ok a, rfl⟩
  | fail f => exact .inl ⟨.error f, rfl⟩
  | ask q next => exact .inr (.inl ⟨q, next, rfl⟩)
  | acquire key next =>
    obtain ⟨work, asks, same⟩ := keyed
    exact .inr (.inr ⟨key, work, same, asks⟩)
  | pay | release => exact keyed.elim

theorem plain_of_thenRelease (plain : (p.thenRelease key).Plain) : p.Plain := by
  induction p with
  | done | fail => trivial
  | ask q next ih =>
    obtain ⟨here, blind, goesOn⟩ := plain
    exact ⟨here, fun reply => thenRelease_injective (blind reply), fun reply named => ih reply (goesOn reply named)⟩
  | pay => exact plain.elim
  | acquire other next ih => exact fun granted => ih granted (plain granted)
  | release other next ih => exact ih plain

section RunningOn

variable {id : String} {l l' : KeyedLock String} {tickets : List Ticket} {t : Ticket}

theorem runOn_ofExcept (result : Except Fault α) : (ofExcept result).runOn id l tickets = ⟨l, tickets, .finished result, []⟩ := by
  cases result <;> rfl

theorem runOn_left (result : Except Fault α) (left : l.leave? t = some (l', called)) :
    ((ofExcept result).thenRelease t.key).runOn id l [t] = ⟨l', [], .finished result, called.toList⟩ := by
  cases result <;> simp [ofExcept, thenRelease, runOn, takeTicket, left]

theorem runOn_admitted (asked : l.ask id key = (l', t, true)) :
    (holding key work).runOn id l tickets = (work.thenRelease key).runOn id l' (t :: tickets) := by
  unfold holding
  rw [runOn, asked]
  rfl

theorem runOn_queued (work : Program α) (tickets : List Ticket) (asked : l.ask id key = (l', t, false)) :
    ∃ next, acquire key next = holding key work ∧ (holding key work).runOn id l tickets = ⟨l', tickets, .waiting t next, []⟩ := by
  refine ⟨_, rfl, ?_⟩
  unfold holding
  rw [runOn, asked]
  rfl

end RunningOn

end Program

open Program

theorem forall_reply {next : Except Fault ρ → Program α} {P : Program α → Prop} (goesOn : ∀ a, P (next (.ok a)))
    (fails : ∀ f, P (next (.error f))) : ∀ reply, P (next reply) := by
  intro reply
  cases reply with
  | ok a => exact goesOn a
  | error f => exact fails f

theorem asks_rules : Rules anything now e fun _ p => p.Asks where
  done _ _ := trivial
  handedOn _ := trivial
  raised _ _ _ := trivial
  asked _ _ _ _ _ goesOn := forall_reply fun a => goesOn a trivial

theorem keyed_rules : Rules anything now e fun _ p => p.Keyed where
  done _ _ := trivial
  handedOn _ := trivial
  raised _ _ _ := trivial
  asked _ _ _ _ _ goesOn := forall_reply fun a => goesOn a trivial

theorem keyed_reconcile (now : Moment) (e : Event) : (reconcile now e).Keyed :=
  (course_reconcile anything now e).follows keyed_rules fun _ _ work => ⟨_, work.follows asks_rules, rfl⟩

def Phase.Runs : Phase → Prop
  | .outside p => p.Keyed ∧ p.Plain
  | .door _ work => work.Asks ∧ work.Plain
  | .inside _ work => work.Asks ∧ work.Plain
  | .finished _ => True

inductive Phase.Stands : Phase → List Ticket → Stage Reconciliation → Prop where
  | fresh : (outside p).Stands [] (.fresh p)
  | outside : (outside (.ask q next)).Stands [] (.standing q next)
  | door (opens : acquire t.key next = holding t.key work) : (door t.key work).Stands [] (.waiting t next)
  | inside : (inside t.key (.ask q next)).Stands [t] (.standing q fun reply => (next reply).thenRelease t.key)
  | finished : (finished result).Stands [] (.finished result)

def Stage.place (tickets : List Ticket) : Stage α → Place
  | .waiting t _ => .waiting t
  | _ => match tickets with
    | [] => .away
    | t :: _ => .inside t

def Progress.place (p : Progress α) : Place := p.stage.place p.tickets

structure Lands (place : String → Place) (id : String) (now : Phase) (p : Progress Reconciliation) : Prop where
  runs : now.Runs
  stands : now.Stands p.tickets p.stage
  guards : p.lock.Guards (Function.update place id p.place)
  called : ∀ y ∈ p.called, p.lock.Calls (Function.update place id p.place) y

theorem Lands.from_entry {id : String} {now : Phase} (lands : Lands (Function.update place id old) id now p) : Lands place id now p := by
  obtain ⟨runs, stands, guards, called⟩ := lands
  rw [Function.update_idem] at guards called
  exact ⟨runs, stands, guards, called⟩

theorem KeyedLock.calls_update {l l' : KeyedLock String} {place : String → Place} {new : Place}
    (kept : ∀ key y, y ≠ x → (l.latchOf key).Calls y → (l'.latchOf key).Calls y) (calm : ∀ t, new ≠ .waiting t)
    (calls : l.Calls place y) : l'.Calls (Function.update place x new) y := by
  intro t waits
  by_cases same : y = x
  · subst same
    rw [Function.update_self] at waits
    exact absurd waits (calm t)
  · rw [Function.update_of_ne same] at waits
    exact kept t.key y same (calls t waits)

namespace Floor

variable {calls : List Calling} {f : Floor} {c : Calling} {l : KeyedLock String} {place : String → Place} {t : Ticket}
  {work p : Program Reconciliation}

theorem lands_inside (member : c ∈ calls) (here : f.phase c.id = .inside t.key work) (asks : work.Asks) (plain : work.Plain)
    (guards : l.Guards place) (inside : place c.id = .inside t) (clock : Moment.Clock now) :
    ∃ landed, Runs calls f (f.put c f.ledger landed) ∧
      Lands place c.id landed ((work.thenRelease t.key).runOn c.id l [t]) ∧
      ∀ y, l.Calls place y → ((work.thenRelease t.key).runOn c.id l [t]).lock.Calls
        (Function.update place c.id ((work.thenRelease t.key).runOn c.id l [t]).place) y := by
  rcases asks.cases with ⟨result, rfl⟩ | ⟨q, next, rfl⟩
  · obtain ⟨l', called, left, free, calling, kept⟩ := KeyedLock.guards_leave guards inside
    rw [runOn_left result left]
    refine ⟨.finished result, .single (.leave member here clock), ⟨trivial, .finished, free, ?_⟩, fun y => ?_⟩
    · intro y called
      exact calling y (Option.mem_toList.1 called)
    · exact KeyedLock.calls_update (fun key y _ => kept key y) nofun
  · have stays : Function.update place c.id (.inside t) = place := by
      rw [← inside, Function.update_eq_self]
    change ∃ landed, _ ∧ Lands place c.id landed ⟨l, [t], .standing q _, []⟩ ∧
      ∀ y, l.Calls place y → l.Calls (Function.update place c.id (.inside t)) y
    refine ⟨.inside t.key (.ask q next), ?_, ⟨⟨asks, plain⟩, .inside, ?_, nofun⟩, ?_⟩
    · rw [put_self here]
      exact .refl
    · change l.Guards (Function.update place c.id (.inside t))
      rw [stays]
      exact guards
    · rw [stays]
      exact fun y calls => calls

theorem lands_outside (member : c ∈ calls) (here : f.phase c.id = .outside p) (keyed : p.Keyed) (plain : p.Plain)
    (guards : l.Guards place) (away : place c.id = .away) (clock : Moment.Clock now)
    (knows : ∀ other ∈ calls, ∀ key, (f.phase other.id).Holds key → (place other.id).Inside key) :
    ∃ landed, Runs calls f (f.put c f.ledger landed) ∧ Lands place c.id landed (p.runOn c.id l []) := by
  have stays : Function.update place c.id .away = place := by
    rw [← away, Function.update_eq_self]
  rcases keyed.cases with ⟨result, rfl⟩ | ⟨q, next, rfl⟩ | ⟨key, work, rfl, asks⟩
  · rw [runOn_ofExcept]
    refine ⟨.finished result, .single (.stop member here clock), trivial, .finished, ?_, List.forall_mem_nil _⟩
    change l.Guards (Function.update place c.id .away)
    rw [stays]
    exact guards
  · refine ⟨.outside (.ask q next), ?_, ⟨keyed, plain⟩, .outside, ?_, List.forall_mem_nil _⟩
    · rw [put_self here]
      exact .refl
    · change l.Guards (Function.update place c.id .away)
      rw [stays]
      exact guards
  · have plainWork : work.Plain := plain_of_thenRelease (plain (.ok ()))
    have knocks : Step calls f (f.put c f.ledger (.door key work)) := .knock member here
    obtain ⟨l', n, asked, -⟩ := KeyedLock.guards_ask guards away key
    -- a key that is free lets the call in at once, so that it knocks and enters in one
    rcases asked with ⟨asked, entered, nobody⟩ | ⟨asked, waits⟩
    · have door := f.phase_put_self c f.ledger (.door key work)
      have enters : Step calls (f.put c f.ledger (.door key work)) (f.put c f.ledger (.inside key work)) := by
        rw [← put_put f c f.ledger f.ledger (.door key work) (.inside key work)]
        refine .enter member door fun other there inside => ?_
        by_cases same : other.id = c.id
        · rw [same, door] at inside
          exact inside
        · refine nobody other.id (knows other there key ?_)
          rwa [phase_put_of_ne same] at inside
      obtain ⟨landed, further, lands, -⟩ := lands_inside (t := ⟨key, n⟩) (f := f.put c f.ledger (.inside key work)) member
        (phase_put_self ..) asks plainWork entered (Function.update_self ..) clock
      rw [runOn_admitted asked]
      rw [put_put] at further
      exact ⟨landed, .head knocks (.head enters further), lands.from_entry⟩
    · obtain ⟨next, opens, runs⟩ := runOn_queued work [] asked
      rw [runs]
      exact ⟨.door key work, .single knocks, ⟨asks, plainWork⟩, .door (t := ⟨key, n⟩) opens, waits, List.forall_mem_nil _⟩

end Floor

end SubscriptionLedger
