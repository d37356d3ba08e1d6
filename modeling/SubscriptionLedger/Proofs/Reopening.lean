import SubscriptionLedger.Proofs.Resubscription
import SubscriptionLedger.Proofs.Tending

namespace SubscriptionLedger

namespace World

def Reaches (w w' : World α) : Prop := ∃ moves, w.moves? moves = some w'

section Moving

variable {u v w w' : World α} {m : Move}

theorem moves?_append (w : World α) (first later : List Move) :
    w.moves? (first ++ later) = (w.moves? first).bind (moves? · later) := by
  induction first generalizing w with
  | nil => rfl
  | cons m rest ih =>
    change (w.move? m).bind (moves? · (rest ++ later)) = ((w.move? m).bind (moves? · rest)).bind (moves? · later)
    rw [Option.bind_assoc]
    exact congrArg _ (funext fun next => ih next)

theorem move?_now (w : World α) (now : Moment) (m : Move) :
    ({ w with now } : World α).move? m = (w.move? m).map ({ · with now }) := by
  unfold move?
  rw [Option.map_bind]
  refine congrArg _ (funext fun t => ?_)
  dsimp only [Function.comp]
  rw [Option.map_map]
  rfl

theorem moves?_now (w : World α) (now : Moment) (moves : List Move) :
    ({ w with now } : World α).moves? moves = (w.moves? moves).map ({ · with now }) := by
  induction moves generalizing w with
  | nil => rfl
  | cons m rest ih =>
    unfold moves?
    rw [move?_now, Option.bind_map, Option.map_bind]
    exact congrArg _ (funext fun next => ih next)

theorem Reaches.refl (w : World α) : w.Reaches w := ⟨[], rfl⟩

theorem Reaches.single (moved : w.move? m = some w') : w.Reaches w' := by
  refine ⟨[m], ?_⟩
  unfold moves?
  rw [moved]
  rfl

theorem Reaches.trans (one : u.Reaches v) (two : v.Reaches w) : u.Reaches w := by
  obtain ⟨first, reached⟩ := one
  obtain ⟨later, ends⟩ := two
  refine ⟨first ++ later, ?_⟩
  rw [moves?_append, reached]
  exact ends

theorem Reaches.reset (reaches : w.Reaches w') (now : Moment) : ({ w with now } : World α).Reaches { w' with now } := by
  obtain ⟨moves, reached⟩ := reaches
  refine ⟨moves, ?_⟩
  rw [moves?_now, reached]
  rfl

end Moving

section Turns

variable {w w' : World Reconciliation} {t : Job Reconciliation} {p : Progress Reconciliation} {s : Store} {id : String}

theorem Tended.reaches (tended : w.Tended) (reaches : w.Reaches w') : w'.Tended := by
  obtain ⟨moves, reached⟩ := reaches
  exact tended.moves reached

theorem Tended.calls_settle (tended : w.Tended) (known : w.job? id = some t) (store : Store)
    (calls : p.lock.Calls (Function.update w.place id p.place) y) :
    ((({ w with store } : World Reconciliation).settle t p).1.lock 0).Calls
      (({ w with store } : World Reconciliation).settle t p).1.place y := by
  obtain ⟨bench, -⟩ := tended.jobs id t known
  have named := id_of_job? known
  subst named
  rw [place_settle known, ← bench, lock_settle (by rw [bench, tended.bench]; exact Nat.one_pos)]
  exact calls

theorem Tended.acts (tended : w.Tended) (known : w.job? id = some t) (act : Act)
    (acts : t.act? w.store (w.lock 0) act = some (s, p)) :
    w.Reaches (({ w with store := s } : World Reconciliation).settle t p).1 ∧
      (({ w with store := s } : World Reconciliation).settle t p).1.Calls p.called := by
  refine ⟨.single (m := ⟨id, act⟩) ?_, fun y there => tended.calls_settle known s ((tended.act known acts).called y there)⟩
  unfold move?
  rw [known, Option.bind_some, (tended.jobs id t known).1, acts]
  rfl

theorem Tended.resume (tended : w.Tended) (id : String) (called : (w.lock 0).Calls w.place id) :
    w.Reaches (w.resume id).1 ∧ (w.resume id).1.Calls (w.resume id).2 ∧
      ∀ y, (w.lock 0).Calls w.place y → ((w.resume id).1.lock 0).Calls (w.resume id).1.place y := by
  unfold World.resume
  cases known : w.job? id with
  | none => exact ⟨.refl w, nofun, fun _ calls => calls⟩
  | some t =>
    obtain ⟨bench, here, keyed, stands⟩ := tended.jobs id t known
    have there := place_job known
    have named := id_of_job? known
    obtain ⟨name, slot, tickets, stage⟩ := t
    dsimp only at bench stands there named
    subst bench named
    cases stands with
    | @door next work ticket opens =>
      have goes : next (.ok ()) = work.thenRelease ticket.key := congrFun (Program.acquire.inj opens).2 (.ok ())
      obtain ⟨-, kept⟩ := tends_enter keyed tended.watches there called
      rw [← goes] at kept
      obtain ⟨reaches, calling⟩ := tended.acts known .enter (if_pos ((tended.watches.marked_iff there).2 called))
      exact ⟨reaches, calling, fun y calls => tended.calls_settle known w.store (kept y calls)⟩
    | _ => exact ⟨.refl w, nofun, fun _ calls => calls⟩

theorem Tended.resumeAll (tended : w.Tended) (fuel : Nat) (calling : w.Calls called) : w.Reaches (w.resumeAll fuel called) := by
  induction fuel generalizing w called with
  | zero => exact .refl w
  | succ fuel ih =>
    cases called with
    | nil => exact .refl w
    | cons id rest =>
      obtain ⟨goes, more, kept⟩ := tended.resume id (calling id (.head _))
      refine goes.trans (ih (tended.reaches goes) fun y there => ?_)
      rcases List.mem_append.1 there with old | new
      · exact kept y (calling y (.tail _ old))
      · exact more y new

theorem Tended.advance (tended : w.Tended) (id : String) : w.Reaches (w.advance id).1 := by
  unfold World.advance
  cases known : w.job? id with
  | none => exact .refl w
  | some t =>
    have bench := (tended.jobs id t known).1
    dsimp only
    cases stage : t.stage with
    | fresh work =>
      obtain ⟨goes, calling⟩ := tended.acts known .start (p := work.runOn t.id (w.lock t.bench) t.tickets) (by
        unfold Job.act?
        rw [stage, bench])
      exact goes.trans ((tended.reaches goes).resumeAll _ calling)
    | standing q next =>
      obtain ⟨goes, calling⟩ := tended.acts known (.call w.now .carried) (s := (w.store.ask w.now q).2)
        (p := (next (w.store.ask w.now q).1).runOn t.id (w.lock t.bench) t.tickets) (by
          unfold Job.act?
          rw [stage, bench]
          rfl)
      exact goes.trans ((tended.reaches goes).resumeAll _ calling)
    | waiting | finished => exact .refl w

theorem Tended.follow (tended : w.Tended) (schedule : List (Moment × String)) :
    w.Reaches { w.follow schedule with now := w.now } := by
  induction schedule generalizing w with
  | nil => exact .refl w
  | cons x rest ih =>
    obtain ⟨now, id⟩ := x
    have reset : Tended { w with now } := ⟨tended.bench, tended.ids, tended.watches, tended.jobs⟩
    have goes := reset.advance id
    exact (goes.reset w.now).trans ((ih (reset.reaches goes)).reset w.now)

end Turns

end World

variable {τ : Type} {α : Type}

-- A lock behind latches that are no longer known.
def KeyedLock.behind (old : List (Latch τ)) (l : KeyedLock τ) : KeyedLock τ :=
  ⟨old ++ l.latches, l.current.map fun entry => (entry.1, old.length + entry.2), l.users⟩

def Ticket.behind (n : Nat) (t : Ticket) : Ticket := { t with latch := n + t.latch }

def Stage.behind (n : Nat) : Stage α → Stage α
  | .waiting t next => .waiting (t.behind n) next
  | stage => stage

def Job.behind (n : Nat) (t : Job α) : Job α :=
  { t with tickets := t.tickets.map (·.behind n), stage := t.stage.behind n }

def Progress.behind (old : List (Latch String)) (p : Progress α) : Progress α :=
  ⟨p.lock.behind old, p.tickets.map (·.behind old.length), p.stage.behind old.length, p.called⟩

def World.behind (old : List (Latch String)) (w : World α) : World α :=
  { w with locks := w.locks.map (·.behind old), jobs := w.jobs.map (·.behind old.length) }

namespace KeyedLock

variable {old : List (Latch τ)} {l : KeyedLock τ} {key : String} {t : Ticket} {n : Nat}

section Tables

variable (n : Nat) (key : String) (table : List (String × Nat))

theorem find?_behind : find? key (table.map fun entry => (entry.1, n + entry.2)) = (find? key table).map (n + ·) := by
  unfold find?
  rw [List.find?_map, Option.map_map, Option.map_map]
  rfl

theorem set_behind (value : Nat) : set key (n + value) (table.map fun entry => (entry.1, n + entry.2)) =
    (set key value table).map fun entry => (entry.1, n + entry.2) := by
  induction table with
  | nil => rfl
  | cons entry rest ih =>
    rw [List.map_cons, set, set]
    split
    · rfl
    · rw [ih]
      rfl

theorem erase_behind : erase key (table.map fun entry => (entry.1, n + entry.2)) =
    (erase key table).map fun entry => (entry.1, n + entry.2) := by
  unfold erase
  rw [List.eraseP_map]
  rfl

end Tables

theorem latch_behind (old : List (Latch τ)) (l : KeyedLock τ) (n : Nat) : (l.behind old).latch (old.length + n) = l.latch n := by
  unfold latch behind
  rw [List.getElem?_append_right (Nat.le_add_right _ _), Nat.add_sub_cancel_left]

theorem setLatch_behind (old : List (Latch τ)) (l : KeyedLock τ) (n : Nat) (latch : Latch τ) :
    (l.behind old).setLatch (old.length + n) latch = (l.setLatch n latch).behind old := by
  unfold setLatch behind
  dsimp only
  rw [List.set_append_right _ _ (Nat.le_add_right _ _), Nat.add_sub_cancel_left]

theorem locate_behind (old : List (Latch τ)) (l : KeyedLock τ) (key : String) :
    (l.behind old).locate key = ((l.locate key).1.behind old, old.length + (l.locate key).2) := by
  unfold locate
  rw [show find? key (l.behind old).current = _ from find?_behind old.length key l.current]
  cases find? key l.current with
  | some n => rfl
  | none =>
    dsimp only [Option.map_none]
    unfold behind
    dsimp only
    rw [List.length_append, set_behind, List.append_assoc]

theorem countDown?_behind (old : List (Latch τ)) (l : KeyedLock τ) (key : String) :
    (l.behind old).countDown? key = (l.countDown? key).map (·.behind old) := by
  unfold countDown?
  rw [show (l.behind old).users = l.users from rfl]
  rcases find? key l.users with _ | _ | _ | n
  · rfl
  · rfl
  · dsimp only
    rw [show find? key (l.behind old).current = _ from find?_behind old.length key l.current, Option.map_map, Option.map_map]
    refine congrArg (Option.map · _) (funext fun n => ?_)
    unfold behind
    dsimp only [Function.comp]
    rw [erase_behind]
  · rfl

theorem countUp_behind (old : List (Latch τ)) (l : KeyedLock τ) (key : String) :
    (l.behind old).countUp key = (l.countUp key).behind old := rfl

theorem ask_behind (old : List (Latch τ)) (l : KeyedLock τ) (task : τ) (key : String) :
    (l.behind old).ask task key =
      ((l.ask task key).1.behind old, (l.ask task key).2.1.behind old.length, (l.ask task key).2.2) := by
  unfold ask
  rw [locate_behind]
  dsimp only
  rw [countUp_behind, latch_behind, setLatch_behind]
  rfl

theorem leave?_behind (old : List (Latch τ)) (l : KeyedLock τ) (t : Ticket) :
    (l.behind old).leave? (t.behind old.length) = (l.leave? t).map fun left => (left.1.behind old, left.2) := by
  unfold leave? Ticket.behind
  dsimp only
  rw [latch_behind, setLatch_behind, countDown?_behind, Option.map_map, Option.map_map]
  rfl

variable [DecidableEq τ]

theorem enter_behind (old : List (Latch τ)) (l : KeyedLock τ) (task : τ) (t : Ticket) :
    (l.behind old).enter task (t.behind old.length) = (l.enter task t).behind old := by
  unfold enter Ticket.behind
  rw [latch_behind, setLatch_behind]

theorem withdraw_behind (old : List (Latch τ)) (l : KeyedLock τ) (task : τ) (t : Ticket) :
    (l.behind old).withdraw task (t.behind old.length) = (l.withdraw task t).behind old := by
  unfold withdraw Ticket.behind
  rw [latch_behind, setLatch_behind]

theorem abandon?_behind (old : List (Latch τ)) (l : KeyedLock τ) (task : τ) (t : Ticket) :
    (l.behind old).abandon? task (t.behind old.length) = (l.abandon? task t).map fun left => (left.1.behind old, left.2) := by
  unfold abandon? Ticket.behind
  dsimp only
  rw [latch_behind, setLatch_behind, countDown?_behind, Option.map_map, Option.map_map]
  rfl

end KeyedLock

section RunningOn

variable (old : List (Latch String))

theorem takeTicket_behind (n : Nat) (key : String) (tickets : List Ticket) :
    takeTicket key (tickets.map (·.behind n)) =
      ((takeTicket key tickets).1.map (·.behind n), (takeTicket key tickets).2.map (·.behind n)) := by
  unfold takeTicket
  rw [List.find?_map, List.eraseP_map]
  rfl

theorem runOn_behind (task : String) (l : KeyedLock String) (tickets : List Ticket) (p : Program α) :
    p.runOn task (l.behind old) (tickets.map (·.behind old.length)) = (p.runOn task l tickets).behind old := by
  induction p generalizing l tickets with
  | done | fail | ask => rfl
  | pay r next ih => exact ih _ l tickets
  | acquire key next ih =>
    unfold Program.runOn
    rw [KeyedLock.ask_behind]
    dsimp only
    split
    · exact ih _ _ (_ :: tickets)
    · rfl
  | release key next ih =>
    unfold Program.runOn
    rw [takeTicket_behind]
    obtain ⟨ticket, rest⟩ := takeTicket key tickets
    cases ticket with
    | none => exact ih l tickets
    | some ticket =>
      dsimp only [Option.map_some]
      rw [KeyedLock.leave?_behind]
      cases l.leave? ticket with
      | none => exact ih l rest
      | some left =>
        dsimp only [Option.map_some]
        rw [ih]
        rfl

theorem act?_behind (t : Job α) (s : Store) (l : KeyedLock String) (act : Act) :
    (t.behind old.length).act? s (l.behind old) act = (t.act? s l act).map fun done => (done.1, done.2.behind old) := by
  obtain ⟨id, bench, tickets, stage⟩ := t
  unfold Job.act? Job.behind
  dsimp only
  cases stage with
  | fresh p =>
    cases act with
    | start => exact congrArg some (congrArg (Prod.mk s) (runOn_behind old id l tickets p))
    | _ => rfl
  | standing q next =>
    cases act with
    | call now handling => exact congrArg some (congrArg (Prod.mk _) (runOn_behind old id l tickets _))
    | _ => rfl
  | waiting ticket next =>
    cases act with
    | enter =>
      dsimp only [Stage.behind]
      rw [show (l.behind old).latch (ticket.behind old.length).latch = _ from KeyedLock.latch_behind old l ticket.latch,
        KeyedLock.enter_behind]
      split
      · exact congrArg some (congrArg (Prod.mk s) (runOn_behind old id _ (ticket :: tickets) _))
      · rfl
    | giveUp =>
      dsimp only [Stage.behind]
      rw [show (l.behind old).latch (ticket.behind old.length).latch = _ from KeyedLock.latch_behind old l ticket.latch,
        KeyedLock.abandon?_behind]
      split
      · rw [Option.map_map, Option.map_map]
        exact congrArg (Option.map · _) (funext fun left => congrArg (Prod.mk s) (runOn_behind old id left.1 tickets _))
      · rfl
    | callOff =>
      dsimp only [Stage.behind]
      rw [KeyedLock.withdraw_behind]
      rfl
    | _ => rfl
  | finished => cases act <;> rfl

end RunningOn

def Stage.result? : Stage α → Option (Except Fault α)
  | .finished result => some result
  | _ => none

namespace World

-- What can be seen of a world: the store, and what the tasks have come to.
def shown (w : World α) : Store × List (String × Option (Except Fault α)) :=
  (w.store, w.jobs.map fun t => (t.id, t.stage.result?))

def reopened (w : World Reconciliation) (later : List Calling) : World Reconciliation :=
  { w with jobs := later.map fun c => ⟨c.id, 0, [], .fresh c.program⟩ }

structure Single (w : World α) : Prop where
  lock : w.locks.length = 1
  jobs : ∀ t ∈ w.jobs, t.bench = 0

variable {old : List (Latch String)} {w w' : World α} {m : Move}

theorem shown_behind (old : List (Latch String)) (w : World α) : (w.behind old).shown = w.shown := by
  unfold shown behind
  dsimp only
  rw [List.map_map]
  refine congrArg (Prod.mk w.store) (List.map_congr_left fun t _ => ?_)
  obtain ⟨id, bench, tickets, stage⟩ := t
  cases stage <;> rfl

theorem job?_behind (old : List (Latch String)) (w : World α) (id : String) :
    (w.behind old).job? id = (w.job? id).map (·.behind old.length) := by
  unfold job? behind
  rw [List.find?_map]
  rfl

theorem lock_behind (bench : n < w.locks.length) : (w.behind old).lock n = (w.lock n).behind old := by
  unfold lock behind
  dsimp only
  rw [List.getElem?_map, List.getElem?_eq_getElem bench]
  rfl

theorem settle_behind (old : List (Latch String)) (w : World α) (store : Store) (t : Job α) (p : Progress α) :
    ({ w.behind old with store } : World α).settle (t.behind old.length) (p.behind old) =
      ((({ w with store } : World α).settle t p).1.behind old, p.called) := by
  unfold settle behind
  dsimp only
  rw [List.map_set, List.map_map, List.map_map]
  refine congrArg (fun jobs => (({ w with store, locks := _, jobs } : World α), p.called)) (List.map_congr_left fun u _ => ?_)
  dsimp only [Function.comp]
  by_cases same : u.id = t.id
  · rw [if_pos same]
    exact if_pos same
  · rw [if_neg same]
    exact if_neg same

theorem Single.move (single : w.Single) (moved : w.move? m = some w') : w'.Single := by
  unfold move? at moved
  obtain ⟨t, known, moved⟩ := Option.bind_eq_some_iff.1 moved
  obtain ⟨⟨s, p⟩, -, rfl⟩ := Option.map_eq_some_iff.1 moved
  have bench := single.jobs t (List.mem_of_find?_eq_some known)
  refine ⟨List.length_set.trans single.lock, fun u there => ?_⟩
  obtain ⟨v, old, rfl⟩ := List.mem_map.1 there
  split
  · exact bench
  · exact single.jobs v old

theorem move?_behind (old : List (Latch String)) (single : w.Single) (m : Move) :
    (w.behind old).move? m = (w.move? m).map (·.behind old) := by
  unfold move?
  rw [job?_behind]
  cases known : w.job? m.id with
  | none => rfl
  | some t =>
    have bench : t.bench < w.locks.length := by
      rw [single.lock, single.jobs t (List.mem_of_find?_eq_some known)]
      exact Nat.one_pos
    dsimp only [Option.map_some, Option.bind_some]
    rw [show (w.behind old).lock (t.behind old.length).bench = _ from lock_behind bench, act?_behind, Option.map_map, Option.map_map]
    refine congrArg (Option.map · _) (funext fun done => ?_)
    exact congrArg Prod.fst (settle_behind old w done.1 t done.2)

theorem moves?_behind (old : List (Latch String)) (single : w.Single) (moves : List Move) :
    ((w.behind old).moves? moves).map shown = (w.moves? moves).map shown := by
  induction moves generalizing w with
  | nil => exact congrArg some (shown_behind old w)
  | cons m rest ih =>
    unfold moves?
    rw [move?_behind old single]
    cases moved : w.move? m with
    | none => rfl
    | some next => exact ih (single.move moved)

theorem reopened_eq {w : World Reconciliation} (single : w.locks.length = 1) (current : (w.lock 0).current = [])
    (users : (w.lock 0).users = []) (later : List Calling) :
    w.reopened later = (World.opened w.now w.store later).behind (w.lock 0).latches := by
  have locks : w.locks = [w.lock 0] := by
    obtain ⟨l, only⟩ := List.length_eq_one_iff.1 single
    unfold lock
    rw [only]
    rfl
  have empty : w.lock 0 = KeyedLock.empty.behind (w.lock 0).latches := by
    generalize w.lock 0 = l at current users
    obtain ⟨latches, current', users'⟩ := l
    cases current
    cases users
    unfold KeyedLock.behind KeyedLock.empty
    rw [List.append_nil]
    rfl
  have same : w.locks = [KeyedLock.empty].map (·.behind (w.lock 0).latches) := by
    rw [List.map_singleton, ← empty]
    exact locks
  unfold reopened behind opened
  rw [List.map_map, ← same]
  rfl

theorem single_opened (now : Moment) (s : Store) (calls : List Calling) : (World.opened now s calls).Single := by
  refine ⟨rfl, fun t there => ?_⟩
  obtain ⟨c, -, rfl⟩ := List.mem_map.1 there
  rfl

-- Every schedule is made of moves. And wherever moves lead, whatever has failed on the way and whoever has been
-- called off: as long as somebody has not finished, somebody can go on, and nobody waits for a key who has one;
-- and when all have finished, the lock is empty, and later calls come to what they come to with a new lock.
theorem never_stuck {calls : List Calling} (ids : (calls.map (·.id)).Nodup) (now : Moment) (s : Store) :
    (∀ schedule, (World.opened now s calls).Reaches { (World.opened now s calls).follow schedule with now }) ∧
    ∀ w, (World.opened now s calls).Reaches w →
      (∀ t ∈ w.jobs, isFinished t = false → ∃ m : Move, m.act.Own ∧ (w.move? m).isSome) ∧
      (∀ t ∈ w.jobs, ∀ ticket next, t.stage = .waiting ticket next → t.tickets = []) ∧
      (w.jobs.all isFinished → (w.lock 0).current = [] ∧ (w.lock 0).users = [] ∧
        ∀ later turns, ((w.reopened later).moves? turns).map shown = ((World.opened w.now w.store later).moves? turns).map shown) := by
  have begun := tended_opened now s ids
  refine ⟨begun.follow, fun w reached => ?_⟩
  have tended := begun.reaches reached
  refine ⟨fun t member => tended.goesOn member, fun t member _ _ => tended.waits_bare member, fun finished => ?_⟩
  obtain ⟨current, users⟩ := tended.leaves finished
  refine ⟨current, users, fun later turns => ?_⟩
  rw [reopened_eq tended.bench current users later]
  exact moves?_behind _ (single_opened w.now w.store later) turns

end World

namespace Shop

def answered : Handling :=
  .answered (fun q => ((ledger .active "team" "team").ask ⟨0, some 0⟩ q).1) (ledger .active "team" "team").store

-- The end is inside when the payment comes to the door; both are called off, the one at a call and the other
-- while it waits.
def calledOff : List Move :=
  [⟨"ending", .start⟩, ⟨"ending", .call ⟨0, some 0⟩ answered⟩, ⟨"payment", .start⟩, ⟨"payment", .call ⟨0, some 0⟩ answered⟩,
    ⟨"payment", .call ⟨0, some 0⟩ answered⟩, ⟨"payment", .callOff⟩, ⟨"ending", .call ⟨0, some 0⟩ (.lost .cancelled)⟩,
    ⟨"payment", .giveUp⟩]

theorem calledOff_leaves : ∃ w, (World.opened ⟨0, some 0⟩ (ledger .active "team" "team").store [payment, ending]).moves? calledOff = some w ∧
    (w.lock 0).current = [] ∧ (w.lock 0).users = [] ∧
      ∀ later turns, ((w.reopened later).moves? turns).map World.shown =
        ((World.opened w.now w.store later).moves? turns).map World.shown := by
  have goes : (((World.opened ⟨0, some 0⟩ (ledger .active "team" "team").store [payment, ending]).moves? calledOff).any fun w =>
      w.jobs.all World.isFinished) = true := by decide +kernel
  obtain ⟨w, reached, finished⟩ := (Option.any_eq_true _ _).1 goes
  have ids : ([payment, ending].map (·.id)).Nodup := by decide
  obtain ⟨-, wherever⟩ := World.never_stuck ids ⟨0, some 0⟩ (ledger .active "team" "team").store
  obtain ⟨-, -, leaves⟩ := wherever w ⟨calledOff, reached⟩
  exact ⟨w, reached, leaves finished⟩

end Shop
end SubscriptionLedger
