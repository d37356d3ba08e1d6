import SubscriptionLedger.Proofs.Interleaving
import SubscriptionLedger.Proofs.Watch

namespace SubscriptionLedger

def Phase.Keyed : Phase → Prop
  | .outside p => p.Keyed
  | .door _ work | .inside _ work => work.Asks
  | .finished _ => True

structure Tends (place : String → Place) (id : String) (p : Progress Reconciliation) : Prop where
  stands : ∃ here : Phase, here.Keyed ∧ here.Stands p.tickets p.stage
  watches : p.lock.Watches (Function.update place id p.place)
  called : ∀ y ∈ p.called, p.lock.Calls (Function.update place id p.place) y

theorem Tends.from_entry {id : String} {p : Progress Reconciliation} (tends : Tends (Function.update place id old) id p) :
    Tends place id p := by
  obtain ⟨stands, watches, called⟩ := tends
  rw [Function.update_idem] at watches called
  exact ⟨stands, watches, called⟩

section RunningOn

open Program

variable {l : KeyedLock String} {place : String → Place} {id : String} {t : Ticket} {work p : Program Reconciliation}

theorem tends_here {p : Progress Reconciliation} (here : Phase) (keyed : here.Keyed) (stands : here.Stands p.tickets p.stage)
    (stays : place id = p.place) (watches : p.lock.Watches place) (silent : p.called = []) : Tends place id p := by
  refine ⟨⟨here, keyed, stands⟩, ?_, ?_⟩
  · rw [← stays, Function.update_eq_self]
    exact watches
  · rw [silent]
    exact List.forall_mem_nil _

theorem tends_inside (asks : work.Asks) (watches : l.Watches place) (inside : place id = .inside t) :
    Tends place id ((work.thenRelease t.key).runOn id l [t]) ∧
      ∀ y, l.Calls place y → ((work.thenRelease t.key).runOn id l [t]).lock.Calls
        (Function.update place id ((work.thenRelease t.key).runOn id l [t]).place) y := by
  rcases asks.cases with ⟨result, rfl⟩ | ⟨q, next, rfl⟩
  · obtain ⟨l', called, left, free, calling, kept⟩ := KeyedLock.watches_leave watches inside
    rw [runOn_left result left]
    refine ⟨⟨⟨.finished result, trivial, .finished⟩, free, fun y there => calling y (Option.mem_toList.1 there)⟩, fun y => ?_⟩
    exact KeyedLock.calls_update (fun key y _ => kept key y) nofun
  · refine ⟨tends_here (.inside t.key (.ask q next)) asks .inside inside watches rfl, fun y calls => ?_⟩
    change l.Calls (Function.update place id (.inside t)) y
    rw [← inside, Function.update_eq_self]
    exact calls

theorem tends_enter (asks : work.Asks) (watches : l.Watches place) (waits : place id = .waiting t) (called : l.Calls place id) :
    Tends place id ((work.thenRelease t.key).runOn id (l.enter id t) [t]) ∧
      ∀ y, l.Calls place y → ((work.thenRelease t.key).runOn id (l.enter id t) [t]).lock.Calls
        (Function.update place id ((work.thenRelease t.key).runOn id (l.enter id t) [t]).place) y := by
  obtain ⟨entered, waiting⟩ := KeyedLock.watches_enter watches waits called
  obtain ⟨tends, kept⟩ := tends_inside asks entered (Function.update_self ..)
  refine ⟨tends.from_entry, fun y calls => ?_⟩
  have still := kept y (KeyedLock.calls_update waiting nofun calls)
  rw [Function.update_idem] at still
  exact still

theorem tends_outside (keyed : p.Keyed) (watches : l.Watches place) (away : place id = .away) :
    Tends place id (p.runOn id l []) := by
  rcases keyed.cases with ⟨result, rfl⟩ | ⟨q, next, rfl⟩ | ⟨key, work, rfl, asks⟩
  · rw [runOn_ofExcept]
    exact tends_here (.finished result) trivial .finished away watches rfl
  · exact tends_here (.outside (.ask q next)) keyed .outside away watches rfl
  · obtain ⟨l', n, ⟨asked, entered⟩ | ⟨asked, waits⟩⟩ := KeyedLock.watches_ask watches away key
    · rw [runOn_admitted asked]
      exact (tends_inside (t := ⟨key, n⟩) asks entered (Function.update_self ..)).1.from_entry
    · obtain ⟨next, opens, runs⟩ := runOn_queued work [] asked
      rw [runs]
      exact ⟨⟨.door key work, asks, .door (t := ⟨key, n⟩) opens⟩, waits, List.forall_mem_nil _⟩

end RunningOn

namespace World

variable {w w' : World Reconciliation} {t : Job Reconciliation} {p : Progress Reconciliation} {s : Store} {id : String} {m : Move}

-- A world with one lock, which watches over all jobs.
structure Tended (w : World Reconciliation) : Prop where
  bench : w.locks.length = 1
  ids : (w.jobs.map (·.id)).Nodup
  watches : (w.lock 0).Watches w.place
  jobs : ∀ id t, w.job? id = some t → t.bench = 0 ∧ ∃ here : Phase, here.Keyed ∧ here.Stands t.tickets t.stage

theorem ids_settle (w : World Reconciliation) (t : Job Reconciliation) (p : Progress Reconciliation) (store : Store) :
    (({ w with store } : World Reconciliation).settle t p).1.jobs.map (·.id) = w.jobs.map (·.id) := by
  unfold settle
  rw [List.map_map]
  refine List.map_congr_left fun u _ => ?_
  dsimp only [Function.comp]
  split
  · rename_i same
    exact same.symm
  · rfl

theorem Tended.settle (tended : w.Tended) (known : w.job? t.id = some t) (tends : Tends w.place t.id p) (store : Store) :
    ({ w with store }.settle t p).1.Tended := by
  obtain ⟨bench, -⟩ := tended.jobs t.id t known
  refine ⟨?_, ?_, ?_, ?_⟩
  · change (w.locks.set t.bench p.lock).length = 1
    rw [List.length_set]
    exact tended.bench
  · rw [ids_settle]
    exact tended.ids
  · rw [place_settle known, ← bench, lock_settle (by rw [bench, tended.bench]; exact Nat.one_pos)]
    exact tends.watches
  · intro other u there
    rw [job?_settle known] at there
    by_cases here : other = t.id
    · rw [if_pos here] at there
      cases there
      exact ⟨bench, tends.stands⟩
    · rw [if_neg here] at there
      exact tended.jobs other u there

theorem Tended.act (tended : w.Tended) (known : w.job? id = some t) {act : Act}
    (acts : t.act? w.store (w.lock 0) act = some (s, p)) : Tends w.place id p := by
  obtain ⟨-, here, keyed, stands⟩ := tended.jobs id t known
  have watches := tended.watches
  have there := place_job known
  have named := id_of_job? known
  obtain ⟨name, bench, tickets, stage⟩ := t
  dsimp only at stands there named
  subst named
  unfold Job.act? at acts
  cases stands with
  | fresh =>
    cases act with
    | start =>
      cases acts
      exact tends_outside keyed watches there
    | callOff =>
      cases acts
      exact tends_here (.finished _) trivial .finished there watches rfl
    | _ => cases acts
  | outside =>
    cases act with
    | call now handling =>
      cases acts
      exact tends_outside (keyed _) watches there
    | _ => cases acts
  | @door next work ticket opens =>
    cases act with
    | enter =>
      dsimp only at acts
      split at acts
      · rename_i marked
        cases acts
        rw [show next (.ok ()) = work.thenRelease ticket.key from congrFun (Program.acquire.inj opens).2 (.ok ())]
        exact (tends_enter keyed watches there ((watches.marked_iff there).1 marked)).1
      · cases acts
    | giveUp =>
      obtain ⟨l', called, gone, free⟩ := KeyedLock.watches_giveUp watches there
      have stops : next (.error .cancelled) = .fail .cancelled := congrFun (Program.acquire.inj opens).2 (.error .cancelled)
      dsimp only at acts
      rw [gone, stops] at acts
      split at acts
      · cases acts
        exact ⟨⟨.finished _, trivial, .finished⟩, free, List.forall_mem_nil _⟩
      · cases acts
    | callOff =>
      cases acts
      exact tends_here (.door ticket.key work) keyed (.door opens) there (KeyedLock.watches_withdraw watches there) rfl
    | _ => cases acts
  | inside =>
    cases act with
    | call now handling =>
      cases acts
      exact (tends_inside (keyed _) watches there).1
    | _ => cases acts
  | finished => cases act <;> cases acts

theorem Tended.move (tended : w.Tended) (moved : w.move? m = some w') : w'.Tended := by
  unfold move? at moved
  obtain ⟨t, known, moved⟩ := Option.bind_eq_some_iff.1 moved
  obtain ⟨⟨s, p⟩, acts, rfl⟩ := Option.map_eq_some_iff.1 moved
  have named := id_of_job? known
  rw [(tended.jobs _ t known).1] at acts
  have tends := tended.act known acts
  rw [← named] at known tends
  exact tended.settle known tends s

theorem Tended.moves {moves : List Move} (tended : w.Tended) (moved : w.moves? moves = some w') : w'.Tended := by
  induction moves generalizing w with
  | nil =>
    cases moved
    exact tended
  | cons m rest ih =>
    obtain ⟨next, first, later⟩ := Option.bind_eq_some_iff.1 moved
    exact ih (tended.move first) later

theorem tended_opened (now : Moment) (s : Store) {calls : List Calling} (ids : (calls.map (·.id)).Nodup) :
    (World.opened now s calls).Tended := by
  have away : (World.opened now s calls).place = fun _ => .away := by
    funext id
    unfold place
    rw [job?_opened]
    cases calls.find? (·.id = id) <;> rfl
  refine ⟨rfl, ?_, ?_, ?_⟩
  · unfold opened
    rw [List.map_map]
    exact ids
  · rw [away]
    exact KeyedLock.empty_watches
  · intro id t known
    rw [job?_opened] at known
    obtain ⟨c, -, rfl⟩ := Option.map_eq_some_iff.1 known
    exact ⟨rfl, .outside c.program, keyed_reconcile c.reading c.event, .fresh⟩

theorem Tended.job?_of_mem (tended : w.Tended) (member : t ∈ w.jobs) : w.job? t.id = some t :=
  Ledger.find?_of_only member (decide_eq_true rfl) fun _ there same =>
    List.inj_on_of_nodup_map tended.ids there member (of_decide_eq_true same)

theorem Tended.waits_bare (tended : w.Tended) (member : t ∈ w.jobs) (waits : t.stage = .waiting ticket next) : t.tickets = [] := by
  obtain ⟨-, here, -, stands⟩ := tended.jobs t.id t (tended.job?_of_mem member)
  rw [waits] at stands
  generalize t.tickets = tickets at stands
  cases stands
  rfl

theorem isSome_move? (known : w.job? m.id = some t) (acts : (t.act? w.store (w.lock t.bench) m.act).isSome) :
    (w.move? m).isSome := by
  unfold move?
  rw [known, Option.bind_some, Option.isSome_map]
  exact acts

theorem Tended.stands_of_inside (tended : w.Tended) (inside : (w.place id).Inside key) :
    ∃ t q next, w.job? id = some t ∧ t.stage = .standing q next := by
  unfold place at inside
  cases known : w.job? id with
  | none =>
    rw [known] at inside
    exact inside.elim
  | some t =>
    rw [known] at inside
    obtain ⟨-, here, -, stands⟩ := tended.jobs id t known
    obtain ⟨name, bench, tickets, stage⟩ := t
    dsimp only [Option.map_some, Option.getD_some] at inside stands
    cases stands with
    | inside => exact ⟨_, _, _, rfl, rfl⟩
    | _ => exact inside.elim

theorem job_of_waiting (waits : w.place id = .waiting ticket) : ∃ t next, w.job? id = some t ∧ t.stage = .waiting ticket next := by
  unfold place at waits
  cases known : w.job? id with
  | none =>
    rw [known] at waits
    cases waits
  | some t =>
    rw [known] at waits
    obtain ⟨name, bench, tickets, stage⟩ := t
    dsimp only [Option.map_some, Option.getD_some] at waits
    cases stage with
    | waiting ticket' next =>
      cases waits
      exact ⟨_, next, rfl, rfl⟩
    | _ => cases tickets <;> cases waits

theorem Tended.wakes (tended : w.Tended) (waits : w.place id = .waiting ticket)
    (marked : ((w.lock 0).latch ticket.latch).markOf? id = some mark) (awake : mark ≠ .asleep) :
    ∃ m : Move, m.act.Own ∧ (w.move? m).isSome := by
  obtain ⟨t, next, known, stage⟩ := job_of_waiting waits
  obtain ⟨bench, -⟩ := tended.jobs id t known
  have named := id_of_job? known
  subst named
  cases mark with
  | asleep => exact absurd rfl awake
  | called =>
    refine ⟨⟨t.id, .enter⟩, trivial, isSome_move? known ?_⟩
    unfold Job.act?
    rw [stage, bench]
    dsimp only
    rw [if_pos marked]
    rfl
  | withdrawn | calledWithdrawn =>
    obtain ⟨l', called, gone, -⟩ := KeyedLock.watches_giveUp tended.watches waits
    refine ⟨⟨t.id, .giveUp⟩, trivial, isSome_move? known ?_⟩
    unfold Job.act?
    rw [stage, bench]
    dsimp only
    rw [marked, gone]
    rfl

-- As long as somebody has not finished, somebody can go on.
theorem Tended.goesOn (tended : w.Tended) (member : t ∈ w.jobs) (unfinished : isFinished t = false) :
    ∃ m : Move, m.act.Own ∧ (w.move? m).isSome := by
  by_cases standing : ∃ id u q next, w.job? id = some u ∧ u.stage = .standing q next
  · obtain ⟨id, u, q, next, known, stage⟩ := standing
    refine ⟨⟨id, .call w.now .carried⟩, trivial, isSome_move? known ?_⟩
    unfold Job.act?
    rw [stage]
    rfl
  have known := tended.job?_of_mem member
  unfold isFinished at unfinished
  cases stage : t.stage with
  | fresh p =>
    refine ⟨⟨t.id, .start⟩, trivial, isSome_move? known ?_⟩
    unfold Job.act?
    rw [stage]
    rfl
  | standing q next => exact absurd ⟨t.id, t, q, next, known, stage⟩ standing
  | waiting ticket next =>
    -- nobody is inside of the key, so the first one in its queue is awake
    have waits : (w.place t.id).Waiting ticket.key := by
      rw [place_job known, stage]
      rfl
    obtain ⟨id, ticket', mark, there, marked, awake⟩ := tended.watches.first waits fun y inside => by
      obtain ⟨u, q, next, known, stands⟩ := tended.stands_of_inside inside
      exact standing ⟨y, u, q, next, known, stands⟩
    exact tended.wakes there marked awake
  | finished result =>
    rw [stage] at unfinished
    cases unfinished

theorem Tended.leaves (tended : w.Tended) (finished : w.jobs.all isFinished) :
    (w.lock 0).current = [] ∧ (w.lock 0).users = [] := by
  refine tended.watches.toGuards.idle fun id => ?_
  unfold place
  cases known : w.job? id with
  | none => rfl
  | some t =>
    have ended := List.all_eq_true.1 finished t (List.mem_of_find?_eq_some known)
    obtain ⟨-, here, -, stands⟩ := tended.jobs id t known
    obtain ⟨name, bench, tickets, stage⟩ := t
    unfold isFinished at ended
    dsimp only at stands ended
    cases stands with
    | finished => rfl
    | _ => cases ended

end World
end SubscriptionLedger
