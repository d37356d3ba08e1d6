import SubscriptionLedger.Proofs.Keyed
import SubscriptionLedger.Proofs.Redelivery

namespace SubscriptionLedger

namespace World

variable {α : Type} {w : World α} {t : Job α} {p : Progress α}

def place (w : World α) (id : String) : Place := ((w.job? id).map fun t => t.stage.place t.tickets).getD .away

def follow (w : World α) : List (Moment × String) → World α
  | [] => w
  | (now, id) :: rest => (({ w with now }).advance id).1.follow rest

theorem id_of_job? {id : String} (known : w.job? id = some t) : t.id = id := by
  have named := List.find?_some (p := fun u : Job α => u.id = id) known
  exact of_decide_eq_true named

theorem resume_now (w : World α) (id : String) : (w.resume id).1.now = w.now := by
  unfold resume
  split
  · split <;> rfl
  · rfl

theorem job?_settle (known : w.job? t.id = some t) (store : Store) (id : String) :
    ({ w with store }.settle t p).1.job? id =
      if id = t.id then some { t with tickets := p.tickets, stage := p.stage } else w.job? id := by
  have each : ({ w with store }.settle t p).1.job? id =
      (w.job? id).map fun u => if u.id = t.id then { t with tickets := p.tickets, stage := p.stage } else u := by
    unfold job? settle
    rw [List.find?_map]
    refine congrArg (Option.map _) (congrArg (List.find? · w.jobs) (funext fun u => ?_))
    dsimp only [Function.comp]
    split
    · rename_i here
      rw [here]
    · rfl
  rw [each]
  by_cases here : id = t.id
  · rw [if_pos here, here, known, Option.map_some, if_pos rfl]
  · rw [if_neg here]
    cases found : w.job? id with
    | none => rfl
    | some u =>
      have other : u.id ≠ t.id := by
        rw [id_of_job? found]
        exact here
      rw [Option.map_some, if_neg other]

theorem place_settle (known : w.job? t.id = some t) (store : Store) :
    ({ w with store }.settle t p).1.place = Function.update w.place t.id p.place := by
  funext id
  unfold place
  rw [job?_settle known]
  by_cases here : id = t.id
  · rw [here, if_pos rfl, Function.update_self]
    rfl
  · rw [if_neg here, Function.update_of_ne here]

theorem lock_settle (bench : t.bench < w.locks.length) (store : Store) :
    ({ w with store }.settle t p).1.lock t.bench = p.lock := by
  unfold lock settle
  dsimp only
  rw [List.getElem?_set_self bench]
  rfl

-- A world as the floor has it: each job stands where its call is, and the lock knows where they are.
structure Mirrors (calls : List Calling) (w : World Reconciliation) (f : Floor) : Prop where
  shows_ : w.store.Shows f.ledger
  sound : f.ledger.Sound
  bench : 0 < w.locks.length
  guards : (w.lock 0).Guards w.place
  known : ∀ id t, w.job? id = some t → ∃ c ∈ calls, c.id = id
  jobs : ∀ c ∈ calls, ∃ t, w.job? c.id = some t ∧ t.bench = 0 ∧ (f.phase c.id).Stands t.tickets t.stage
  runs : ∀ c ∈ calls, (f.phase c.id).Runs

def Calls (w : World α) (called : List String) : Prop := ∀ y ∈ called, (w.lock 0).Calls w.place y

end World

section Turns

variable {calls : List Calling} {w : World Reconciliation} {f : Floor} {c : Calling} {t : Job Reconciliation} {L : Ledger}
  {landed : Phase} {p : Progress Reconciliation}

theorem World.place_job {w : World α} {t : Job α} {id : String} (known : w.job? id = some t) :
    w.place id = t.stage.place t.tickets := by
  unfold place
  rw [known]
  rfl

theorem Phase.Stands.place_inside (stands : Phase.Stands here tickets stage) (holds : here.Holds key) :
    (stage.place tickets).Inside key := by
  cases stands with
  | inside => exact holds
  | _ => exact holds.elim

theorem World.Mirrors.job (mirrors : w.Mirrors calls f) (member : c ∈ calls) (known : w.job? c.id = some t) :
    t.id = c.id ∧ t.bench = 0 ∧ (f.phase c.id).Stands t.tickets t.stage ∧ w.place c.id = t.stage.place t.tickets ∧
      (f.phase c.id).Runs := by
  obtain ⟨t', known', bench, stands⟩ := mirrors.jobs c member
  cases Option.some.inj (known'.symm.trans known)
  exact ⟨World.id_of_job? known, bench, stands, World.place_job known, mirrors.runs c member⟩

theorem World.Mirrors.knows (mirrors : w.Mirrors calls f) (member : c ∈ calls) (holds : (f.phase c.id).Holds key) :
    (w.place c.id).Inside key := by
  obtain ⟨t, known, -, stands⟩ := mirrors.jobs c member
  rw [World.place_job known]
  exact stands.place_inside holds

theorem World.Mirrors.knows_put (mirrors : w.Mirrors calls f) (member : other ∈ calls)
    (holds : ((f.put c L landed).phase other.id).Holds key) (own : ¬ landed.Holds key) : (w.place other.id).Inside key := by
  by_cases same : other.id = c.id
  · rw [same, show (f.put c L landed).phase c.id = landed from Function.update_self ..] at holds
    exact absurd holds own
  · rw [Floor.phase_put_of_ne same] at holds
    exact mirrors.knows member holds

theorem World.Mirrors.settle (mirrors : w.Mirrors calls f) (ids : (calls.map (·.id)).Nodup) (member : c ∈ calls)
    (known : w.job? c.id = some t) (bench : t.bench = 0) {store : Store} (shows_ : store.Shows L) (sound : L.Sound)
    (lands : Lands w.place c.id landed p) :
    (({ w with store } : World Reconciliation).settle t p).1.Mirrors calls (f.put c L landed) ∧
      ∀ y, p.lock.Calls (Function.update w.place c.id p.place) y →
        ((({ w with store } : World Reconciliation).settle t p).1.lock 0).Calls
          (({ w with store } : World Reconciliation).settle t p).1.place y := by
  have named := World.id_of_job? known
  rw [← named] at known
  have lock : (({ w with store } : World Reconciliation).settle t p).1.lock 0 = p.lock := by
    rw [← bench]
    exact World.lock_settle (by rw [bench]; exact mirrors.bench) store
  have place := World.place_settle (p := p) known store
  rw [named] at place
  refine ⟨⟨shows_, sound, ?_, ?_, ?_, ?_, ?_⟩, ?_⟩
  · change 0 < (w.locks.set t.bench p.lock).length
    rw [List.length_set]
    exact mirrors.bench
  · rw [lock, place]
    exact lands.guards
  · intro id u there
    rw [World.job?_settle known] at there
    by_cases here : id = t.id
    · exact ⟨c, member, (here.trans named).symm⟩
    · rw [if_neg here] at there
      exact mirrors.known id u there
  · intro other there
    rw [World.job?_settle known]
    by_cases same : other = c
    · subst same
      rw [if_pos named.symm]
      refine ⟨_, rfl, bench, ?_⟩
      rw [Floor.phase_put_self]
      exact lands.stands
    · have distinct : other.id ≠ c.id := fun here => same (List.inj_on_of_nodup_map ids there member here)
      rw [if_neg (by rw [named]; exact distinct)]
      rw [Floor.phase_put_of_ne distinct]
      exact mirrors.jobs other there
  · intro other there
    by_cases same : other.id = c.id
    · rw [same, Floor.phase_put_self]
      exact lands.runs
    · rw [Floor.phase_put_of_ne same]
      exact mirrors.runs other there
  · intro y calls
    rw [lock, place]
    exact calls

theorem World.Mirrors.start (mirrors : w.Mirrors calls f) (ids : (calls.map (·.id)).Nodup) (member : c ∈ calls)
    (known : w.job? c.id = some t) (fresh : t.stage = .fresh work) (clock : w.now.Clock) :
    ∃ f', Floor.Runs calls f f' ∧ (w.start t work).1.Mirrors calls f' ∧ (w.start t work).1.Calls (w.start t work).2 := by
  obtain ⟨named, bench, stands, there, runs⟩ := mirrors.job member known
  obtain ⟨id, slot, tickets, stage⟩ := t
  dsimp only at bench stands named there fresh
  subst bench named fresh
  generalize here : f.phase c.id = now at stands runs
  cases stands
  obtain ⟨keyed, plain⟩ := runs
  obtain ⟨landed, steps, lands⟩ := Floor.lands_outside member here keyed plain mirrors.guards there clock
    fun other member' key holds => mirrors.knows member' holds
  obtain ⟨settled, calling⟩ := mirrors.settle ids member known rfl mirrors.shows_ mirrors.sound lands
  exact ⟨_, steps, settled, fun y there => calling y (lands.called y there)⟩

theorem World.Mirrors.carryOut (mirrors : w.Mirrors calls f) (ids : (calls.map (·.id)).Nodup) (member : c ∈ calls)
    (known : w.job? c.id = some t) (stood : t.stage = .standing q next) (clock : w.now.Clock) :
    ∃ f', Floor.Runs calls f f' ∧ (w.carryOut t q next).1.Mirrors calls f' ∧
      (w.carryOut t q next).1.Calls (w.carryOut t q next).2 := by
  obtain ⟨named, bench, stands, there, runs⟩ := mirrors.job member known
  have sound := Ledger.ask_sound mirrors.sound w.now q
  have replies := Ledger.ask_named mirrors.sound w.now q
  obtain ⟨id, slot, tickets, stage⟩ := t
  dsimp only at bench stands named there stood
  subst bench named stood
  generalize here : f.phase c.id = now at stands runs
  cases stands with
  | outside =>
    obtain ⟨keyed, here', blind, goesOn⟩ := runs
    obtain ⟨reply, shows_⟩ := Store.ask_shows mirrors.shows_ mirrors.sound clock here'
    -- store and ledger reply alike but for the moments of last changes, which no program looks at
    have same : next (f.ledger.ask w.now q).1 = next (w.store.ask w.now q).1 := by
      rw [← reply]
      exact blind _
    have knows : ∀ other ∈ calls, ∀ key, ((f.put c (f.ledger.ask w.now q).2
        (.outside (next (f.ledger.ask w.now q).1))).phase other.id).Holds key → (w.place other.id).Inside key :=
      fun other member' key holds => mirrors.knows_put member' holds fun none => none.elim
    obtain ⟨landed, steps, lands⟩ := Floor.lands_outside member (Floor.phase_put_self ..) (keyed _) (goesOn _ replies)
      mirrors.guards there clock knows
    rw [Floor.put_put] at steps
    rw [same] at lands
    obtain ⟨settled, calling⟩ := mirrors.settle ids member known rfl shows_ sound lands
    exact ⟨_, .head (.ask member here clock) steps, settled, fun y there => calling y (lands.called y there)⟩
  | @inside q next ticket =>
    obtain ⟨asks, here', blind, goesOn⟩ := runs
    obtain ⟨reply, shows_⟩ := Store.ask_shows mirrors.shows_ mirrors.sound clock here'
    have same : next (f.ledger.ask w.now q).1 = next (w.store.ask w.now q).1 := by
      rw [← reply]
      exact blind _
    obtain ⟨landed, steps, lands, -⟩ := Floor.lands_inside
      (f := f.put c (f.ledger.ask w.now q).2 (.inside ticket.key (next (f.ledger.ask w.now q).1))) member
      (Floor.phase_put_self ..) (asks _) (goesOn _ replies) mirrors.guards there clock
    rw [Floor.put_put] at steps
    rw [same] at lands
    obtain ⟨settled, calling⟩ := mirrors.settle ids member known rfl shows_ sound lands
    exact ⟨_, .head (.work member here clock) steps, settled, fun y there => calling y (lands.called y there)⟩

theorem World.Mirrors.resume (mirrors : w.Mirrors calls f) (ids : (calls.map (·.id)).Nodup) (clock : w.now.Clock)
    (id : String) (called : (w.lock 0).Calls w.place id) :
    ∃ f', Floor.Runs calls f f' ∧ (w.resume id).1.Mirrors calls f' ∧ (w.resume id).1.Calls (w.resume id).2 ∧
      ∀ y, (w.lock 0).Calls w.place y → ((w.resume id).1.lock 0).Calls (w.resume id).1.place y := by
  unfold World.resume
  cases known : w.job? id with
  | none => exact ⟨f, .refl, mirrors, nofun, fun _ calls => calls⟩
  | some t =>
    obtain ⟨c, member, rfl⟩ := mirrors.known id t known
    obtain ⟨named, bench, stands, there, runs⟩ := mirrors.job member known
    obtain ⟨id, slot, tickets, stage⟩ := t
    dsimp only at bench stands named there
    subst bench named
    generalize here : f.phase c.id = now at stands runs
    cases stands with
    | @door next work ticket opens =>
      obtain ⟨asks, plain⟩ := runs
      obtain ⟨entered, nobody, waiting⟩ := KeyedLock.guards_enter mirrors.guards there called
      have free : ∀ other ∈ calls, ¬ (f.phase other.id).Holds ticket.key :=
        fun other member' holds => nobody other.id (mirrors.knows member' holds)
      obtain ⟨landed, steps, lands, kept⟩ := Floor.lands_inside (f := f.put c f.ledger (.inside ticket.key work)) member
        (Floor.phase_put_self ..) asks plain entered (Function.update_self ..) clock
      have goes : next (.ok ()) = work.thenRelease ticket.key :=
        congrFun (Program.acquire.inj opens).2 (.ok ())
      rw [Floor.put_put] at steps
      rw [← goes] at lands kept
      have landing := lands.from_entry
      obtain ⟨settled, calling⟩ := mirrors.settle ids member known rfl mirrors.shows_ mirrors.sound landing
      refine ⟨_, .head (.enter member here free) steps, settled, fun y there => calling y (landing.called y there), fun y calls => ?_⟩
      have still := kept y (KeyedLock.calls_update waiting nofun calls)
      rw [Function.update_idem] at still
      exact calling y still
    | _ => exact ⟨f, .refl, mirrors, nofun, fun _ calls => calls⟩

theorem World.Mirrors.resumeAll (mirrors : w.Mirrors calls f) (ids : (calls.map (·.id)).Nodup) (clock : w.now.Clock)
    (fuel : Nat) (calling : w.Calls called) : ∃ f', Floor.Runs calls f f' ∧ (w.resumeAll fuel called).Mirrors calls f' := by
  -- who has been called stays called until it runs on, whoever runs on before it
  induction fuel generalizing w f called with
  | zero => exact ⟨f, .refl, mirrors⟩
  | succ fuel ih =>
    cases called with
    | nil => exact ⟨f, .refl, mirrors⟩
    | cons id rest =>
      obtain ⟨f', steps, mirrors', more, kept⟩ := mirrors.resume ids clock id (calling id (.head _))
      rw [← World.resume_now w id] at clock
      obtain ⟨f'', further, ends⟩ := ih mirrors' clock fun y there => by
        rcases List.mem_append.1 there with old | new
        · exact kept y (calling y (.tail _ old))
        · exact more y new
      exact ⟨f'', steps.trans further, ends⟩

theorem World.Mirrors.advance (mirrors : w.Mirrors calls f) (ids : (calls.map (·.id)).Nodup) (clock : w.now.Clock)
    (id : String) : ∃ f', Floor.Runs calls f f' ∧ (w.advance id).1.Mirrors calls f' := by
  unfold World.advance
  cases known : w.job? id with
  | none => exact ⟨f, .refl, mirrors⟩
  | some t =>
    obtain ⟨c, member, rfl⟩ := mirrors.known id t known
    dsimp only
    cases stage : t.stage with
    | fresh p =>
      obtain ⟨f', steps, started, calling⟩ := mirrors.start ids member known stage clock
      obtain ⟨f'', further, ends⟩ := started.resumeAll ids clock (2 * (w.start t p).1.jobs.length + 1) calling
      exact ⟨f'', steps.trans further, ends⟩
    | standing q next =>
      obtain ⟨f', steps, made, calling⟩ := mirrors.carryOut ids member known stage clock
      obtain ⟨f'', further, ends⟩ := made.resumeAll ids clock (2 * (w.carryOut t q next).1.jobs.length + 1) calling
      exact ⟨f'', steps.trans further, ends⟩
    | waiting | finished => exact ⟨f, .refl, mirrors⟩

theorem World.Mirrors.follow (mirrors : w.Mirrors calls f) (ids : (calls.map (·.id)).Nodup)
    (schedule : List (Moment × String)) (clock : ∀ x ∈ schedule, x.1.Clock) :
    ∃ f', Floor.Runs calls f f' ∧ (w.follow schedule).Mirrors calls f' := by
  induction schedule generalizing w f with
  | nil => exact ⟨f, .refl, mirrors⟩
  | cons x rest ih =>
    obtain ⟨now, id⟩ := x
    have reset : World.Mirrors calls { w with now } f := ⟨mirrors.shows_, mirrors.sound, mirrors.bench, mirrors.guards,
      mirrors.known, mirrors.jobs, mirrors.runs⟩
    obtain ⟨f', steps, advanced⟩ := reset.advance ids (clock _ (.head _)) id
    obtain ⟨f'', further, ends⟩ := ih advanced fun x there => clock x (.tail _ there)
    exact ⟨f'', steps.trans further, ends⟩

end Turns

def World.opened (now : Moment) (s : Store) (calls : List Calling) : World Reconciliation where
  now
  store := s
  locks := [.empty]
  jobs := calls.map fun c => ⟨c.id, 0, [], .fresh c.program⟩

def Floor.opened (L : Ledger) (calls : List Calling) : Floor :=
  ⟨L, fun id => match calls.find? (·.id = id) with
    | some c => .outside c.program
    | none => .outside (.fail .cancelled)⟩

-- The calls have come to what they come to one after another, in some order, on a store: the records and
-- the users are the same in the end, and so is the outcome or the fault of each call.
def World.Serializes (w : World Reconciliation) (s : Store) (calls : List Calling) : Prop :=
  ∃ order : List (Calling × Moment), (order.map (·.1)).Perm calls ∧ (∀ x ∈ order, x.2.Clock) ∧
    w.store.Alike (s.serveAll order) ∧
    ∀ c ∈ calls, ∃ before now behind t, order = before ++ (c, now) :: behind ∧ w.job? c.id = some t ∧
      t.stage = .finished ((s.serveAll before).serve (c, now)).1

section Worlds

variable {calls : List Calling} {s : Store} {L : Ledger} {c : Calling}

theorem find?_calling (ids : (calls.map (·.id)).Nodup) (member : c ∈ calls) : calls.find? (·.id = c.id) = some c :=
  Ledger.find?_of_only member (decide_eq_true rfl) fun _ there same =>
    List.inj_on_of_nodup_map ids there member (of_decide_eq_true same)

theorem Floor.begins_opened (L : Ledger) (ids : (calls.map (·.id)).Nodup) : (Floor.opened L calls).Begins calls L := by
  refine ⟨rfl, fun c member => ?_⟩
  unfold opened
  dsimp only
  rw [find?_calling ids member]

theorem World.job?_opened (now : Moment) (s : Store) (calls : List Calling) (id : String) :
    (World.opened now s calls).job? id = (calls.find? (·.id = id)).map fun c => ⟨c.id, 0, [], .fresh c.program⟩ := by
  unfold job? opened
  rw [List.find?_map]
  rfl

theorem World.mirrors_opened (now : Moment) (shows_ : s.Shows L) (sound : L.Sound) (ids : (calls.map (·.id)).Nodup)
    (proper : ∀ c ∈ calls, c.Proper) : (World.opened now s calls).Mirrors calls (.opened L calls) := by
  have begins := Floor.begins_opened L ids
  have away : (World.opened now s calls).place = fun _ => .away := by
    funext id
    unfold place
    rw [job?_opened]
    cases calls.find? (·.id = id) <;> rfl
  refine ⟨shows_, sound, Nat.one_pos, ?_, ?_, ?_, ?_⟩
  · rw [away]
    exact KeyedLock.empty_guards
  · intro id t known
    rw [job?_opened] at known
    obtain ⟨c, found, -⟩ := Option.map_eq_some_iff.1 known
    exact ⟨c, List.mem_of_find?_eq_some found, of_decide_eq_true (List.find?_some (p := fun c : Calling => c.id = id) found)⟩
  · intro c member
    rw [job?_opened, find?_calling ids member, begins.phase c member]
    exact ⟨_, rfl, rfl, .fresh⟩
  · intro c member
    rw [begins.phase c member]
    exact ⟨keyed_reconcile _ _, plain_reconcile (proper c member).reading (proper c member).event⟩

-- Whatever the order of the turns, reconciliations that share a lock come to what they come to in some
-- order one after another.
theorem World.serializable (shows_ : s.Shows L) (sound : L.Sound) (ids : (calls.map (·.id)).Nodup)
    (proper : ∀ c ∈ calls, c.Proper) (now : Moment) {schedule : List (Moment × String)} (clock : ∀ x ∈ schedule, x.1.Clock)
    (finished : ((World.opened now s calls).follow schedule).jobs.all isFinished) :
    ((World.opened now s calls).follow schedule).Serializes s calls := by
  obtain ⟨f, steps, mirrors⟩ := (mirrors_opened now shows_ sound ids proper).follow ids schedule clock
  have ends : ∀ c ∈ calls, ∃ t result, ((World.opened now s calls).follow schedule).job? c.id = some t ∧
      t.stage = .finished result ∧ f.phase c.id = .finished result := by
    intro c member
    obtain ⟨t, known, -, stands⟩ := mirrors.jobs c member
    have ended := List.all_eq_true.1 finished t (List.mem_of_find?_eq_some known)
    generalize f.phase c.id = phase at stands ⊢
    generalize here : t.stage = stage at stands
    generalize t.tickets = tickets at stands
    unfold isFinished at ended
    rw [here] at ended
    cases stands with
    | @finished result => exact ⟨t, result, known, here, rfl⟩
    | _ => cases ended
  obtain ⟨order, all, clocks, after, tells⟩ := (Floor.begins_opened L ids).in_order sound ids steps fun c member => by
    obtain ⟨-, result, -, -, ended⟩ := ends c member
    exact ⟨result, ended⟩
  have properly : ∀ x ∈ order, x.1.Proper := fun x there => proper x.1 (all.mem_iff.1 (List.mem_map.2 ⟨x, there, rfl⟩))
  refine ⟨order, all, clocks, ⟨f.ledger, mirrors.shows_, ?_⟩, fun c member => ?_⟩
  · rw [← after]
    exact (Ledger.serveAll_shows shows_ sound properly clocks).1
  · obtain ⟨t, result, known, stage, ended⟩ := ends c member
    obtain ⟨before, time, behind, rfl, told⟩ := tells c member result ended
    have earlier : ∀ x ∈ before, x.1.Proper ∧ x.2.Clock := fun x there =>
      ⟨properly x (List.mem_append_left _ there), clocks x (List.mem_append_left _ there)⟩
    obtain ⟨shown, kept⟩ := Ledger.serveAll_shows shows_ sound (fun x there => (earlier x there).1)
      fun x there => (earlier x there).2
    obtain ⟨same, -⟩ := Ledger.serve_shows (x := (c, time)) shown kept (proper c member)
      (clocks _ (List.mem_append_right _ (.head _)))
    refine ⟨before, time, behind, t, rfl, known, ?_⟩
    rw [stage, same, told]

end Worlds

namespace Shop

def lapse : Calling := ⟨"lapse", .paymentFailed ⟨⟨none, "invoice.payment_failed"⟩, "sub"⟩, ⟨0, some 0⟩⟩

def revival : Calling := ⟨"revival", .updated (change (some .active) none), ⟨0, some 0⟩⟩

def turns : List (Moment × String) :=
  ["lapse", "revival", "lapse", "revival", "lapse", "lapse", "revival", "revival"].map fun id => (⟨0, some 0⟩, id)

theorem lapse_revival_serializable :
    ((World.opened ⟨0, some 0⟩ (ledger .active "pro" "pro").store [lapse, revival]).follow turns).Serializes
      (ledger .active "pro" "pro").store [lapse, revival] := by
  have proper : ∀ c ∈ [lapse, revival], c.Proper := by
    refine List.forall_mem_cons.2 ⟨⟨trivial, by decide⟩, List.forall_mem_singleton.2 ⟨?_, by decide⟩⟩
    change Moment.Proper ⟨1893456000000000, some 0⟩
    decide
  exact World.serializable (shows_ .active "pro" "pro" (by decide)) (sound _ _ _) (by decide) proper ⟨0, some 0⟩
    (by decide) (by decide +kernel)

end Shop
end SubscriptionLedger
