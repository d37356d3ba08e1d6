import SubscriptionLedger.Http.App
import SubscriptionLedger.Proofs.Delivery
import SubscriptionLedger.Proofs.Writing

namespace SubscriptionLedger

namespace Fault

-- A fault from beyond the service, of which it has no report. Work that is called off does not fail.
def Foreign (f : Fault) : Prop := f.report? = none ∧ f ≠ .cancelled

def Grave : Fault → Prop
  | defaultProductMissing | duplicateBilling _ | payerUnknown _ _ | incomplete _ _ _ _ => True
  | f => f.Foreign

def Absence : Fault → Prop
  | userNotFound _ | noBilling _ => True
  | _ => False

-- An absence that can be written down. A name with half a character in it cannot.
def Lacks (f : Fault) : Prop := f.Absence ∧ ∀ r ∈ f.report?, r.body.isStandard

theorem Foreign.grave {f : Fault} (foreign : f.Foreign) : f.Grave := by
  cases f with
  | defaultProductMissing | duplicateBilling | payerUnknown | incomplete => trivial
  | _ => exact foreign

theorem Own.grave {f : Fault} (own : f.Own) : f.Grave := by
  cases f with
  | payerUnknown | duplicateBilling | incomplete => trivial
  | _ => exact own.elim

theorem Grave.not_absence {f : Fault} (grave : f.Grave) : ¬ f.Absence := by
  cases f with
  | userNotFound | noBilling => exact absurd grave.1 nofun
  | _ => exact id

theorem foreign_invalid (kind : RecordKind) (issues : List Issue) : (invalid kind issues).Foreign := ⟨rfl, nofun⟩

theorem foreign_misfit (m : Misfit) : (misfit m).Foreign := ⟨rfl, nofun⟩

theorem foreign_storage (code : Option String) : (storage code).Foreign := ⟨rfl, nofun⟩

end Fault

def Call.Misses (s : Store) : Call → Prop
  | .update table filters _ => ∀ row ∈ s.rows table, ¬ row.matches filters
  | _ => False

def Program.Tells : Option Fault → Program α → Prop
  | _, done _ => True
  | given, fail f => f.Grave ∨ given = some f
  | _, ask _ next => (∀ a, (next (.ok a)).Tells none) ∧ ∀ f, (next (.error f)).Tells (some f)
  | _, pay _ _ => False
  | given, acquire _ next => (next (.ok ())).Tells given
  | given, release _ next => next.Tells given

section Reading

variable {x : Except Fault α}

def OnlyForeign (x : Except Fault α) : Prop := ∀ f, x = .error f → f.Foreign

theorem onlyForeign_ok (a : α) : OnlyForeign (.ok a) := nofun

theorem onlyForeign_error {f : Fault} (foreign : f.Foreign) : OnlyForeign (.error f : Except Fault α) := by
  rintro _ ⟨⟩
  exact foreign

theorem onlyForeign_bind {f : α → Except Fault β} (first : OnlyForeign x) (second : ∀ a, OnlyForeign (f a)) :
    OnlyForeign (x >>= f) := by
  cases x with
  | error => exact onlyForeign_error (first _ rfl)
  | ok a => exact second a

theorem onlyForeign_map (f : α → β) (first : OnlyForeign x) : OnlyForeign (x.map f) := by
  cases x with
  | error => exact onlyForeign_error (first _ rfl)
  | ok a => exact onlyForeign_ok (f a)

theorem onlyForeign_mapM {read : Row → Except Fault α} (each : ∀ row, OnlyForeign (read row)) (rows : List Row) :
    OnlyForeign (rows.mapM read) := by
  induction rows with
  | nil => exact onlyForeign_ok []
  | cons row rest ih =>
    rw [List.mapM_cons]
    exact onlyForeign_bind (each row) fun _ => onlyForeign_bind ih fun _ => onlyForeign_ok _

theorem onlyForeign_orInvalid (kind : RecordKind) (x : Checked α) : OnlyForeign (x.orInvalid kind) := by
  cases x with
  | error issues => exact onlyForeign_error (Fault.foreign_invalid kind issues)
  | ok a => exact onlyForeign_ok a

theorem onlyForeign_orMisfit (x : Except Misfit α) : OnlyForeign (Except.orMisfit x) := by
  cases x with
  | error m => exact onlyForeign_error (Fault.foreign_misfit m)
  | ok a => exact onlyForeign_ok a

theorem onlyForeign_demand (row : Row) (column : String) : OnlyForeign (Row.demand row column) := by
  unfold Row.demand
  split
  · exact onlyForeign_ok _
  · exact onlyForeign_error (Fault.foreign_misfit _)

theorem onlyForeign_demandId (row : Row) (column : String) : OnlyForeign (Row.demandId row column) :=
  onlyForeign_bind (onlyForeign_demand row column) fun _ => onlyForeign_ok _

theorem onlyForeign_status (row : Row) : OnlyForeign (Row.status row) := by
  refine onlyForeign_bind (onlyForeign_demand row "status") fun d => ?_
  split
  · split
    · exact onlyForeign_ok _
    · exact onlyForeign_error (Fault.foreign_misfit _)
  · exact onlyForeign_error (Fault.foreign_misfit _)

theorem User.onlyForeign_ofRow (row : Row) : OnlyForeign (User.ofRow row) :=
  onlyForeign_bind (onlyForeign_demandId row "id") fun _ =>
    onlyForeign_bind (onlyForeign_demand row "email") fun _ => onlyForeign_orInvalid .user _

theorem Product.onlyForeign_ofRow (row : Row) : OnlyForeign (Product.ofRow row) :=
  onlyForeign_bind (onlyForeign_demandId row "id") fun _ =>
    onlyForeign_bind (onlyForeign_demand row "name") fun _ =>
      onlyForeign_bind (onlyForeign_orMisfit _) fun _ => onlyForeign_orInvalid .product _

theorem Billing.onlyForeign_ofRow (row : Row) : OnlyForeign (Billing.ofRow row) :=
  onlyForeign_bind (onlyForeign_demandId row "id") fun _ =>
    onlyForeign_bind (onlyForeign_demandId row "user_id") fun _ =>
      onlyForeign_bind (onlyForeign_demandId row "product_id") fun _ =>
        onlyForeign_bind (onlyForeign_status row) fun _ =>
          onlyForeign_bind (onlyForeign_demand row "expires_at") fun _ => onlyForeign_orInvalid .billing _

theorem onlyForeign_first? {read : Row → Except Fault α} (each : ∀ row, OnlyForeign (read row)) (rows : List Row) :
    OnlyForeign (Query.first? read rows) := by
  unfold Query.first?
  split
  · exact onlyForeign_ok none
  · exact onlyForeign_ok none
  · exact onlyForeign_map some (each _)

end Reading

theorem first_faults {read : Row → Except Fault α} {absence : Fault} (each : ∀ row, OnlyForeign (read row))
    (told : Query.first read absence rows = .error f) : f.Foreign ∨ f = absence ∧ rows = [] := by
  unfold Query.first at told
  split at told
  · exact .inr ⟨(Except.error.inj told).symm, rfl⟩
  · exact .inl (each _ f told)

theorem Query.read_faults {q : Query} (now : Moment) (told : q.read rows = .error f) :
    f.Foreign ∨ f = .defaultProductMissing ∨
      f.Absence ∧ rows = [] ∧ ∃ table filters columns, q.call now = .update table filters columns := by
  cases q with
  | productById | productByPrice => exact .inl (onlyForeign_first? Product.onlyForeign_ofRow rows f told)
  | activeProducts => exact .inl (onlyForeign_mapM Product.onlyForeign_ofRow rows f told)
  | userById | userByEmail => exact .inl (onlyForeign_first? User.onlyForeign_ofRow rows f told)
  | billingByUser | billingBySubscription => exact .inl (onlyForeign_first? Billing.onlyForeign_ofRow rows f told)
  | defaultProduct =>
    rcases first_faults Product.onlyForeign_ofRow told with foreign | ⟨missing, -⟩
    · exact .inl foreign
    · exact .inr (.inl missing)
  | createBilling =>
    rcases first_faults Billing.onlyForeign_ofRow told with foreign | ⟨rfl, -⟩
    · exact .inl foreign
    · exact .inl (Fault.foreign_misfit .missing)
  | assignProduct =>
    rcases first_faults User.onlyForeign_ofRow told with foreign | ⟨rfl, none⟩
    · exact .inl foreign
    · exact .inr (.inr ⟨trivial, none, _, _, _, rfl⟩)
  | updateBilling =>
    rcases first_faults Billing.onlyForeign_ofRow told with foreign | ⟨rfl, none⟩
    · exact .inl foreign
    · exact .inr (.inr ⟨trivial, none, _, _, _, rfl⟩)

theorem Query.explain_grave (q : Query) (foreign : f.Foreign) : (q.explain f).Grave := by
  unfold explain
  split
  · split
    · trivial
    · exact foreign.grave
  · exact foreign.grave

namespace Store

variable {s : Store} {now : Moment} {rows : List Row}

theorem changeRows_error (refused : (changeRows table filters columns before rows).1 = .error f) : f = violation := by
  induction rows generalizing before with
  | nil => cases refused
  | cons row rest ih =>
    unfold changeRows at refused
    split at refused
    · dsimp only at refused
      split at refused
      · exact (Except.error.inj refused).symm
      · cases later : (changeRows table filters columns (before ++ [row.putAll columns]) rest).1 with
        | error g =>
          rw [later] at refused
          cases refused
          exact ih later
        | ok changed =>
          rw [later] at refused
          cases refused
    · exact ih refused

theorem changeRows_nothing (nothing : (changeRows table filters columns before rows).1 = .ok []) :
    (changeRows table filters columns before rows).2 = before ++ rows ∧ ∀ row ∈ rows, ¬ row.matches filters := by
  induction rows generalizing before with
  | nil => exact ⟨(List.append_nil before).symm, nofun⟩
  | cons row rest ih =>
    unfold changeRows at nothing ⊢
    split at nothing
    · dsimp only at nothing
      split at nothing
      · cases nothing
      · obtain ⟨changed, -, longer⟩ := Except.map_eq_ok.1 nothing
        cases longer
    · rename_i apart
      obtain ⟨kept, others⟩ := ih nothing
      rw [if_neg apart]
      refine ⟨?_, List.forall_mem_cons.2 ⟨apart, others⟩⟩
      rw [kept, List.append_assoc]
      rfl

theorem onlyForeign_perform (s : Store) (now : Moment) (call : Call) : OnlyForeign (s.perform now call).1 := by
  cases call with
  | select table filters order limit =>
    unfold perform select
    dsimp only
    cases order with
    | none => exact onlyForeign_ok _
    | some column => exact onlyForeign_bind (onlyForeign_orMisfit _) fun _ => onlyForeign_ok _
  | insert table columns =>
    unfold perform insert
    dsimp only
    split
    · exact onlyForeign_error (Fault.foreign_storage _)
    · exact onlyForeign_ok _
  | update table filters columns =>
    intro f refused
    rw [changeRows_error refused]
    exact Fault.foreign_storage _

theorem ask_faults {q : Query} (told : (s.ask now q).1 = .error f) :
    f.Grave ∨ f.Absence ∧ (q.call now).Misses (s.ask now q).2 := by
  unfold ask at *
  dsimp only at *
  cases performed : (s.perform now (q.call now)).1 with
  | error g =>
    rw [performed] at told
    cases told
    exact .inl (q.explain_grave (onlyForeign_perform s now _ g performed))
  | ok rows =>
    rw [performed] at told
    rcases q.read_faults now told with foreign | rfl | ⟨absence, rfl, table, filters, columns, updates⟩
    · exact .inl foreign.grave
    · exact .inl trivial
    · rw [updates] at performed ⊢
      obtain ⟨kept, none⟩ := changeRows_nothing performed
      refine .inr ⟨absence, ?_⟩
      change ∀ row ∈ (s.setRows (changeRows table filters columns [] (s.rows table)).2 table).rows table,
        ¬ row.matches filters
      rw [rows_setRows_same, kept]
      exact none

end Store

theorem Disturbance.happen_error {s : Store} {ds : List Disturbance} (stopped : (happen s ds).1 = .error f) :
    fault f ∈ ds := by
  induction ds generalizing s with
  | nil => cases stopped
  | cons d rest ih =>
    cases d with
    | fault g =>
      cases stopped
      exact List.mem_cons_self
    | put | drop => exact List.mem_cons_of_mem _ (ih stopped)

theorem Journal.ask_faults {w : Surroundings} {j j' : Journal} {q : Query}
    (foreign : ∀ n f, .fault f ∈ w.disturbances n → f.Foreign) (told : j.ask w q = (.error f, j')) :
    f.Grave ∨ f.Absence ∧ ∃ call, j'.calls.getLast? = some call ∧ call.Misses j'.store := by
  unfold ask at told
  dsimp only at told
  split at told
  · rename_i g store stopped
    cases told
    exact .inl (q.explain_grave (foreign _ g (Disturbance.happen_error (congrArg Prod.fst stopped))))
  · rename_i store passed
    obtain ⟨refused, rfl⟩ := Prod.mk.inj told
    exact (Store.ask_faults refused).imp_right fun ⟨absence, misses⟩ =>
      ⟨absence, q.call w.now, List.getLast?_concat, misses⟩

section Telling

open Program

variable {p : Program α} {w : Surroundings} {j j' : Journal}

theorem tells_thenRelease (tells : p.Tells given) : (p.thenRelease key).Tells given := by
  induction p generalizing given with
  | done | fail => exact tells
  | pay => exact tells.elim
  | ask q next ih => exact ⟨fun a => ih _ (tells.1 a), fun f => ih _ (tells.2 f)⟩
  | acquire _ next ih => exact ih _ tells
  | release _ next ih => exact ih tells

theorem tells_run (tells : p.Tells given) (fails : p.run w j = (.error f, j')) :
    f.Grave ∨ given = some f ∧ j' = j ∨ ∃ i q, Journal.ask w i q = (.error f, j') := by
  induction p generalizing given j with
  | done => cases fails
  | pay => exact tells.elim
  | fail =>
    cases fails
    exact tells.imp_right fun same => .inl ⟨same, rfl⟩
  | acquire _ next ih => exact ih _ tells fails
  | release _ next ih => exact ih tells fails
  | ask q next ih =>
    unfold Program.run at fails
    dsimp only at fails
    cases told : (j.ask w q).1 with
    | ok a =>
      rw [told] at fails
      refine (ih _ (tells.1 a) fails).imp_right fun later => .inr (later.resolve_left ?_)
      rintro ⟨⟨⟩, -⟩
    | error g =>
      rw [told] at fails
      rcases ih _ (tells.2 g) fails with grave | ⟨same, here⟩ | later
      · exact .inl grave
      · cases same
        exact .inr (.inr ⟨j, q, Prod.ext told here.symm⟩)
      · exact .inr (.inr later)

end Telling

theorem tells_rules : Rules anything now e Program.Tells where
  done _ _ := trivial
  handedOn _ := .inr rfl
  raised _ _ own := .inl own.grave
  asked _ _ _ _ _ goesOn fails := ⟨fun a => goesOn a trivial, fails⟩

theorem tells_reconcile (now : Moment) (e : Event) : (reconcile now e).Tells none :=
  (course_reconcile anything now e).follows tells_rules fun _ _ work => tells_thenRelease (work.follows tells_rules)

theorem reconcile_fails {w : Surroundings} {s : Store} {e : Event} (foreign : ∀ n f, .fault f ∈ w.disturbances n → f.Foreign)
    (fails : (reconcile now e).run w { store := s } = (.error f, j)) :
    f.Grave ∨ f.Absence ∧ ∃ call, j.calls.getLast? = some call ∧ call.Misses j.store := by
  rcases tells_run (tells_reconcile now e) fails with grave | ⟨given, -⟩ | ⟨i, q, told⟩
  · exact .inl grave
  · cases given
  · exact Journal.ask_faults foreign told

namespace Program

variable {p : Program α} {w : Surroundings} {j j' : Journal}

theorem run_fails (fails : (p.run w j).1 = .error f) : ∃ j', p.run w j = (.error f, j') := ⟨_, Prod.ext fails rfl⟩

theorem run_bind (p : Program α) (g : α → Program β) (w : Surroundings) (j : Journal) :
    (p.bind g).run w j = match p.run w j with
      | (.ok a, j') => (g a).run w j'
      | (.error f, j') => (.error f, j') := by
  induction p generalizing j with
  | done | fail => rfl
  | ask q next ih => exact ih _ _
  | pay r next ih => exact ih _ _
  | acquire _ next ih => exact ih _ _
  | release _ next ih => exact ih _

theorem run_handle (p : Program α) (h : Fault → Program α) (w : Surroundings) (j : Journal) :
    (p.handle h).run w j = match p.run w j with
      | (.ok a, j') => (.ok a, j')
      | (.error f, j') => (h f).run w j' := by
  induction p generalizing j with
  | done | fail => rfl
  | ask q next ih => exact ih _ _
  | pay r next ih => exact ih _ _
  | acquire _ next ih => exact ih _ _
  | release _ next ih => exact ih _

theorem run_bind_error (g : α → Program β) (fails : p.run w j = (.error f, j')) :
    (p.bind g).run w j = (.error f, j') := by rw [run_bind, fails]

theorem run_bind_ok (g : α → Program β) (ends : p.run w j = (.ok a, j')) :
    (p.bind g).run w j = (g a).run w j' := by rw [run_bind, ends]

theorem run_handle_error (h : Fault → Program α) (fails : p.run w j = (.error f, j')) :
    (p.handle h).run w j = (h f).run w j' := by rw [run_handle, fails]

theorem run_handle_ok (h : Fault → Program α) (ends : p.run w j = (.ok a, j')) :
    (p.handle h).run w j = (.ok a, j') := by rw [run_handle, ends]

end Program

theorem Moment.instant_ofInstant (i : Instant) : (Moment.ofInstant i).instant = i :=
  congrArg Instant.mk (Int.sub_zero i.micros)

namespace App

open Http Program

variable {mac : Mac} {app : App} {now : Instant} {r : Request} {w : Surroundings} {s : Store} {j : Journal}

def failure (app : App) (r : Request) (f : Fault) : Response :=
  match f.report?.bind fun report => (Response.json report.status report.body []).toOption with
  | some response => withOrigin (OriginPolicy.ofSettings app.settings) r.headers response
  | none => .internalError

theorem preflight?_of_webhook (reaches : Route.of billing r.method r.path = .endpoint .webhook) :
    OriginPolicy.preflight? r.method r.headers = none := by
  have posted : r.method = "POST" := by
    unfold Route.of at reaches
    split at reaches
    · split at reaches
      · rename_i method
        cases reaches
        exact method.symm
      · cases reaches
    · split at reaches <;> cases reaches
  unfold OriginPolicy.preflight?
  rw [posted]
  cases r.headers.get? "origin" with
  | none => rfl
  | some origin => cases r.headers.get? "access-control-request-method" <;> rfl

theorem webhook_of_received (connected : app.connection.client.isSome)
    (received : (receive mac app.verification (.ofInstant now) ⟨r.body, r.headers.get? "stripe-signature"⟩).run w { store := s } =
      (.error f, j)) (verified : ∀ flaw, f ≠ .unverified flaw) :
    (app.webhook mac now r).run w { store := s } = (.error f, j) := by
  have passed : deliveryFault f = .fail f := by
    unfold deliveryFault
    split
    · rename_i flaw
      exact absurd rfl (verified flaw)
    · rfl
  obtain ⟨client, open_⟩ := Option.isSome_iff_exists.1 connected
  unfold webhook App.connected Connection.get
  rw [open_]
  refine (run_handle_error deliveryFault (run_bind_error _ received)).trans ?_
  rw [passed]
  rfl

theorem webhook_of_fails (connected : app.connection.client.isSome)
    (genuine : Delivery.verify mac app.verification now ⟨r.body, r.headers.get? "stripe-signature"⟩ = .ok notice)
    (reads : Event.ofNotice (.object notice) = .ok e)
    (fails : (reconcile (.ofInstant now) e).run w { store := s } = (.error f, j)) (verified : ∀ flaw, f ≠ .unverified flaw) :
    (app.webhook mac now r).run w { store := s } = (.error f, j) := by
  have reconciled : (reconcileNotice (.ofInstant now) (.object notice)).run w { store := s } = (.error f, j) := by
    unfold reconcileNotice
    rw [reads]
    exact fails
  refine webhook_of_received connected ?_ verified
  unfold receive
  rw [Moment.instant_ofInstant, genuine]
  exact run_bind_error (fun result => done result.acknowledge) reconciled

theorem serve_of_fails (reaches : Route.of app.settings.enableBilling r.method r.path = .endpoint .webhook)
    (fails : (app.webhook mac now r).run w { store := s } = (.error f, j)) :
    (app.serve mac now r).run w { store := s } = (.ok (app.failure r f), j) := by
  have routed := run_handle_error reported fails
  unfold serve route failure
  rw [preflight?_of_webhook reaches, reaches]
  dsimp only [endpoint]
  cases told : f.report? with
  | none =>
    have silent : reported f = .fail f := by
      unfold reported
      rw [told]
    rw [silent] at routed
    exact run_handle_error _ (run_bind_error _ routed)
  | some report =>
    have spoken : reported f = ofExcept (Response.json report.status report.body []) := by
      unfold reported
      rw [told]
    rw [spoken] at routed
    rw [Option.bind_some]
    cases written : Response.json report.status report.body [] with
    | error g =>
      rw [written] at routed
      exact run_handle_error _ (run_bind_error _ routed)
    | ok response =>
      rw [written] at routed
      exact run_handle_ok _ (run_bind_ok _ routed)

end App

section Statuses

variable {f : Fault} {told : Report}

theorem App.status_of_report (app : App) (r : Http.Request) (reports : f.report? = some told) :
    (app.failure r f).status = if told.body.isStandard then told.status else 500 := by
  unfold failure Http.Response.json
  rw [reports, Option.bind_some]
  by_cases standard : told.body.isStandard = true <;> simp only [standard] <;> rfl

theorem App.status_of_none (app : App) (r : Http.Request) (silent : f.report? = none) : (app.failure r f).status = 500 := by
  unfold failure
  rw [silent]
  rfl

theorem Fault.Grave.reported (grave : f.Grave) : f.report? = none ∨ ∃ r, f.report? = some r ∧ r.status = 500 := by
  cases f with
  | defaultProductMissing => exact .inr ⟨_, rfl, show FailureKind.defaultProductMissing.status = 500 by decide +kernel⟩
  | duplicateBilling => exact .inr ⟨_, rfl, show FailureKind.duplicateBilling.status = 500 by decide +kernel⟩
  | payerUnknown => exact .inr ⟨_, rfl, show FailureKind.billingUserNotFound.status = 500 by decide +kernel⟩
  | incomplete => exact .inr ⟨_, rfl, show FailureKind.reconciliation.status = 500 by decide +kernel⟩
  | _ => exact .inl grave.1

theorem Fault.Absence.reported (absence : f.Absence) : ∃ r, f.report? = some r ∧ r.status = 404 := by
  cases f with
  | userNotFound => exact ⟨_, rfl, show FailureKind.userNotFound.status = 404 by decide +kernel⟩
  | noBilling => exact ⟨_, rfl, show FailureKind.billingNotFound.status = 404 by decide +kernel⟩
  | _ => exact absence.elim

theorem App.failure_of_grave (app : App) (r : Http.Request) (grave : f.Grave) : 500 ≤ (app.failure r f).status := by
  rcases grave.reported with silent | ⟨told, reports, status⟩
  · rw [app.status_of_none r silent]
  · rw [app.status_of_report r reports, status, ite_self]

theorem App.failure_of_absence (app : App) (r : Http.Request) (absence : f.Absence) :
    500 ≤ (app.failure r f).status ↔ ¬ f.Lacks := by
  obtain ⟨told, reports, status⟩ := absence.reported
  have written : f.Lacks ↔ told.body.isStandard := by
    unfold Fault.Lacks
    rw [reports]
    simp [absence]
  rw [app.status_of_report r reports, status, written]
  split <;> simp_all

end Statuses

-- A reconciliation that fails is answered with 500 or more, unless its last call was an update that found no row
-- and says so.
theorem App.serve_failure {mac : Mac} {app : App} {now : Instant} {r : Http.Request} {w : Surroundings} {s : Store}
    (reaches : Http.Route.of app.settings.enableBilling r.method r.path = .endpoint .webhook)
    (connected : app.connection.client.isSome)
    (genuine : Delivery.verify mac app.verification now ⟨r.body, r.headers.get? "stripe-signature"⟩ = .ok notice)
    (reads : Event.ofNotice (.object notice) = .ok e) (foreign : ∀ n f, .fault f ∈ w.disturbances n → f.Foreign)
    (fails : ((reconcile (.ofInstant now) e).run w { store := s }).1 = .error f) :
    ∃ response j, (app.serve mac now r).run w { store := s } = (.ok response, j) ∧ (500 ≤ response.status ↔ ¬ f.Lacks) ∧
      (f.Lacks → ∃ call, j.calls.getLast? = some call ∧ call.Misses j.store) := by
  obtain ⟨j, fails⟩ := Program.run_fails fails
  have kind := reconcile_fails foreign fails
  have verified : ∀ flaw, f ≠ .unverified flaw := by
    rintro flaw rfl
    rcases kind with grave | ⟨absence, -⟩
    · exact absurd grave.1 nofun
    · exact absence
  refine ⟨_, j, serve_of_fails reaches (webhook_of_fails connected genuine reads fails verified), ?_, ?_⟩
  · rcases kind with grave | ⟨absence, -⟩
    · exact iff_of_true (app.failure_of_grave r grave) fun lacks => grave.not_absence lacks.1
    · exact app.failure_of_absence r absence
  · intro lacks
    rcases kind with grave | ⟨-, misses⟩
    · exact absurd lacks.1 grave.not_absence
    · exact misses

namespace Shop

def service : App where
  settings :=
    { appName := "Shop", appVersion := "1", debug := false, logLevel := "INFO", host := "0.0.0.0", port := 8000,
      reload := false, corsOrigins := [], corsAllowCredentials := false, corsAllowMethods := [], corsAllowHeaders := [],
      databaseUrl := "https://shop.com", databaseKey := "key", tokenSecret := "", paymentKey := "sk_test",
      webhookSecret := "whsec_test", paymentVersion := "", webhookTolerance := 300, enableBilling := true }
  connection := { client := some 1 }

def noon : Instant := ⟨1718452800000000⟩

def canceled : Members :=
  [("id", "evt"), ("type", "customer.subscription.updated"),
    ("data", .object [("object", .object [("id", "sub"), ("status", "canceled"), ("current_period_end", .int 1893456000),
      ("items", .object [("data", .list [.object [("price", .object [("id", "price-pro")])]])])])])]

def canceledUpdate : SubscriptionUpdated :=
  { change (some .canceled) (some "price-pro") with
    head := ⟨some "evt", "customer.subscription.updated"⟩
    revokesAccess := true }

def posted : Http.Request where
  host := "shop.com"
  method := "POST"
  path := "/api/billing/webhook"
  query := ""
  headers := [("stripe-signature", "t=1718452800,v1=1ae439b178ac224caa85ad934521657cdd23a1cca9120b47f30c1d1a66212860")]
  body := Text.Utf8.encodeText (Document.object canceled).render

theorem posted_genuine : Delivery.verify Crypto.hmacSha256 service.verification noon
    ⟨posted.body, posted.headers.get? "stripe-signature"⟩ = .ok canceled := by decide +kernel

theorem posted_reads : Event.ofNotice (.object canceled) = .ok (.updated canceledUpdate) := by decide

theorem posted_reaches : Http.Route.of service.settings.enableBilling posted.method posted.path = .endpoint .webhook := by
  decide

def undefaulted : Store := { (ledger .active "pro" "pro").store with products := [pro, team] }

def deserted : Store := { (ledger .active "pro" "pro").store with users := [] }

theorem missing_default_answered :
    ∃ response j, (service.serve Crypto.hmacSha256 noon posted).run (.quiet (.ofInstant noon)) { store := undefaulted } =
        (.ok response, j) ∧ (500 ≤ response.status ↔ ¬ Fault.defaultProductMissing.Lacks) ∧
      (Fault.defaultProductMissing.Lacks → ∃ call, j.calls.getLast? = some call ∧ call.Misses j.store) := by
  have fails : ((reconcile (.ofInstant noon) (.updated canceledUpdate)).run (.quiet (.ofInstant noon))
      { store := undefaulted }).1 = .error .defaultProductMissing := by decide +kernel
  exact App.serve_failure posted_reaches rfl posted_genuine posted_reads nofun fails

-- The record of the user who is not there is canceled. The answer is that there is no such user, and asks for no
-- other delivery.
theorem missing_user_refused :
    Delivery.verify Crypto.hmacSha256 service.verification noon ⟨posted.body, posted.headers.get? "stripe-signature"⟩ =
        .ok canceled ∧ Event.ofNotice (.object canceled) = .ok (.updated canceledUpdate) ∧
      ((reconcile (.ofInstant noon) (.updated canceledUpdate)).run (.quiet (.ofInstant noon)) { store := deserted }).1 =
        .error (.userNotFound "ann") ∧
      ∃ response j, (service.serve Crypto.hmacSha256 noon posted).run (.quiet (.ofInstant noon)) { store := deserted } =
        (.ok response, j) ∧ response.status = 404 := by
  have fails : ((reconcile (.ofInstant noon) (.updated canceledUpdate)).run (.quiet (.ofInstant noon))
      { store := deserted }).1 = .error (.userNotFound "ann") := by decide +kernel
  obtain ⟨j, ends⟩ := Program.run_fails fails
  have served := App.serve_of_fails posted_reaches (App.webhook_of_fails rfl posted_genuine posted_reads ends nofun)
  have status : (service.failure posted (.userNotFound "ann")).status = 404 := by decide +kernel
  exact ⟨posted_genuine, posted_reads, fails, _, j, served, status⟩

end Shop
end SubscriptionLedger
