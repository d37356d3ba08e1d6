import SubscriptionLedger.Proofs.Answer

namespace SubscriptionLedger

theorem mapM_eq_some_cons {f : α → Option β} {x : α} {xs : List α} :
    (x :: xs).mapM f = some ys ↔ ∃ y rest, f x = some y ∧ xs.mapM f = some rest ∧ ys = y :: rest := by
  rw [List.mapM_cons]
  cases f x <;> cases xs.mapM f <;> simp [eq_comm]

theorem mem_of_mapM_eq_some {f : α → Option β} {xs : List α} (all : xs.mapM f = some ys) (there : y ∈ ys) :
    ∃ x ∈ xs, f x = some y := by
  induction xs generalizing ys with
  | nil =>
    cases all
    cases there
  | cons x xs ih =>
    obtain ⟨y', rest, here, later, rfl⟩ := mapM_eq_some_cons.1 all
    rcases List.mem_cons.1 there with rfl | behind
    · exact ⟨x, .head _, here⟩
    · obtain ⟨x', near, same⟩ := ih later behind
      exact ⟨x', .tail _ near, same⟩

namespace Delivery

variable {mac : Mac} {v : Verification} {now : Instant} {d : Delivery} {members : Members} {header secret : String}
  {bytes : List UInt8}

structure Signs (mac : Mac) (secret header : String) (body : List UInt8) (time : Int) : Prop where
  stamp : ∃ item value, (headerItems header).find? (·.name == "t".toList) = some item ∧ item.value = some value ∧
    wholeOfText (String.ofList value) = .ok time
  code : ∃ item ∈ headerItems header, item.name = "v1".toList ∧
    item.value = some (Text.Hex.encode
      (mac (Text.Utf8.encodeText secret) (Text.Utf8.encodeText (toString time ++ ".") ++ body))).toList

-- A delivery from someone who knows the secret, not long ago, with an object in its body.
structure Authentic (mac : Mac) (v : Verification) (now : Instant) (d : Delivery) (members : Members) : Prop where
  -- of the blanks only those of ASCII are none
  secret : ∃ c ∈ v.secret.toList, ¬ Text.isAsciiBlank c
  text : ∃ cs, Text.Utf8.decode d.body = .ok cs
  signed : ∃ header time, d.signature = some header ∧ Signs mac v.secret header d.body time ∧
    (v.tolerance = 0 ∨ ¬ (now.seconds.minus v.tolerance).isAbove time)
  object : Document.readBytes d.body = .ok (.object members)

theorem signs_of_read? (read : Signature.read? header = some s) (code : expectedCode mac secret s.time bytes ∈ s.codes) :
    Signs mac secret header bytes s.time := by
  unfold Signature.read? at read
  simp only [bind, Option.bind_eq_some_iff, pure, Option.some.injEq] at read
  obtain ⟨times, named, first, head, time, whole, codes, coded, rfl⟩ := read
  constructor
  · unfold valuesOf at named
    cases items : (headerItems header).filter (·.name == "t".toList) with
    | nil =>
      rw [items] at named
      cases named
      cases head
    | cons item rest =>
      rw [items] at named
      obtain ⟨value, _, here, -, rfl⟩ := mapM_eq_some_cons.1 named
      cases head
      obtain ⟨cs, held, rfl⟩ := Option.map_eq_some_iff.1 here
      refine ⟨item, cs, ?_, held, ?_⟩
      · rw [← List.head?_filter, items]
        rfl
      · cases read : wholeOfText (String.ofList cs) with
        | ok n =>
          rw [read] at whole
          cases whole
          rfl
        | error m =>
          rw [read] at whole
          cases whole
  · obtain ⟨item, near, same⟩ := mem_of_mapM_eq_some coded code
    obtain ⟨there, name⟩ := List.mem_filter.1 near
    obtain ⟨cs, held, same⟩ := Option.map_eq_some_iff.1 same
    refine ⟨item, there, eq_of_beq name, ?_⟩
    rw [held, ← String.toList_ofList (l := cs), same]
    rfl

theorem mem_of_anyCode (found : anyCode expected codes = .ok true) : expected ∈ codes := by
  induction codes with
  | nil => cases found
  | cons code rest ih =>
    unfold anyCode at found
    split at found
    · cases found
    · split at found
      · rename_i same
        exact same ▸ .head _
      · exact .tail _ (ih found)

theorem signs_of_checkSignature (checked : checkSignature mac v now bytes header = .ok ()) :
    (∃ c ∈ v.secret.toList, ¬ Text.isAsciiBlank c) ∧ ∃ time, Signs mac v.secret header bytes time ∧
      (v.tolerance = 0 ∨ ¬ (now.seconds.minus v.tolerance).isAbove time) := by
  unfold checkSignature at checked
  split at checked
  · cases checked
  · rename_i written
    split at checked
    · cases checked
    · rename_i s read
      split at checked
      · cases checked
      · cases checked
      · rename_i coded
        split at checked
        · cases checked
        · rename_i recent
          refine ⟨by simpa using written, s.time, signs_of_read? read (mem_of_anyCode coded), ?_⟩
          by_cases unlimited : v.tolerance = 0
          · exact .inl unlimited
          · refine .inr fun above => recent ?_
            unfold isTooOld
            rw [above, Bool.and_true]
            exact bne_iff_ne.2 unlimited

theorem readBytes_of_notice (read : notice bytes = .ok members) : Document.readBytes bytes = .ok (.object members) := by
  unfold notice at read
  split at read
  · cases read
  · rename_i ms whole
    split at read
    · cases read
    · cases shape : Shape.checkMembers Shape.maxSteps .free ms with
      | error =>
        rw [shape] at read
        cases read
      | ok =>
        rw [shape] at read
        cases read
        exact whole
  · cases read

theorem authentic_of_verify (verified : d.verify mac v now = .ok members) : d.Authentic mac v now members := by
  unfold verify at verified
  split at verified
  · cases verified
  · split at verified
    · cases verified
    · cases verified
    · rename_i header _ signature
      split at verified
      · cases verified
      · rename_i cs text
        cases checked : checkSignature mac v now d.body header with
        | error =>
          rw [checked] at verified
          cases verified
        | ok =>
          rw [checked] at verified
          obtain ⟨secret, time, signs, recent⟩ := signs_of_checkSignature checked
          exact ⟨secret, ⟨cs, text⟩, ⟨header, time, signature, signs, recent⟩, readBytes_of_notice verified⟩

end Delivery

section Receiving

open Program

variable {mac : Mac} {v : Verification} {now : Moment} {d : Delivery} {w : Surroundings} {s : Store} {j : Journal}

theorem receive_of_error (fails : d.verify mac v now.instant = .error f) : receive mac v now d = .fail f := by
  unfold receive
  rw [fails]
  rfl

theorem receive_cases (mac : Mac) (v : Verification) (now : Moment) (d : Delivery) (w : Surroundings) (s : Store) :
    (∃ f, (receive mac v now d).run w { store := s } = (.error f, { store := s })) ∨
      ∃ members e, d.verify mac v now.instant = .ok members ∧ Event.ofNotice (.object members) = .ok e ∧
        (receive mac v now d).run w { store := s } =
          (((reconcile now e).run w { store := s }).1.map Reconciliation.acknowledge, ((reconcile now e).run w { store := s }).2) := by
  cases verified : d.verify mac v now.instant with
  | error f =>
    rw [receive_of_error verified]
    exact .inl ⟨f, rfl⟩
  | ok members =>
    have read : receive mac v now d =
        ((ofExcept (Event.ofNotice (.object members))).bind (reconcile now)).bind fun r => done r.acknowledge := by
      unfold receive
      rw [verified]
      rfl
    rw [read]
    cases reads : Event.ofNotice (.object members) with
    | error f => exact .inl ⟨f, rfl⟩
    | ok e =>
      refine .inr ⟨members, e, rfl, reads, ?_⟩
      change ((reconcile now e).bind fun r => done r.acknowledge).run w _ = _
      rw [run_bind]
      cases (reconcile now e).run w { store := s } with
      | mk result j => cases result <;> rfl

theorem authentic_of_calls (calls : ((receive mac v now d).run w { store := s }).2.calls ≠ []) :
    ∃ members e, d.Authentic mac v now.instant members ∧ Event.ofNotice (.object members) = .ok e ∧ e.kind ≠ .ignored := by
  rcases receive_cases mac v now d w s with ⟨f, refused⟩ | ⟨members, e, verified, reads, runs⟩
  · rw [refused] at calls
    exact absurd rfl calls
  · refine ⟨members, e, Delivery.authentic_of_verify verified, reads, fun ignored => calls ?_⟩
    rw [runs]
    cases e with
    | ignored => rfl
    | _ => cases ignored

end Receiving

namespace App

open Http Program

variable {mac : Mac} {app : App} {now : Instant} {r : Request} {w : Surroundings} {s : Store}

theorem acknowledge_cases (result : Reconciliation) :
    (∃ response, ok result.acknowledge.toDocument = done response ∧ response.status = 200) ∨
      ok result.acknowledge.toDocument = .fail (.misfit .badValue) := by
  by_cases standard : result.acknowledge.toDocument.isStandard
  · exact .inl ⟨_, congrArg ofExcept (if_pos standard), rfl⟩
  · exact .inr (congrArg ofExcept (if_neg standard))

theorem webhook_cases (mac : Mac) (app : App) (now : Instant) (r : Request) (s : Store)
    (foreign : ∀ n f, .fault f ∈ w.disturbances n → f.Foreign) :
    ((app.webhook mac now r).run w { store := s }).2.calls = [] ∨
      (∃ response, ((app.webhook mac now r).run w { store := s }).1 = .ok response ∧ response.status = 200) ∨
      ∃ f, ((app.webhook mac now r).run w { store := s }).1 = .error f ∧ (f.Grave ∨ f.Absence) := by
  cases open_ : app.connection.client with
  | none =>
    unfold webhook App.connected Connection.get
    rw [open_]
    exact .inl rfl
  | some client =>
    have begun : app.webhook mac now r =
        ((receive mac app.verification (.ofInstant now) ⟨r.body, r.headers.get? "stripe-signature"⟩).bind
          fun a => ok a.toDocument).handle deliveryFault := by
      unfold webhook App.connected Connection.get
      rw [open_]
      rfl
    rcases receive_cases mac app.verification (.ofInstant now) ⟨r.body, r.headers.get? "stripe-signature"⟩ w s with
      ⟨f, refused⟩ | ⟨members, e, verified, reads, runs⟩
    · rw [begun, run_handle, run_bind, refused]
      refine .inl ?_
      dsimp only
      unfold deliveryFault
      split <;> rfl
    · refine .inr ?_
      cases ends : (reconcile (.ofInstant now) e).run w { store := s } with
      | mk result j =>
        cases result with
        | ok result =>
          rw [begun, run_handle, run_bind, runs, ends]
          dsimp only [Except.map]
          rcases acknowledge_cases result with ⟨response, answered, status⟩ | failed
          · rw [answered]
            exact .inl ⟨response, rfl, status⟩
          · rw [failed]
            exact .inr ⟨_, rfl, .inl (Fault.foreign_misfit .badValue).grave⟩
        | error f =>
          have kind := (reconcile_fails foreign ends).imp_right And.left
          have verifies : ∀ flaw, f ≠ .unverified flaw := by
            rintro flaw rfl
            rcases kind with grave | absence
            · exact absurd grave.1 nofun
            · exact absence
          rw [Moment.instant_ofInstant] at verified
          rw [webhook_of_fails (open_ ▸ rfl) verified reads ends verifies]
          exact .inr ⟨f, rfl, kind⟩

theorem serve_of_answers (reaches : Route.of app.settings.enableBilling r.method r.path = .endpoint .webhook)
    (answers : (app.webhook mac now r).run w { store := s } = (.ok response, j)) :
    (app.serve mac now r).run w { store := s } =
      (.ok (withOrigin (OriginPolicy.ofSettings app.settings) r.headers response), j) := by
  have routed := run_handle_ok reported answers
  unfold serve route
  rw [preflight?_of_webhook reaches, reaches]
  exact run_handle_ok _ (run_bind_ok _ routed)

theorem calls_of_refused (reaches : Route.of app.settings.enableBilling r.method r.path = .endpoint .webhook)
    (foreign : ∀ n f, .fault f ∈ w.disturbances n → f.Foreign)
    (answered : ((app.serve mac now r).run w { store := s }).1 = .ok response) (refused : response.status = 400) :
    ((app.serve mac now r).run w { store := s }).2.calls = [] := by
  have cases_ := webhook_cases mac app now r s foreign
  cases ends : (app.webhook mac now r).run w { store := s } with
  | mk result j =>
    rw [ends] at cases_
    cases result with
    | ok told =>
      rw [serve_of_answers reaches ends] at answered ⊢
      cases answered
      rcases cases_ with none | ⟨other, same, status⟩ | ⟨f, same, -⟩
      · exact none
      · cases same
        exact absurd (refused.symm.trans status) (by decide)
      · cases same
    | error f =>
      rw [serve_of_fails reaches ends] at answered ⊢
      cases answered
      rcases cases_ with none | ⟨other, same, -⟩ | ⟨g, same, grave | absence⟩
      · exact none
      · cases same
      · cases same
        have status := app.failure_of_grave r grave
        omega
      · cases same
        obtain ⟨told, reports, status⟩ := absence.reported
        rw [app.status_of_report r reports, status] at refused
        split at refused <;> cases refused

end App

-- Only authentic deliveries of news that are reconciled make a call to the store, and what is answered with 400 has
-- made none.
theorem only_authentic (mac : Mac) :
    (∀ (v : Verification) (now : Moment) (d : Delivery) (w : Surroundings) (s : Store),
      ((receive mac v now d).run w { store := s }).2.calls ≠ [] →
        ∃ members e, d.Authentic mac v now.instant members ∧ Event.ofNotice (.object members) = .ok e ∧ e.kind ≠ .ignored) ∧
    ∀ (app : App) (now : Instant) (r : Http.Request) (w : Surroundings) (s : Store),
      Http.Route.of app.settings.enableBilling r.method r.path = .endpoint .webhook →
      (∀ n f, .fault f ∈ w.disturbances n → f.Foreign) → ∀ response,
        ((app.serve mac now r).run w { store := s }).1 = .ok response → response.status = 400 →
          ((app.serve mac now r).run w { store := s }).2.calls = [] := by
  constructor
  · intro v now d w s calls
    exact authentic_of_calls calls
  · intro app now r w s reaches foreign response answered refused
    exact App.calls_of_refused reaches foreign answered refused

namespace Shop

def unsigned : Http.Request := { posted with headers := [] }

theorem unsigned_refused :
    (∃ members e, (⟨posted.body, posted.headers.get? "stripe-signature"⟩ : Delivery).Authentic Crypto.hmacSha256
      service.verification noon members ∧ Event.ofNotice (.object members) = .ok e ∧ e.kind ≠ .ignored) ∧
    ((service.serve Crypto.hmacSha256 noon unsigned).run (.quiet (.ofInstant noon)) { store := undefaulted }).2.calls = [] := by
  have calls : ((receive Crypto.hmacSha256 service.verification (.ofInstant noon)
      ⟨posted.body, posted.headers.get? "stripe-signature"⟩).run (.quiet (.ofInstant noon)) { store := undefaulted }).2.calls ≠ [] := by
    decide +kernel
  have refused : ((service.serve Crypto.hmacSha256 noon unsigned).run (.quiet (.ofInstant noon)) { store := undefaulted }).1.map
      (·.status) = .ok 400 := by decide +kernel
  obtain ⟨response, answered, status⟩ := Except.map_eq_ok.1 refused
  exact ⟨(only_authentic Crypto.hmacSha256).1 _ _ _ _ _ calls,
    (only_authentic Crypto.hmacSha256).2 service noon unsigned _ _ posted_reaches nofun response answered status⟩

end Shop
end SubscriptionLedger
