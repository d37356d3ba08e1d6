import SubscriptionLedger.Proofs.Notice

namespace SubscriptionLedger

-- A notice of which the parts that an event needs are not all there.
def Fault.Refusal (f : Fault) : Prop := ∃ type flaw eventId, f = .malformedNotice type flaw eventId

-- A reading that comes to something exactly if what it asks for is there, and refuses the notice otherwise.
def Yields (x : Except Fault α) (asked : Prop) (post : α → Prop) : Prop :=
  match x with
  | .ok a => asked ∧ post a
  | .error f => ¬ asked ∧ f.Refusal

section Yields

variable {x : Except Fault α} {asked more : Prop} {post : α → Prop}

theorem yields_ok (holds : post a) : Yields (.ok a) True post := ⟨trivial, holds⟩

theorem yields_bind {f : α → Except Fault β} {last : β → Prop} (first : Yields x asked post)
    (second : ∀ a, post a → Yields (f a) more last) : Yields (x >>= f) (asked ∧ more) last := by
  cases x with
  | error g => exact ⟨fun both => first.1 both.1, first.2⟩
  | ok a =>
    have later := second a first.2
    change Yields (f a) (asked ∧ more) last
    cases made : f a with
    | error g =>
      rw [made] at later
      exact ⟨fun both => later.1 both.2, later.2⟩
    | ok b =>
      rw [made] at later
      exact ⟨⟨first.1, later.1⟩, later.2⟩

theorem yields_step {f : α → Except Fault β} {last : β → Prop} (first : x = .ok a) (second : Yields (f a) asked last) :
    Yields (x >>= f) asked last := by
  rw [first]
  exact second

theorem yields_congr (same : asked ↔ more) (yields : Yields x asked post) : Yields x more post := by
  cases x with
  | error => exact ⟨fun wanted => yields.1 (same.2 wanted), yields.2⟩
  | ok => exact ⟨same.1 yields.1, yields.2⟩

end Yields

namespace Notice

section Kinds

def IsText (d : Document) : Prop := d = .null ∨ ∃ s, d = .text s

def IsTime (d : Document) : Prop := d = .null ∨ ∃ n, d = .int n ∧ Moment.firstSecond ≤ n ∧ n ≤ Moment.lastSecond

def IsReference (d : Document) : Prop := IsText d ∨ ∃ members, d = .object members ∧ IsText (Members.get members "id")

def IsObjects (d : Document) (each : Members → Prop) : Prop :=
  d = .null ∨ ∃ objects : List Members, d = .list (objects.map .object) ∧ ∀ o ∈ objects, each o

structure LineKinds (line : Members) : Prop where
  price : IsReference (Members.get line "price")
  pricing : IsText ((Document.object line).dig ["pricing", "price_details", "price"])
  plan : IsReference (Members.get line "plan")
  subscription : IsReference (Members.get line "subscription")
  parent : IsReference ((Document.object line).dig ["parent", "subscription_item_details", "subscription"])
  periodEnd : IsTime ((Document.object line).dig ["period", "end"])
  currentPeriodEnd : IsTime (Members.get line "current_period_end")

structure InvoiceKinds (o : Members) : Prop where
  customerEmail : IsText (Members.get o "customer_email")
  customer : IsReference (Members.get o "customer")
  subscription : IsReference (Members.get o "subscription")
  parent : IsReference ((Document.object o).dig ["parent", "subscription_details", "subscription"])
  lines : IsObjects ((Document.object o).dig ["lines", "data"]) LineKinds

structure SubscriptionKinds (o : Members) : Prop where
  id : IsText (Members.get o "id")
  status : IsText (Members.get o "status")
  currentPeriodEnd : IsTime (Members.get o "current_period_end")
  cancelAt : IsTime (Members.get o "cancel_at")
  items : IsObjects ((Document.object o).dig ["items", "data"]) LineKinds

def invoiceTypes : List String := ["invoice.paid", "invoice.payment_failed"]

def subscriptionTypes : List String := ["customer.subscription.updated", "customer.subscription.deleted"]

-- A notice whose parts are of the documented kinds. What stands where an object should be counts as absent.
structure Kinds (members : Members) : Prop where
  id : IsText (Members.get members "id")
  type : IsText (Members.get members "type")
  invoice (told : Members.get members "type" = .text word) (about : word ∈ invoiceTypes)
    (object : (Document.object members).dig ["data", "object"] = .object o) : InvoiceKinds o
  subscription (told : Members.get members "type" = .text word) (about : word ∈ subscriptionTypes)
    (object : (Document.object members).dig ["data", "object"] = .object o) : SubscriptionKinds o

end Kinds

section Places

def Filled (d : Document) : Prop := ∃ s, s ≠ "" ∧ d = .text s

def Names (d : Document) : Prop := Filled d ∨ ∃ members, d = .object members ∧ Filled (Members.get members "id")

def Leads (d : Document) (o : Members) : Prop := ∃ rest, d = .list (.object o :: rest)

def Priced (line : Members) : Prop :=
  Names (Members.get line "price") ∨ Filled ((Document.object line).dig ["pricing", "price_details", "price"]) ∨
    Names (Members.get line "plan")

def Subscribed (invoice : Members) : Prop :=
  Names (Members.get invoice "subscription") ∨
    Names ((Document.object invoice).dig ["parent", "subscription_details", "subscription"]) ∨
    ∃ line, Leads ((Document.object invoice).dig ["lines", "data"]) line ∧ (Names (Members.get line "subscription") ∨
      Names ((Document.object line).dig ["parent", "subscription_item_details", "subscription"]))

-- A time that counts as there, which the very first second does not.
def Timed (d : Document) : Prop := ∃ n : Int, n ≠ 0 ∧ d = .int n

def statusWords : List String :=
  ["active", "trialing", "past_due", "unpaid", "incomplete", "paused", "canceled", "incomplete_expired"]

structure Pays (invoice line : Members) : Prop where
  first : Leads ((Document.object invoice).dig ["lines", "data"]) line
  -- the end of the period of a line may be the very first second
  periodEnd : (Document.object line).dig ["period", "end"] ≠ .null
  email : Filled (Members.get invoice "customer_email")
  customer : Names (Members.get invoice "customer")
  price : Priced line
  subscription : Subscribed invoice

structure Updates (subscription item : Members) : Prop where
  first : Leads ((Document.object subscription).dig ["items", "data"]) item
  status : Filled (Members.get subscription "status") → ∃ word ∈ statusWords, Members.get subscription "status" = .text word
  periodEnd : Timed (Members.get subscription "current_period_end") ∨ Timed (Members.get item "current_period_end")
  id : Filled (Members.get subscription "id")

def Tells (o : Members) (type : String) (kind : EventKind) : Prop :=
  match type with
  | "invoice.paid" =>
    kind = .ignored ∧ (∀ line, ¬ Leads ((Document.object o).dig ["lines", "data"]) line) ∨
      kind = .invoicePaid ∧ ∃ line, Pays o line
  | "invoice.payment_failed" => kind = .invoicePaymentFailed ∧ Subscribed o
  | "customer.subscription.updated" => kind = .subscriptionUpdated ∧ ∃ item, Updates o item
  | "customer.subscription.deleted" => kind = .subscriptionDeleted ∧ Filled (Members.get o "id")
  | _ => False

def reconciledTypes : List String := invoiceTypes ++ subscriptionTypes

inductive Accepts (members : Members) : EventKind → Prop where
  | other (type : Members.get members "type" = .text word) (named : word ≠ "") (unknown : word ∉ reconciledTypes) :
    Accepts members .ignored
  | news (type : Members.get members "type" = .text word) (object : (Document.object members).dig ["data", "object"] = .object o)
    (tells : Tells o word kind) : Accepts members kind

end Places

section Readings

variable {d : Document} {ds : List Document} {c : Context}

theorem isObject_iff : d.isObject = true ↔ ∃ o, d = .object o := by
  cases d with
  | object o => exact iff_of_true rfl ⟨o, rfl⟩
  | _ => simp [Document.isObject]

theorem isTruthy_of_isText (kind : IsText d) : d.isTruthy ↔ Filled d := by
  rcases kind with rfl | ⟨s, rfl⟩
  · simp [Document.isTruthy, Filled]
  · simp [Document.isTruthy, Filled]

theorem isTruthy_of_isTime (kind : IsTime d) : d.isTruthy ↔ Timed d := by
  rcases kind with rfl | ⟨n, rfl, -⟩
  · simp [Document.isTruthy, Timed]
  · simp [Document.isTruthy, Timed]

theorem name_of_text (kind : IsText d) : Filled d ∧ Filled (if d.isTruthy then .text d.display else .null) ∨
    ¬ Filled d ∧ (if d.isTruthy then Document.text d.display else .null) = .null := by
  by_cases filled : Filled d
  · refine .inl ⟨filled, ?_⟩
    rw [if_pos ((isTruthy_of_isText kind).2 filled)]
    obtain ⟨s, named, rfl⟩ := filled
    exact ⟨s, named, rfl⟩
  · exact .inr ⟨filled, if_neg fun counts => filled ((isTruthy_of_isText kind).1 counts)⟩

theorem reference_cases (kind : IsReference d) : Names d ∧ Filled (reference d) ∨ ¬ Names d ∧ reference d = .null := by
  cases kind with
  | inl text =>
    have plain : reference d = if d.isTruthy then Document.text d.display else .null := by
      rcases text with rfl | ⟨s, rfl⟩ <;> rfl
    have own : Names d ↔ Filled d := by
      rcases text with rfl | ⟨s, rfl⟩ <;> simp [Names]
    rw [plain, own]
    exact name_of_text text
  | inr expanded =>
    obtain ⟨members, rfl, text⟩ := expanded
    have own : Names (.object members) ↔ Filled (Members.get members "id") := by simp [Names, Filled]
    rw [own]
    exact name_of_text text

theorem reference_isText (d : Document) : IsText (reference d) := by
  have either (name : Document) : IsText (if name.isTruthy then .text name.display else .null) := by
    split
    · exact .inr ⟨_, rfl⟩
    · exact .inl rfl
  exact either _

theorem filled_reference (kind : IsReference d) : Filled (reference d) ↔ Names d := by
  rcases reference_cases kind with ⟨names, filled⟩ | ⟨nameless, none⟩
  · exact iff_of_true filled names
  · rw [none]
    exact iff_of_false nofun nameless

theorem memberOf_eq (d : Document) (name : String) :
    memberOf d name = if d.isObject then .ok (d.dig [name]) else .error .notAnObject := by
  cases d <;> rfl

theorem first_of_isTruthy (counts : d.isTruthy = true) (ds : List Document) : first (d :: ds) = d := by
  unfold first
  rw [List.find?_cons_of_pos counts]
  rfl

theorem first_of_idle (idle : d.isTruthy = false) (ds : List Document) : first (d :: ds) = first ds := by
  unfold first
  rw [List.find?_cons_of_neg (by simp [idle])]

theorem first_cases (ds : List Document) : first ds = .null ∧ (∀ d ∈ ds, ¬ d.isTruthy) ∨ first ds ∈ ds ∧ (first ds).isTruthy := by
  unfold first
  cases found : ds.find? (·.isTruthy) with
  | none => exact .inl ⟨rfl, fun d there => List.find?_eq_none.1 found d there⟩
  | some d => exact .inr ⟨List.mem_of_find?_eq_some found, List.find?_some found⟩

theorem first_iff {holds : Document → Prop} (counts : ∀ d ∈ ds, d.isTruthy ↔ holds d) (nothing : ¬ holds .null) :
    holds (first ds) ↔ ∃ d ∈ ds, holds d := by
  rcases first_cases ds with ⟨none, absent⟩ | ⟨there, found⟩
  · rw [none]
    refine iff_of_false nothing ?_
    rintro ⟨d, there, held⟩
    exact absent d there ((counts d there).2 held)
  · have held := (counts _ there).1 found
    exact iff_of_true held ⟨_, there, held⟩

theorem first_timed (ds : List Document) (times : ∀ d ∈ ds, IsTime d) : IsTime (first ds) ∧ (first ds ≠ .null ↔ ∃ d ∈ ds, Timed d) := by
  have timed := first_iff (fun d there => isTruthy_of_isTime (times d there)) nofun
  rw [← timed]
  rcases first_cases ds with ⟨none, -⟩ | ⟨there, counts⟩
  · rw [none]
    exact ⟨.inl rfl, iff_of_false (· rfl) nofun⟩
  · have time := times _ there
    refine ⟨time, iff_of_true ?_ ((isTruthy_of_isTime time).1 counts)⟩
    intro none
    rw [none] at counts
    cases counts

theorem first_isText (kinds : ∀ d ∈ ds, IsText d) : IsText (first ds) := by
  rcases first_cases ds with ⟨none, -⟩ | ⟨there, -⟩
  · exact .inl none
  · exact kinds _ there

theorem first_filled (texts : ∀ d ∈ ds, IsText d) : IsText (first ds) ∧ (Filled (first ds) ↔ ∃ d ∈ ds, Filled d) :=
  ⟨first_isText texts, first_iff (fun d there => isTruthy_of_isText (texts d there)) nofun⟩

theorem lines_cases (kinds : IsObjects d each) : d.isTruthy = false ∧ (∀ o, ¬ Leads d o) ∨
    ∃ o, Leads d o ∧ each o ∧ d.isTruthy = true ∧ firstElement d = .ok (.object o) := by
  rcases kinds with rfl | ⟨_ | ⟨o, rest⟩, rfl, all⟩
  · exact .inl ⟨rfl, nofun⟩
  · exact .inl ⟨rfl, nofun⟩
  · exact .inr ⟨o, ⟨_, rfl⟩, all o List.mem_cons_self, rfl, rfl⟩

theorem leads_unique (here : Leads d o) (there : Leads d other) : other = o := by
  obtain ⟨_, rfl⟩ := here
  obtain ⟨_, same⟩ := there
  cases same
  rfl

theorem exists_leading_iff {holds : Members → Prop} (leads : Leads d o) (leading : ∀ other, holds other → Leads d other) :
    (∃ other, holds other) ↔ holds o := by
  constructor
  · intro some
    obtain ⟨other, held⟩ := some
    rwa [leads_unique leads (leading other held)] at held
  · exact fun held => ⟨o, held⟩

theorem linePrice_eq (kinds : LineKinds line) : ∃ d, linePrice (.object line) = .ok d ∧ IsText d ∧ (Filled d ↔ Priced line) := by
  have texts : ∀ d ∈ [reference (Members.get line "price"), (Document.object line).dig ["pricing", "price_details", "price"],
      reference (Members.get line "plan")], IsText d := by
    simp only [List.forall_mem_cons]
    exact ⟨reference_isText _, kinds.pricing, reference_isText _, nofun⟩
  obtain ⟨text, filled⟩ := first_filled texts
  refine ⟨_, rfl, text, filled.trans ?_⟩
  simp [Priced, filled_reference kinds.price, filled_reference kinds.plan]

theorem first_references (ds : List Document) (kinds : ∀ d ∈ ds, IsReference d) :
    IsText (first (ds.map reference)) ∧ (Filled (first (ds.map reference)) ↔ ∃ d ∈ ds, Names d) := by
  have texts : ∀ d ∈ ds.map reference, IsText d := by
    simp only [List.forall_mem_map]
    exact fun d _ => reference_isText d
  obtain ⟨text, filled⟩ := first_filled texts
  refine ⟨text, filled.trans ?_⟩
  simp only [List.mem_map, exists_exists_and_eq_and]
  exact exists_congr fun d => and_congr_right fun there => filled_reference (kinds d there)

-- Where an invoice of which a line is the first tells its subscription.
def subscriptionPlaces (invoice line : Members) : List Document :=
  [Members.get invoice "subscription", (Document.object invoice).dig ["parent", "subscription_details", "subscription"],
    Members.get line "subscription", (Document.object line).dig ["parent", "subscription_item_details", "subscription"]]

theorem invoiceSubscription_idle (idle : ((Document.object o).dig ["lines", "data"]).isTruthy = false) :
    invoiceSubscription (.object o) = .ok (first ((subscriptionPlaces o []).map reference)) := by
  unfold invoiceSubscription
  simp only [idle, Bool.false_eq_true, if_false]
  rfl

theorem invoiceSubscription_leads (leads : Leads ((Document.object o).dig ["lines", "data"]) line) :
    invoiceSubscription (.object o) = .ok (first ((subscriptionPlaces o line).map reference)) := by
  obtain ⟨rest, lines⟩ := leads
  unfold invoiceSubscription
  simp only [lines]
  rfl

theorem invoiceSubscription_eq (kinds : InvoiceKinds o) :
    ∃ d, invoiceSubscription (.object o) = .ok d ∧ IsText d ∧ (Filled d ↔ Subscribed o) := by
  rcases lines_cases kinds.lines with ⟨absent, none⟩ | ⟨line, leads, lineKinds, -⟩
  · obtain ⟨text, filled⟩ := first_references (subscriptionPlaces o []) (by
      simp only [subscriptionPlaces, List.forall_mem_cons]
      exact ⟨kinds.subscription, kinds.parent, .inl (.inl rfl), .inl (.inl rfl), nofun⟩)
    refine ⟨_, invoiceSubscription_idle absent, text, filled.trans ?_⟩
    have nameless : ¬ Names .null := by simp [Names, Filled]
    have places : subscriptionPlaces o [] = [Members.get o "subscription",
        (Document.object o).dig ["parent", "subscription_details", "subscription"], .null, .null] := rfl
    simp [Subscribed, places, none, nameless]
  · obtain ⟨text, filled⟩ := first_references (subscriptionPlaces o line) (by
      simp only [subscriptionPlaces, List.forall_mem_cons]
      exact ⟨kinds.subscription, kinds.parent, lineKinds.subscription, lineKinds.parent, nofun⟩)
    refine ⟨_, invoiceSubscription_leads leads, text, filled.trans ?_⟩
    unfold Subscribed
    rw [exists_leading_iff leads fun _ both => both.1]
    simp [subscriptionPlaces, leads]

theorem require_cases (c : Context) (part : NoticePart) (d : Document) :
    (d ≠ .null ∧ d ≠ .text "") ∧ c.require part d = .ok d ∨
      ¬ (d ≠ .null ∧ d ≠ .text "") ∧ c.require part d = c.refuse (.missing part) := by
  unfold Context.require
  by_cases missing : d = .null ∨ d = .text ""
  · have flagged : (decide (d = .null) || decide (d = .text "")) = true := by simpa using missing
    exact .inr ⟨fun given => not_or.2 given missing, if_pos flagged⟩
  · have unflagged : ¬ (decide (d = .null) || decide (d = .text "")) = true := by simpa using missing
    exact .inl ⟨not_or.1 missing, if_neg unflagged⟩

theorem require_yields {asked : Prop} {post : Document → Prop} (part : NoticePart)
    (same : d ≠ .null ∧ d ≠ .text "" ↔ asked) (holds : asked → post d) : Yields (c.require part d) asked post := by
  rcases require_cases c part d with ⟨given, passed⟩ | ⟨missing, refused⟩
  · rw [passed]
    exact ⟨same.1 given, holds (same.1 given)⟩
  · rw [refused]
    exact ⟨fun wanted => missing (same.2 wanted), _, _, _, rfl⟩

theorem require_text (part : NoticePart) (kind : IsText d) : Yields (c.require part d) (Filled d) (∃ s, · = .text s) := by
  apply require_yields part
  · cases kind with
    | inl none => simp [none, Filled]
    | inr text =>
      obtain ⟨s, rfl⟩ := text
      simp [Filled]
  · rintro ⟨s, -, text⟩
    exact ⟨s, text⟩

theorem require_time (part : NoticePart) (kind : IsTime d) : Yields (c.require part d) (d ≠ .null)
    (fun d => ∃ n, d = .int n ∧ Moment.firstSecond ≤ n ∧ n ≤ Moment.lastSecond) := by
  apply require_yields part
  · cases kind with
    | inl none => simp [none]
    | inr time =>
      obtain ⟨n, rfl, -⟩ := time
      simp
  · exact kind.resolve_left

theorem moment_int (least : Moment.firstSecond ≤ n) (greatest : n ≤ Moment.lastSecond) :
    moment (.int n) = .ok ⟨n * perSecond, some 0⟩ := by
  change Moment.ofUnix n = _
  unfold Moment.ofUnix fitsWord wordLimit Moment.firstCountable Moment.lastCountable
  unfold Moment.firstSecond at *
  unfold Moment.lastSecond at *
  rw [if_neg (by simp; omega), if_neg (by omega), if_neg (by omega)]

theorem head_of_isText (kind : IsText c.eventId) : ∃ head, c.head = .ok head := by
  rcases kind with none | ⟨s, text⟩
  · unfold Context.head
    rw [none]
    exact ⟨_, rfl⟩
  · unfold Context.head
    rw [text]
    exact ⟨_, rfl⟩

theorem ignored_yields (kind : IsText c.eventId) (reason : String) : Yields (c.ignored reason) True (·.kind = .ignored) := by
  obtain ⟨head, known⟩ := head_of_isText kind
  unfold Context.ignored
  rw [known]
  exact yields_ok rfl

theorem isSome_status?_iff : (status? word).isSome ↔ word ∈ statusWords := by
  constructor
  · intro known
    unfold status? at known
    split at known
    all_goals first | decide | cases known
  · intro member
    simp only [statusWords, List.mem_cons, List.not_mem_nil, or_false] at member
    rcases member with rfl | rfl | rfl | rfl | rfl | rfl | rfl | rfl
    all_goals rfl

theorem subscriptionStatus_yields (kind : IsText d) : Yields (subscriptionStatus c d)
    (Filled d → ∃ word ∈ statusWords, d = .text word) (fun _ => True) := by
  by_cases filled : Filled d
  · obtain ⟨word, named, rfl⟩ := filled
    have truthy : (!(Document.text word).isTruthy) = false := by simp [Document.isTruthy, named]
    unfold subscriptionStatus
    rw [truthy, if_neg Bool.false_ne_true]
    dsimp only
    cases known : status? word with
    | some status =>
      exact ⟨fun _ => ⟨word, isSome_status?_iff.1 (by rw [known]; rfl), rfl⟩, trivial⟩
    | none =>
      refine ⟨fun wanted => ?_, _, _, _, rfl⟩
      obtain ⟨_, member, same⟩ := wanted ⟨word, named, rfl⟩
      cases same
      have found := isSome_status?_iff.2 member
      rw [known] at found
      cases found
  · have absent : (!d.isTruthy) = true := by
      have counts := mt (isTruthy_of_isText kind).1 filled
      simpa using counts
    unfold subscriptionStatus
    rw [absent, if_pos rfl]
    exact ⟨fun there => absurd there filled, trivial⟩

theorem revocation_of_isText (kind : IsText d) : revocation d = .ok (revokes d) := by
  rcases kind with rfl | ⟨s, rfl⟩
  · rfl
  · rfl

end Readings

section Readers

variable {c : Context} {o line item : Members}

theorem invoicePaid_free (object : c.object = .object o) (named : IsText c.eventId)
    (none : ((Document.object o).dig ["lines", "data"]).isTruthy = false) :
    Yields (invoicePaid c) True (·.kind = .ignored) := by
  unfold invoicePaid
  simp only [object, none, Bool.not_false, if_true]
  exact ignored_yields named _

theorem invoicePaid_yields (object : c.object = .object o) (named : IsText c.eventId) (kinds : InvoiceKinds o)
    (leads : Leads ((Document.object o).dig ["lines", "data"]) line) (lineKinds : LineKinds line) :
    Yields (invoicePaid c) (Pays o line) (·.kind = .invoicePaid) := by
  obtain ⟨rest, lines⟩ := leads
  obtain ⟨price, priceRead, priceText, priced⟩ := linePrice_eq lineKinds
  obtain ⟨subscription, subscriptionRead, subscriptionText, subscribed⟩ := invoiceSubscription_eq kinds
  obtain ⟨head, headRead⟩ := head_of_isText named
  have wanted : (Document.object line).dig ["period", "end"] ≠ .null ∧ Filled (Members.get o "customer_email") ∧
      Filled (reference (Members.get o "customer")) ∧ Filled price ∧ Filled subscription ∧ True ↔ Pays o line := by
    rw [filled_reference kinds.customer, priced, subscribed]
    constructor
    · rintro ⟨periodEnd, email, customer, price, subscription, -⟩
      exact ⟨⟨rest, lines⟩, periodEnd, email, customer, price, subscription⟩
    · exact fun pays => ⟨pays.periodEnd, pays.email, pays.customer, pays.price, pays.subscription, trivial⟩
  refine yields_congr wanted ?_
  unfold invoicePaid
  simp only [object, lines]
  refine yields_step rfl (yields_bind (require_time .linePeriodEnd lineKinds.periodEnd) ?_)
  rintro _ ⟨n, rfl, least, greatest⟩
  refine yields_bind (require_text .customerEmail kinds.customerEmail) ?_
  rintro _ ⟨email, rfl⟩
  refine yields_bind (require_text .customer (reference_isText _)) ?_
  rintro _ ⟨customer, rfl⟩
  refine yields_step (congrArg Except.orMisfit priceRead) (yields_bind (require_text .linePrice priceText) ?_)
  rintro _ ⟨price, rfl⟩
  refine yields_step (congrArg Except.orMisfit subscriptionRead) (yields_bind (require_text .subscription subscriptionText) ?_)
  rintro _ ⟨subscription, rfl⟩
  refine yields_step (congrArg Except.orMisfit (moment_int least greatest)) ?_
  rw [headRead]
  exact yields_ok rfl

theorem invoicePaymentFailed_yields (object : c.object = .object o) (named : IsText c.eventId) (kinds : InvoiceKinds o) :
    Yields (invoicePaymentFailed c) (Subscribed o) (·.kind = .invoicePaymentFailed) := by
  obtain ⟨subscription, read, text, subscribed⟩ := invoiceSubscription_eq kinds
  obtain ⟨head, headRead⟩ := head_of_isText named
  refine yields_congr ((and_iff_left trivial).trans subscribed) ?_
  unfold invoicePaymentFailed
  rw [object]
  refine yields_step (congrArg Except.orMisfit read) (yields_bind (require_text .subscription text) ?_)
  rintro _ ⟨subscription, rfl⟩
  rw [headRead]
  exact yields_ok rfl

theorem subscriptionDeleted_yields (object : c.object = .object o) (named : IsText c.eventId) (kinds : SubscriptionKinds o) :
    Yields (subscriptionDeleted c) (Filled (Members.get o "id")) (·.kind = .subscriptionDeleted) := by
  obtain ⟨head, headRead⟩ := head_of_isText named
  refine yields_congr (and_iff_left trivial) ?_
  unfold subscriptionDeleted
  rw [object]
  refine yields_bind (require_text .subscription kinds.id) ?_
  rintro _ ⟨id, rfl⟩
  rw [headRead]
  exact yields_ok rfl

theorem updated_yields {word price : Document} {id : String} (headRead : c.head = .ok head) (priceRead : linePrice d = .ok price)
    (priceText : IsText price) (told : IsText word) : Yields (do
      let price ← Except.orMisfit (linePrice d)
      let revoked ← Except.orMisfit (revocation word)
      Checked.orInvalid (.eventOf .subscriptionUpdated) <|
        (c.head.map fun head id price => Event.updated ⟨head, id, status, periodEnd, cancelAt, price, revoked⟩)
          |>.both (Checked.field "external_subscription_id" Rule.text (.text id))
          |>.both (Checked.field "external_price_id" (Rule.nullable Rule.text) price)) True (·.kind = .subscriptionUpdated) := by
  rw [priceRead, revocation_of_isText told, headRead]
  rcases priceText with rfl | ⟨s, rfl⟩
  · exact yields_ok rfl
  · exact yields_ok rfl

theorem subscriptionUpdated_yields (object : c.object = .object o) (named : IsText c.eventId) (kinds : SubscriptionKinds o)
    (leads : Leads ((Document.object o).dig ["items", "data"]) item) (itemKinds : LineKinds item) :
    Yields (subscriptionUpdated c) (Updates o item) (·.kind = .subscriptionUpdated) := by
  obtain ⟨rest, items⟩ := leads
  obtain ⟨price, priceRead, priceText, -⟩ := linePrice_eq itemKinds
  obtain ⟨time, timed⟩ := first_timed [Members.get o "current_period_end", Members.get item "current_period_end"] (by
    simp only [List.forall_mem_cons]
    exact ⟨kinds.currentPeriodEnd, itemKinds.currentPeriodEnd, nofun⟩)
  obtain ⟨head, headRead⟩ := head_of_isText named
  have wanted : (Filled (Members.get o "status") → ∃ word ∈ statusWords, Members.get o "status" = .text word) ∧
      first [Members.get o "current_period_end", Members.get item "current_period_end"] ≠ .null ∧
      Filled (Members.get o "id") ∧ True ↔ Updates o item := by
    rw [timed]
    simp only [List.exists_mem_cons_iff, List.not_mem_nil, false_and, exists_false, or_false]
    constructor
    · rintro ⟨status, periodEnd, id, -⟩
      exact ⟨⟨rest, items⟩, status, periodEnd, id⟩
    · exact fun updates => ⟨updates.status, updates.periodEnd, updates.id, trivial⟩
  refine yields_congr wanted ?_
  unfold subscriptionUpdated
  simp only [object, items]
  refine yields_step rfl (yields_bind (subscriptionStatus_yields kinds.status) ?_)
  rintro status -
  refine yields_step rfl (yields_bind (require_time .currentPeriodEnd time) ?_)
  rintro _ ⟨n, rfl, least, greatest⟩
  refine yields_bind (require_text .subscription kinds.id) ?_
  rintro _ ⟨id, rfl⟩
  refine yields_step (congrArg Except.orMisfit (moment_int least greatest)) ?_
  by_cases cut : (Members.get o "cancel_at").isTruthy
  · obtain ⟨n, time, least, greatest⟩ : ∃ n, Members.get o "cancel_at" = .int n ∧ _ :=
      kinds.cancelAt.resolve_left (by rintro none; rw [none] at cut; cases cut)
    rw [Document.member, if_pos cut, time, moment_int least greatest]
    exact yields_step rfl (updated_yields headRead priceRead priceText kinds.status)
  · rw [Document.member, if_neg cut]
    exact yields_step rfl (updated_yields headRead priceRead priceText kinds.status)

end Readers

section Settled

variable {c : Context} {o members : Members} {x : Except Fault Event} {accepted : EventKind → Prop}

def Settled (x : Except Fault Event) (accepted : EventKind → Prop) : Prop :=
  ((∃ e, x = .ok e) ∨ ∃ f : Fault, f.Refusal ∧ x = .error f) ∧ ∀ kind, (∃ e, x = .ok e ∧ e.kind = kind) ↔ accepted kind

theorem settled_of_yields {asked : Prop} (yields : Yields x asked (·.kind = known))
    (same : ∀ kind, accepted kind ↔ kind = known ∧ asked) : Settled x accepted := by
  cases x with
  | error f =>
    refine ⟨.inr ⟨f, yields.2, rfl⟩, fun kind => ?_⟩
    rw [same]
    refine iff_of_false ?_ fun both => yields.1 both.2
    rintro ⟨_, made, -⟩
    cases made
  | ok e =>
    refine ⟨.inl ⟨e, rfl⟩, fun kind => ?_⟩
    rw [same]
    constructor
    · rintro ⟨_, ⟨⟩, rfl⟩
      exact ⟨yields.2, yields.1⟩
    · rintro ⟨rfl, -⟩
      exact ⟨e, rfl, yields.2⟩

theorem settled_congr {other : EventKind → Prop} (same : ∀ kind, accepted kind ↔ other kind) (settled : Settled x accepted) :
    Settled x other := ⟨settled.1, fun kind => (settled.2 kind).trans (same kind)⟩

theorem settled_of_refused (flaw : NoticeFlaw) (none : ∀ kind, ¬ accepted kind) : Settled (c.refuse flaw) accepted := by
  refine ⟨.inr ⟨_, ⟨_, _, _, rfl⟩, rfl⟩, fun kind => iff_of_false ?_ (none kind)⟩
  rintro ⟨_, made, -⟩
  cases made

theorem invoicePaid_settled (object : c.object = .object o) (named : IsText c.eventId) (kinds : InvoiceKinds o) :
    Settled (invoicePaid c) (Tells o "invoice.paid") := by
  rcases lines_cases kinds.lines with ⟨absent, none⟩ | ⟨line, leads, lineKinds, -⟩
  · refine settled_of_yields (invoicePaid_free object named absent) fun kind => ?_
    have unpaid : ¬ ∃ line, Pays o line := fun ⟨line, pays⟩ => none line pays.first
    simp [Tells, none, unpaid]
  · refine settled_of_yields (invoicePaid_yields object named kinds leads lineKinds) fun kind => ?_
    have paid : (∃ line, Pays o line) ↔ Pays o line := exists_leading_iff leads fun _ pays => pays.first
    have some : ¬ ∀ line, ¬ Leads ((Document.object o).dig ["lines", "data"]) line := fun none => none line leads
    simp only [Tells, paid, some, and_false, false_or]

theorem subscriptionUpdated_settled (object : c.object = .object o) (named : IsText c.eventId) (kinds : SubscriptionKinds o) :
    Settled (subscriptionUpdated c) (Tells o "customer.subscription.updated") := by
  rcases lines_cases kinds.items with ⟨absent, none⟩ | ⟨item, leads, itemKinds, -⟩
  · unfold subscriptionUpdated
    simp only [object, absent, Bool.not_false, if_true]
    apply settled_of_refused
    rintro kind ⟨-, item, updates⟩
    exact none item updates.first
  · refine settled_of_yields (subscriptionUpdated_yields object named kinds leads itemKinds) fun kind => ?_
    have updated : (∃ item, Updates o item) ↔ Updates o item := exists_leading_iff leads fun _ updates => updates.first
    simp only [Tells, updated]

theorem reader_settled (known : reader? word = some reader) (object : c.object = .object o) (named : IsText c.eventId)
    (invoice : word ∈ invoiceTypes → InvoiceKinds o) (subscription : word ∈ subscriptionTypes → SubscriptionKinds o) :
    Settled (reader c) (Tells o word) := by
  unfold reader? at known
  split at known <;> cases known
  · exact invoicePaid_settled object named (invoice (by decide))
  · exact settled_of_yields (invoicePaymentFailed_yields object named (invoice (by decide))) fun _ => Iff.rfl
  · exact subscriptionUpdated_settled object named (subscription (by decide))
  · exact settled_of_yields (subscriptionDeleted_yields object named (subscription (by decide))) fun _ => Iff.rfl

theorem reader?_eq_none_iff : reader? word = none ↔ word ∉ reconciledTypes := by
  constructor
  · intro unread member
    simp only [reconciledTypes, invoiceTypes, subscriptionTypes, List.cons_append, List.nil_append, List.mem_cons,
      List.not_mem_nil, or_false] at member
    rcases member with rfl | rfl | rfl | rfl
    all_goals cases unread
  · intro foreign
    unfold reader?
    split
    all_goals first | rfl | exact absurd (by decide) foreign

theorem type_of_tells (tells : Tells o word kind) : word ∈ reconciledTypes := by
  unfold Tells at tells
  split at tells
  · decide
  · decide
  · decide
  · decide
  · cases tells

theorem context_type (kind : IsText (Members.get members "type")) :
    ¬ Filled (Members.get members "type") ∧ (context members).type = "" ∨
      ∃ word, word ≠ "" ∧ Members.get members "type" = .text word ∧ (context members).type = word := by
  by_cases filled : Filled (Members.get members "type")
  · have counts := (isTruthy_of_isText kind).2 filled
    obtain ⟨word, named, text⟩ := filled
    refine .inr ⟨word, named, text, ?_⟩
    rw [text] at counts
    simp [context, text, counts]
  · have absent := mt (isTruthy_of_isText kind).1 filled
    exact .inl ⟨filled, if_neg absent⟩

theorem Accepts.filled (accepts : Accepts members kind) : Filled (Members.get members "type") := by
  cases accepts with
  | other type named => exact ⟨_, named, type⟩
  | news type _ tells =>
    refine ⟨_, ?_, type⟩
    rintro rfl
    exact absurd (type_of_tells tells) (by decide)

theorem accepts_iff (type : Members.get members "type" = .text word) (reconciled : word ∈ reconciledTypes) :
    Accepts members kind ↔ ∃ o, (Document.object members).dig ["data", "object"] = .object o ∧ Tells o word kind := by
  constructor
  · intro accepts
    cases accepts with
    | other other _ unknown =>
      rw [type] at other
      cases other
      exact absurd reconciled unknown
    | news other object tells =>
      rw [type] at other
      cases other
      exact ⟨_, object, tells⟩
  · rintro ⟨o, object, tells⟩
    exact .news type object tells

theorem accepts_other_iff (type : Members.get members "type" = .text word) (named : word ≠ "")
    (unknown : word ∉ reconciledTypes) : Accepts members kind ↔ kind = .ignored ∧ True := by
  constructor
  · intro accepts
    cases accepts with
    | other => exact ⟨rfl, trivial⟩
    | news other _ tells =>
      rw [type] at other
      cases other
      exact absurd (type_of_tells tells) unknown
  · rintro ⟨rfl, -⟩
    exact .other type named unknown

theorem ofNotice_settled (kinds : Kinds members) : Settled (Event.ofNotice (.object members)) (Accepts members) := by
  unfold Event.ofNotice
  dsimp only
  rcases context_type kinds.type with ⟨unnamed, none⟩ | ⟨word, named, type, same⟩
  · rw [if_pos none]
    exact settled_of_refused _ fun kind accepts => unnamed accepts.filled
  · rw [same, if_neg named]
    cases known : reader? word with
    | none =>
      exact settled_of_yields (ignored_yields kinds.id _) fun kind => accepts_other_iff type named (reader?_eq_none_iff.1 known)
    | some reader =>
      have reconciled : word ∈ reconciledTypes := by
        by_contra foreign
        rw [reader?_eq_none_iff.2 foreign] at known
        cases known
      dsimp only
      by_cases whole : ∃ o, (context members).object = .object o
      · obtain ⟨o, object⟩ := whole
        rw [object, Document.isObject, if_pos rfl]
        refine settled_congr (fun kind => ?_) (reader_settled known object kinds.id
          (fun about => kinds.invoice type about object) (fun about => kinds.subscription type about object))
        rw [accepts_iff type reconciled]
        constructor
        · exact fun tells => ⟨o, object, tells⟩
        · rintro ⟨other, there, tells⟩
          cases object.symm.trans there
          exact tells
      · have absent : (context members).object.isObject = false := Bool.eq_false_iff.2 (mt isObject_iff.1 whole)
        rw [absent, if_neg Bool.false_ne_true]
        refine settled_of_refused _ fun kind accepts => whole ?_
        obtain ⟨o, object, -⟩ := (accepts_iff type reconciled).1 accepts
        exact ⟨o, object⟩

end Settled

end Notice

-- A notice whose parts are of the documented kinds is refused or has an event, and it has one of a kind exactly if
-- an event of that kind is what its parts come to.
theorem Event.ofNotice_accepts (kinds : Notice.Kinds members) :
    ((∃ e, Event.ofNotice (.object members) = .ok e) ∨
      ∃ type flaw eventId, Event.ofNotice (.object members) = .error (.malformedNotice type flaw eventId)) ∧
    ∀ kind, (∃ e, Event.ofNotice (.object members) = .ok e ∧ e.kind = kind) ↔ Notice.Accepts members kind := by
  obtain ⟨either, exactly⟩ := Notice.ofNotice_settled kinds
  refine ⟨either.imp_right ?_, exactly⟩
  rintro ⟨_, ⟨type, flaw, eventId, rfl⟩, refused⟩
  exact ⟨type, flaw, eventId, refused⟩

namespace Shop

def paidLine : Members :=
  [("price", .object [("id", "price-pro")]), ("subscription", "sub"), ("period", .object [("end", .int 1893456000)])]

def paidInvoice : Members :=
  [("customer_email", "ann@shop.com"), ("customer", "cus"), ("lines", .object [("data", .list [.object paidLine])])]

def paidNotice : Members :=
  [("id", "evt"), ("type", "invoice.paid"), ("data", .object [("object", .object paidInvoice)])]

theorem paidLine_kinds : Notice.LineKinds paidLine where
  price := .inr ⟨_, rfl, .inr ⟨_, rfl⟩⟩
  pricing := .inl rfl
  plan := .inl (.inl rfl)
  subscription := .inl (.inr ⟨_, rfl⟩)
  parent := .inl (.inl rfl)
  periodEnd := .inr ⟨1893456000, rfl, by decide, by decide⟩
  currentPeriodEnd := .inl rfl

theorem paidInvoice_kinds : Notice.InvoiceKinds paidInvoice where
  customerEmail := .inr ⟨_, rfl⟩
  customer := .inl (.inr ⟨_, rfl⟩)
  subscription := .inl (.inl rfl)
  parent := .inl (.inl rfl)
  lines := .inr ⟨[paidLine], rfl, by simpa using paidLine_kinds⟩

theorem paidNotice_kinds : Notice.Kinds paidNotice where
  id := .inr ⟨_, rfl⟩
  type := .inr ⟨_, rfl⟩
  invoice := by
    rintro word o - - ⟨⟩
    exact paidInvoice_kinds
  subscription := by
    rintro word o ⟨⟩ about
    exact absurd about (by decide)

theorem paidInvoice_pays : Notice.Pays paidInvoice paidLine where
  first := ⟨[], rfl⟩
  periodEnd := by decide
  email := ⟨"ann@shop.com", by decide, rfl⟩
  customer := .inl ⟨"cus", by decide, rfl⟩
  price := .inl (.inr ⟨_, rfl, "price-pro", by decide, rfl⟩)
  subscription := .inr (.inr ⟨paidLine, ⟨[], rfl⟩, .inl (.inl ⟨"sub", by decide, rfl⟩)⟩)

theorem paidNotice_accepted : Notice.Kinds paidNotice ∧
    ∃ e, Event.ofNotice (.object paidNotice) = .ok e ∧ e.kind = .invoicePaid :=
  ⟨paidNotice_kinds, ((Event.ofNotice_accepts paidNotice_kinds).2 .invoicePaid).2
    (.news rfl rfl (.inr ⟨rfl, paidLine, paidInvoice_pays⟩))⟩

end Shop
end SubscriptionLedger
