import SubscriptionLedger.Proofs.Acceptance

namespace SubscriptionLedger

inductive Document.Branch where
  | member (name : String)
  -- the first element of a list
  | head
deriving DecidableEq, Repr

namespace Document

def at? : List Branch → Document → Option Document
  | [], d => some d
  | .member name :: path, .object members => (Members.find? members name).bind (at? path)
  | .head :: path, .list (d :: _) => at? path d
  | _, _ => none

-- Puts something in the place of what stands at the end of a path; where the path leads nowhere, nothing changes.
def replace (new : Document) : List Branch → Document → Document
  | [], _ => new
  | .member name :: path, .object members => .object (Members.put members name (replace new path (Members.get members name)))
  | .head :: path, .list (d :: rest) => .list (replace new path d :: rest)
  | _, d => d

def down (names : List String) : List Branch := names.map .member

def Apart (p q : List String) : Prop := ¬ p <+: q ∧ ¬ q <+: p

instance : DecidableRel Apart := fun _ _ => inferInstanceAs (Decidable (_ ∧ _))

section Paths

variable {new d x : Document} {name other : String} {names q : List String} {path : List Branch}

theorem down_cons : down (name :: names) ++ path = .member name :: (down names ++ path) := rfl

theorem isObject_replace : (replace new (.member name :: path) d).isObject = d.isObject := by
  cases d <;> rfl

theorem member_replace_other (distinct : other ≠ name) : (replace new (.member name :: path) d).member other = d.member other := by
  cases d with
  | object members =>
    change Option.getD _ _ = Option.getD _ _
    rw [Members.find?_put_other _ _ distinct]
  | _ => rfl

theorem member_replace_self (new : Document) (there : at? (.member name :: path) d = some x) :
    (replace new (.member name :: path) d).member name = replace new path (d.member name) ∧ at? path (d.member name) = some x := by
  cases d with
  | object members =>
    obtain ⟨v, found, there⟩ := Option.bind_eq_some_iff.1 there
    constructor
    · change Option.getD _ _ = _
      rw [Members.find?_put_same]
      rfl
    · change at? path (Option.getD _ _) = _
      rw [found]
      exact there
  | _ => cases there

theorem dig_replace_apart (apart : Apart names q) : (replace new (down names ++ path) d).dig q = d.dig q := by
  induction names generalizing d q with
  | nil => exact absurd List.nil_prefix apart.1
  | cons name names ih =>
    cases q with
    | nil => exact absurd List.nil_prefix apart.2
    | cons other q =>
      change ((replace new _ d).member other).dig q = (d.member other).dig q
      by_cases same : other = name
      · subst same
        have apart : Apart names q :=
          ⟨fun starts => apart.1 (List.cons_prefix_cons.2 ⟨rfl, starts⟩), fun starts => apart.2 (List.cons_prefix_cons.2 ⟨rfl, starts⟩)⟩
        cases d with
        | object members =>
          have put : (replace new (down (other :: names) ++ path) (.object members)).member other =
              replace new (down names ++ path) (Members.get members other) := by
            change Option.getD _ _ = _
            rw [Members.find?_put_same]
            rfl
          rw [put]
          exact ih apart
        | _ => rfl
      · rw [down_cons, member_replace_other same]

theorem dig_replace (new : Document) (names : List String) (path : List Branch) (there : at? (down names ++ path) d = some x) :
    (replace new (down names ++ path) d).dig names = replace new path (d.dig names) ∧ at? path (d.dig names) = some x := by
  induction names generalizing d with
  | nil => exact ⟨rfl, there⟩
  | cons name names ih =>
    rw [down_cons] at there
    obtain ⟨moved, further⟩ := member_replace_self new there
    obtain ⟨reached, last⟩ := ih further
    refine ⟨?_, last⟩
    change ((replace new _ d).member name).dig names = _
    rw [down_cons, moved]
    exact reached

theorem head_replace (new : Document) (there : at? (.head :: path) d = some x) :
    ∃ e rest, d = .list (e :: rest) ∧ replace new (.head :: path) d = .list (replace new path e :: rest) ∧ at? path e = some x := by
  cases d with
  | list ds =>
    cases ds with
    | nil => cases there
    | cons e rest => exact ⟨e, rest, rfl, rfl, there⟩
  | _ => cases there

end Paths

end Document

namespace Notice

open Document

section Places

def pricing : List String := ["pricing", "price_details", "price"]

def priceReferences : List (List String) := [["price"], pricing, ["plan"]]

def lineReferences : List (List String) :=
  priceReferences ++ [["subscription"], ["parent", "subscription_item_details", "subscription"]]

def ownReferences : List (List String) := [["customer"], ["subscription"], ["parent", "subscription_details", "subscription"]]

def inFirst (list : String) (path : List String) : List Branch := down [list, "data"] ++ .head :: down path

def newsReferences : List (List Branch) :=
  ownReferences.map down ++ (lineReferences.map (inFirst "lines") ++ priceReferences.map (inFirst "items"))

def references : List (List Branch) := newsReferences.map (down ["data", "object"] ++ ·)

def pricedLists : List (String × String) := [("invoice.paid", "lines"), ("customer.subscription.updated", "items")]

-- The price of a pricing counts: the line or the item that is read for the price names none of its own.
def Decisive (notice : Members) (place : List Branch) : Prop :=
  ∃ list line, ((context notice).type, list) ∈ pricedLists ∧ place = down ["data", "object"] ++ inFirst list pricing ∧
    firstElement ((context notice).object.dig [list, "data"]) = .ok line ∧ (reference (line.dig ["price"])).isTruthy = false

end Places

section Readings

-- Two lines, or two items, that tell the same but for the price.
structure AlikeLine (line line' : Document) : Prop where
  isObject : line'.isObject = line.isObject
  times : ∀ path ∈ [["period", "end"], ["current_period_end"]], line'.dig path = line.dig path
  subscriptions : ∀ path ∈ [["subscription"], ["parent", "subscription_item_details", "subscription"]],
    reference (line'.dig path) = reference (line.dig path)

-- Lists of which at most the first elements differ.
inductive AlikeFirst (d : Document) : Document → Prop where
  | same : AlikeFirst d d
  | first (here : d = .list (line :: rest)) (alike : AlikeLine line line') : AlikeFirst d (.list (line' :: rest))

structure Alike (o o' : Document) : Prop where
  isObject : o'.isObject = o.isObject
  fields : ∀ path ∈ [["customer_email"], ["status"], ["current_period_end"], ["cancel_at"], ["id"]], o'.dig path = o.dig path
  references : ∀ path ∈ ownReferences, reference (o'.dig path) = reference (o.dig path)
  lists : ∀ path ∈ [["lines", "data"], ["items", "data"]], AlikeFirst (o.dig path) (o'.dig path)

variable {c : Context} {o o' d d' line line' : Document}

theorem AlikeLine.refl (line : Document) : AlikeLine line line := ⟨rfl, fun _ _ => rfl, fun _ _ => rfl⟩

theorem AlikeFirst.isTruthy (alike : AlikeFirst d d') : d'.isTruthy = d.isTruthy := by
  cases alike with
  | same => rfl
  | first here => rw [here]; rfl

theorem AlikeFirst.firstElement (alike : AlikeFirst d d') :
    (∃ m, firstElement d = .error m ∧ firstElement d' = .error m) ∨
      ∃ line line', firstElement d = .ok line ∧ firstElement d' = .ok line' ∧ AlikeLine line line' := by
  cases alike with
  | same =>
    cases read : Notice.firstElement d with
    | error m => exact .inl ⟨m, rfl, rfl⟩
    | ok line => exact .inr ⟨line, line, rfl, rfl, .refl line⟩
  | first here alike =>
    rw [here]
    exact .inr ⟨_, _, rfl, rfl, alike⟩

theorem orMisfit_ok (a : α) : Except.orMisfit (.ok a) = pure a := rfl

theorem linePrice_eq_dig (line : Document) : linePrice line = if line.isObject then
    .ok (first [reference (line.dig ["price"]), line.dig pricing, reference (line.dig ["plan"])])
    else .error .notAnObject := by
  unfold linePrice
  rw [memberOf_eq, memberOf_eq]
  cases line.isObject <;> rfl

def subscriptionLine (o : Document) : Except Misfit Document :=
  if (o.dig ["lines", "data"]).isTruthy then firstElement (o.dig ["lines", "data"]) else .ok (.object [])

theorem invoiceSubscription_eq_dig (o : Document) : invoiceSubscription o = (subscriptionLine o).bind fun line =>
    if o.isObject && line.isObject then
      .ok (first [reference (o.dig ["subscription"]), reference (o.dig ["parent", "subscription_details", "subscription"]),
        reference (line.dig ["subscription"]), reference (line.dig ["parent", "subscription_item_details", "subscription"])])
    else .error .notAnObject := by
  have looked : ∀ line, (do
      let direct ← memberOf o "subscription"
      let ofLine ← memberOf line "subscription"
      return first [reference direct, reference (o.dig ["parent", "subscription_details", "subscription"]),
        reference ofLine, reference (line.dig ["parent", "subscription_item_details", "subscription"])]) =
      if o.isObject && line.isObject then
        .ok (first [reference (o.dig ["subscription"]), reference (o.dig ["parent", "subscription_details", "subscription"]),
          reference (line.dig ["subscription"]), reference (line.dig ["parent", "subscription_item_details", "subscription"])])
      else .error Misfit.notAnObject := by
    intro line
    rw [memberOf_eq, memberOf_eq]
    cases o.isObject <;> cases line.isObject <;> rfl
  unfold invoiceSubscription subscriptionLine
  dsimp only
  split
  · cases firstElement (o.dig ["lines", "data"]) with
    | error m => rfl
    | ok line => exact looked line
  · exact looked _

theorem invoiceSubscription_congr (alike : Alike o o') : invoiceSubscription o' = invoiceSubscription o := by
  have lines := alike.lists ["lines", "data"] (by simp)
  have direct := alike.references ["subscription"] (by simp [ownReferences])
  have parent := alike.references ["parent", "subscription_details", "subscription"] (by simp [ownReferences])
  rw [invoiceSubscription_eq_dig, invoiceSubscription_eq_dig, direct, parent, alike.isObject]
  unfold subscriptionLine
  rw [lines.isTruthy]
  split
  · rcases lines.firstElement with ⟨m, read, read'⟩ | ⟨line, line', read, read', both⟩
    · rw [read, read']
    · rw [read, read']
      dsimp only [Except.bind]
      rw [both.isObject, both.subscriptions ["subscription"] (by simp),
        both.subscriptions ["parent", "subscription_item_details", "subscription"] (by simp)]
  · rfl

def SamePrice (d d' : Document) : Prop :=
  ∀ line line', firstElement d = .ok line → firstElement d' = .ok line' → linePrice line' = linePrice line

theorem invoicePaid_congr (alike : Alike c.object o') (prices : SamePrice (c.object.dig ["lines", "data"]) (o'.dig ["lines", "data"])) :
    invoicePaid { c with object := o' } = invoicePaid c := by
  have lines := alike.lists ["lines", "data"] (by simp)
  have email : o'.member "customer_email" = c.object.member "customer_email" := alike.fields ["customer_email"] (by simp)
  have customer : reference (o'.member "customer") = reference (c.object.member "customer") :=
    alike.references ["customer"] (by simp [ownReferences])
  unfold invoicePaid
  dsimp only
  rw [lines.isTruthy, email, customer, invoiceSubscription_congr alike]
  split
  · rfl
  · rcases lines.firstElement with ⟨m, read, read'⟩ | ⟨line, line', read, read', both⟩
    · rw [read, read']
      rfl
    · rw [read, read', orMisfit_ok, orMisfit_ok, pure_bind, pure_bind]
      rw [both.times ["period", "end"] (by simp), prices line line' read read']
      rfl

theorem invoicePaymentFailed_congr (alike : Alike c.object o') : invoicePaymentFailed { c with object := o' } = invoicePaymentFailed c := by
  unfold invoicePaymentFailed
  rw [invoiceSubscription_congr alike]
  rfl

theorem subscriptionUpdated_congr (alike : Alike c.object o')
    (prices : SamePrice (c.object.dig ["items", "data"]) (o'.dig ["items", "data"])) :
    subscriptionUpdated { c with object := o' } = subscriptionUpdated c := by
  have items := alike.lists ["items", "data"] (by simp)
  have word : o'.member "status" = c.object.member "status" := alike.fields ["status"] (by simp)
  have period : o'.member "current_period_end" = c.object.member "current_period_end" := alike.fields ["current_period_end"] (by simp)
  have cancel : o'.member "cancel_at" = c.object.member "cancel_at" := alike.fields ["cancel_at"] (by simp)
  have id : o'.member "id" = c.object.member "id" := alike.fields ["id"] (by simp)
  unfold subscriptionUpdated
  dsimp only
  rw [items.isTruthy, word, period, cancel, id]
  split
  · rfl
  · rcases items.firstElement with ⟨m, read, read'⟩ | ⟨item, item', read, read', both⟩
    · rw [read, read']
      rfl
    · rw [read, read', orMisfit_ok, orMisfit_ok, pure_bind, pure_bind, memberOf_eq, memberOf_eq]
      rw [both.isObject, both.times ["current_period_end"] (by simp), prices item item' read read']
      rfl

theorem subscriptionDeleted_congr (alike : Alike c.object o') : subscriptionDeleted { c with object := o' } = subscriptionDeleted c := by
  have id : o'.member "id" = c.object.member "id" := alike.fields ["id"] (by simp)
  unfold subscriptionDeleted
  rw [id]
  rfl

end Readings

section Expansions

variable {c : Context} {o line d : Document} {s : String} {members : Members} {p q : List String} {list : String} {path : List Branch}

theorem SamePrice.refl (d : Document) : SamePrice d d := by
  intro line line' read read'
  rw [read] at read'
  rw [Except.ok.inj read']

variable (named : Members.get members "id" = .text s)
include named

theorem reference_object : reference (.object members) = reference (.text s) := by
  unfold reference
  dsimp only
  rw [named]

theorem isTruthy_object : (Document.object members).isTruthy = true := by
  cases members with
  | nil => cases named
  | cons => rfl

theorem reference_replace (there : at? (down p) d = some (.text s)) (places : p = q ∨ Apart p q) :
    reference ((replace (.object members) (down p) d).dig q) = reference (d.dig q) := by
  rw [← List.append_nil (down p)] at there ⊢
  rcases places with rfl | apart
  · obtain ⟨reached, last⟩ := dig_replace (.object members) p [] there
    rw [reached, Option.some.inj last]
    exact reference_object named
  · rw [dig_replace_apart apart]

theorem alikeLine_replace (listed : p ∈ lineReferences) (there : at? (down p) line = some (.text s)) :
    AlikeLine line (replace (.object members) (down p) line) where
  isObject := by
    cases p with
    | nil => exact absurd listed (by decide)
    | cons => exact isObject_replace
  times q time := by
    have apart : ∀ p ∈ lineReferences, ∀ q ∈ [["period", "end"], ["current_period_end"]], Apart p q := by decide
    rw [← List.append_nil (down p), dig_replace_apart (apart p listed q time)]
  subscriptions q place := by
    have places : ∀ p ∈ lineReferences, ∀ q ∈ [["subscription"], ["parent", "subscription_item_details", "subscription"]],
        p = q ∨ Apart p q := by decide
    exact reference_replace named there (places p listed q place)

theorem linePrice_replace (listed : p ∈ lineReferences) (there : at? (down p) line = some (.text s))
    (told : p = pricing → (reference (line.dig ["price"])).isTruthy = true) :
    linePrice (replace (.object members) (down p) line) = linePrice line := by
  have places : ∀ p ∈ lineReferences, ∀ q ∈ [["price"], ["plan"]], p = q ∨ Apart p q := by decide
  have price := reference_replace named there (places p listed ["price"] (by simp))
  have plan := reference_replace named there (places p listed ["plan"] (by simp))
  rw [linePrice_eq_dig, linePrice_eq_dig, (alikeLine_replace named listed there).isObject, price, plan]
  by_cases here : p = pricing
  · rw [first_of_isTruthy (told here), first_of_isTruthy (told here)]
  · have apart : ∀ p ∈ lineReferences, p ≠ pricing → Apart p pricing := by
      decide
    rw [← List.append_nil (down p), dig_replace_apart (apart p listed here)]

theorem linePrice_replace_pricing (there : at? (down pricing) line = some (.text s))
    (untold : (reference (line.dig ["price"])).isTruthy = false) :
    linePrice (replace (.object members) (down pricing) line) = .ok (.object members) := by
  have object : line.isObject = true := by
    cases line with
    | object => rfl
    | _ => cases there
  have price := reference_replace named (q := ["price"]) there (by decide)
  have priced : (replace (.object members) (down pricing) line).dig pricing =
      .object members := (dig_replace _ pricing [] there).1
  rw [linePrice_eq_dig, (alikeLine_replace named (by decide) there).isObject, price, priced, object, first_of_idle untold,
    first_of_isTruthy (isTruthy_object named)]
  rfl

theorem alike_own (listed : p ∈ ownReferences) (there : at? (down p) o = some (.text s)) :
    Alike o (replace (.object members) (down p) o) where
  isObject := by
    cases p with
    | nil => exact absurd listed (by decide)
    | cons => exact isObject_replace
  fields q field := by
    have apart : ∀ p ∈ ownReferences, ∀ q ∈ [["customer_email"], ["status"], ["current_period_end"], ["cancel_at"], ["id"]], Apart p q := by
      decide
    rw [← List.append_nil (down p), dig_replace_apart (apart p listed q field)]
  references q place := by
    have places : ∀ p ∈ ownReferences, ∀ q ∈ ownReferences, p = q ∨ Apart p q := by decide
    exact reference_replace named there (places p listed q place)
  lists q lists := by
    have apart : ∀ p ∈ ownReferences, ∀ q ∈ [["lines", "data"], ["items", "data"]], Apart p q := by decide
    rw [← List.append_nil (down p), dig_replace_apart (apart p listed q lists)]
    exact .same

omit named in
theorem inFirst_replace (there : at? (inFirst list p) o = some (.text s)) : ∃ line rest, o.dig [list, "data"] = .list (line :: rest) ∧
    (replace (.object members) (inFirst list p) o).dig [list, "data"] = .list (replace (.object members) (down p) line :: rest) ∧
      at? (down p) line = some (.text s) := by
  obtain ⟨reached, last⟩ := dig_replace (.object members) _ _ there
  obtain ⟨line, rest, lines, replaced, there'⟩ := head_replace (.object members) last
  exact ⟨line, rest, lines, reached.trans replaced, there'⟩

theorem alike_inFirst (known : list ∈ ["lines", "items"]) (listed : p ∈ lineReferences)
    (there : at? (inFirst list p) o = some (.text s)) : Alike o (replace (.object members) (inFirst list p) o) where
  isObject := isObject_replace
  fields q field := by
    have apart : ∀ list ∈ ["lines", "items"], ∀ q ∈ [["customer_email"], ["status"], ["current_period_end"], ["cancel_at"], ["id"]],
        Apart [list, "data"] q := by decide
    exact dig_replace_apart (apart list known q field)
  references q place := by
    have apart : ∀ list ∈ ["lines", "items"], ∀ q ∈ ownReferences, Apart [list, "data"] q := by decide
    exact congrArg reference (dig_replace_apart (apart list known q place))
  lists q lists := by
    by_cases same : q = [list, "data"]
    · obtain ⟨line, rest, lines, replaced, last⟩ := inFirst_replace there
      rw [same, replaced]
      exact .first lines (alikeLine_replace named listed last)
    · have apart : ∀ list ∈ ["lines", "items"], ∀ q ∈ [["lines", "data"], ["items", "data"]], q ≠ [list, "data"] →
          Apart [list, "data"] q := by decide
      have kept : (replace (.object members) (inFirst list p) o).dig q = o.dig q := dig_replace_apart (apart list known q lists same)
      rw [kept]
      exact .same

omit named in
theorem newsReferences_cases (listed : path ∈ newsReferences) : (∃ p ∈ ownReferences, path = down p) ∨
    ∃ list ∈ ["lines", "items"], ∃ p ∈ lineReferences, path = inFirst list p := by
  unfold newsReferences at listed
  simp only [List.mem_append, List.mem_map] at listed
  rcases listed with ⟨p, own, rfl⟩ | ⟨p, line, rfl⟩ | ⟨p, item, rfl⟩
  · exact .inl ⟨p, own, rfl⟩
  · exact .inr ⟨"lines", by simp, p, line, rfl⟩
  · exact .inr ⟨"items", by simp, p, List.mem_append_left _ item, rfl⟩

theorem alike_replace (listed : path ∈ newsReferences) (there : at? path o = some (.text s)) :
    Alike o (replace (.object members) path o) := by
  rcases newsReferences_cases listed with ⟨p, own, rfl⟩ | ⟨list, known, p, line, rfl⟩
  · exact alike_own named own there
  · exact alike_inFirst named known line there

theorem samePrice_replace (listed : path ∈ newsReferences) (there : at? path o = some (.text s)) (known : list ∈ ["lines", "items"])
    (told : path = inFirst list pricing → ∀ line, firstElement (o.dig [list, "data"]) = .ok line →
      (reference (line.dig ["price"])).isTruthy = true) :
    SamePrice (o.dig [list, "data"]) ((replace (.object members) path o).dig [list, "data"]) := by
  rcases newsReferences_cases listed with ⟨p, own, rfl⟩ | ⟨other, also, p, line, rfl⟩
  · have apart : ∀ p ∈ ownReferences, ∀ list ∈ ["lines", "items"], Apart p [list, "data"] := by decide
    rw [← List.append_nil (down p), dig_replace_apart (apart p own list known)]
    exact .refl _
  · by_cases same : other = list
    · subst same
      obtain ⟨line', rest, lines, replaced, last⟩ := inFirst_replace there
      rw [lines, replaced]
      intro first first' read read'
      cases read
      cases read'
      refine linePrice_replace named line last fun here => told (by rw [here]) _ ?_
      rw [lines]
      rfl
    · have apart : ∀ other ∈ ["lines", "items"], ∀ list ∈ ["lines", "items"], other ≠ list → Apart [other, "data"] [list, "data"] := by
        decide
      have kept : (replace (.object members) (inFirst other p) o).dig [list, "data"] = o.dig [list, "data"] :=
        dig_replace_apart (apart other also list known same)
      rw [kept]
      exact .refl _

omit named in
theorem context_replace {notice : Members} (there : at? (down ["data", "object"] ++ path) (.object notice) = some (.text s)) :
    ∃ notice', replace (.object members) (down ["data", "object"] ++ path) (.object notice) = .object notice' ∧
      context notice' = { context notice with object := replace (.object members) path (context notice).object } ∧
        at? path (context notice).object = some (.text s) := by
  obtain ⟨moved, last⟩ := dig_replace (.object members) _ _ there
  have kept : ∀ name, name ≠ "data" → (replace (.object members) (down ["data", "object"] ++ path) (.object notice)).member name =
      (Document.object notice).member name := fun name other => member_replace_other other
  refine ⟨_, rfl, ?_, last⟩
  unfold context
  congr 1
  · exact kept "id" (by decide)
  · have type : Members.get (Members.put notice "data" _) "type" = Members.get notice "type" := kept "type" (by decide)
    exact congrArg (fun d : Document => if d.isTruthy then d.display else "") type

end Expansions

section Readers

variable {c : Context} {o o' line : Document} {e : Event} {list : String} {read : Context → Except Fault Event}

theorem reader_congr (known : reader? c.type = some read) (alike : Alike c.object o')
    (prices : ∀ list, (c.type, list) ∈ pricedLists → SamePrice (c.object.dig [list, "data"]) (o'.dig [list, "data"])) :
    read { c with object := o' } = read c := by
  unfold reader? at known
  split at known
  · rename_i type
    cases known
    exact invoicePaid_congr alike (prices "lines" (by rw [type]; decide))
  · cases known
    exact invoicePaymentFailed_congr alike
  · rename_i type
    cases known
    exact subscriptionUpdated_congr alike (prices "items" (by rw [type]; decide))
  · cases known
    exact subscriptionDeleted_congr alike
  · cases known

theorem reader_of_priced {type : String} (priced : (type, list) ∈ pricedLists) :
    list ∈ ["lines", "items"] ∧ type ≠ "" ∧ ∃ read, reader? type = some read := by
  unfold pricedLists at priced
  simp only [List.mem_cons, Prod.mk.injEq, List.not_mem_nil, or_false] at priced
  rcases priced with ⟨rfl, rfl⟩ | ⟨rfl, rfl⟩
  · exact ⟨by decide, by decide, _, rfl⟩
  · exact ⟨by decide, by decide, _, rfl⟩

theorem reader_price (known : reader? c.type = some read) (made : read c = .ok e) (priced : (c.type, list) ∈ pricedLists)
    (leads : c.object.dig [list, "data"] = .list (line :: rest)) : ∃ d, linePrice line = .ok d ∧ IsText d := by
  unfold pricedLists at priced
  simp only [List.mem_cons, Prod.mk.injEq, List.not_mem_nil, or_false] at priced
  rcases priced with ⟨type, rfl⟩ | ⟨type, rfl⟩
  all_goals
    rw [type] at known
    cases (Option.some.inj known : _ = read)
  · rcases invoicePaid_made made with ⟨absent, -⟩ | ⟨line', p, -, pays⟩
    · rw [leads] at absent
      cases absent
    · have first := pays.first
      rw [leads] at first
      cases (Except.ok.inj first : line = line')
      exact ⟨_, pays.price, .inr ⟨_, rfl⟩⟩
  · obtain ⟨item, u, -, updates⟩ := subscriptionUpdated_made made
    have first := updates.first
    rw [leads] at first
    cases (Except.ok.inj first : line = item)
    refine ⟨_, updates.price, ?_⟩
    cases u.priceId with
    | none => exact .inl rfl
    | some s => exact .inr ⟨s, rfl⟩

end Readers

end Notice

open Document Notice in
-- Expanding a reference changes nothing, except where it makes an object of a price that counts: then there is no event.
theorem Event.ofNotice_expand {notice members : Members} {place : List Branch} {s : String} (listed : place ∈ references)
    (there : at? place (.object notice) = some (.text s)) (named : Members.get members "id" = .text s) :
    (¬ Decisive notice place → ofNotice (replace (.object members) place (.object notice)) = ofNotice (.object notice)) ∧
      (Decisive notice place → ∀ e, ofNotice (replace (.object members) place (.object notice)) ≠ .ok e) := by
  obtain ⟨path, news, rfl⟩ := List.mem_map.1 listed
  obtain ⟨notice', replaced, same, last⟩ := context_replace there
  have alike := alike_replace named news last
  rw [replaced]
  unfold ofNotice Decisive
  dsimp only
  rw [same]
  generalize context notice = c at *
  constructor
  · intro idle
    have prices : ∀ list, (c.type, list) ∈ pricedLists →
        SamePrice (c.object.dig [list, "data"]) ((replace (.object members) path c.object).dig [list, "data"]) := by
      intro list priced
      refine samePrice_replace named news last (reader_of_priced priced).1 fun here line first => ?_
      by_contra untold
      exact idle ⟨list, line, priced, by rw [here], first, by simpa using untold⟩
    split
    · rfl
    · cases known : reader? c.type with
      | none => rfl
      | some read =>
        dsimp only
        rw [alike.isObject, reader_congr known alike prices]
        rfl
  · rintro ⟨list, line, priced, here, first, untold⟩ e made
    obtain rfl : path = inFirst list pricing := List.append_cancel_left here
    obtain ⟨line', rest, lines, lines', there'⟩ := inFirst_replace last
    obtain ⟨-, named_, read, known⟩ := reader_of_priced priced
    rw [lines] at first
    cases first
    rw [if_neg named_, known] at made
    dsimp only at made
    split at made
    · obtain ⟨d, told, text⟩ :=
        reader_price (c := { c with object := replace (.object members) (inFirst list pricing) c.object }) known made priced lines'
      rw [linePrice_replace_pricing named there' untold] at told
      cases told
      rcases text with nothing | ⟨_, text⟩
      · cases nothing
      · cases text
    · cases made

namespace Shop

open Document Notice

def pricedLine (own : Document) : Members :=
  [("price", own), ("pricing", .object [("price_details", .object [("price", "price_pro")])]), ("subscription", "sub"),
    ("period", .object [("end", .int 1893456000)])]

def pricedNotice (own : Document) : Members :=
  [("id", "evt"), ("type", "invoice.paid"), ("data", .object [("object", .object [("customer_email", "ann@shop.com"),
    ("customer", "cus"), ("lines", .object [("data", .list [.object (pricedLine own)])])])])]

def pricingPlace : List Branch := down ["data", "object"] ++ inFirst "lines" pricing

def expandedPrice : Members := [("object", "price"), ("id", "price_pro"), ("active", .bool true)]

theorem told_twice : ¬ Decisive (pricedNotice "price_pro") pricingPlace ∧
    (∃ e, Event.ofNotice (.object (pricedNotice "price_pro")) = .ok e) ∧
    Event.ofNotice (replace (.object expandedPrice) pricingPlace (.object (pricedNotice "price_pro"))) =
      Event.ofNotice (.object (pricedNotice "price_pro")) := by
  have told : ¬ Decisive (pricedNotice "price_pro") pricingPlace := by
    rintro ⟨list, line, priced, here, first, untold⟩
    have lines : list = "lines" := by
      have read : (("invoice.paid", list) : String × String) ∈ pricedLists := priced
      simpa [pricedLists] using read
    subst lines
    cases (Except.ok.inj first : .object (pricedLine "price_pro") = line)
    cases untold
  exact ⟨told, ⟨_, rfl⟩, (Event.ofNotice_expand (by decide) rfl rfl).1 told⟩

-- The price is told by the pricing alone; expanded, it is taken for the name itself.
theorem pricing_misread : at? pricingPlace (.object (pricedNotice .null)) = some "price_pro" ∧
    Members.get expandedPrice "id" = "price_pro" ∧ (∃ e, Event.ofNotice (.object (pricedNotice .null)) = .ok e) ∧
    ∃ fault, Event.ofNotice (replace (.object expandedPrice) pricingPlace (.object (pricedNotice .null))) = .error fault ∧
      fault.report? = none :=
  ⟨rfl, rfl, ⟨_, rfl⟩, _, rfl, rfl⟩

end Shop
end SubscriptionLedger
