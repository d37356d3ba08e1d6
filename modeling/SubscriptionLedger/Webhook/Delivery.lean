import SubscriptionLedger.Billing.Reconcile
import SubscriptionLedger.Crypto.Sha256
import SubscriptionLedger.Document.Encoding

namespace SubscriptionLedger

-- What a member has to be; a member that is not named can be anything.
inductive Shape where
  -- a text in it writes an exact decimal
  | decimal
  -- an object, or a list of them, with members of their own shapes
  | parts (members : List (String × Shape))
  -- an object with an entry of the same shape for each key
  | keyed (entry : Shape)

namespace Shape

def free : Shape := parts []

def member (name : String) : Shape → Shape
  | parts members => ((members.find? fun m => m.1 == name).map (·.2)).getD free
  | _ => free

def tiers : Shape := parts [("flat_amount_decimal", decimal), ("unit_amount_decimal", decimal)]

def unitPrice : Shape := parts [("unit_amount_decimal", decimal)]

def fuel : Shape := parts [("quantity_decimal", decimal), ("unit_cost_decimal", decimal)]

def gross : Shape := parts [("gross_amount_decimal", decimal)]

def fleet : Shape :=
  parts [("reported_breakdown", parts [("fuel", gross), ("non_fuel", gross),
    ("tax", parts [("local_amount_decimal", decimal), ("national_amount_decimal", decimal)])])]

def perCurrency : Shape := parts [("currency_options", keyed free)]

def kinds : List (String × Shape) :=
  [("plan", parts [("amount_decimal", decimal), ("tiers", tiers)]),
    ("price", parts [("unit_amount_decimal", decimal), ("tiers", tiers),
      ("currency_options", keyed (parts [("unit_amount_decimal", decimal), ("tiers", tiers)]))]),
    ("credit_note_line_item", unitPrice),
    ("invoiceitem", parts [("pricing", unitPrice)]),
    ("line_item", parts [("pricing", unitPrice)]),
    ("issuing.authorization", parts [("fuel", fuel), ("fleet", fleet)]),
    ("issuing.transaction", parts [("purchase_details", parts [("fuel", fuel), ("fleet", fleet)])]),
    ("checkout.session", parts [("currency_conversion", parts [("fx_rate", decimal)])]),
    ("climate.order", parts [("metric_tons", decimal)]),
    ("climate.product", parts [("metric_tons_available", decimal),
      ("current_prices_per_metric_ton", keyed free)]),
    ("coupon", perCurrency),
    ("promotion_code", parts [("restrictions", perCurrency)]),
    ("shipping_rate", parts [("fixed_amount", perCurrency)])]

def ofObject (expected : Shape) (members : Members) : Shape :=
  match Members.get members "object" with
  | .text kind => ((kinds.find? fun k => k.1 == kind).map (·.2)).getD free
  | _ => expected

def checkDecimal : Document → Except Misfit Unit
  | .text s => if Decimal.isDecimal s then .ok () else .error .badDecimal
  | .list items => go items
  | _ => .ok ()
where
  go : List Document → Except Misfit Unit
    | [] => .ok ()
    | d :: rest => (checkDecimal d).bind fun _ => go rest

-- How deep a notice may be nested; a list takes two steps, and an object three.
def maxSteps : Nat := 965

mutual
def check (left : Nat) (expected : Shape) : Document → Except Misfit Unit
  | .list items => if left < 2 then .error .tooDeep else checkItems (left - 2) expected items
  | .object members =>
    if left < 3 then .error .tooDeep else checkMembers (left - 3) (ofObject expected members) members
  | _ => if left < 1 then .error .tooDeep else .ok ()

def checkItems (left : Nat) (expected : Shape) : List Document → Except Misfit Unit
  | [] => .ok ()
  | d :: rest => (check left expected d).bind fun _ => checkItems left expected rest

def checkMembers (left : Nat) (shape : Shape) : Members → Except Misfit Unit
  | [] => .ok ()
  | (name, d) :: rest =>
    (match shape.member name, d with
      | decimal, d => (checkDecimal d).bind fun _ => check left free d
      | parts inner, d => check left (parts inner) d
      | keyed entry, .object entries => checkEntries (left - 1) entry entries
      | keyed _, _ => .error .notAnObject).bind fun _ => checkMembers left shape rest

def checkEntries (left : Nat) (expected : Shape) : Members → Except Misfit Unit
  | [] => .ok ()
  | (_, .null) :: rest => checkEntries left expected rest
  | (_, d) :: rest => (check left expected d).bind fun _ => checkEntries left expected rest
end

end Shape

structure Delivery where
  body : List UInt8
  signature : Option String
deriving DecidableEq, Repr

structure Verification where
  secret : String
  tolerance : Int
deriving DecidableEq, Repr

namespace Delivery

structure HeaderItem where
  name : List Char
  value : Option (List Char)

-- Items stand between commas; the value is what stands between the first two equals signs.
def headerItems (header : String) : List HeaderItem :=
  (Text.splitOn ',' header.toList).map fun item =>
    match Text.splitOn '=' item with
    | name :: value :: _ => ⟨name, some value⟩
    | [name] => ⟨name, none⟩
    | [] => ⟨[], none⟩

-- The values of all items of a name, unless one of them has none.
def valuesOf (name : String) (items : List HeaderItem) : Option (List String) :=
  (items.filter fun i => i.name == name.toList).mapM fun i => i.value.map String.ofList

structure Signature where
  -- seconds after 1970
  time : Int
  codes : List String

def Signature.read? (header : String) : Option Signature := do
  let items := headerItems header
  let times ← valuesOf "t" items
  let time ← times.head?
  let time ← (wholeOfText time).toOption
  let codes ← valuesOf "v1" items
  return ⟨time, codes⟩

-- The text whose code a signature carries: the time in decimal, a point and the body.
def signedBytes (time : Int) (body : List UInt8) : List UInt8 :=
  Text.Utf8.encodeText (toString time ++ ".") ++ body

def isAscii (s : String) : Bool := s.toList.all fun c => c.toNat < 0x80

-- Whether one of the codes is the expected one; a code beyond ASCII ends the search as an error.
def anyCode (expected : String) : List String → Except Misfit Bool
  | [] => .ok false
  | code :: rest =>
    if !isAscii code then .error .wrongKind
    else if code = expected then .ok true
    else anyCode expected rest

def expectedCode (mac : Mac) (secret : String) (time : Int) (body : List UInt8) : String :=
  Text.Hex.encode (mac (Text.Utf8.encodeText secret) (signedBytes time body))

-- With a tolerance of zero nothing is too old.
def isTooOld (v : Verification) (now : Instant) (time : Int) : Bool :=
  v.tolerance != 0 && (now.seconds.minus v.tolerance).isAbove time

def checkSignature (mac : Mac) (v : Verification) (now : Instant) (body : List UInt8) (header : String) :
    Except Fault Unit :=
  if v.secret.toList.all Text.isAsciiBlank then .error (.unverified .signature)
  else match Signature.read? header with
    | none => .error (.unverified .signature)
    | some s =>
      match anyCode (expectedCode mac v.secret s.time body) s.codes with
      | .error m => .error (.misfit m)
      | .ok false => .error (.unverified .signature)
      | .ok true => if isTooOld v now s.time then .error (.unverified .signature) else .ok ()

def thinKind : Document := .text "v2.core.event"

def bodyFault : Document.BytesError → Fault
  | .utf8 _ | .wide _ _ => .unverified .bytes
  | .text _ e =>
    match e.complaint with
    | .tooDeep _ => .misfit .tooDeep
    | c => .unverified (if c.isFormal then .document else .content)

def notice (body : List UInt8) : Except Fault Members :=
  match Document.readBytes body with
  | .error e => .error (bodyFault e)
  | .ok (.object members) =>
    if Members.get members "object" = thinKind then .error (.unverified .content)
    else (Except.orMisfit (Shape.checkMembers Shape.maxSteps .free members)).map fun _ => members
  | .ok _ => .error (.misfit .notAnObject)

def verify (mac : Mac) (v : Verification) (now : Instant) (d : Delivery) : Except Fault Members :=
  if v.secret = "" then .error (.unverified .noSecret)
  else match d.signature with
    | none | some "" => .error (.unverified .noSignature)
    | some header =>
      match Text.Utf8.decode d.body with
      | .error _ => .error (.unverified .bytes)
      | .ok _ => (checkSignature mac v now d.body header).bind fun _ => notice d.body

end Delivery

def receive (mac : Mac) (v : Verification) (now : Moment) (d : Delivery) : Program Acknowledgement := do
  let notice ← Program.ofExcept (d.verify mac v now.instant)
  let result ← reconcileNotice now (.object notice)
  return result.acknowledge

end SubscriptionLedger
