import SubscriptionLedger.Failure.Fault

namespace SubscriptionLedger

abbrev Row := Members

namespace Row

def demand (row : Row) (column : String) : Except Fault Document :=
  match Members.find? row column with
  | some d => .ok d
  | none => .error (.misfit .missing)

def demandId (row : Row) (column : String) : Except Fault Document := do
  let d ← demand row column
  return .text d.display

def column (row : Row) (name : String) : Document := Members.get row name

def flag (row : Row) (name : String) (absent : Bool) : Bool :=
  ((Members.find? row name).map Document.isTruthy).getD absent

end Row

open Row

def User.ofRow (row : Row) : Except Fault User := do
  let id ← demandId row "id"
  let email ← demand row "email"
  let product := column row "current_product_id"
  Checked.orInvalid .user <| User.form
    [("id", id), ("email", email), ("name", column row "name"), ("password", column row "password"),
      ("age", column row "age"), ("phone", column row "phone"),
      ("email_verified", .bool (flag row "email_verified" false)),
      ("current_product_id", if product.isTruthy then .text product.display else .null),
      ("refresh_token", column row "refresh_token"), ("email_token", column row "email_token"),
      ("created_at", column row "created_at"), ("updated_at", column row "updated_at")]

def Product.ofRow (row : Row) : Except Fault Product := do
  let id ← demandId row "id"
  let name ← demand row "name"
  let price ← Except.orMisfit ((Members.find? row "price").getD (.int 0)).whole
  let currency := column row "currency"
  Checked.orInvalid .product <| Product.form
    [("id", id), ("name", name), ("description", column row "description"), ("price", .int price),
      ("currency", if currency.isTruthy then currency else .text "usd"),
      ("external_price_id", column row "external_price_id"),
      ("external_product_id", column row "external_product_id"), ("active", .bool (flag row "active" true)),
      ("is_default", .bool (flag row "is_default" false)), ("created_at", column row "created_at"),
      ("updated_at", column row "updated_at")]

def Row.status (row : Row) : Except Fault Document := do
  let d ← demand row "status"
  match d with
  | .text word =>
    match BillingStatus.ofWord? word with
    | some s => .ok s.toDocument
    | none => .error (.misfit .badValue)
  | _ => .error (.misfit .badValue)

def Billing.ofRow (row : Row) : Except Fault Billing := do
  let id ← demandId row "id"
  let userId ← demandId row "user_id"
  let productId ← demandId row "product_id"
  let status ← Row.status row
  let expiresAt ← demand row "expires_at"
  Checked.orInvalid .billing <| Billing.form
    [("id", id), ("user_id", userId), ("product_id", productId),
      ("external_subscription_id", column row "external_subscription_id"),
      ("external_customer_id", column row "external_customer_id"), ("status", status),
      ("expires_at", expiresAt), ("created_at", column row "created_at"),
      ("updated_at", column row "updated_at")]

inductive Table where
  | users
  | products
  | billings
deriving DecidableEq, Repr

def Table.name : Table → String
  | users => "users"
  | products => "products"
  | billings => "billings"

def Table.ofName? : String → Option Table
  | "users" => some users
  | "products" => some products
  | "billings" => some billings
  | _ => none

abbrev Filters := Members

inductive Call where
  | select (table : Table) (filters : Filters) (order : Option String) (limit : Option Nat)
  | insert (table : Table) (columns : Members)
  | update (table : Table) (filters : Filters) (columns : Members)
deriving DecidableEq, Repr

structure Store where
  users : List Row
  products : List Row
  billings : List Row
  -- how many rows have been inserted so far; the next one is named after this
  inserted : Nat := 0
deriving DecidableEq, Repr

-- A column that is absent has no value, not even nothing.
def Row.matches (row : Row) (filters : Filters) : Bool :=
  filters.all fun (column, value) =>
    match Members.find? row column with
    | some d => d.same value
    | none => false

namespace Store

def rows (s : Store) : Table → List Row
  | .users => s.users
  | .products => s.products
  | .billings => s.billings

def setRows (s : Store) (rows : List Row) : Table → Store
  | .users => { s with users := rows }
  | .products => { s with products := rows }
  | .billings => { s with billings := rows }

@[simp] theorem rows_setRows_same (s : Store) (rs : List Row) (t : Table) : (s.setRows rs t).rows t = rs := by
  cases t <;> rfl

def place (column : String) (row : Row) : List Row → Option (List Row)
  | [] => some [row]
  | other :: rest => do
    if ← (Members.get row column).before? (Members.get other column) then some (row :: other :: rest)
    else (place column row rest).map (other :: ·)

-- Rows in the order of a column that all of them have; rows that are equal there stay as they are.
def inOrder (column : String) (rows : List Row) : Except Misfit (List Row) :=
  if rows.all fun row => (Members.find? row column).isSome then
    match rows.foldlM (fun done row => place column row done) [] with
    | some rows => .ok rows
    | none => .error .wrongKind
  else .error .missing

-- Records of billing are told apart by their user and, where they have one, by their subscription.
def sameSlot (a b : Row) : Bool :=
  (Members.get a "user_id").same (Members.get b "user_id") ||
    (Members.get a "external_subscription_id" != .null &&
      (Members.get a "external_subscription_id").same (Members.get b "external_subscription_id"))

def clashes (table : Table) (others : List Row) (row : Row) : Bool :=
  table = .billings && others.any fun other => sameSlot row other

def uniqueViolation : String := "23505"

def violation : Fault := .storage (some uniqueViolation)

def select (s : Store) (table : Table) (filters : Filters) (order : Option String) (limit : Option Nat) :
    Except Fault (List Row) := do
  let found := (s.rows table).filter (·.matches filters)
  let ordered ← match order with
    | some column => Except.orMisfit (inOrder column found)
    | none => .ok found
  return match limit with
    | some n => ordered.take n
    | none => ordered

def newRow (s : Store) (now : Moment) (columns : Members) : Row :=
  Members.putAll [("id", .text ("bill-" ++ toString (s.inserted + 1)))]
    (columns ++ [("created_at", .text now.columnText), ("updated_at", .text now.columnText)])

def insert (s : Store) (now : Moment) (table : Table) (columns : Members) :
    Except Fault (List Row) × Store :=
  let row := s.newRow now columns
  if clashes table (s.rows table) row then (.error violation, s)
  else (.ok [row], { s.setRows (s.rows table ++ [row]) table with inserted := s.inserted + 1 })

-- Changes the chosen rows one after another. Each must stay apart from all others; the first that does
-- not ends the call, and rows changed before it stay changed.
def changeRows (table : Table) (filters : Filters) (columns : Members) (before : List Row) :
    List Row → Except Fault (List Row) × List Row
  | [] => (.ok [], before)
  | row :: rest =>
    if row.matches filters then
      let new := row.putAll columns
      if clashes table (before ++ rest) new then (.error violation, before ++ row :: rest)
      else
        let (changed, all) := changeRows table filters columns (before ++ [new]) rest
        (changed.map (new :: ·), all)
    else changeRows table filters columns (before ++ [row]) rest

def update (s : Store) (table : Table) (filters : Filters) (columns : Members) :
    Except Fault (List Row) × Store :=
  let (changed, all) := changeRows table filters columns [] (s.rows table)
  (changed, s.setRows all table)

def perform (s : Store) (now : Moment) : Call → Except Fault (List Row) × Store
  | .select table filters order limit => (s.select table filters order limit, s)
  | .insert table columns => s.insert now table columns
  | .update table filters columns => s.update table filters columns

def mergeRow (row : Row) : List Row → List Row
  | [] => [row]
  | r :: rest =>
    if (Members.get r "id").same (Members.get row "id") then r.putAll row :: rest
    else r :: mergeRow row rest

def put (s : Store) (table : Table) (row : Row) : Store := s.setRows (mergeRow row (s.rows table)) table

def drop (s : Store) (table : Table) (id : Document) : Store :=
  s.setRows ((s.rows table).filter fun r => !(Members.get r "id").same id) table

end Store

inductive Query where
  | productById (id : Reference)
  | productByPrice (priceId : Reference)
  | activeProducts
  | defaultProduct
  | userById (id : Reference)
  | userByEmail (email : String)
  -- moves a user to a product
  | assignProduct (userId productId : Reference)
  | billingByUser (userId : Reference)
  | billingBySubscription (subscriptionId : Reference)
  | createBilling (new : NewBilling)
  | updateBilling (id : Reference) (update : BillingUpdate)
deriving DecidableEq, Repr

namespace Query

def Reply : Query → Type
  | productById _ | productByPrice _ => Option Product
  | activeProducts => List Product
  | defaultProduct => Product
  | userById _ | userByEmail _ => Option User
  | assignProduct _ _ => User
  | billingByUser _ | billingBySubscription _ => Option Billing
  | createBilling _ | updateBilling _ _ => Billing

def lookup (table : Table) (column : String) (value : Document) : Call :=
  .select table [(column, value)] none (some 1)

-- Mail addresses are kept in small letters.
def keptEmail (email : String) : String := Text.lower (Text.strip email)

def stamped (now : Moment) (columns : Members) : Members :=
  columns ++ [("updated_at", .text now.instant.columnText)]

def call (now : Moment) : Query → Call
  | productById id => lookup .products "id" id
  | productByPrice priceId => lookup .products "external_price_id" priceId
  | activeProducts => .select .products [("active", .bool true)] (some "price") none
  | defaultProduct => lookup .products "is_default" (.bool true)
  | userById id => lookup .users "id" id
  | userByEmail email => lookup .users "email" (.text (keptEmail email))
  | assignProduct userId productId =>
    .update .users [("id", userId)] (stamped now [("current_product_id", productId)])
  | billingByUser userId => lookup .billings "user_id" userId
  | billingBySubscription subscriptionId => lookup .billings "external_subscription_id" subscriptionId
  | createBilling new => .insert .billings new.columns
  | updateBilling id update => .update .billings [("id", id)] (stamped now update.columns)

-- The record in the first row, if there is a row with something in it.
def first? (read : Row → Except Fault α) : List Row → Except Fault (Option α)
  | [] | [] :: _ => .ok none
  | row :: _ => (read row).map some

def first (read : Row → Except Fault α) (otherwise : Fault) : List Row → Except Fault α
  | [] => .error otherwise
  | row :: _ => read row

def read : (q : Query) → List Row → Except Fault q.Reply
  | productById _ => first? Product.ofRow
  | productByPrice _ => first? Product.ofRow
  | activeProducts => fun rows => rows.mapM Product.ofRow
  | defaultProduct => first Product.ofRow .defaultProductMissing
  | userById _ => first? User.ofRow
  | userByEmail _ => first? User.ofRow
  | assignProduct userId _ => first User.ofRow (.userNotFound userId)
  | billingByUser _ => first? Billing.ofRow
  | billingBySubscription _ => first? Billing.ofRow
  | createBilling _ => first Billing.ofRow (.misfit .missing)
  | updateBilling id _ => first Billing.ofRow (.noBilling id)

def explain : Query → Fault → Fault
  | createBilling new, .storage code =>
    if code = some Store.uniqueViolation then .duplicateBilling new.userId else .storage code
  | _, f => f

def answer (q : Query) : Except Fault (List Row) → Except Fault q.Reply
  | .ok rows => q.read rows
  | .error f => .error (q.explain f)

end Query

-- Asks the store. A call that is carried out counts even if its rows cannot be read.
def Store.ask (s : Store) (now : Moment) (q : Query) : Except Fault q.Reply × Store :=
  let (rows, s) := s.perform now (q.call now)
  (q.answer rows, s)

end SubscriptionLedger
