import SubscriptionLedger.Store

namespace SubscriptionLedger

inductive PaymentRequest where
  | checkout (priceId successUrl cancelUrl customerId customerEmail metadata : Document)
  | portal (customerId returnUrl : Document)
deriving DecidableEq, Repr

structure PaymentReply where
  id : Document
  url : Document
deriving DecidableEq, Repr

structure PaymentAccount where
  key : String
  version : String
deriving DecidableEq, Repr

namespace PaymentRequest

def operation : PaymentRequest → String
  | checkout _ _ _ _ _ _ => "create_checkout_session"
  | portal _ _ => "create_portal_session"

-- The provider accepts one of the two only, and prefers a customer it knows.
def payer (customerId customerEmail : Document) : Members :=
  if customerId.isTruthy then [("customer", customerId)]
  else if customerEmail.isTruthy then [("customer_email", customerEmail)]
  else []

def own : PaymentRequest → Members
  | checkout priceId successUrl cancelUrl customerId customerEmail metadata =>
    [("mode", .text "subscription"),
      ("line_items", .list [.object [("price", priceId), ("quantity", .int 1)]]),
      ("success_url", successUrl), ("cancel_url", cancelUrl),
      ("metadata", if metadata.isTruthy then metadata else .object []),
      ("allow_promotion_codes", .bool true)] ++ payer customerId customerEmail
  | portal customerId returnUrl => [("customer", customerId), ("return_url", returnUrl)]

def PaymentAccount.options (a : PaymentAccount) : Members :=
  ("api_key", .text a.key) :: if a.version = "" then [] else [("stripe_version", .text a.version)]

def arguments (account : PaymentAccount) (r : PaymentRequest) : Members :=
  r.own ++ PaymentAccount.options account

end PaymentRequest

inductive Program (α : Type) : Type where
  | done (a : α)
  | fail (f : Fault)
  | ask (q : Query) (next : Except Fault q.Reply → Program α)
  | pay (r : PaymentRequest) (next : Except Fault PaymentReply → Program α)
  -- waits for a key, and fails if it is called off while waiting
  | acquire (key : String) (next : Except Fault Unit → Program α)
  | release (key : String) (next : Program α)

namespace Program

variable {α β : Type}

def bind : Program α → (α → Program β) → Program β
  | done a, f => f a
  | fail e, _ => fail e
  | ask q next, f => ask q fun r => bind (next r) f
  | pay q next, f => pay q fun r => bind (next r) f
  | acquire key next, f => acquire key fun r => bind (next r) f
  | release key next, f => release key (bind next f)

instance : Monad Program where
  pure := done
  bind := bind

def handle : Program α → (Fault → Program α) → Program α
  | done a, _ => done a
  | fail e, f => f e
  | ask q next, f => ask q fun r => handle (next r) f
  | pay q next, f => pay q fun r => handle (next r) f
  | acquire key next, f => acquire key fun r => handle (next r) f
  | release key next, f => release key (handle next f)

-- Lets go of a key when the work ends, however it ends.
def thenRelease (key : String) : Program α → Program α
  | done a => release key (done a)
  | fail e => release key (fail e)
  | ask q next => ask q fun r => thenRelease key (next r)
  | pay q next => pay q fun r => thenRelease key (next r)
  | acquire other next => acquire other fun r => thenRelease key (next r)
  | release other next => release other (thenRelease key next)

def holding (key : String) (work : Program α) : Program α :=
  acquire key fun
    | .ok () => thenRelease key work
    | .error e => fail e

def query (q : Query) : Program q.Reply :=
  ask q fun
    | .ok a => done a
    | .error e => fail e

def payment (r : PaymentRequest) : Program PaymentReply :=
  pay r fun
    | .ok a => done a
    | .error e => fail e

def ofExcept : Except Fault α → Program α
  | .ok a => done a
  | .error e => fail e

theorem bind_assoc {γ : Type} (p : Program α) (f : α → Program β) (g : β → Program γ) :
    (p.bind f).bind g = p.bind fun a => (f a).bind g := by
  induction p with
  | done | fail => rfl
  | ask q next ih => simp only [bind]; congr 1; funext r; exact ih r
  | pay q next ih => simp only [bind]; congr 1; funext r; exact ih r
  | acquire key next ih => simp only [bind]; congr 1; funext r; exact ih r
  | release key next ih => simp only [bind, ih]

theorem bind_done (p : Program α) : p.bind done = p := by
  induction p with
  | done | fail => rfl
  | ask q next ih => simp only [bind]; congr 1; funext r; exact ih r
  | pay q next ih => simp only [bind]; congr 1; funext r; exact ih r
  | acquire key next ih => simp only [bind]; congr 1; funext r; exact ih r
  | release key next ih => simp only [bind, ih]

instance : LawfulMonad Program := LawfulMonad.mk' Program bind_done (fun _ _ => rfl) bind_assoc

end Program
end SubscriptionLedger
