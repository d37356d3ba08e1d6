import SubscriptionLedger.Proofs.Genuine
import SubscriptionLedger.Proofs.Straying

namespace SubscriptionLedger

namespace Delivery

section Deliveries

-- A code beyond ASCII, and not the expected one before it.
def Muddles (expected : String) (codes : List String) : Prop :=
  ∃ before code rest, codes = before ++ code :: rest ∧ isAscii code = false ∧ expected ∉ before

structure Holds (mac : Mac) (v : Verification) (now : Instant) (body : List UInt8) (s : Signature) : Prop where
  clear : ¬ Muddles (expectedCode mac v.secret s.time body) s.codes
  code : expectedCode mac v.secret s.time body ∈ s.codes
  recent : v.tolerance = 0 ∨ ¬ (now.seconds.minus v.tolerance).isAbove s.time

end Deliveries

section Codes

variable {expected code : String} {codes : List String}

end Codes

section Reading

variable {mac : Mac} {v : Verification} {now : Instant} {d : Delivery} {s t : Signature} {body : List UInt8}

end Reading

end Delivery

namespace App

open Http Program

variable {mac : Mac} {app : App} {now : Instant} {r : Request} {w : Surroundings} {s : Store} {f : Fault}

end App

namespace Shop

end Shop
end SubscriptionLedger
