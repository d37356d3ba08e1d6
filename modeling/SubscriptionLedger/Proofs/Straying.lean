import SubscriptionLedger.Proofs.Acceptance
import SubscriptionLedger.Proofs.Answer

namespace SubscriptionLedger

section Straying

variable {refused : Fault → Prop} {x : Except Fault α} {strays other : Prop} {d : Document}

end Straying

namespace Notice

section Places

def Given (d : Document) : Prop := d ≠ .null ∧ d ≠ .text ""

-- What does not come to a second of the years 1 to 9999.
def Untimely (d : Document) : Prop := ∀ n, d.whole = .ok n → n < Moment.firstSecond ∨ Moment.lastSecond < n

def priceOf (line : Members) : Document :=
  first [reference (Members.get line "price"), (Document.object line).dig ["pricing", "price_details", "price"],
    reference (Members.get line "plan")]

def subscriptionOf (invoice line : Members) : Document := first ((subscriptionPlaces invoice line).map reference)

structure Due (o line : Members) : Prop where
  periodEnd : Given ((Document.object line).dig ["period", "end"])
  email : Given (Members.get o "customer_email")
  customer : Given (reference (Members.get o "customer"))
  price : Given (priceOf line)
  subscription : Given (subscriptionOf o line)

end Places

section Readings

variable {strays : Prop} {c : Context} {d : Document}

theorem ofUnix_error_iff : (∃ m, Moment.ofUnix n = .error m) ↔ n < Moment.firstSecond ∨ Moment.lastSecond < n := by
  by_cases beyond : n < Moment.firstSecond ∨ Moment.lastSecond < n
  · refine iff_of_true ?_ beyond
    unfold Moment.ofUnix
    rw [if_pos beyond]
    split
    · exact ⟨_, rfl⟩
    · split <;> exact ⟨_, rfl⟩
  · obtain ⟨least, greatest⟩ := not_or.1 beyond
    have read : Moment.ofUnix n = _ := moment_int (Int.not_lt.1 least) (Int.not_lt.1 greatest)
    rw [read]
    exact iff_of_false nofun beyond

theorem moment_error_iff : (∃ m, moment d = .error m) ↔ Untimely d := by
  unfold moment Untimely
  cases d.whole with
  | error m => exact iff_of_true ⟨m, rfl⟩ nofun
  | ok n => simpa [Except.bind] using ofUnix_error_iff

end Readings

section Elements

variable {d : Document} {line : Members}

end Elements

section Readers

variable {c : Context} {o line item : Members} {x : Except Fault α} {id d : Document}

end Readers
end Notice

theorem Fault.Refusal.reported {f : Fault} (refusal : f.Refusal) : f.report? ≠ none := by
  obtain ⟨_, _, _, rfl⟩ := refusal
  nofun

namespace App

open Http Program

variable {mac : Mac} {app : App} {now : Instant} {r : Request} {w : Surroundings} {s : Store} {members : Members} {f : Fault}

end App

namespace Shop

def unnamed : Members :=
  [("id", "evt"), ("type", "customer.subscription.deleted"), ("data", .object [("object", .object [])])]

end Shop
end SubscriptionLedger
