import SubscriptionLedger.Number.Binary64

namespace SubscriptionLedger

inductive Document where
  | null
  | bool (b : Bool)
  | int (n : Int)
  | real (x : Binary64)
  | text (s : String)
  | list (items : List Document)
  | object (members : List (String × Document))
deriving Repr, Inhabited

-- The members of an object, in order; a name stands at most once.
abbrev Members := List (String × Document)

-- What a row is named by: mostly a text, but whatever a caller sends is looked up as it is.
abbrev Reference := Document

instance : Coe String Document := ⟨.text⟩

namespace Document

mutual
def decEq : (a b : Document) → Decidable (a = b)
  | .null, .null => isTrue rfl
  | .bool a, .bool b => if h : a = b then isTrue (h ▸ rfl) else isFalse (by simpa using h)
  | .int a, .int b => if h : a = b then isTrue (h ▸ rfl) else isFalse (by simpa using h)
  | .real a, .real b => if h : a = b then isTrue (h ▸ rfl) else isFalse (by simpa using h)
  | .text a, .text b => if h : a = b then isTrue (h ▸ rfl) else isFalse (by simpa using h)
  | .list as, .list bs =>
    match decEqList as bs with
    | isTrue h => isTrue (h ▸ rfl)
    | isFalse h => isFalse (by simpa using h)
  | .object as, .object bs =>
    match decEqMembers as bs with
    | isTrue h => isTrue (h ▸ rfl)
    | isFalse h => isFalse (by simpa using h)
  | .null, .bool _ | .null, .int _ | .null, .real _ | .null, .text _ | .null, .list _ | .null, .object _
  | .bool _, .null | .bool _, .int _ | .bool _, .real _ | .bool _, .text _ | .bool _, .list _
  | .bool _, .object _ | .int _, .null | .int _, .bool _ | .int _, .real _ | .int _, .text _
  | .int _, .list _ | .int _, .object _ | .real _, .null | .real _, .bool _ | .real _, .int _
  | .real _, .text _ | .real _, .list _ | .real _, .object _ | .text _, .null | .text _, .bool _
  | .text _, .int _ | .text _, .real _ | .text _, .list _ | .text _, .object _ | .list _, .null
  | .list _, .bool _ | .list _, .int _ | .list _, .real _ | .list _, .text _ | .list _, .object _
  | .object _, .null | .object _, .bool _ | .object _, .int _ | .object _, .real _ | .object _, .text _
  | .object _, .list _ => isFalse (by simp)

def decEqList : (as bs : List Document) → Decidable (as = bs)
  | [], [] => isTrue rfl
  | a :: as, b :: bs =>
    match decEq a b, decEqList as bs with
    | isTrue h, isTrue h' => isTrue (h ▸ h' ▸ rfl)
    | isFalse h, _ => isFalse (by simp [h])
    | _, isFalse h => isFalse (by simp [h])
  | [], _ :: _ | _ :: _, [] => isFalse (by simp)

def decEqMembers : (as bs : Members) → Decidable (as = bs)
  | [], [] => isTrue rfl
  | (m, a) :: as, (n, b) :: bs =>
    if hn : m = n then
      match decEq a b, decEqMembers as bs with
      | isTrue h, isTrue h' => isTrue (hn ▸ h ▸ h' ▸ rfl)
      | isFalse h, _ => isFalse (by simp [h])
      | _, isFalse h => isFalse (by simp [h])
    else isFalse (by simp [hn])
  | [], _ :: _ | _ :: _, [] => isFalse (by simp)
end

instance : DecidableEq Document := decEq

-- Nothing, false, zero and whatever is empty count as absent.
def isTruthy : Document → Bool
  | .null => false
  | .bool b => b
  | .int n => n != 0
  | .real x => !x.isZero
  | .text s => s != ""
  | .list items => !items.isEmpty
  | .object members => !members.isEmpty

end Document

namespace Members

def find? (members : Members) (name : String) : Option Document :=
  (List.find? (fun m => m.1 == name) members).map (·.2)

def get (members : Members) (name : String) : Document := (members.find? name).getD .null

def put : Members → String → Document → Members
  | [], name, value => [(name, value)]
  | (n, v) :: rest, name, value =>
    if n = name then (n, value) :: rest else (n, v) :: put rest name value

def putAll (members changes : Members) : Members :=
  changes.foldl (fun ms (name, value) => ms.put name value) members

@[simp] theorem find?_nil (name : String) : Members.find? [] name = none := rfl

theorem find?_cons (n : String) (v : Document) (rest : Members) (name : String) :
    Members.find? ((n, v) :: rest) name = if n = name then some v else rest.find? name := by
  by_cases h : n = name <;> simp [find?, h]

theorem find?_put_same (members : Members) (name : String) (value : Document) :
    (members.put name value).find? name = some value := by
  induction members with
  | nil => simp [put, find?_cons]
  | cons m rest ih =>
    obtain ⟨n, v⟩ := m
    by_cases h : n = name <;> simp [put, h, find?_cons, ih]

theorem find?_put_other (members : Members) {name other : String} (value : Document) (h : other ≠ name) :
    (members.put name value).find? other = members.find? other := by
  induction members with
  | nil => simp [put, find?_cons, Ne.symm h]
  | cons m rest ih =>
    obtain ⟨n, v⟩ := m
    by_cases hn : n = name
    · subst hn; simp [put, find?_cons, Ne.symm h]
    · by_cases ho : n = other
      · subst ho; simp [put, hn, find?_cons]
      · simp [put, hn, find?_cons, ho, ih]

end Members

namespace Document

def isObject : Document → Bool
  | .object _ => true
  | _ => false

-- The member of an object; nothing for everything that is no object or lacks it.
def member : Document → String → Document
  | .object members, name => Members.get members name
  | _, _ => .null

def dig (d : Document) (path : List String) : Document := path.foldl member d

def sameNumber? : Document → Document → Option Bool
  | .bool a, .bool b => some (a == b)
  | .bool a, .int b | .int b, .bool a => some (b == if a then 1 else 0)
  | .bool a, .real x | .real x, .bool a => some (x.whole? == some (if a then 1 else 0))
  | .int a, .int b => some (a == b)
  | .int a, .real x | .real x, .int a => some (x.whole? == some a)
  | .real x, .real y => some (x.same y)
  | _, _ => none

mutual
-- Equality of values: truth values count as numbers, numbers compare by value, and the order of an
-- object's members does not matter.
def same : Document → Document → Bool
  | .null, .null => true
  | .text a, .text b => a == b
  | .list as, .list bs => sameList as bs
  | .object as, .object bs => as.length == bs.length && sameMembers as bs
  | a, b => (sameNumber? a b).getD false

def sameList : List Document → List Document → Bool
  | [], [] => true
  | a :: as, b :: bs => same a b && sameList as bs
  | _, _ => false

def sameMembers : Members → Members → Bool
  | [], _ => true
  | (n, a) :: as, bs =>
    (match Members.find? bs n with
      | some b => same a b
      | none => false) && sameMembers as bs
end

end Document

-- Where a number stands. One that is no number stands nowhere, and comes before nothing.
inductive Position where
  | lowest
  | at (num : Int) (den : Nat)
  | highest
  | nowhere
deriving DecidableEq, Repr

def Position.isBefore : Position → Position → Bool
  | .lowest, .at _ _ | .lowest, .highest | .at _ _, .highest => true
  | .at n d, .at n' d' => n * d' < n' * d
  | _, _ => false

namespace Document

def position? : Document → Option Position
  | .int n => some (.at n 1)
  | .bool b => some (.at (if b then 1 else 0) 1)
  | .real (.finite negative m e) =>
    let (num, den) := Binary64.fraction m e
    some (.at (Binary64.signed negative num) den)
  | .real (.infinite negative) => some (if negative then .lowest else .highest)
  | .real .nan => some .nowhere
  | _ => none

mutual
def before? : Document → Document → Option Bool
  | .text a, .text b => some (a < b)
  | .list as, .list bs => listBefore? as bs
  | a, b =>
    match a.position?, b.position? with
    | some p, some q => some (p.isBefore q)
    | _, _ => none

def listBefore? : List Document → List Document → Option Bool
  | [], bs => some !bs.isEmpty
  | _ :: _, [] => some false
  | a :: as, b :: bs => if a.same b then listBefore? as bs else before? a b
end

end Document
end SubscriptionLedger
