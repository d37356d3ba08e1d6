import Mathlib.Data.List.TakeWhile

namespace SubscriptionLedger

namespace Challenge

inductive Value where
  | word (s : List Char)
  | quoted (s : List Char)
deriving DecidableEq, Repr

structure Parameter where
  name : List Char
  value : Value
deriving DecidableEq, Repr

end Challenge

structure Challenge where
  scheme : List Char
  parameters : List Challenge.Parameter
deriving DecidableEq, Repr

namespace Challenge

def isWordSign (c : Char) : Bool := c.isAlphanum || "!#$%&'*+-.^_`|~".toList.contains c

def isSpacing (c : Char) : Bool := c = ' ' || c = '\t'

-- What a header line is made of: what can be seen, spacing, and the signs above ASCII that one byte holds.
def isLineSign (c : Char) : Bool :=
  c = '\t' || 0x20 ≤ c.toNat && c.toNat ≤ 0x7E || 0x80 ≤ c.toNat && c.toNat ≤ 0xFF

def isPlain (c : Char) : Bool := isLineSign c && c != '"' && c != '\\'

structure Word (cs : List Char) : Prop where
  filled : cs ≠ []
  signs : ∀ c ∈ cs, isWordSign c

def Spacing (cs : List Char) : Prop := ∀ c ∈ cs, isSpacing c

-- What is written between quotes, and what is meant: a backslash stands before a sign that is meant as it is.
inductive Quotes : List Char → List Char → Prop where
  | nil : Quotes [] []
  | plain (plain : isPlain c) (rest : Quotes cs s) : Quotes (c :: cs) (c :: s)
  | escaped (sign : isLineSign c) (rest : Quotes cs s) : Quotes ('\\' :: c :: cs) (c :: s)

inductive Value.Writes : Value → List Char → Prop where
  | word (word : Word cs) : Writes (.word cs) cs
  | quoted (quotes : Quotes cs s) : Writes (.quoted s) ('"' :: (cs ++ ['"']))

inductive Parameter.Writes : Parameter → List Char → Prop where
  | mk (name : Word n) (before : Spacing x) (behind : Spacing y) (value : v.Writes cs) :
    Writes ⟨n, v⟩ (n ++ (x ++ '=' :: (y ++ cs)))

-- What follows a parameter. Between two commas there may be none.
inductive Follows : List Parameter → List Char → Prop where
  | nil : Follows [] []
  | skip (before : Spacing x) (rest : Follows ps cs) : Follows ps (x ++ ',' :: cs)
  | more (before : Spacing x) (behind : Spacing y) (first : p.Writes a) (rest : Follows ps cs) :
    Follows (p :: ps) (x ++ ',' :: (y ++ (a ++ cs)))

inductive Lists : List Parameter → List Char → Prop where
  | nil : Lists [] []
  | skip (rest : Follows ps cs) : Lists ps (',' :: cs)
  | first (first : p.Writes a) (rest : Follows ps cs) : Lists (p :: ps) (a ++ cs)

inductive Writes : Challenge → List Char → Prop where
  | bare (scheme : Word n) : Writes ⟨n, []⟩ n
  | told (scheme : Word n) (apart : x ≠ []) (blanks : ∀ c ∈ x, c = ' ') (list : Lists ps cs) :
    Writes ⟨n, ps⟩ (n ++ (x ++ cs))

section Reading

abbrev Read (α : Type) := Option (α × List Char)

def quotes? : List Char → Read (List Char)
  | '"' :: rest => some ([], rest)
  | '\\' :: c :: rest => if isLineSign c then (quotes? rest).map (Prod.map (c :: ·) id) else none
  | c :: rest => if isPlain c then (quotes? rest).map (Prod.map (c :: ·) id) else none
  | [] => none

def word? (cs : List Char) : Read (List Char) :=
  if cs.takeWhile isWordSign = [] then none else some (cs.takeWhile isWordSign, cs.dropWhile isWordSign)

def value? : List Char → Read Value
  | '"' :: rest => (quotes? rest).map (Prod.map .quoted id)
  | cs => (word? cs).map (Prod.map .word id)

def parameter? (cs : List Char) : Read Parameter :=
  (word? cs).bind fun name =>
    match name.2.dropWhile isSpacing with
    | '=' :: rest => (value? (rest.dropWhile isSpacing)).map (Prod.map (⟨name.1, ·⟩) id)
    | _ => none

def follow? : Nat → List Char → Option (List Parameter)
  | _, [] => some []
  | 0, _ => none
  | fuel + 1, cs =>
    match cs.dropWhile isSpacing with
    | ',' :: rest =>
      match parameter? (rest.dropWhile isSpacing) with
      | some (p, left) => (follow? fuel left).map (p :: ·)
      | none => follow? fuel rest
    | _ => none

def list? : List Char → Option (List Parameter)
  | [] => some []
  | ',' :: rest => follow? rest.length rest
  | cs => (parameter? cs).bind fun first => (follow? first.2.length first.2).map (first.1 :: ·)

def read? (cs : List Char) : Option Challenge :=
  (word? cs).bind fun scheme =>
    match scheme.2 with
    | [] => some ⟨scheme.1, []⟩
    | ' ' :: rest => (list? (rest.dropWhile (· = ' '))).map (⟨scheme.1, ·⟩)
    | _ => none

end Reading

section Signs

variable {c : Char} {cs s rest a : List Char}

def Stops (cs : List Char) : Prop := ∀ c ∈ cs.head?, isWordSign c = false

theorem stops_nil : Stops [] := by
  intro c none
  cases none

theorem stops_cons (other : isWordSign c = false) : Stops (c :: cs) := by
  intro d first
  cases first
  exact other

theorem isWordSign_of_isSpacing (spacing : isSpacing c) : isWordSign c = false := by
  unfold isSpacing at spacing
  rw [Bool.or_eq_true, decide_eq_true_iff, decide_eq_true_iff] at spacing
  rcases spacing with rfl | rfl
  · decide
  · decide

theorem stops_append (spacing : Spacing s) (stops : Stops cs) : Stops (s ++ cs) := by
  cases s with
  | nil => exact stops
  | cons c s => exact stops_cons (isWordSign_of_isSpacing (spacing c List.mem_cons_self))

theorem takeWhile_stops (stops : Stops cs) : cs.takeWhile isWordSign = [] ∧ cs.dropWhile isWordSign = cs := by
  cases cs with
  | nil => exact ⟨rfl, rfl⟩
  | cons c cs =>
    have other := stops c rfl
    simp [other]

theorem dropWhile_spacing (spacing : Spacing s) (other : ∀ c ∈ cs.head?, isSpacing c = false) :
    (s ++ cs).dropWhile isSpacing = cs := by
  rw [List.dropWhile_append_of_pos spacing]
  cases cs with
  | nil => rfl
  | cons c cs =>
    have first := other c rfl
    simp [first]

theorem spacing_takeWhile (cs : List Char) : Spacing (cs.takeWhile isSpacing) := fun _ member => List.mem_takeWhile_imp member

theorem Word.head (word : Word cs) : ∃ c rest, cs = c :: rest ∧ isWordSign c := by
  cases cs with
  | nil => exact absurd rfl word.filled
  | cons c rest => exact ⟨c, rest, rfl, word.signs c List.mem_cons_self⟩

theorem unspaced_cons (sign : isWordSign c) : ∀ d ∈ (c :: cs).head?, isSpacing d = false := by
  intro d first
  cases first
  refine Bool.eq_false_iff.2 fun spacing => ?_
  cases (isWordSign_of_isSpacing spacing).symm.trans sign

end Signs

section Words

variable {n s cs rest a : List Char} {v : Value} {p : Parameter}

theorem quotes?_sound (read : quotes? cs = some (s, rest)) : ∃ body, cs = body ++ '"' :: rest ∧ Quotes body s := by
  fun_induction quotes? cs generalizing s with
  | case1 left =>
    cases read
    exact ⟨[], rfl, .nil⟩
  | case2 c left sign ih =>
    obtain ⟨⟨t, _⟩, reads, same⟩ := Option.map_eq_some_iff.1 read
    cases same
    obtain ⟨body, rfl, quotes⟩ := ih reads
    exact ⟨'\\' :: c :: body, rfl, .escaped sign quotes⟩
  | case3 => cases read
  | case4 c left _ _ plain ih =>
    obtain ⟨⟨t, _⟩, reads, same⟩ := Option.map_eq_some_iff.1 read
    cases same
    obtain ⟨body, rfl, quotes⟩ := ih reads
    exact ⟨c :: body, rfl, .plain plain quotes⟩
  | case5 => cases read
  | case6 => cases read

theorem quotes?_plain (plain : isPlain c) (cs : List Char) : quotes? (c :: cs) = (quotes? cs).map (Prod.map (c :: ·) id) := by
  have unquoted : c ≠ '"' := by
    rintro rfl
    cases plain
  have unescaped : c ≠ '\\' := by
    rintro rfl
    cases plain
  rw [quotes?.eq_3 c cs unquoted fun _ _ same _ => unescaped same, if_pos plain]

theorem quotes?_complete (quotes : Quotes cs s) (rest : List Char) : quotes? (cs ++ '"' :: rest) = some (s, rest) := by
  induction quotes with
  | nil => rfl
  | plain plain _ ih =>
    rw [List.cons_append, quotes?_plain plain, ih]
    rfl
  | escaped sign _ ih =>
    rw [List.cons_append, List.cons_append, quotes?, if_pos sign, ih]
    rfl

theorem word?_sound (read : word? cs = some (n, rest)) : Word n ∧ cs = n ++ rest := by
  unfold word? at read
  split at read
  · cases read
  · rename_i filled
    cases read
    exact ⟨⟨filled, fun _ member => List.mem_takeWhile_imp member⟩, List.takeWhile_append_dropWhile.symm⟩

theorem word?_complete (word : Word n) (stops : Stops rest) : word? (n ++ rest) = some (n, rest) := by
  obtain ⟨taken, dropped⟩ := takeWhile_stops stops
  unfold word?
  rw [List.takeWhile_append_of_pos word.signs, List.dropWhile_append_of_pos word.signs, taken, dropped, List.append_nil,
    if_neg word.filled]

theorem word?_none (stops : Stops cs) : word? cs = none := by
  unfold word?
  rw [(takeWhile_stops stops).1, if_pos rfl]

theorem value?_word (word : Word n) (rest : List Char) : value? (n ++ rest) = (word? (n ++ rest)).map (Prod.map .word id) := by
  obtain ⟨c, left, rfl, sign⟩ := word.head
  have unquoted : c ≠ '"' := by
    rintro rfl
    cases sign
  rw [List.cons_append, value?.eq_2]
  intro _ same
  exact unquoted (List.cons.inj same).1

theorem value?_sound (read : value? cs = some (v, rest)) : ∃ a, cs = a ++ rest ∧ v.Writes a := by
  unfold value? at read
  split at read
  · obtain ⟨⟨s, _⟩, reads, same⟩ := Option.map_eq_some_iff.1 read
    cases same
    obtain ⟨body, rfl, quotes⟩ := quotes?_sound reads
    exact ⟨'"' :: (body ++ ['"']), by simp, .quoted quotes⟩
  · obtain ⟨⟨s, _⟩, reads, same⟩ := Option.map_eq_some_iff.1 read
    cases same
    obtain ⟨word, rfl⟩ := word?_sound reads
    exact ⟨s, rfl, .word word⟩

theorem value?_complete (writes : v.Writes a) (stops : Stops rest) : value? (a ++ rest) = some (v, rest) := by
  cases writes with
  | word word =>
    rw [value?_word word, word?_complete word stops]
    rfl
  | quoted quotes =>
    rw [List.cons_append, List.append_assoc, value?, List.singleton_append, quotes?_complete quotes]
    rfl

theorem Value.Writes.unspaced (writes : v.Writes a) : ∀ c ∈ (a ++ rest).head?, isSpacing c = false := by
  cases writes with
  | word word =>
    obtain ⟨c, left, rfl, sign⟩ := word.head
    exact unspaced_cons sign
  | quoted quotes =>
    intro d first
    cases first
    rfl

theorem parameter?_sound (read : parameter? cs = some (p, rest)) : ∃ a, cs = a ++ rest ∧ p.Writes a := by
  obtain ⟨⟨n, left⟩, name, reads⟩ := Option.bind_eq_some_iff.1 read
  obtain ⟨word, rfl⟩ := word?_sound name
  dsimp only at reads
  split at reads
  · rename_i behind equals
    obtain ⟨⟨v, _⟩, value, same⟩ := Option.map_eq_some_iff.1 reads
    cases same
    obtain ⟨b, ends, writes⟩ := value?_sound value
    refine ⟨_, ?_, .mk word (spacing_takeWhile left) (spacing_takeWhile behind) writes⟩
    rw [id_eq, List.append_assoc, List.append_assoc, List.cons_append, List.append_assoc, ← ends, List.takeWhile_append_dropWhile,
      ← equals, List.takeWhile_append_dropWhile]
  · cases reads

theorem parameter?_named (name : Word n) (before : Spacing s) (behind : Spacing cs)
    (other : ∀ c ∈ rest.head?, isSpacing c = false) :
    parameter? (n ++ (s ++ '=' :: (cs ++ rest))) = (value? rest).map (Prod.map (⟨n, ·⟩) id) := by
  have equals : (s ++ '=' :: (cs ++ rest)).dropWhile isSpacing = '=' :: (cs ++ rest) := by
    refine dropWhile_spacing before ?_
    intro c first
    cases first
    rfl
  have stops : Stops (s ++ '=' :: (cs ++ rest)) := stops_append before (stops_cons (by decide))
  unfold parameter?
  rw [word?_complete name stops, Option.bind_some]
  rw [equals]
  change (value? ((cs ++ rest).dropWhile isSpacing)).map _ = _
  rw [dropWhile_spacing behind other]

theorem parameter?_complete (writes : p.Writes a) (stops : Stops rest) : parameter? (a ++ rest) = some (p, rest) := by
  cases writes with
  | mk name before behind value =>
    rw [List.append_assoc, List.append_assoc, List.cons_append, List.append_assoc,
      parameter?_named name before behind value.unspaced, value?_complete value stops]
    rfl

theorem parameter?_none (stops : Stops cs) : parameter? cs = none := by
  unfold parameter?
  rw [word?_none stops]
  rfl

theorem Parameter.Writes.head (writes : p.Writes a) : ∃ c left, a = c :: left ∧ isWordSign c := by
  cases writes with
  | mk name before behind value =>
    obtain ⟨c, left, rfl, sign⟩ := name.head
    exact ⟨c, _, rfl, sign⟩

theorem Parameter.Writes.unspaced (writes : p.Writes a) : ∀ c ∈ (a ++ rest).head?, isSpacing c = false := by
  obtain ⟨c, left, rfl, sign⟩ := writes.head
  exact unspaced_cons sign

end Words

section Lines

variable {fuel : Nat} {cs : List Char} {ps : List Parameter} {c : Challenge}

theorem comma_unspaced : ∀ c ∈ (',' :: cs).head?, isSpacing c = false := by
  intro c first
  cases first
  rfl

theorem Follows.parts (follows : Follows ps cs) : cs = [] ∨ ∃ x rest, cs = x ++ ',' :: rest ∧ Spacing x := by
  cases follows with
  | nil => exact .inl rfl
  | skip before rest => exact .inr ⟨_, _, rfl, before⟩
  | more before behind first rest => exact .inr ⟨_, _, rfl, before⟩

theorem Follows.stops (follows : Follows ps cs) : Stops cs := by
  rcases follows.parts with rfl | ⟨x, rest, rfl, before⟩
  · exact stops_nil
  · exact stops_append before (stops_cons (by decide))

theorem Follows.unnamed (follows : Follows ps cs) : parameter? (cs.dropWhile isSpacing) = none := by
  refine parameter?_none ?_
  rcases follows.parts with rfl | ⟨x, rest, rfl, before⟩
  · exact stops_nil
  · rw [dropWhile_spacing before comma_unspaced]
    exact stops_cons (by decide)

theorem follow?_sound (read : follow? fuel cs = some ps) : Follows ps cs := by
  fun_induction follow? fuel cs generalizing ps with
  | case1 =>
    cases read
    exact .nil
  | case2 => cases read
  | case3 fuel cs filled rest comma p left parameter ih =>
    obtain ⟨qs, reads, rfl⟩ := Option.map_eq_some_iff.1 read
    obtain ⟨a, ends, writes⟩ := parameter?_sound parameter
    have follows := Follows.more (spacing_takeWhile cs) (spacing_takeWhile rest) writes (ih reads)
    rwa [← ends, List.takeWhile_append_dropWhile, ← comma, List.takeWhile_append_dropWhile] at follows
  | case4 fuel cs filled rest comma parameter ih =>
    have follows := Follows.skip (spacing_takeWhile cs) (ih read)
    rwa [← comma, List.takeWhile_append_dropWhile] at follows
  | case5 => cases read

theorem follow?_comma (before : Spacing x) (rest : List Char) : follow? (fuel + 1) (x ++ ',' :: rest) =
    match parameter? (rest.dropWhile isSpacing) with
    | some (p, left) => (follow? fuel left).map (p :: ·)
    | none => follow? fuel rest := by
  rw [follow?.eq_3 _ _ (by simp), dropWhile_spacing before comma_unspaced]
  rfl

theorem follow?_complete (follows : Follows ps cs) (fuel : Nat) (enough : cs.length ≤ fuel) : follow? fuel cs = some ps := by
  induction follows generalizing fuel with
  | nil => cases fuel <;> rfl
  | skip before rest ih =>
    cases fuel with
    | zero => simp at enough
    | succ fuel =>
      rw [follow?_comma before, rest.unnamed]
      refine ih fuel ?_
      simp only [List.length_append, List.length_cons] at enough
      omega
  | more before behind first rest ih =>
    cases fuel with
    | zero => simp at enough
    | succ fuel =>
      rw [follow?_comma before, dropWhile_spacing behind first.unspaced, parameter?_complete first rest.stops]
      dsimp only
      rw [ih fuel]
      · rfl
      · simp only [List.length_append, List.length_cons] at enough
        omega

theorem follow?_none (filled : cs ≠ []) (other : ∀ c ∈ (cs.dropWhile isSpacing).head?, c ≠ ',') :
    follow? fuel cs = none := by
  cases fuel with
  | zero => rw [follow?.eq_2 _ filled]
  | succ fuel =>
    rw [follow?.eq_3 _ _ filled]
    split
    · rename_i rest comma
      rw [comma] at other
      exact absurd rfl (other ',' rfl)
    · rfl

theorem list?_sound (read : list? cs = some ps) : Lists ps cs := by
  unfold list? at read
  split at read
  · cases read
    exact .nil
  · exact .skip (follow?_sound read)
  · obtain ⟨⟨p, left⟩, parameter, reads⟩ := Option.bind_eq_some_iff.1 read
    obtain ⟨qs, follows, rfl⟩ := Option.map_eq_some_iff.1 reads
    obtain ⟨a, rfl, writes⟩ := parameter?_sound parameter
    exact .first writes (follow?_sound follows)

theorem list?_named (sign : isWordSign a) (cs : List Char) : list? (a :: cs) =
    (parameter? (a :: cs)).bind fun first => (follow? first.2.length first.2).map (first.1 :: ·) := by
  have other : a ≠ ',' := by
    rintro rfl
    cases sign
  rw [list?.eq_3 (a :: cs) (by simp)]
  intro _ same
  exact other (List.cons.inj same).1

theorem list?_complete (lists : Lists ps cs) : list? cs = some ps := by
  cases lists with
  | nil => rfl
  | skip rest => exact follow?_complete rest _ (Nat.le_refl _)
  | first first rest =>
    obtain ⟨a, left, rfl, sign⟩ := first.head
    have reads := parameter?_complete first rest.stops
    rw [List.cons_append] at reads ⊢
    rw [list?_named sign, reads, Option.bind_some, follow?_complete rest _ (Nat.le_refl _)]
    rfl

theorem Lists.unblank (lists : Lists ps cs) : cs.head? ≠ some ' ' := by
  cases lists with
  | nil => simp
  | skip rest => simp
  | first first rest =>
    obtain ⟨a, left, rfl, sign⟩ := first.head
    rintro same
    cases same
    cases sign

theorem read?_sound (read : read? cs = some c) : c.Writes cs := by
  obtain ⟨⟨n, left⟩, scheme, reads⟩ := Option.bind_eq_some_iff.1 read
  obtain ⟨word, rfl⟩ := word?_sound scheme
  dsimp only at reads
  split at reads
  · cases reads
    rw [List.append_nil]
    exact .bare word
  · rename_i rest
    obtain ⟨ps, list, rfl⟩ := Option.map_eq_some_iff.1 reads
    have blanks : ∀ d ∈ ' ' :: rest.takeWhile (· = ' '), d = ' ' := by
      intro d member
      rcases List.mem_cons.1 member with rfl | later
      · rfl
      · simpa using List.mem_takeWhile_imp later
    have told := Writes.told word (by simp) blanks (list?_sound list)
    rwa [List.cons_append, List.takeWhile_append_dropWhile] at told
  · cases reads

theorem read?_told {n x : List Char} (scheme : Word n) (apart : x ≠ []) (blanks : ∀ c ∈ x, c = ' ')
    (other : cs.head? ≠ some ' ') : read? (n ++ (x ++ cs)) = (list? cs).map (⟨n, ·⟩) := by
  obtain ⟨d, rest, rfl⟩ := List.exists_cons_of_ne_nil apart
  obtain ⟨rfl, later⟩ := List.forall_mem_cons.1 blanks
  have dropped : (rest ++ cs).dropWhile (· = ' ') = cs := by
    rw [List.dropWhile_append_of_pos fun c member => decide_eq_true (later c member)]
    cases cs with
    | nil => rfl
    | cons c cs =>
      have first : c ≠ ' ' := fun same => other (congrArg some same)
      simp [first]
  unfold read?
  rw [List.cons_append, word?_complete scheme (stops_cons (by decide)), Option.bind_some]
  change (list? ((rest ++ cs).dropWhile (· = ' '))).map _ = _
  rw [dropped]

theorem read?_complete (writes : c.Writes cs) : read? cs = some c := by
  cases writes with
  | bare scheme =>
    have reads := word?_complete scheme stops_nil
    rw [List.append_nil] at reads
    unfold read?
    rw [reads]
    rfl
  | told scheme apart blanks list =>
    rw [read?_told scheme apart blanks list.unblank, list?_complete list]
    rfl

theorem read?_eq_some_iff : read? cs = some c ↔ c.Writes cs := ⟨read?_sound, read?_complete⟩

end Lines

section Contents

variable {c : Char} {s cs rest a : List Char} {v : Value} {p : Parameter} {ps : List Parameter} {d : Challenge}

def Line (cs : List Char) : Prop := ∀ c ∈ cs, isLineSign c

theorem line_append : Line (s ++ cs) ↔ Line s ∧ Line cs := List.forall_mem_append

theorem line_cons (sign : isLineSign c) (line : Line cs) : Line (c :: cs) := List.forall_mem_cons.2 ⟨sign, line⟩

theorem visible_of_between {a b : UInt32} (low : a ≤ c.val) (high : c.val ≤ b) (visible : 0x20 ≤ a.toNat ∧ b.toNat ≤ 0x7E) :
    0x20 ≤ c.toNat ∧ c.toNat ≤ 0x7E :=
  ⟨visible.1.trans (UInt32.le_iff_toNat_le.1 low), (UInt32.le_iff_toNat_le.1 high).trans visible.2⟩

theorem visible_of_isAlphanum (sign : c.isAlphanum) : 0x20 ≤ c.toNat ∧ c.toNat ≤ 0x7E := by
  rcases Bool.or_eq_true_iff.1 sign with letter | digit
  · rcases Bool.or_eq_true_iff.1 letter with upper | lower
    · obtain ⟨low, high⟩ := of_decide_eq_true upper
      exact visible_of_between low high (by decide)
    · obtain ⟨low, high⟩ := Bool.and_eq_true_iff.1 lower
      exact visible_of_between (of_decide_eq_true low) (of_decide_eq_true high) (by decide)
  · obtain ⟨low, high⟩ := Bool.and_eq_true_iff.1 digit
    exact visible_of_between (of_decide_eq_true low) (of_decide_eq_true high) (by decide)

theorem isLineSign_of_isWordSign (sign : isWordSign c) : isLineSign c := by
  have bounds : 0x20 ≤ c.toNat ∧ c.toNat ≤ 0x7E := by
    rcases Bool.or_eq_true_iff.1 sign with alphanum | other
    · exact visible_of_isAlphanum alphanum
    · have all : ("!#$%&'*+-.^_`|~".toList.all fun c => decide (0x20 ≤ c.toNat ∧ c.toNat ≤ 0x7E)) = true := by decide
      exact of_decide_eq_true (List.all_eq_true.1 all c (List.contains_iff_mem.1 other))
  simp [isLineSign, bounds]

theorem isLineSign_of_isPlain (plain : isPlain c) : isLineSign c := by
  unfold isPlain at plain
  rw [Bool.and_eq_true, Bool.and_eq_true] at plain
  exact plain.1.1

theorem Word.line (word : Word cs) : Line cs := fun c member => isLineSign_of_isWordSign (word.signs c member)

theorem Spacing.line (spacing : Spacing cs) : Line cs := by
  intro c member
  have either := spacing c member
  unfold isSpacing at either
  rw [Bool.or_eq_true, decide_eq_true_iff, decide_eq_true_iff] at either
  rcases either with rfl | rfl
  · decide
  · decide

theorem Quotes.line (quotes : Quotes cs s) : Line cs := by
  induction quotes with
  | nil => exact List.forall_mem_nil _
  | plain plain _ ih => exact line_cons (isLineSign_of_isPlain plain) ih
  | escaped sign _ ih => exact line_cons (by decide) (line_cons sign ih)

theorem Value.Writes.line (writes : v.Writes cs) : Line cs := by
  cases writes with
  | word word => exact word.line
  | quoted quotes => exact line_cons (by decide) (line_append.2 ⟨quotes.line, line_cons (by decide) (List.forall_mem_nil _)⟩)

theorem Parameter.Writes.line (writes : p.Writes cs) : Line cs := by
  cases writes with
  | mk name before behind value =>
    exact line_append.2 ⟨name.line, line_append.2 ⟨before.line, line_cons (by decide) (line_append.2 ⟨behind.line, value.line⟩)⟩⟩

theorem Follows.line (follows : Follows ps cs) : Line cs := by
  induction follows with
  | nil => exact List.forall_mem_nil _
  | skip before _ ih => exact line_append.2 ⟨before.line, line_cons (by decide) ih⟩
  | more before behind first _ ih =>
    exact line_append.2 ⟨before.line, line_cons (by decide) (line_append.2 ⟨behind.line, line_append.2 ⟨first.line, ih⟩⟩)⟩

theorem Lists.line (lists : Lists ps cs) : Line cs := by
  cases lists with
  | nil => exact List.forall_mem_nil _
  | skip rest => exact line_cons (by decide) rest.line
  | first first rest => exact line_append.2 ⟨first.line, rest.line⟩

theorem Writes.line (writes : d.Writes cs) : Line cs := by
  cases writes with
  | bare scheme => exact scheme.line
  | told scheme _ blanks list =>
    refine line_append.2 ⟨scheme.line, line_append.2 ⟨fun c member => ?_, list.line⟩⟩
    rw [blanks c member]
    decide

end Contents

section Meanings

variable {m n s cs rest : List Char} {fuel : Nat}

theorem Quotes.length_le (quotes : Quotes cs s) : s.length ≤ cs.length := by
  induction quotes with
  | nil => exact Nat.le_refl _
  | plain _ _ ih => exact Nat.succ_le_succ ih
  | escaped _ _ ih => exact Nat.le_succ_of_le (Nat.succ_le_succ ih)

theorem Quotes.plain_of_length (quotes : Quotes cs s) (same : cs.length = s.length) : ∀ c ∈ cs, isPlain c := by
  induction quotes with
  | nil => exact List.forall_mem_nil _
  | plain plain _ ih => exact List.forall_mem_cons.2 ⟨plain, ih (Nat.succ.inj same)⟩
  | escaped _ rest _ =>
    have shorter := rest.length_le
    simp only [List.length_cons] at same
    omega

theorem quotes_of_plain (plain : ∀ c ∈ cs, isPlain c) : Quotes cs cs := by
  induction cs with
  | nil => exact .nil
  | cons c cs ih =>
    obtain ⟨first, later⟩ := List.forall_mem_cons.1 plain
    exact .plain first (ih later)

theorem quotes_self_iff : Quotes cs cs ↔ ∀ c ∈ cs, isPlain c :=
  ⟨fun quotes => quotes.plain_of_length rfl, quotes_of_plain⟩

theorem eq_of_closed {body : List Char} (unquoted : '"' ∉ cs) (same : cs ++ ['"'] = body ++ '"' :: rest) :
    cs = body ∧ rest = [] := by
  rcases List.eq_nil_or_concat rest with rfl | ⟨before, last, rfl⟩
  · exact ⟨(List.append_inj_left' same rfl), rfl⟩
  · rw [List.concat_eq_append, ← List.cons_append, ← List.append_assoc] at same
    have within := List.append_inj_left' same rfl
    exact absurd (by simp [within]) unquoted

theorem quotes?_closed_iff (unquoted : '"' ∉ cs) :
    quotes? (cs ++ ['"']) = some (s, rest) ↔ Quotes cs s ∧ rest = [] := by
  constructor
  · intro read
    obtain ⟨body, same, quotes⟩ := quotes?_sound read
    obtain ⟨rfl, rfl⟩ := eq_of_closed unquoted same
    exact ⟨quotes, rfl⟩
  · rintro ⟨quotes, rfl⟩
    exact quotes?_complete quotes []

theorem parameter?_quoted (name : Word n) (cs : List Char) :
    parameter? (n ++ '=' :: '"' :: cs) = (quotes? cs).map fun r => (⟨n, .quoted r.1⟩, r.2) := by
  have nothing : Spacing [] := List.forall_mem_nil _
  have other : ∀ c ∈ ('"' :: cs).head?, isSpacing c = false := by
    intro c first
    cases first
    rfl
  have named := parameter?_named name nothing nothing other
  rw [List.nil_append, List.nil_append] at named
  rw [named, value?, Option.map_map]
  rfl

theorem read?_quoted (scheme : Word m) (name : Word n) (cs : List Char) : read? (m ++ ' ' :: (n ++ '=' :: '"' :: cs)) =
    (quotes? cs).bind fun r => (follow? r.2.length r.2).map fun ps => ⟨m, ⟨n, .quoted r.1⟩ :: ps⟩ := by
  have first := parameter?_quoted name cs
  obtain ⟨c, left, rfl, sign⟩ := name.head
  have other : (c :: left ++ '=' :: '"' :: cs).head? ≠ some ' ' := by
    intro same
    cases same
    cases sign
  have told := read?_told scheme (List.cons_ne_nil ' ' []) (by simp) other
  rw [List.singleton_append] at told
  rw [List.cons_append] at first told ⊢
  rw [told, list?_named sign, first]
  cases quotes? cs with
  | none => rfl
  | some r => simp [Option.map_map, Function.comp_def]

theorem follow?_quoted (name : Word n) (cs : List Char) : follow? (fuel + 1) (',' :: ' ' :: (n ++ '=' :: '"' :: cs)) =
    (quotes? cs).bind fun r => (follow? fuel r.2).map (⟨n, .quoted r.1⟩ :: ·) := by
  obtain ⟨c, left, rfl, sign⟩ := name.head
  have named : (' ' :: (c :: left ++ '=' :: '"' :: cs)).dropWhile isSpacing = c :: left ++ '=' :: '"' :: cs :=
    dropWhile_spacing (s := [' ']) (by simp [Spacing, isSpacing]) (unspaced_cons sign)
  have comma : follow? (fuel + 1) ([] ++ ',' :: ' ' :: (c :: left ++ '=' :: '"' :: cs)) = _ :=
    follow?_comma (List.forall_mem_nil _) _
  rw [List.nil_append] at comma
  rw [comma, named, parameter?_quoted name]
  cases quotes? cs with
  | some r => rfl
  | none =>
    refine follow?_none (by simp) ?_
    rw [named]
    rintro d first rfl
    cases first
    cases sign

end Meanings

end Challenge
end SubscriptionLedger
