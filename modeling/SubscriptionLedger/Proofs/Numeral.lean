import Mathlib.Data.List.Basic
import Mathlib.Data.List.TakeWhile
import SubscriptionLedger.Form

namespace SubscriptionLedger

namespace Text

def counts (c : Char) : Bool := c = '-' || (digitValue? c).isSome

-- The number that a numeral writes, whatever else stands in it.
def reading (cs : List Char) : Int := Binary64.signed (decide ('-' ∈ cs)) (valueOf (cs.filterMap digitValue?))

variable {cs : List Char} {c : Char}

theorem reading_filter (cs : List Char) : reading (cs.filter counts) = reading cs := by
  have digits : (cs.filter counts).filterMap digitValue? = cs.filterMap digitValue? := by
    rw [List.filterMap_filter]
    refine List.filterMap_congr fun c _ => ?_
    cases value : digitValue? c <;> simp [counts, value]
  have sign : '-' ∈ cs.filter counts ↔ '-' ∈ cs := by
    rw [List.mem_filter]
    exact and_iff_left rfl
  unfold reading
  rw [digits, decide_eq_decide.2 sign]

theorem reading_congr (same : cs.filter counts = ds.filter counts) : reading cs = reading ds := by
  rw [← reading_filter cs, same, reading_filter]

theorem reading_cons (idle : counts c = false) (cs : List Char) : reading (c :: cs) = reading cs :=
  reading_congr (List.filter_cons_of_neg (by rw [idle]; exact Bool.false_ne_true))

theorem reading_zero (cs : List Char) : reading ('0' :: cs) = reading cs := by
  have digit : digitValue? '0' = some 0 := by decide
  have sign : '-' ∈ '0' :: cs ↔ '-' ∈ cs := by simp
  unfold reading
  rw [List.filterMap_cons_some digit, decide_eq_decide.2 sign]
  rfl

theorem filter_dropWhile {p keep : Char → Bool} (idle : ∀ c, p c → keep c = false) (cs : List Char) :
    (cs.dropWhile p).filter keep = cs.filter keep := by
  induction cs with
  | nil => rfl
  | cons c rest ih =>
    by_cases dropped : p c
    · rw [List.dropWhile_cons_of_pos dropped, ih, List.filter_cons_of_neg (by rw [idle c dropped]; exact Bool.false_ne_true)]
    · rw [List.dropWhile_cons_of_neg dropped]

theorem filter_trim {p keep : Char → Bool} (idle : ∀ c, p c → keep c = false) (cs : List Char) :
    (trim p cs).filter keep = cs.filter keep := by
  unfold trim
  rw [List.filter_reverse, filter_dropWhile idle, List.filter_reverse, List.reverse_reverse, filter_dropWhile idle]

theorem reading_trim {p : Char → Bool} (idle : ∀ c, p c → counts c = false) (cs : List Char) :
    reading (trim p cs) = reading cs := reading_congr (filter_trim idle cs)

theorem mem_trim {p : Char → Bool} (stays : p c = false) (cs : List Char) : c ∈ trim p cs ↔ c ∈ cs := by
  have only : (trim p cs).filter (· == c) = cs.filter (· == c) := by
    refine filter_trim (fun d dropped => beq_eq_false_iff_ne.2 fun same => ?_) cs
    rw [same, stays] at dropped
    cases dropped
  have kept : ∀ ds : List Char, c ∈ ds.filter (· == c) ↔ c ∈ ds := fun ds => by simp
  rw [← kept, only, kept]

def blanks : List Nat :=
  [0x09, 0x0A, 0x0B, 0x0C, 0x0D, 0x20, 0x85, 0xA0, 0x1680, 0x2000, 0x2001, 0x2002, 0x2003, 0x2004, 0x2005, 0x2006, 0x2007,
    0x2008, 0x2009, 0x200A, 0x2028, 0x2029, 0x202F, 0x205F, 0x3000]

theorem mem_blanks (white : isWhiteSpace c) : c.toNat ∈ blanks := by
  simp only [isWhiteSpace, Bool.or_eq_true, Bool.and_eq_true, decide_eq_true_eq, beq_iff_eq] at white
  simp only [blanks, List.mem_cons, List.not_mem_nil, or_false]
  omega

theorem not_counts_of_isWhiteSpace (white : isWhiteSpace c) : counts c = false := by
  have apart : ∀ n ∈ blanks, n ≠ '-'.toNat ∧ (zeros.find? fun z => z ≤ n && n < z + 10) = none := by decide
  obtain ⟨sign, digit⟩ := apart c.toNat (mem_blanks white)
  have other : c ≠ '-' := by
    rintro rfl
    exact sign rfl
  simp [counts, other, digitValue?, digit]

theorem digitValue?_of_isDigit (digit : c.isDigit) : digitValue? c = some (c.toNat - 48) := by
  obtain ⟨low, high⟩ : 48 ≤ c.toNat ∧ c.toNat ≤ 57 := by
    simpa [Char.isDigit, UInt32.le_iff_toNat_le] using digit
  have found : (zeros.find? fun z => z ≤ c.toNat && c.toNat < z + 10) = some 48 := by
    unfold zeros
    rw [List.find?_cons_of_pos]
    simp only [Bool.and_eq_true, decide_eq_true_eq]
    omega
  unfold digitValue?
  rw [found]
  rfl

theorem reading_digits (digits : ∀ c ∈ cs, c.isDigit) :
    cs.filterMap digitValue? = cs.map (fun c => c.toNat - 48) ∧ '-' ∉ cs := by
  constructor
  · rw [← List.filterMap_eq_map]
    exact List.filterMap_congr fun c member => digitValue?_of_isDigit (digits c member)
  · intro sign
    exact absurd (digits _ sign) (by decide)

theorem reading_signed (row : cs.filterMap digitValue? = ds ∧ '-' ∉ cs) (negative : Bool) :
    reading (if negative then '-' :: cs else cs) = Binary64.signed negative (valueOf ds) := by
  obtain ⟨values, sign⟩ := row
  unfold reading
  cases negative with
  | true => rw [if_pos rfl, List.filterMap_cons_none (by decide), values, decide_eq_true List.mem_cons_self]
  | false => rw [if_neg Bool.false_ne_true, values, decide_eq_false sign]

end Text

open Text

section Lenient

variable {c : Char} {rest : List Char} {more : Option (List Nat)}

def IsNumeral (cs : List Char) : Prop := ∀ c ∈ cs, c = '_' ∨ (digitValue? c).isSome

theorem digits_cons (later : ∀ es, more = some es → rest.filterMap digitValue? = es ∧ IsNumeral rest)
    (read : ((digitValue? c).bind fun d => more.map (d :: ·)) = some ds) :
    (c :: rest).filterMap digitValue? = ds ∧ IsNumeral (c :: rest) := by
  obtain ⟨d, digit, whole⟩ := Option.bind_eq_some_iff.1 read
  obtain ⟨es, known, rfl⟩ := Option.map_eq_some_iff.1 whole
  obtain ⟨digits, row⟩ := later es known
  rw [List.filterMap_cons_some digit, digits]
  exact ⟨rfl, List.forall_mem_cons.2 ⟨.inr (by rw [digit]; rfl), row⟩⟩

theorem numeral?_go_digits (read : numeral?.go cs = some ds) : cs.filterMap digitValue? = ds ∧ IsNumeral cs := by
  fun_induction numeral?.go cs generalizing ds with
  | case1 =>
    cases read
    exact ⟨rfl, List.forall_mem_nil _⟩
  | case2 c rest ih =>
    obtain ⟨digits, row⟩ := digits_cons (fun _ => ih) read
    rw [List.filterMap_cons_none (by decide)]
    exact ⟨digits, List.forall_mem_cons.2 ⟨.inl rfl, row⟩⟩
  | case3 c rest _ ih => exact digits_cons (fun _ => ih) read

theorem numeral?_digits (read : numeral? cs = some ds) : cs.filterMap digitValue? = ds ∧ IsNumeral cs := by
  cases cs with
  | nil => cases read
  | cons c rest => exact digits_cons (fun _ => numeral?_go_digits) read

theorem IsNumeral.notMem (row : IsNumeral cs) (other : c ≠ '_') (mark : digitValue? c = none) : c ∉ cs := by
  intro member
  rcases row c member with low | digit
  · exact other low
  · rw [mark] at digit
    cases digit

theorem wholeOfText_reads (read : wholeOfText s = .ok n) : reading s.toList = n ∧ '.' ∉ s.toList := by
  rw [← reading_trim (fun _ => not_counts_of_isWhiteSpace) s.toList, ← mem_trim (p := (isWhiteSpace ·)) (by decide) s.toList]
  unfold wholeOfText at read
  dsimp only at read
  split at read
  · cases read
  · rename_i ds digits
    split at read
    · cases read
    · cases read
      revert digits
      have signed : ∀ body negative, numeral? body = some ds →
          reading (if negative then '-' :: body else body) = Binary64.signed negative (valueOf ds) ∧ '.' ∉ body := by
        intro body negative digits
        obtain ⟨values, row⟩ := numeral?_digits digits
        exact ⟨reading_signed ⟨values, row.notMem (by decide) (by decide)⟩ negative, row.notMem (by decide) (by decide)⟩
      split
      · rename_i rest is
        intro digits
        obtain ⟨reads, pointless⟩ := signed rest true digits
        rw [is, List.mem_cons, not_or]
        exact ⟨reads, by decide, pointless⟩
      · rename_i rest is
        intro digits
        obtain ⟨reads, pointless⟩ := signed rest false digits
        rw [is, reading_cons (by decide), List.mem_cons, not_or]
        exact ⟨reads, by decide, pointless⟩
      · exact signed _ false

-- A space that breaks no line is dropped, a separator of units is not.
example : wholeOfText "\u00a012" = .ok 12 := rfl
example : wholeOfText "\x1f12" = .error .badValue := rfl

end Lenient

section Strict

open Rule

variable {cs rest : List Char} {last : Char}

theorem numeral_row {body : List Char} (inner : body.length ≤ cs.length)
    (full : ¬ cs.length - (body.length - (body.takeWhile Char.isDigit).length) < cs.length) :
    body.takeWhile Char.isDigit = body ∧ ∀ c ∈ body, c.isDigit := by
  have front := List.takeWhile_prefix (l := body) Char.isDigit
  have all : body.takeWhile Char.isDigit = body := front.eq_of_length (by have := front.length_le; omega)
  exact ⟨all, fun c member => List.mem_takeWhile_imp (all ▸ member)⟩

theorem numeral_reads (read : numeral cs = .ok n) : reading cs = n := by
  unfold numeral at read
  split at read
  rename_i negative body shape
  have is : cs = if negative then '-' :: body else body := by
    split at shape
    · cases shape
      rfl
    · cases shape
      rfl
  have inner : body.length ≤ cs.length := by
    rw [is]
    split <;> simp
  dsimp only at read
  split at read
  · cases read
  · split at read
    · rename_i single
      cases read
      rw [is, single, reading_signed (reading_digits (List.forall_mem_singleton.2 rfl))]
      cases negative <;> rfl
    · cases read
  · split at read
    · cases read
    · split at read
      · cases read
      · rename_i full
        cases read
        obtain ⟨all, digits⟩ := numeral_row inner full
        rw [is, reading_signed (reading_digits digits), all]

theorem reading_forgiven (forgiven : last = '0' ∨ last = '_') (cs : List Char) : reading (last :: cs) = reading cs := by
  rcases forgiven with rfl | rfl
  · exact reading_zero cs
  · exact reading_cons (by decide) cs

theorem dropZeros?_go_reads (forgiven : last = '0' ∨ last = '_') (dropped : dropZeros?.go last rest = some cs) :
    reading cs = reading (last :: rest) ∧ cs ⊆ last :: rest := by
  fun_induction dropZeros?.go last rest with
  | case1 | case3 =>
    cases dropped
    exact ⟨rfl, fun _ => id⟩
  | case2 last c rest zero ih =>
    have idle : c = '0' ∨ c = '_' := by simpa using zero
    obtain ⟨same, sub⟩ := ih idle dropped
    exact ⟨by rw [same, reading_forgiven forgiven], fun _ member => .tail _ (sub member)⟩
  | case4 =>
    cases dropped
    exact ⟨(reading_forgiven forgiven _).symm, fun _ => .tail _⟩
  | case5 => cases dropped

theorem dropZeros?_reads (dropped : dropZeros? rest = some cs) : reading cs = reading rest ∧ cs ⊆ rest := by
  unfold dropZeros? at dropped
  split at dropped
  · cases dropped
  · split at dropped
    · rename_i zero
      subst zero
      exact dropZeros?_go_reads (.inl rfl) dropped
    · split at dropped
      · cases dropped
        exact ⟨rfl, fun _ => id⟩
      · cases dropped

theorem dropFraction_of_notMem (pointless : '.' ∉ cs) : dropFraction cs = cs := by
  have none : cs.dropWhile (· != '.') = [] := by
    rw [List.dropWhile_eq_nil_iff]
    intro c member
    exact bne_iff_ne.2 (ne_of_mem_of_not_mem member pointless)
  unfold dropFraction
  rw [none]

theorem reading_dropLowLines (cs : List Char) : reading (dropLowLines cs) = reading cs := by
  unfold dropLowLines
  split
  · apply reading_congr
    rw [List.filter_filter]
    refine List.filter_congr fun c _ => ?_
    by_cases low : c = '_'
    · rw [low]
      rfl
    · simp [low]
  · rfl

theorem tidy?_reads (pointless : '.' ∉ rest) (tidied : tidy? rest = some cs) : reading cs = reading rest := by
  unfold tidy? at tidied
  dsimp only at tidied
  obtain ⟨kept, dropped, rfl⟩ := Option.map_eq_some_iff.1 tidied
  obtain ⟨body, unsigned, dropped⟩ := Option.bind_eq_some_iff.1 dropped
  obtain ⟨zeros, within⟩ := dropZeros?_reads dropped
  rw [← reading_trim (fun _ => not_counts_of_isWhiteSpace) rest]
  have trimmed : '.' ∉ trim isWhiteSpace rest := fun point => pointless ((mem_trim (by decide) _).1 point)
  have bare : reading body = reading (trim isWhiteSpace rest) ∧ '.' ∉ body := by
    split at unsigned
    · cases unsigned
    · rename_i is
      cases unsigned
      rw [is] at trimmed ⊢
      exact ⟨(reading_cons (by decide) _).symm, fun point => trimmed (.tail _ point)⟩
    · cases unsigned
      exact ⟨rfl, trimmed⟩
  rw [reading_dropLowLines, dropFraction_of_notMem fun point => bare.2 (within point), zeros, bare.1]

theorem wholeText_reads (pointless : '.' ∉ s.toList) (read : wholeText s = .ok n) : reading s.toList = n := by
  unfold wholeText at read
  split at read
  · cases read
  · split at read
    · cases tidied : tidy? s.toList with
      | none =>
        rw [tidied] at read
        cases read
      | some cs =>
        rw [tidied] at read
        rw [← tidy?_reads pointless tidied]
        exact numeral_reads read
    · exact numeral_reads read

end Strict

theorem truncate?_of_whole? {x : Binary64} (whole : x.whole? = some n) : x.truncate? = some n := by
  cases x with
  | finite negative m e =>
    unfold Binary64.whole? at whole
    dsimp only at whole
    split at whole
    · exact whole
    · cases whole
  | infinite | nan => cases whole

theorem wholeReal_reads (read : Rule.wholeReal x = .ok n) : x.truncate? = some n := by
  unfold Rule.wholeReal at read
  split at read
  · cases read
  · split at read
    · cases read
    · rename_i whole
      split at read
      · cases read
        exact truncate?_of_whole? whole
      · cases read

-- What both readers take for a whole number they take for the same one.
theorem whole_agree (strict : Rule.whole d = .ok n) (lenient : d.whole = .ok m) : n = m := by
  unfold Rule.whole at strict
  cases d with
  | int i =>
    cases strict
    cases lenient
    rfl
  | bool b =>
    cases strict
    cases lenient
    rfl
  | real x =>
    dsimp only at strict
    split at strict
    · rename_i read
      cases strict
      unfold Document.whole at lenient
      dsimp only at lenient
      rw [wholeReal_reads read] at lenient
      cases lenient
      rfl
    · cases strict
  | text s =>
    obtain ⟨reads, pointless⟩ := wholeOfText_reads lenient
    dsimp only at strict
    split at strict
    · rename_i read
      cases strict
      rw [← wholeText_reads pointless read, reads]
    · cases strict
  | null | list | object => cases lenient

end SubscriptionLedger
