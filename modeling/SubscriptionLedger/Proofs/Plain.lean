import SubscriptionLedger.Mail.Address

namespace SubscriptionLedger.Text

def IsPlain (cs : List Char) : Prop := ∀ c ∈ cs, c.toNat < 128

instance (cs : List Char) : Decidable (IsPlain cs) := List.decidableBAll (fun c : Char => c.toNat < 128) cs

variable {a c : Char} {cs : List Char}

theorem of_plain {P : Char → Prop} (each : ∀ n : Fin 128, P (Char.ofNat n)) (plain : c.toNat < 128) : P c := by
  have here := each ⟨c.toNat, plain⟩
  rwa [Char.ofNat_toNat] at here

theorem parts?_plain (plain : c.toNat < 128) : parts? c = none :=
  of_plain (P := fun c => parts? c = none) (by decide +kernel) plain

theorem combiningClass_plain (plain : c.toNat < 128) : combiningClass c = 0 :=
  of_plain (P := fun c => combiningClass c = 0) (by decide +kernel) plain

theorem composed?_plain (plain : c.toNat < 128) : composed? a c = none := by
  have far : composites.toList.all (fun e => 128 ≤ e.2.2) = true := by decide +kernel
  unfold composed?
  rw [← Array.find?_toList, List.find?_eq_none.2, Option.map_none]
  intro e member
  have second : 128 ≤ e.2.2 := by simpa using List.all_eq_true.1 far e member
  obtain ⟨n, first, other⟩ := e
  have apart : other ≠ c.toNat := by
    rintro rfl
    exact absurd second (by simpa using plain)
  simp [apart]

theorem compose?_plain (plain : c.toNat < 128) : compose? a c = none := by
  unfold compose? Syllable.composed? Syllable.vowels Syllable.tails
  rw [composed?_plain plain]
  have apart : ¬ 4449 ≤ c.toNat ∧ ¬ 4519 < c.toNat := by omega
  simp [apart]

theorem expand_plain (depth : Nat) (plain : c.toNat < 128) : expand depth c = [c] := by
  cases depth with
  | zero => rfl
  | succ depth =>
    have syllable : Syllable.parts? c = none := by
      unfold Syllable.parts? Syllable.first
      have apart : ¬ 44032 ≤ c.toNat := by omega
      simp [apart]
    rw [expand, syllable, parts?_plain plain]
    rfl

theorem orderFrom_plain (plain : IsPlain cs) : orderFrom [] cs = cs := by
  induction cs with
  | nil => simp [orderFrom, sortMarks]
  | cons c rest ih =>
    obtain ⟨here, later⟩ := List.forall_mem_cons.1 plain
    rw [orderFrom, if_pos (combiningClass_plain here), ih later]
    simp [sortMarks]

theorem composeFrom_plain (base : Option Char) (plain : IsPlain cs) : composeFrom base [] cs = base.toList ++ cs := by
  induction cs generalizing base with
  | nil => rw [composeFrom, List.append_nil]
  | cons c rest ih =>
    obtain ⟨here, later⟩ := List.forall_mem_cons.1 plain
    have apart : (base.bind fun b => if ([] : List Char).getLast?.all
        (fun p => decide (combiningClass p < combiningClass c)) then compose? b c else none) = none := by
      cases base with
      | none => rfl
      | some b =>
        rw [Option.bind_some, compose?_plain here]
        split <;> rfl
    rw [composeFrom, apart]
    dsimp only
    rw [if_pos (combiningClass_plain here), ih _ later, List.append_nil]
    rfl

theorem normal_of_plain (plain : IsPlain cs) : normal cs = cs := by
  have whole : cs.flatMap (expand maxDepth) = cs := by
    rw [List.flatMap_def, List.map_congr_left fun c member => expand_plain maxDepth (plain c member)]
    exact (List.flatMap_def ..).symm.trans (List.flatMap_singleton' cs)
  unfold normal
  rw [whole, orderFrom_plain plain, composeFrom_plain none plain]
  rfl

end SubscriptionLedger.Text

namespace SubscriptionLedger.Mail

open Text (IsPlain normal_of_plain)

theorem Domain.isLabel_plain (plain : IsPlain cs) (made : !cs.isEmpty && (cs.drop 2).take 2 != ['-', '-'] &&
    cs.head? != some '-' && cs.getLast? != some '-' && !cs.head?.any Text.isMark && allInPlace cs) : isLabel cs = true := by
  unfold isLabel
  rw [normal_of_plain plain, beq_self_eq_true, Bool.and_true]
  exact made

theorem Domain.read?_label (label : isLabel cs) (unmarked : marker.isPrefixOf cs = false)
    (short : cs.length ≤ maxLabel) (sent : cs.all Punycode.isPlain) : Label.read? cs = some ⟨cs, cs⟩ := by
  unfold Label.read? Label.ofShown?
  rw [unmarked, Bool.false_and, if_neg (by decide), if_pos label, if_pos sent, Option.filter_some, if_pos (decide_eq_true short)]

theorem Domain.read?_shop : Name.read? "shop.com".toList =
    some ⟨[⟨"shop".toList, "shop".toList⟩, ⟨"com".toList, "com".toList⟩]⟩ := by
  have first : Label.read? "shop".toList = some ⟨"shop".toList, "shop".toList⟩ :=
    read?_label (isLabel_plain (by decide) (by decide +kernel)) (by decide) (by decide) (by decide +kernel)
  have second : Label.read? "com".toList = some ⟨"com".toList, "com".toList⟩ :=
    read?_label (isLabel_plain (by decide) (by decide +kernel)) (by decide) (by decide) (by decide +kernel)
  have folded : fold? "shop.com".toList = some "shop.com".toList := by
    unfold fold?
    rw [show List.mapM foldChar "shop.com".toList = some ("shop.com".toList.map fun c => [c]) by decide +kernel, Option.map_some,
      show ("shop.com".toList.map fun c => [c]).flatten = "shop.com".toList by decide, normal_of_plain (by decide)]
  unfold Name.read?
  rw [if_pos (by decide +kernel), folded, Option.bind_some, if_pos (by decide +kernel),
    show Text.splitOn '.' "shop.com".toList = ["shop".toList, "com".toList] by decide]
  simp only [List.mapM_cons, first, second, List.mapM_nil]
  decide +kernel

theorem localPart?_ann : localPart? "ann".toList = some "ann".toList := by
  unfold localPart?
  rw [normal_of_plain (by decide)]
  decide +kernel

theorem read?_ann : Address.read? "ann@shop.com".toList = some ⟨"ann".toList,
    ⟨[⟨"shop".toList, "shop".toList⟩, ⟨"com".toList, "com".toList⟩]⟩⟩ := by
  have written : Text.trim Text.isBlank "ann@shop.com".toList = "ann@shop.com".toList := by decide
  have before : ("ann@shop.com".toList).takeWhile (· != '@') = "ann".toList := by decide
  have behind : ("ann@shop.com".toList).dropWhile (· != '@') = '@' :: "shop.com".toList := by decide
  unfold Address.read?
  simp only [written, before, behind, localPart?_ann, Domain.read?_shop, Option.bind_some]
  decide +kernel

theorem normal?_ann : normal? "ann@shop.com" = some "ann@shop.com" := by
  unfold normal?
  rw [if_neg (by decide), show inBrackets? "ann@shop.com".toList = none by decide +kernel, Option.getD_none, read?_ann]
  decide +kernel

end SubscriptionLedger.Mail
