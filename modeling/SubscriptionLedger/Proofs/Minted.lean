import Mathlib.Data.List.TakeWhile
import SubscriptionLedger.Identity.Token

namespace SubscriptionLedger

namespace Text.Base64Url

variable {cs : List Char} {bs : List UInt8} {ns : List Nat}

def values : List UInt8 → List Nat
  | [] => []
  | [a] => [a.toNat / 4, a.toNat % 4 * 16]
  | [a, b] => [a.toNat / 4, a.toNat % 4 * 16 + b.toNat / 16, b.toNat % 16 * 4]
  | a :: b :: c :: rest =>
    a.toNat / 4 :: (a.toNat % 4 * 16 + b.toNat / 16) :: (b.toNat % 16 * 4 + c.toNat / 64) :: c.toNat % 64 :: values rest

theorem encode_eq (bs : List UInt8) : encode bs = (values bs).map sign := by
  fun_induction values bs with
  | case1 | case2 | case3 => rfl
  | case4 a b c rest ih => rw [encode, ih]; rfl

theorem values_lt : ∀ n ∈ values bs, n < 64 := by
  fun_induction values bs with
  | case1 => exact List.forall_mem_nil _
  | case2 a =>
    have first := a.toNat_lt
    simp only [List.forall_mem_cons]
    exact ⟨by omega, by omega, List.forall_mem_nil _⟩
  | case3 a b =>
    have first := a.toNat_lt
    have second := b.toNat_lt
    simp only [List.forall_mem_cons]
    exact ⟨by omega, by omega, by omega, List.forall_mem_nil _⟩
  | case4 a b c rest ih =>
    have first := a.toNat_lt
    have second := b.toNat_lt
    have third := c.toNat_lt
    simp only [List.forall_mem_cons]
    exact ⟨by omega, by omega, by omega, by omega, ih⟩

theorem byte_eq {n : Nat} {a : UInt8} (same : n = a.toNat) : UInt8.ofNat n = a := by rw [same, UInt8.ofNat_toNat]

theorem bytes_values (bs : List UInt8) : bytes (values bs) = some bs := by
  fun_induction values bs with
  | case1 => rfl
  | case2 a =>
    have first := a.toNat_lt
    rw [bytes, byte_eq (a := a) (by omega)]
  | case3 a b =>
    have first := a.toNat_lt
    have second := b.toNat_lt
    rw [bytes, byte_eq (a := a) (by omega), byte_eq (a := b) (by omega)]
  | case4 a b c rest ih =>
    have first := a.toNat_lt
    have second := b.toNat_lt
    have third := c.toNat_lt
    rw [bytes, ih, byte_eq (a := a) (by omega), byte_eq (a := b) (by omega), byte_eq (a := c) (by omega)]
    rfl

theorem mapM_value? (small : ∀ n ∈ ns, n < 64) : (ns.map sign).mapM value? = some ns := by
  induction ns with
  | nil => rfl
  | cons n rest ih =>
    obtain ⟨here, later⟩ := List.forall_mem_cons.1 small
    simp [value?_sign here, ih later]

theorem notMem_encode {c : Char} (other : ∀ n ∈ List.range 64, sign n ≠ c) (bs : List UInt8) : c ∉ encode bs := by
  rw [encode_eq]
  intro member
  obtain ⟨n, there, same⟩ := List.mem_map.1 member
  exact other n (List.mem_range.2 (values_lt n there)) same

theorem unpad_of_notMem (none : '=' ∉ cs) : unpad cs = cs := by
  have first : ∀ front, cs.reverse ≠ '=' :: front := fun front same =>
    none (List.mem_reverse.1 (by rw [same]; exact List.mem_cons_self))
  unfold unpad
  split
  · split
    · rename_i same
      exact absurd same (first _)
    · rename_i same
      exact absurd same (first _)
    · rfl
  · rfl

theorem decodeSigns_encode (bs : List UInt8) : decodeSigns (encode bs) = some bs := by
  unfold decodeSigns
  rw [encode_eq, mapM_value? values_lt]
  exact bytes_values bs

theorem decode?_encode (bs : List UInt8) : decode? (encode bs) = some bs := by
  unfold decode?
  dsimp only
  rw [unpad_of_notMem (notMem_encode (by decide) bs), decodeSigns_encode, Option.bind_some, if_pos rfl]

end Text.Base64Url

namespace Secret

variable {cs front rest part line : List Char}

theorem mem_of_after? (found : after? front cs = some rest) (c : Char) (member : c ∈ front) : c ∈ cs := by
  induction front generalizing cs with
  | nil => cases member
  | cons a front ih =>
    cases cs with
    | nil => cases found
    | cons b cs =>
      unfold after? at found
      split at found
      · rename_i same
        subst same
        rcases List.mem_cons.1 member with rfl | later
        · exact List.mem_cons_self
        · exact List.mem_cons_of_mem _ (ih found later)
      · cases found

theorem suffix_of_ends (member : rest ∈ ends cs) : rest <:+ cs := by
  induction cs with
  | nil =>
    cases List.mem_singleton.1 member
    exact List.suffix_refl []
  | cons c cs ih =>
    rcases List.mem_cons.1 member with rfl | later
    · exact List.suffix_refl _
    · exact (ih later).trans (List.suffix_cons c cs)

theorem mem_of_occursIn (occurs : occursIn part cs) (c : Char) (member : c ∈ part) : c ∈ cs := by
  obtain ⟨rest, there, here⟩ := List.any_eq_true.1 occurs
  exact (suffix_of_ends there).subset ((List.isPrefixOf_iff_prefix.1 here).subset member)

theorem hyphen_of_lines {word label : String} (member : line ∈ lines word label) : '-' ∈ line := by
  unfold lines at member
  simp only [List.flatMap_cons, List.flatMap_nil, List.map_cons, List.map_nil, List.append_nil, List.mem_append,
    List.mem_cons, List.not_mem_nil, or_false] at member
  rcases member with (rfl | rfl) | rfl | rfl <;> simp

theorem isForeignKey_of_plain {s : String} (plain : '-' ∉ s.toList) (other : isKeyDocument s.toList = false) :
    isForeignKey s = false := by
  have unarmoured : isArmoured s.toList = false := by
    refine Bool.eq_false_iff.2 fun armoured => plain ?_
    obtain ⟨label, -, armoured⟩ := List.any_eq_true.1 armoured
    obtain ⟨rest, there, armoured⟩ := List.any_eq_true.1 armoured
    obtain ⟨line, drawn, closed⟩ := List.any_eq_true.1 armoured
    cases found : after? line rest with
    | none =>
      rw [found] at closed
      cases closed
    | some behind => exact (suffix_of_ends there).subset (mem_of_after? found '-' (hyphen_of_lines drawn))
  have unlisted : shellKinds.any (fun kind => occursIn kind.toList s.toList) = false := by
    refine Bool.eq_false_iff.2 fun listed => plain ?_
    obtain ⟨kind, known, occurs⟩ := List.any_eq_true.1 listed
    have hyphens : ∀ kind ∈ shellKinds, '-' ∈ kind.toList := by decide +kernel
    exact mem_of_occursIn occurs '-' (hyphens kind known)
  have uncertified : isShellCertificate s.toList = false := by
    refine Bool.eq_false_iff.2 fun certified => plain ?_
    unfold isShellCertificate at certified
    dsimp only at certified
    simp only [Bool.and_eq_true] at certified
    have suffix := List.isSuffixOf_iff_suffix.1 certified.1.1
    exact (List.takeWhile_prefix _).subset (suffix.subset (by decide))
  unfold isForeignKey isShellKey
  rw [unarmoured, unlisted, uncertified, other]
  rfl

end Secret

namespace Token

variable {mac : Mac} {secret payload : String} {now : Instant} {s : Segments} {members : Members}

def Segments.text (s : Segments) : String := String.ofList (s.signed ++ '.' :: s.signature)

def plainHeader : String := "\x7b\"alg\":\"HS256\"\x7d"

def minted (mac : Mac) (secret payload : String) : Segments :=
  let header := Text.Base64Url.encode (Text.Utf8.encodeText plainHeader)
  let body := Text.Base64Url.encode (Text.Utf8.encodeText payload)
  ⟨header, body, Text.Base64Url.encode (mac (Text.Utf8.encodeText secret) (Text.Utf8.encode (header ++ '.' :: body)))⟩

theorem split_text (header : '.' ∉ s.header) (signature : '.' ∉ s.signature) : Segments.split s.text.toList = .ok s := by
  have passes : ∀ cs : List Char, '.' ∉ cs → ∀ c ∈ cs, (c != '.') = true := fun cs none c member =>
    bne_iff_ne.2 fun same => none (same ▸ member)
  have back := passes s.signature.reverse (fun member => signature (List.mem_reverse.1 member))
  have front := passes s.header header
  unfold Segments.split Segments.text Segments.signed
  simp only [String.toList_ofList, List.reverse_append, List.reverse_cons, List.append_assoc, List.singleton_append,
    List.takeWhile_append_of_pos back, List.dropWhile_append_of_pos back]
  rw [List.cons_append, List.dropWhile_cons_of_neg (by decide), List.takeWhile_cons_of_neg (by decide)]
  simp [List.takeWhile_append_of_pos front, List.dropWhile_append_of_pos front]

theorem opened_minted (mac : Mac) (secret payload : String) : opened (minted mac secret payload).text = .ok
    ⟨[("alg", .text algorithm)], Text.Utf8.encodeText payload, mac (Text.Utf8.encodeText secret)
      (Text.Utf8.encode (minted mac secret payload).signed), (minted mac secret payload).signed⟩ := by
  have dotless := Text.Base64Url.notMem_encode (c := '.') (by decide)
  have header : readObject (Text.Utf8.encodeText plainHeader) .unreadableHeader .headerNotObject =
      .ok [("alg", .text algorithm)] := by decide +kernel
  have opens : openSegments (minted mac secret payload) = .ok ⟨[("alg", .text algorithm)], Text.Utf8.encodeText payload,
      mac (Text.Utf8.encodeText secret) (Text.Utf8.encode (minted mac secret payload).signed),
      (minted mac secret payload).signed⟩ := by
    unfold openSegments segmentBytes minted
    simp only [Text.Base64Url.decode?_encode]
    dsimp only [bind, Except.bind]
    rw [header]
    rfl
  unfold opened
  rw [split_text (dotless _) (dotless _)]
  dsimp only [bind, Except.bind]
  rw [opens]
  rfl

theorem claims_minted (mac : Mac) (own : Secret.isForeignKey secret = false)
    (reads : readObject (Text.Utf8.encodeText payload) .unreadablePayload .payloadNotObject = .ok members) :
    claims mac secret (minted mac secret payload).text = .ok members := by
  unfold claims checkSignature
  rw [opened_minted]
  dsimp only [bind, Except.bind, refused]
  rw [own, reads, if_pos rfl]
  rfl

theorem verifiedClaims_minted (mac : Mac) (own : Secret.isForeignKey secret = false)
    (reads : readObject (Text.Utf8.encodeText payload) .unreadablePayload .payloadNotObject = .ok members)
    (inForce : checkTimes now members = .ok false) (ours : checkParties members = .ok ()) :
    verifiedClaims mac secret now (minted mac secret payload).text = .ok members := by
  unfold verifiedClaims
  rw [claims_minted mac own reads]
  dsimp only [bind, Except.bind]
  rw [inForce, ours]
  rfl

end Token
end SubscriptionLedger
