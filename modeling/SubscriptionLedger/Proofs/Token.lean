import SubscriptionLedger.Proofs.Clock
import SubscriptionLedger.Proofs.Minted
import SubscriptionLedger.Proofs.Notice
import SubscriptionLedger.Proofs.Numeral
import SubscriptionLedger.Proofs.Plain

namespace SubscriptionLedger

namespace Token

structure Written (token : String) (s : Segments) : Prop where
  text : token.toList = s.signed ++ '.' :: s.signature
  header : '.' ∉ s.header
  signature : '.' ∉ s.signature

def Wraps (segment : List Char) (members : Members) : Prop :=
  ∃ bytes, Text.Base64Url.decode? segment = some bytes ∧ Document.readBytes bytes = .ok (.object members)

-- A claim of a number of seconds; both readers of numbers take it for this one.
def Dates (payload : Members) (name : String) (seconds : Int) : Prop :=
  ∃ d, Members.find? payload name = some d ∧ d.whole = .ok seconds ∧ Rule.whole d = .ok seconds

structure Evidence where
  segments : Segments
  header : Members
  payload : Members
  issued : Int
  expires : Int
  -- the seconds that the clock shows
  clock : ℚ

-- What an accepted token proves of the identity that it is accepted for.
structure Proves (mac : Mac) (secret : String) (now : Instant) (token : String) (i : Identity) (e : Evidence) : Prop where
  configured : secret ≠ ""
  written : Written token e.segments
  header : Wraps e.segments.header e.header
  algorithm : Members.find? e.header "alg" = some (.text "HS256")
  signature : Text.Base64Url.decode? e.segments.signature =
    some (mac (Text.Utf8.encodeText secret) (Text.Utf8.encode e.segments.signed))
  payload : Wraps e.segments.payload e.payload
  issued : Dates e.payload "iat" e.issued
  expires : Dates e.payload "exp" e.expires
  clock : now.seconds.value? = some e.clock
  begun : e.issued ≤ e.clock
  unexpired : e.clock < e.expires
  -- the float that the clock shows takes no early instant over a second
  exactly : now.Early → e.issued * perSecond ≤ now.micros ∧ now.micros < e.expires * perSecond
  started : ∀ d, Members.find? e.payload "nbf" = some d → ∃ n : Int, d.whole = .ok n ∧ n ≤ e.clock
  audience : Members.find? e.payload "aud" = some (.text "authenticated")
  subject : Members.find? e.payload "sub" = some (.text i.id)
  email : ∃ address, Members.find? e.payload "email" = some (.text address) ∧ Mail.normal? address = some i.email
  verified : if Members.get e.payload "email_verified" = .null then
      i.emailVerified = (Members.get e.payload "email_confirmed_at" != .null)
    else Rule.truth (Members.get e.payload "email_verified") = .ok i.emailVerified
  lastSignIn : ∃ m, i.lastSignIn = some m ∧ m.instant = ⟨e.issued * perSecond⟩

theorem parted {cs rest : List Char} (found : cs.dropWhile (· != '.') = c :: rest) :
    cs = cs.takeWhile (· != '.') ++ '.' :: rest ∧ '.' ∉ cs.takeWhile (· != '.') := by
  have dot : c = '.' := by
    have stops := List.head?_dropWhile_not (p := (· != '.')) cs
    rw [found] at stops
    simpa using stops
  subst dot
  refine ⟨?_, fun member => ?_⟩
  · rw [← found, List.takeWhile_append_dropWhile]
  · have passed := List.mem_takeWhile_imp member
    exact absurd rfl (bne_iff_ne.1 passed)

theorem written_of_split {token : String} (split : Segments.split token.toList = .ok s) : Written token s := by
  unfold Segments.split at split
  dsimp only at split
  split at split
  · cases split
  · rename_i front back
    split at split
    · cases split
    · rename_i payload inner
      cases split
      obtain ⟨whole, signature⟩ := parted back
      obtain ⟨signed, header⟩ := parted inner
      refine ⟨?_, header, fun member => signature (List.mem_reverse.1 member)⟩
      unfold Segments.signed
      dsimp only
      rw [← signed, ← List.reverse_reverse token.toList]
      conv_lhs => rw [whole]
      simp

theorem segmentBytes_eq_ok : segmentBytes cs flaw = .ok bytes ↔ Text.Base64Url.decode? cs = some bytes := by
  unfold segmentBytes
  cases Text.Base64Url.decode? cs <;> simp

theorem readObject_eq_ok : readObject bytes unreadable other = .ok ms ↔ Document.readBytes bytes = .ok (.object ms) := by
  unfold readObject
  split <;> simp_all

theorem refused_eq_ok {v : Verdict α} : refused v = .ok a ↔ v = .ok a := by
  cases v <;> simp [refused]

structure Opens (token : String) (t : Opened) (s : Segments) : Prop where
  written : Written token s
  header : Wraps s.header t.header
  payload : Text.Base64Url.decode? s.payload = some t.payload
  signature : Text.Base64Url.decode? s.signature = some t.signature
  signed : t.signed = s.signed

theorem openSegments_eq_ok (opens : openSegments s = .ok t) (written : Written token s) : Opens token t s := by
  unfold openSegments at opens
  obtain ⟨headerBytes, front, opens⟩ := Except.bind_eq_ok.1 opens
  obtain ⟨header, object, opens⟩ := Except.bind_eq_ok.1 opens
  dsimp only at opens
  split at opens
  · cases opens
  · obtain ⟨payload, middle, opens⟩ := Except.bind_eq_ok.1 opens
    obtain ⟨signature, back, opens⟩ := Except.bind_eq_ok.1 opens
    cases opens
    exact ⟨written, ⟨_, segmentBytes_eq_ok.1 front, readObject_eq_ok.1 object⟩, segmentBytes_eq_ok.1 middle,
      segmentBytes_eq_ok.1 back, rfl⟩

theorem checkAlgorithm_eq_ok : checkAlgorithm header = .ok () ↔ Members.find? header "alg" = some (.text algorithm) := by
  unfold checkAlgorithm
  cases Members.find? header "alg" with
  | none => simp
  | some alg => by_cases same : alg = .text algorithm <;> simp [same]

theorem opened_eq_ok (opens : opened token = .ok t) :
    ∃ s, Opens token t s ∧ Members.find? t.header "alg" = some (.text algorithm) := by
  unfold opened at opens
  obtain ⟨s, split, opens⟩ := Except.bind_eq_ok.1 opens
  obtain ⟨t', wrapped, opens⟩ := Except.bind_eq_ok.1 opens
  obtain ⟨_, -, opens⟩ := Except.bind_eq_ok.1 opens
  dsimp only at opens
  split at opens
  · cases opens
  · obtain ⟨_, checked, opens⟩ := Except.bind_eq_ok.1 opens
    cases opens
    exact ⟨s, openSegments_eq_ok wrapped (written_of_split split), checkAlgorithm_eq_ok.1 checked⟩

theorem checkSignature_eq_ok : checkSignature mac secret t = .ok () ↔
    mac (Text.Utf8.encodeText secret) (Text.Utf8.encode t.signed) = t.signature := by
  unfold checkSignature
  split <;> simp_all

theorem claims_eq_ok (claimed : claims mac secret token = .ok payload) :
    ∃ t s, Opens token t s ∧ Members.find? t.header "alg" = some (.text algorithm) ∧
      mac (Text.Utf8.encodeText secret) (Text.Utf8.encode t.signed) = t.signature ∧
      Document.readBytes t.payload = .ok (.object payload) := by
  unfold claims at claimed
  obtain ⟨t, opens, claimed⟩ := Except.bind_eq_ok.1 claimed
  dsimp only at claimed
  split at claimed
  · cases claimed
  · obtain ⟨_, signed, claimed⟩ := Except.bind_eq_ok.1 claimed
    obtain ⟨s, opens, algorithm⟩ := opened_eq_ok (refused_eq_ok.1 opens)
    exact ⟨t, s, opens, algorithm, checkSignature_eq_ok.1 (refused_eq_ok.1 signed), readObject_eq_ok.1 (refused_eq_ok.1 claimed)⟩

theorem secondsClaim?_eq_ok : secondsClaim? payload name flaw = .ok claim ↔
    ((Members.find? payload name).map Document.whole = claim.map .ok) := by
  unfold secondsClaim?
  cases Members.find? payload name with
  | none => cases claim <;> simp
  | some d => cases read : d.whole <;> cases claim <;> simp [read]

theorem checkTimes_eq_ok (checked : checkTimes now payload = .ok false) :
    ∃ issued start stop, (Members.find? payload "iat").map Document.whole = Option.map .ok issued ∧
      (Members.find? payload "nbf").map Document.whole = Option.map .ok start ∧
      (Members.find? payload "exp").map Document.whole = Option.map .ok stop ∧
      (∀ n ∈ issued, now.seconds.isBelow n = false) ∧ (∀ n ∈ start, now.seconds.isBelow n = false) ∧
      ∀ n ∈ stop, now.seconds.isBelow n = true := by
  unfold checkTimes at checked
  obtain ⟨issued, iat, checked⟩ := Except.bind_eq_ok.1 checked
  dsimp only at checked
  split at checked
  · cases checked
  · rename_i begun
    obtain ⟨start, nbf, checked⟩ := Except.bind_eq_ok.1 checked
    split at checked
    · cases checked
    · rename_i started
      obtain ⟨stop, exp, checked⟩ := Except.bind_eq_ok.1 checked
      have unexpired : (stop.any fun time => !now.seconds.isBelow time) = false := Except.ok.inj checked
      refine ⟨issued, start, stop, secondsClaim?_eq_ok.1 iat, secondsClaim?_eq_ok.1 nbf, secondsClaim?_eq_ok.1 exp, ?_, ?_, ?_⟩
      · rintro n rfl
        simpa using begun
      · rintro n rfl
        simpa using started
      · rintro n rfl
        simpa using unexpired

theorem verifiedClaims_eq_ok (verified : verifiedClaims mac secret now token = .ok payload) :
    claims mac secret token = .ok payload ∧ checkTimes now payload = .ok false ∧
      checkAudience (Members.get payload "aud") = .ok () := by
  unfold verifiedClaims at verified
  obtain ⟨members, claimed, verified⟩ := Except.bind_eq_ok.1 verified
  obtain ⟨expired, times, verified⟩ := Except.bind_eq_ok.1 verified
  split at verified
  · cases verified
  · rename_i inForce
    obtain ⟨_, parties, verified⟩ := Except.bind_eq_ok.1 verified
    cases verified
    obtain rfl : expired = false := by simpa using inForce
    unfold checkParties at parties
    obtain ⟨_, audience, -⟩ := Except.bind_eq_ok.1 (refused_eq_ok.1 parties)
    exact ⟨claimed, refused_eq_ok.1 times, audience⟩

theorem audience_of_text {s : String} (checked : checkAudience (.text s) = .ok ()) : s = audience := by
  unfold checkAudience at checked
  split at checked
  · cases checked
  · dsimp only at checked
    split at checked
    · assumption
    · cases checked

end Token

structure Claims.Says (payload : Members) (c : Claims) : Prop where
  subject : Members.find? payload "sub" = some (.text c.subject)
  email : Members.get payload "email" = .ofText? c.email
  emailConfirmedAt : Members.get payload "email_confirmed_at" = .ofText? c.emailConfirmedAt
  emailVerified : Rule.truth.nullable (Members.get payload "email_verified") = .ok c.emailVerified
  expires : ∃ d, Members.find? payload "exp" = some d ∧ Rule.whole d = .ok c.expires
  issued : ∃ d, Members.find? payload "iat" = some d ∧ Rule.whole d = .ok c.issued
  audience : ((Members.find? payload "aud").map Rule.text).getD (.ok "authenticated") = .ok c.audience

theorem Claims.form_eq_ok (read : Claims.form payload = .ok c) : Claims.Says payload c := by
  unfold Claims.form at read
  simp only [Form.seq_eq_ok, Form.map_eq_ok, Form.required_eq_ok, Form.optional_eq_ok, Form.defaulted_eq_ok,
    Rule.text_eq_ok, Rule.nullable_text_eq_ok] at read
  obtain ⟨_, role, ⟨_, aud, ⟨_, iat, ⟨_, exp, ⟨_, verified, ⟨_, confirmed, ⟨_, email, ⟨sub, ⟨_, subject, rfl⟩, rfl⟩, mail, rfl⟩,
    confirmation, rfl⟩, verification, rfl⟩, expires, rfl⟩, issued, rfl⟩, audience, rfl⟩, -, rfl⟩ := read
  exact ⟨subject, mail, confirmation, verification, expires, issued, audience⟩

theorem Rule.nullable_of_ne {rule : Rule α} (given : d ≠ .null) : rule.nullable d = (rule d).map some := by
  cases d with
  | null => exact absurd rfl given
  | _ => rfl

theorem Rule.mail_text_eq_ok : Rule.mail (.text s) = .ok address ↔ Mail.normal? s = some address := by
  unfold Rule.mail
  dsimp only
  cases Mail.normal? s <;> simp [Checked.refuse]

theorem Moment.instant_of_ofUnix (read : Moment.ofUnix n = .ok m) : m.instant = ⟨n * perSecond⟩ := by
  unfold Moment.ofUnix at read
  split at read
  · cases read
  · split at read
    · cases read
    · split at read
      · cases read
      · cases read
        simp [Moment.instant]

theorem Members.find?_of_get {ms : Members} (got : ms.get name = d) (given : d ≠ .null) : ms.find? name = some d := by
  unfold Members.get at got
  cases found : Members.find? ms name with
  | none =>
    rw [found] at got
    exact absurd got.symm given
  | some _ =>
    rw [found] at got
    exact congrArg some got

namespace Token

theorem audience_of_says (told : Claims.Says payload c) (checked : checkAudience (Members.get payload "aud") = .ok ()) :
    Members.find? payload "aud" = some (.text audience) := by
  have read := told.audience
  cases found : Members.find? payload "aud" with
  | none =>
    unfold Members.get at checked
    rw [found] at checked
    cases checked
  | some d =>
    rw [found, Option.map_some, Option.getD_some] at read
    rw [Members.get_of_find? found, Rule.text_eq_ok.1 read] at checked
    rw [Rule.text_eq_ok.1 read, audience_of_text checked]

theorem identity_eq_ok (named : Claims.identity c = .ok i) :
    i.id = c.subject ∧ i.emailVerified = c.isEmailVerified ∧
      (∃ address, c.email = some address ∧ Mail.normal? address = some i.email) ∧
      ∃ m, Moment.ofUnix c.issued = .ok m ∧ i.lastSignIn = some m := by
  unfold Claims.identity at named
  dsimp only at named
  split at named
  · cases named
  · rename_i filled
    obtain ⟨m, signed, named⟩ := Except.bind_eq_ok.1 named
    obtain ⟨address, mail, rfl⟩ := Checked.map_eq_ok.1 (Checked.orInvalid_eq_ok.1 named)
    have normal := Rule.mail_text_eq_ok.1 (Checked.under_eq_ok.1 mail)
    refine ⟨rfl, rfl, ?_, m, Notice.orMisfit_eq_ok.1 signed, rfl⟩
    cases email : c.email with
    | none =>
      rw [email] at filled
      exact absurd rfl filled
    | some written =>
      rw [email] at normal
      exact ⟨written, rfl, normal⟩

theorem dates_of_read (found : Members.find? payload name = some d) (strict : Rule.whole d = .ok seconds)
    (lenient : (Members.find? payload name).map Document.whole = Option.map .ok claim) :
    claim = some seconds ∧ Dates payload name seconds := by
  rw [found, Option.map_some] at lenient
  cases claim with
  | none => cases lenient
  | some n =>
    have read : d.whole = .ok n := Option.some.inj lenient
    obtain rfl := whole_agree strict read
    exact ⟨rfl, d, found, read, strict⟩

theorem isEmailVerified_of_says (told : Claims.Says payload c) :
    if Members.get payload "email_verified" = .null then
      c.isEmailVerified = (Members.get payload "email_confirmed_at" != .null)
    else Rule.truth (Members.get payload "email_verified") = .ok c.isEmailVerified := by
  have read := told.emailVerified
  unfold Claims.isEmailVerified
  split
  · rename_i silent
    rw [silent] at read
    obtain silent : none = c.emailVerified := Except.ok.inj read
    rw [← silent, told.emailConfirmedAt]
    cases c.emailConfirmedAt <;> rfl
  · rename_i explicit
    rw [Rule.nullable_of_ne explicit] at read
    obtain ⟨b, read, is⟩ := Checked.map_eq_ok.1 read
    rw [read, ← is]
    rfl

theorem identify_missing (mac : Mac) (secret : String) (now : Instant) : identify mac secret now "" = .error .missingToken := by
  unfold identify
  rw [if_pos rfl]
  rfl

theorem identify_unconfigured (mac : Mac) (now : Instant) (given : token ≠ "") :
    identify mac "" now token = .error (.invalidToken .noSecret) := by
  unfold identify
  rw [if_neg given, if_pos rfl]
  rfl

theorem identify_eq (mac : Mac) (now : Instant) (given : token ≠ "") (configured : secret ≠ "") :
    identify mac secret now token = verifiedClaims mac secret now token >>= fun payload =>
      Checked.orInvalid .claims (SubscriptionLedger.Claims.form payload) >>= Claims.identity := by
  unfold identify
  rw [if_neg given, if_neg configured]

theorem identify_of_verified (verified : verifiedClaims mac secret now token = .ok payload) (configured : secret ≠ "")
    (read : SubscriptionLedger.Claims.form payload = .ok c) : identify mac secret now token = Claims.identity c := by
  have given : token ≠ "" := by
    rintro rfl
    cases verified
  rw [identify_eq mac now given configured, verified]
  change Checked.orInvalid .claims (SubscriptionLedger.Claims.form payload) >>= Claims.identity = _
  rw [read]
  rfl

theorem identity_of_claims {c : Claims} (written : c.email = some address) (filled : address ≠ "")
    (normal : Mail.normal? address = some email) (moment : Moment.ofUnix c.issued = .ok m) :
    Claims.identity c = .ok ⟨c.subject, email, c.isEmailVerified, some m, commonRole c.role⟩ := by
  unfold Claims.identity
  rw [written, moment]
  dsimp only [Option.getD_some]
  rw [if_neg filled, Checked.field, Rule.mail_text_eq_ok.2 normal]
  rfl

theorem asked_of_accepted (accepted : identify mac secret now token = .ok i) : token ≠ "" ∧ secret ≠ "" := by
  have given : token ≠ "" := by
    rintro rfl
    rw [identify_missing] at accepted
    cases accepted
  refine ⟨given, ?_⟩
  rintro rfl
  rw [identify_unconfigured mac now given] at accepted
  cases accepted

theorem started_of_checked {now : Instant} {clock : ℚ} (found : Members.find? payload "nbf" = some d)
    (read : (Members.find? payload "nbf").map Document.whole = Option.map .ok start)
    (started : ∀ n ∈ start, now.seconds.isBelow n = false) (shows_ : now.seconds.value? = some clock) :
    ∃ n : Int, d.whole = .ok n ∧ n ≤ clock := by
  rw [found, Option.map_some] at read
  cases start with
  | none => cases read
  | some n => exact ⟨n, Option.some.inj read, Binary64.le_of_isBelow shows_ (started n rfl)⟩

-- An accepted token is one that who knows the secret has made for this identity, and it is in force.
theorem identify_proves (accepted : identify mac secret now token = .ok i) : ∃ e, Proves mac secret now token i e := by
  obtain ⟨given, configured⟩ := asked_of_accepted accepted
  rw [identify_eq mac now given configured] at accepted
  obtain ⟨payload, verified, accepted⟩ := Except.bind_eq_ok.1 accepted
  obtain ⟨c, read, named⟩ := Except.bind_eq_ok.1 accepted
  have told := SubscriptionLedger.Claims.form_eq_ok (Checked.orInvalid_eq_ok.1 read)
  obtain ⟨claimed, times, audience⟩ := verifiedClaims_eq_ok verified
  obtain ⟨t, s, opens, algorithm, signed, object⟩ := claims_eq_ok claimed
  obtain ⟨issued, start, stop, iat, nbf, exp, begun, started, unexpired⟩ := checkTimes_eq_ok times
  obtain ⟨_, found, strict⟩ := told.issued
  obtain ⟨rfl, dated⟩ := dates_of_read found strict iat
  obtain ⟨_, found', strict'⟩ := told.expires
  obtain ⟨rfl, ends⟩ := dates_of_read found' strict' exp
  obtain ⟨clock, shows_, before⟩ := Binary64.isBelow_iff.1 (unexpired _ rfl)
  obtain ⟨id, verification, email, m, moment, signIn⟩ := identity_eq_ok named
  refine ⟨⟨s, t.header, payload, c.issued, c.expires, clock⟩, ?_⟩
  refine {
    configured, written := opens.written, header := opens.header, algorithm, issued := dated, expires := ends
    clock := shows_, unexpired := before
    begun := Binary64.le_of_isBelow shows_ (begun _ rfl)
    exactly := fun early => within_of_isBelow early (begun _ rfl) (unexpired _ rfl)
    started := fun d found => started_of_checked found nbf started shows_
    audience := audience_of_says told audience
    subject := id ▸ told.subject
    payload := ⟨_, opens.payload, object⟩
    lastSignIn := ⟨m, signIn, Moment.instant_of_ofUnix moment⟩
    signature := ?_, email := ?_, verified := ?_ }
  · rw [opens.signature, ← signed, opens.signed]
  · obtain ⟨address, written, normal⟩ := email
    refine ⟨address, Members.find?_of_get ?_ (by rintro ⟨⟩), normal⟩
    rw [told.email, written]
    rfl
  · rw [verification]
    exact isEmailVerified_of_says told

end Token
namespace Shop

def tokenSecret : String := "k"

def annPayload : Members :=
  [("sub", "ann"), ("email", "ann@shop.com"), ("iat", .int 1718452000), ("exp", .int 1718456000), ("aud", "authenticated")]

def annText : String :=
  "\x7b\"sub\":\"ann\",\"email\":\"ann@shop.com\",\"iat\":1718452000,\"exp\":1718456000,\"aud\":\"authenticated\"\x7d"

def annToken : String := (Token.minted Crypto.hmacSha256 tokenSecret annText).text

def midday : Instant := ⟨1718452800000000⟩

def annIdentity : Identity := ⟨"ann", "ann@shop.com", false, some ⟨1718452000000000, some 0⟩, "user"⟩

theorem tokenSecret_shared : Secret.isForeignKey tokenSecret = false :=
  Secret.isForeignKey_of_plain (by decide) (by decide +kernel)

theorem annToken_verified : Token.verifiedClaims Crypto.hmacSha256 tokenSecret midday annToken = .ok annPayload :=
  Token.verifiedClaims_minted Crypto.hmacSha256 tokenSecret_shared (by decide +kernel) (by decide) (by decide)

theorem annToken_accepted : Token.identify Crypto.hmacSha256 tokenSecret midday annToken = .ok annIdentity := by
  have read : Claims.form annPayload = .ok ⟨"ann", some "ann@shop.com", none, none, 1718456000, 1718452000,
      "authenticated", "authenticated"⟩ := by decide
  rw [Token.identify_of_verified annToken_verified (by decide) read,
    Token.identity_of_claims (m := ⟨1718452000000000, some 0⟩) rfl (by decide) Mail.normal?_ann (by decide)]
  rfl

theorem annToken_proves : Token.identify Crypto.hmacSha256 tokenSecret midday annToken = .ok annIdentity ∧
    ∃ e, Token.Proves Crypto.hmacSha256 tokenSecret midday annToken annIdentity e :=
  ⟨annToken_accepted, Token.identify_proves annToken_accepted⟩

end Shop
end SubscriptionLedger
