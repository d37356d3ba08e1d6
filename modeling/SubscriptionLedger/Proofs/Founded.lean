import SubscriptionLedger.Proofs.Challenge

namespace SubscriptionLedger

section Grounds

variable {P : ε → Prop} {x : Except ε α} {g : α → Except ε β}

def Except.FailsBy (P : ε → Prop) (x : Except ε α) : Prop := ∀ e, x = .error e → P e

theorem failsBy_ok (a : α) : Except.FailsBy P (.ok a : Except ε α) := by
  intro e none
  cases none

theorem failsBy_error {e : ε} (grounds : P e) : Except.FailsBy P (.error e : Except ε α) := by
  intro d same
  cases same
  exact grounds

theorem failsBy_bind (first : Except.FailsBy P x) (next : ∀ a, Except.FailsBy P (g a)) : Except.FailsBy P (x >>= g) := by
  intro e fails
  rcases Except.bind_eq_error.1 fails with here | ⟨a, -, later⟩
  · exact first e here
  · exact next a e later

end Grounds

-- Flaws that quote what they can have met.
def TokenFlaw.Founded : TokenFlaw → Prop
  | .unreadableHeader why | .unreadablePayload why => ∃ bytes e, Document.readBytes bytes = .error e ∧ why = e.message
  | .criticalAbsent extension => extension = Token.knownExtension
  | _ => True

def Fault.Founded : Fault → Prop
  | .invalidToken flaw => flaw.Founded
  | .missingToken => False
  | _ => True

namespace Token

variable {mac : Mac} {secret token : String} {now : Instant}

theorem segmentBytes_founded (cs : List Char) (founded : flaw.Founded) : Except.FailsBy TokenFlaw.Founded (segmentBytes cs flaw) := by
  unfold segmentBytes
  split
  · exact failsBy_ok _
  · exact failsBy_error founded

theorem readObject_founded (bytes : List UInt8)
    (unread : ∀ e, Document.readBytes bytes = .error e → (unreadable e.message).Founded) (founded : other.Founded) :
    Except.FailsBy TokenFlaw.Founded (readObject bytes unreadable other) := by
  unfold readObject
  split
  · exact failsBy_ok _
  · exact failsBy_error founded
  · rename_i e fails
    exact failsBy_error (unread e fails)

theorem split_founded (cs : List Char) : Except.FailsBy TokenFlaw.Founded (Segments.split cs) := by
  unfold Segments.split
  dsimp only
  split
  · exact failsBy_error trivial
  · split
    · exact failsBy_error trivial
    · exact failsBy_ok _

theorem openSegments_founded (s : Segments) : Except.FailsBy TokenFlaw.Founded (openSegments s) := by
  unfold openSegments
  refine failsBy_bind (segmentBytes_founded _ trivial) fun bytes => ?_
  refine failsBy_bind (readObject_founded bytes (fun e fails => ⟨bytes, e, fails, rfl⟩) trivial) fun header => ?_
  dsimp only
  split
  · exact failsBy_error trivial
  · refine failsBy_bind (segmentBytes_founded _ trivial) fun payload => ?_
    refine failsBy_bind (segmentBytes_founded _ trivial) fun signature => ?_
    exact failsBy_ok _

theorem checkExtensions_founded (header : Members) (ds : List Document) :
    Except.FailsBy TokenFlaw.Founded (checkExtensions header ds) := by
  induction ds with
  | nil => exact failsBy_ok _
  | cons d rest ih =>
    unfold checkExtensions
    split
    · exact failsBy_ok _
    · rename_i same
      cases same
      split
      · exact failsBy_error trivial
      · rename_i known
        split
        · exact failsBy_error (Classical.not_not.1 known)
        · exact ih
    · exact failsBy_error trivial

theorem checkHeader_founded (header : Members) : Except.FailsBy TokenFlaw.Founded (checkHeader header) := by
  unfold checkHeader
  dsimp only
  split
  case h_1 | h_2 =>
    split
    · split
      · exact failsBy_error trivial
      · exact failsBy_ok _
    · exact checkExtensions_founded header _
    · exact failsBy_error trivial
  case h_3 => exact failsBy_error trivial

theorem checkAlgorithm_founded (header : Members) : Except.FailsBy TokenFlaw.Founded (checkAlgorithm header) := by
  unfold checkAlgorithm
  split
  · exact failsBy_error trivial
  · split
    · exact failsBy_ok _
    · exact failsBy_error trivial

theorem opened_founded (token : String) : Except.FailsBy TokenFlaw.Founded (opened token) := by
  unfold opened
  refine failsBy_bind (split_founded _) fun segments => ?_
  refine failsBy_bind (openSegments_founded segments) fun t => ?_
  refine failsBy_bind (checkHeader_founded t.header) fun _ => ?_
  dsimp only
  split
  · exact failsBy_error trivial
  · refine failsBy_bind (checkAlgorithm_founded t.header) fun _ => ?_
    exact failsBy_ok _

theorem secondsClaim?_founded (members : Members) (name : String) (founded : flaw.Founded) :
    Except.FailsBy TokenFlaw.Founded (secondsClaim? members name flaw) := by
  unfold secondsClaim?
  split
  · exact failsBy_ok _
  · split
    · exact failsBy_ok _
    · exact failsBy_error founded

theorem checkTimes_founded (now : Instant) (members : Members) : Except.FailsBy TokenFlaw.Founded (checkTimes now members) := by
  unfold checkTimes
  refine failsBy_bind (secondsClaim?_founded _ _ trivial) fun issued => ?_
  split
  · exact failsBy_error trivial
  · refine failsBy_bind (secondsClaim?_founded _ _ trivial) fun start => ?_
    split
    · exact failsBy_error trivial
    · refine failsBy_bind (secondsClaim?_founded _ _ trivial) fun stop => ?_
      exact failsBy_ok _

theorem checkText_founded (members : Members) (name : String) (founded : flaw.Founded) :
    Except.FailsBy TokenFlaw.Founded (checkText members name flaw) := by
  unfold checkText
  split
  · exact failsBy_ok _
  · exact failsBy_ok _
  · exact failsBy_error founded

theorem checkAudience_founded (d : Document) : Except.FailsBy TokenFlaw.Founded (checkAudience d) := by
  unfold checkAudience
  split
  · exact failsBy_error trivial
  · split
    · split
      · exact failsBy_ok _
      · exact failsBy_error trivial
    · split
      · exact failsBy_error trivial
      · split
        · exact failsBy_ok _
        · exact failsBy_error trivial
    · exact failsBy_error trivial

theorem checkParties_founded (members : Members) : Except.FailsBy TokenFlaw.Founded (checkParties members) := by
  unfold checkParties
  refine failsBy_bind (checkAudience_founded _) fun _ => ?_
  exact failsBy_bind (checkText_founded _ _ trivial) fun _ => checkText_founded _ _ trivial

theorem refused_founded {v : Verdict α} (founded : Except.FailsBy TokenFlaw.Founded v) :
    Except.FailsBy Fault.Founded (refused v) := by
  cases v with
  | ok a => exact failsBy_ok a
  | error flaw => exact failsBy_error (founded flaw rfl)

theorem claims_founded : Except.FailsBy Fault.Founded (claims mac secret token) := by
  unfold claims
  refine failsBy_bind (refused_founded (opened_founded token)) fun t => ?_
  dsimp only
  split
  · exact failsBy_error trivial
  · refine failsBy_bind (refused_founded ?_) fun _ => refused_founded ?_
    · unfold checkSignature
      split
      · exact failsBy_ok _
      · exact failsBy_error trivial
    · exact readObject_founded _ (fun e fails => ⟨_, e, fails, rfl⟩) trivial

theorem verifiedClaims_founded : Except.FailsBy Fault.Founded (verifiedClaims mac secret now token) := by
  unfold verifiedClaims
  refine failsBy_bind claims_founded fun members => ?_
  refine failsBy_bind (refused_founded (checkTimes_founded now members)) fun expired => ?_
  split
  · exact failsBy_error trivial
  · refine failsBy_bind (refused_founded (checkParties_founded members)) fun _ => ?_
    exact failsBy_ok _

theorem orInvalid_founded (kind : RecordKind) (x : Checked α) : Except.FailsBy Fault.Founded (Checked.orInvalid kind x) := by
  cases x with
  | ok a => exact failsBy_ok a
  | error issues => exact failsBy_error trivial

theorem identity_founded (c : Claims) : Except.FailsBy Fault.Founded (Claims.identity c) := by
  unfold Claims.identity
  dsimp only
  split
  · exact failsBy_error trivial
  · refine failsBy_bind ?_ fun lastSignIn => orInvalid_founded _ _
    cases Moment.ofUnix c.issued with
    | ok m => exact failsBy_ok m
    | error m => exact failsBy_error trivial

theorem identify_founded (given : token ≠ "") : Except.FailsBy Fault.Founded (identify mac secret now token) := by
  by_cases configured : secret = ""
  · subst configured
    rw [identify_unconfigured mac now given]
    exact failsBy_error trivial
  · rw [identify_eq mac now given configured]
    exact failsBy_bind verifiedClaims_founded fun payload => failsBy_bind (orInvalid_founded _ _) identity_founded

end Token

end SubscriptionLedger
