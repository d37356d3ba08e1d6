import SubscriptionLedger.Proofs.Founded
import SubscriptionLedger.Proofs.Grammar

namespace SubscriptionLedger

open Challenge

section Descriptions

variable {text : String} {d : Challenge} {s : List Char}

def requoted (text : String) : String := text.map fun c => if c = '"' then '\'' else c

def refusal (text : String) : Challenge :=
  ⟨"Bearer".toList, ⟨"error".toList, .quoted "invalid_token".toList⟩ ::
    if text = "" then [] else [⟨"error_description".toList, .quoted (requoted text).toList⟩]⟩

-- A header line that is written for a challenge and for no other one.
def Tells (header : String) (c : Challenge) : Prop := Line header.toList ∧ ∀ d : Challenge, d.Writes header.toList ↔ d = c

def isLegible (c : Char) : Bool := c == '"' || isPlain c

def Legible (text : String) : Prop := ∀ c ∈ text.toList, isLegible c

instance (text : String) : Decidable (Legible text) := decidable_of_iff (text.toList.all isLegible) List.all_eq_true

theorem unquoted_requoted (text : String) : '"' ∉ (requoted text).toList := by
  unfold requoted
  rw [String.toList_map]
  intro member
  obtain ⟨c, -, same⟩ := List.mem_map.1 member
  split at same
  · cases same
  · rename_i other
    exact other same

theorem legible_iff : Legible text ↔ ∀ c ∈ (requoted text).toList, isPlain c := by
  have same : ∀ c, isLegible c ↔ isPlain (if c = '"' then '\'' else c) := by
    intro c
    unfold isLegible
    split
    · rename_i quote
      subst quote
      decide
    · rename_i other
      simp [other]
  unfold Legible requoted
  rw [String.toList_map, List.forall_mem_map]
  exact forall₂_congr fun c _ => same c

theorem undescribed_iff : d.Writes (challenge (some "invalid_token") (some "")).toList ↔ d = refusal "" := by
  have read : read? (challenge (some "invalid_token") (some "")).toList = some (refusal "") := by decide
  rw [← read?_eq_some_iff, read, Option.some_inj]
  exact eq_comm

theorem toList_challenge (filled : text ≠ "") : (challenge (some "invalid_token") (some text)).toList =
    "Bearer".toList ++ ' ' :: ("error".toList ++ '=' :: '"' :: ("invalid_token".toList ++ '"' ::
      (',' :: ' ' :: ("error_description".toList ++ '=' :: '"' :: ((requoted text).toList ++ ['"']))))) := by
  unfold challenge
  simp only [if_neg filled, String.toList_append]
  rfl

theorem described_iff (filled : text ≠ "") : d.Writes (challenge (some "invalid_token") (some text)).toList ↔
    ∃ s, Quotes (requoted text).toList s ∧
      d = ⟨"Bearer".toList, [⟨"error".toList, .quoted "invalid_token".toList⟩, ⟨"error_description".toList, .quoted s⟩]⟩ := by
  have scheme : Word "Bearer".toList := ⟨by decide, List.all_eq_true.1 (by decide)⟩
  have error : Word "error".toList := ⟨by decide, List.all_eq_true.1 (by decide)⟩
  have description : Word "error_description".toList := ⟨by decide, List.all_eq_true.1 (by decide)⟩
  have code : Quotes "invalid_token".toList "invalid_token".toList := quotes_of_plain (List.all_eq_true.1 (by decide))
  rw [← read?_eq_some_iff, toList_challenge filled, read?_quoted scheme error, quotes?_complete code, Option.bind_some,
    List.length_cons, follow?_quoted description]
  constructor
  · intro read
    obtain ⟨ps, follows, rfl⟩ := Option.map_eq_some_iff.1 read
    obtain ⟨⟨s, rest⟩, quotes, left⟩ := Option.bind_eq_some_iff.1 follows
    obtain ⟨written, rfl⟩ := (quotes?_closed_iff (unquoted_requoted text)).1 quotes
    cases left
    exact ⟨s, written, rfl⟩
  · rintro ⟨s, written, rfl⟩
    rw [quotes?_complete written]
    rfl

theorem tells_iff (text : String) : Tells (challenge (some "invalid_token") (some text)) (refusal text) ↔ Legible text := by
  by_cases filled : text = ""
  · subst filled
    refine iff_of_true ⟨(undescribed_iff.2 rfl).line, fun d => undescribed_iff⟩ ?_
    exact List.forall_mem_nil _
  · have meant : refusal text = ⟨"Bearer".toList, [⟨"error".toList, .quoted "invalid_token".toList⟩,
        ⟨"error_description".toList, .quoted (requoted text).toList⟩]⟩ := by
      unfold refusal
      rw [if_neg filled]
    rw [legible_iff, ← quotes_self_iff]
    constructor
    · rintro ⟨-, only⟩
      obtain ⟨s, written, same⟩ := (described_iff filled).1 ((only _).2 rfl)
      rw [meant] at same
      cases same
      exact written
    · intro legible
      have writes : (refusal text).Writes (challenge (some "invalid_token") (some text)).toList :=
        (described_iff filled).2 ⟨_, legible, meant⟩
      refine ⟨writes.line, fun d => ⟨fun also => ?_, ?_⟩⟩
      · exact Option.some_inj.1 ((read?_complete also).symm.trans (read?_complete writes))
      · rintro rfl
        exact writes

end Descriptions

section Messages

variable {s t : String} {bytes : List UInt8} {e : Document.BytesError}

theorem legible_ofList {cs : List Char} (legible : cs.all isLegible) : Legible (String.ofList cs) := by
  unfold Legible
  rw [String.toList_ofList]
  exact List.all_eq_true.1 legible

theorem legible_append : Legible (s ++ t) ↔ Legible s ∧ Legible t := by
  unfold Legible
  rw [String.toList_append]
  exact List.forall_mem_append

theorem isLegible_of_isWordSign {c : Char} (sign : isWordSign c) : isLegible c := by
  have unescaped : c ≠ '\\' := by
    rintro rfl
    cases sign
  unfold isLegible isPlain
  by_cases quote : c = '"'
  · simp [quote]
  · simp [quote, unescaped, isLineSign_of_isWordSign sign]

theorem legible_digits (n : Nat) : Legible (toString n) := by
  intro c member
  have digits : c ∈ Nat.toDigits 10 n := by simpa using member
  have digit : c.isDigit := Nat.isDigit_of_mem_toDigits (by decide) (by decide) digits
  exact isLegible_of_isWordSign (by simp [isWordSign, Char.isAlphanum, digit])

def Complaint.IsEscape (c : Complaint) : Prop := c = .escape ∨ c = .unicodeEscape

theorem Complaint.legible_iff (c : Complaint) : Legible c.message ↔ ¬ c.IsEscape := by
  unfold IsEscape
  cases c with
  | escape | unicodeEscape => exact iff_of_false (by decide) (by simp)
  | tooManyDigits count =>
    refine iff_of_true ?_ (by simp)
    unfold message
    simp only [legible_append]
    refine ⟨⟨⟨⟨?_, legible_digits _⟩, ?_⟩, legible_digits count⟩, ?_⟩ <;> exact legible_ofList (by decide)
  | tooDeep object =>
    refine iff_of_true ?_ (by simp)
    have name : Legible (if object then "object" else "array") := by
      cases object <;> exact legible_ofList (by decide)
    unfold message
    simp only [legible_append]
    refine ⟨⟨?_, name⟩, ?_⟩ <;> exact legible_ofList (by decide)
  | _ =>
    refine iff_of_true ?_ (by simp)
    unfold message
    exact legible_ofList (by decide)

theorem ReadError.legible_iff (cs : List Char) (e : ReadError) : Legible (e.describe cs) ↔ ¬ e.complaint.IsEscape := by
  unfold describe
  dsimp only
  rw [legible_append, Complaint.legible_iff]
  refine and_iff_left ?_
  split
  · simp only [legible_append]
    refine ⟨⟨⟨⟨⟨⟨?_, legible_digits _⟩, ?_⟩, legible_digits _⟩, ?_⟩, legible_digits _⟩, ?_⟩
    all_goals exact legible_ofList (by decide)
  · exact legible_ofList (by decide)

theorem legible_hexByte (b : UInt8) : Legible (Document.hexByte b) := by
  have signs : ∀ n ∈ List.range 16, isLegible (Text.Hex.digit n) := by decide
  have bound := b.toNat_lt
  unfold Legible Document.hexByte Text.Hex.encode
  simp only [List.flatMap_cons, List.flatMap_nil, List.append_nil, String.toList_ofList, List.forall_mem_cons]
  exact ⟨signs _ (List.mem_range.2 (by omega)), signs _ (List.mem_range.2 (by omega)), List.forall_mem_nil _⟩

theorem legible_codecMessage (codec : Legible s) (reason : Legible t) (start stop : Nat) (byte : UInt8) :
    Legible (Document.codecMessage s start stop byte t) := by
  unfold Document.codecMessage
  have place : Legible (if stop = start + 1 then "byte 0x" ++ Document.hexByte byte ++ " in position " ++ toString start
      else "bytes in position " ++ toString start ++ "-" ++ toString (stop - 1)) := by
    split
    · simp only [legible_append]
      refine ⟨⟨⟨?_, legible_hexByte byte⟩, ?_⟩, legible_digits start⟩ <;> exact legible_ofList (by decide)
    · simp only [legible_append]
      refine ⟨⟨⟨?_, legible_digits start⟩, ?_⟩, legible_digits _⟩ <;> exact legible_ofList (by decide)
  simp only [legible_append]
  refine ⟨⟨⟨⟨⟨?_, codec⟩, ?_⟩, place⟩, ?_⟩, reason⟩ <;> exact legible_ofList (by decide)

theorem legible_codecName (base : Legible s) (bigEndian : Bool) : Legible (Document.codecName s bigEndian) := by
  unfold Document.codecName
  rw [legible_append]
  refine ⟨base, ?_⟩
  split <;> exact legible_ofList (by decide)

theorem legible_wide (base : Legible s) (bigEndian : Bool) (flaw : Document.WideFlaw) :
    Legible (Document.BytesError.wide (Document.codecName s bigEndian) flaw).message := by
  refine legible_codecMessage (legible_codecName base bigEndian) ?_ _ _ _
  cases flaw.reason <;> exact legible_ofList (by decide)

theorem Except.mapError_eq_error {x : Except ε α} {g : ε → δ} {d : δ} :
    x.mapError g = .error d ↔ ∃ e, x = .error e ∧ g e = d := by
  cases x <;> simp [Except.mapError]

theorem legible_of_charsOf (fails : Document.charsOf bytes = .error e) : Legible e.message := by
  unfold Document.charsOf at fails
  dsimp only at fails
  split at fails
  · obtain ⟨flaw, -, rfl⟩ := Except.mapError_eq_error.1 fails
    refine legible_codecMessage (legible_ofList (by decide)) ?_ _ _ _
    cases flaw.reason <;> exact legible_ofList (by decide)
  · obtain ⟨flaw, -, rfl⟩ := Except.mapError_eq_error.1 fails
    exact legible_wide (legible_ofList (by decide)) _ flaw
  · obtain ⟨flaw, -, rfl⟩ := Except.mapError_eq_error.1 fails
    exact legible_wide (legible_ofList (by decide)) _ flaw

def Misescaped (why : String) : Prop :=
  ∃ bytes cs e, Document.readBytes bytes = .error (.text cs e) ∧ e.complaint.IsEscape ∧ why = e.describe cs

theorem legible_of_readBytes (fails : Document.readBytes bytes = .error e) : Legible e.message ↔ ¬ Misescaped e.message := by
  constructor
  · rintro legible ⟨bytes, cs, f, -, escape, same⟩
    rw [same, ReadError.legible_iff] at legible
    exact legible escape
  · intro sound
    have either := fails
    unfold Document.readBytes at either
    cases chars : Document.charsOf bytes with
    | error f =>
      rw [chars] at either
      cases either
      exact legible_of_charsOf chars
    | ok cs =>
      rw [chars] at either
      obtain ⟨f, -, rfl⟩ := Except.mapError_eq_error.1 either
      refine (ReadError.legible_iff cs f).2 fun escape => sound ?_
      exact ⟨bytes, cs, f, fails, escape, rfl⟩

-- Flaws of tokens whose message cannot be read back: they quote a strange name, or how an escape is written.
def TokenFlaw.Garbled : TokenFlaw → Prop
  | .criticalUnknown extension => ¬ Legible extension
  | .unreadableHeader why | .unreadablePayload why => Misescaped why
  | _ => False

theorem TokenFlaw.legible_iff {flaw : TokenFlaw} (founded : flaw.Founded) : Legible flaw.message ↔ ¬ flaw.Garbled := by
  cases flaw with
  | criticalUnknown extension =>
    change Legible (_ ++ extension) ↔ ¬ ¬ Legible extension
    rw [legible_append, not_not]
    exact and_iff_right (legible_ofList (by decide))
  | unreadableHeader why | unreadablePayload why =>
    obtain ⟨bytes, e, fails, rfl⟩ := founded
    change Legible (_ ++ e.message) ↔ ¬ Misescaped e.message
    rw [legible_append, legible_of_readBytes fails]
    exact and_iff_right (legible_ofList (by decide))
  | criticalAbsent extension =>
    obtain rfl : extension = Token.knownExtension := founded
    refine iff_of_true ?_ fun garbled => garbled
    unfold message
    simp only [legible_append]
    refine ⟨⟨?_, ?_⟩, ?_⟩ <;> exact legible_ofList (by decide)
  | payloadElsewhere =>
    refine iff_of_true ?_ fun garbled => garbled
    unfold message
    simp only [legible_append]
    constructor <;> exact legible_ofList (by decide)
  | _ =>
    refine iff_of_true ?_ fun garbled => garbled
    unfold message
    exact legible_ofList (by decide)

end Messages

def Fault.Garbled : Fault → Prop
  | .invalidToken flaw => flaw.Garbled
  | _ => False

namespace App

open Http Program

variable {mac : Mac} {app : App} {now : Instant} {r : Request} {token : String} {f : Fault} {response : Response}

theorem bearer?_filled {header : String} (bearer : bearer? header = some token) : token ≠ "" := by
  unfold bearer? at bearer
  dsimp only at bearer
  split at bearer
  · rename_i given
    cases bearer
    simp only [Bool.and_eq_true, decide_eq_true_iff] at given
    exact given.2
  · cases bearer

def refusalAnswer (message : String) : Response :=
  ⟨401, challengeHeaders message (some "invalid_token"), .document (.object [("detail", .text message)])⟩

theorem unauthorized_done (answers : ofExcept (unauthorized message (some "invalid_token")) = .done response) :
    response = refusalAnswer message := by
  rw [unauthorized_eq] at answers
  split at answers
  · cases answers
    rfl
  · cases answers

theorem get?_refusalAnswer (message : String) : (refusalAnswer message).headers.get? "www-authenticate" =
    some (challenge (some "invalid_token") (some message)) := get?_challengeHeaders message (some "invalid_token")

theorem refusedToken_done (founded : f.Founded) (token : f.OfToken ∨ f.report? = none)
    (answers : ofExcept (refusedToken f) = .done response) :
    ∃ message, response = refusalAnswer message ∧ (Legible message ↔ ¬ f.Garbled) := by
  rcases token with token | silent
  · cases f with
    | missingToken => exact founded.elim
    | expiredToken =>
      rw [refusedToken_expired] at answers
      exact ⟨_, unauthorized_done answers, iff_of_true (legible_ofList (by decide)) fun garbled => garbled⟩
    | invalidToken flaw =>
      rw [refusedToken_invalid] at answers
      exact ⟨_, unauthorized_done answers, flaw.legible_iff founded⟩
    | _ => exact token.elim
  · rw [refusedToken_silent silent] at answers
    cases answers

theorem plain_of_legible (legible : Legible message) : Plain message := by
  intro c member
  rcases Bool.or_eq_true_iff.1 (legible c member) with quote | plain
  · rw [beq_iff_eq] at quote
    subst quote
    decide
  · have line := isLineSign_of_isPlain plain
    unfold isLineSign at line
    simp only [Bool.or_eq_true, Bool.and_eq_true, decide_eq_true_iff] at line
    rcases line with (rfl | low) | high
    · decide
    · omega
    · omega

theorem tellable_of_legible (founded : f.Founded) (clear : ¬ f.Garbled) : Tellable f := by
  rintro flaw rfl
  exact plain_of_legible ((flaw.legible_iff founded).2 clear)

theorem asCaller_invalid {flaw : TokenFlaw} (work : Identity → Program Response)
    (bearer : (r.headers.get? "authorization").bind bearer? = some token)
    (fails : Token.identify mac app.settings.tokenSecret now token = .error (.invalidToken flaw)) (plain : Plain flaw.message) :
    app.asCaller mac now r work = .done (refusalAnswer flaw.message) := by
  rw [asCaller_fails bearer fails, refusedToken_invalid, unauthorized_eq, if_pos ((isSendable_challenge _).2 plain)]
  rfl

theorem endpoint_summary_invalid {flaw : TokenFlaw} (bearer : (r.headers.get? "authorization").bind bearer? = some token)
    (fails : Token.identify mac app.settings.tokenSecret now token = .error (.invalidToken flaw)) (plain : Plain flaw.message) :
    app.endpoint mac now r .summary = .done (refusalAnswer flaw.message) := asCaller_invalid _ bearer fails plain

theorem serve_done {e : Endpoint} (plain : OriginPolicy.preflight? r.method r.headers = none)
    (reaches : Route.of app.settings.enableBilling r.method r.path = .endpoint e)
    (answers : app.endpoint mac now r e = .done response) :
    app.serve mac now r = .done (withOrigin (OriginPolicy.ofSettings app.settings) r.headers response) := by
  unfold serve route
  rw [plain, reaches]
  dsimp only
  rw [answers]
  rfl

theorem get?_withOrigin {p : OriginPolicy} {request : Headers} {name value : String}
    (given : response.headers.get? name = some value) : (withOrigin p request response).headers.get? name = some value := by
  obtain ⟨header, found, rfl⟩ := Option.map_eq_some_iff.1 given
  unfold withOrigin Headers.get?
  rw [List.find?_append, found]
  rfl

-- A challenge is one header line, from which its description is read as it was meant and nothing else is, just if all signs
-- of the description can be read back. So it is with a caller whose token is refused, unless the token has an unknown
-- extension with a name that cannot, or a part in which an escape is broken; every other one is answered.
theorem challenges_legible (text : String) (mac : Mac) (app : App) (now : Instant) (r : Request)
    (work : Identity → Program Response) :
    (Tells (challenge (some "invalid_token") (some text)) (refusal text) ↔ Legible text) ∧
    ∀ token f, (r.headers.get? "authorization").bind bearer? = some token →
      Token.identify mac app.settings.tokenSecret now token = .error f →
        (∀ response, app.asCaller mac now r work = .done response → ∃ header message,
          response.headers.get? "www-authenticate" = some header ∧
          response.body = .document (.object [("detail", .text message)]) ∧
          header = challenge (some "invalid_token") (some message) ∧ (Tells header (refusal message) ↔ ¬ f.Garbled)) ∧
        (f.OfToken → ¬ f.Garbled → ∃ response, app.asCaller mac now r work = .done response) := by
  refine ⟨tells_iff text, fun token f bearer fails => ?_⟩
  obtain ⟨_, -, given⟩ := Option.bind_eq_some_iff.1 bearer
  have founded := Token.identify_founded (bearer?_filled given) f fails
  constructor
  · intro response answers
    rw [asCaller_fails bearer fails] at answers
    obtain ⟨message, rfl, legible⟩ := refusedToken_done founded (Token.identify_fails fails) answers
    exact ⟨_, message, get?_refusalAnswer message, rfl, rfl, (tells_iff message).trans legible⟩
  · intro ofToken clear
    obtain ⟨response, answers, -⟩ := (asCaller_challenges work bearer fails).1.2 ⟨ofToken, tellable_of_legible founded clear⟩
    exact ⟨response, answers⟩

end App

namespace Shop

theorem segment_legible : ((asking "token").headers.get? "authorization").bind App.bearer? = some "token" ∧
    Token.identify Crypto.hmacSha256 tokenSecret midday "token" = .error (.invalidToken .segments) ∧
      guarded.endpoint Crypto.hmacSha256 midday (asking "token") .summary = .done (App.refusalAnswer "Not enough segments") ∧
        Tells (challenge (some "invalid_token") (some "Not enough segments")) (refusal "Not enough segments") := by
  have bearer : ((asking "token").headers.get? "authorization").bind App.bearer? = some "token" := by decide
  have fails : Token.identify Crypto.hmacSha256 tokenSecret midday "token" = .error (.invalidToken .segments) := by decide
  have answers : guarded.endpoint Crypto.hmacSha256 midday (asking "token") .summary =
      .done (App.refusalAnswer TokenFlaw.segments.message) := App.endpoint_summary_invalid bearer fails (by decide)
  refine ⟨bearer, fails, answers, ?_⟩
  obtain ⟨-, refuses⟩ := App.challenges_legible "" Crypto.hmacSha256 guarded midday (asking "token") fun identity => do
    guarded.connected
    let summary ← Gateway.summary identity.id
    App.ok summary.toDocument
  obtain ⟨header, message, -, body, same, legible⟩ := (refuses "token" _ bearer fails).1 _ answers
  cases body
  subst same
  exact legible.2 fun garbled => garbled

def slashed : String := "eyJhbGciOiJIUzI1NiIsImNyaXQiOlsiXFwiXX0.e30."

def slash : TokenFlaw := .criticalUnknown "\\"

theorem slashed_refused : Token.identify Crypto.hmacSha256 tokenSecret midday slashed = .error (.invalidToken slash) := by
  decide +kernel

-- In the challenge to it the backslash takes the closing quote, and what is left is no challenge.
theorem slashed_unread :
    (∃ response, guarded.serve Crypto.hmacSha256 midday (asking slashed) = .done response ∧ response.status = 401 ∧
      response.headers.get? "www-authenticate" = some (challenge (some "invalid_token") (some slash.message))) ∧
    challenge (some "invalid_token") (some slash.message) =
      "Bearer error=\"invalid_token\", error_description=\"Unsupported critical extension: \\\"" ∧
    (∀ c : Challenge, ¬ c.Writes (challenge (some "invalid_token") (some slash.message)).toList) ∧
    ¬ Tells (challenge (some "invalid_token") (some slash.message)) (refusal slash.message) := by
  have bearer : ((asking slashed).headers.get? "authorization").bind App.bearer? = some slashed := by decide +kernel
  have answers : guarded.endpoint Crypto.hmacSha256 midday (asking slashed) .summary = .done (App.refusalAnswer slash.message) :=
    App.endpoint_summary_invalid bearer slashed_refused (by decide)
  have unread : read? (challenge (some "invalid_token") (some slash.message)).toList = none := by decide +kernel
  have silent : ∀ c : Challenge, ¬ c.Writes (challenge (some "invalid_token") (some slash.message)).toList := by
    intro c writes
    cases (read?_complete writes).symm.trans unread
  refine ⟨⟨_, App.serve_done (by decide) (by decide) answers, rfl, ?_⟩, by decide +kernel, silent,
    fun tells => silent _ ((tells.2 _).2 rfl)⟩
  exact App.get?_withOrigin (App.get?_refusalAnswer slash.message)

end Shop

end SubscriptionLedger
