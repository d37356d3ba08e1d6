import SubscriptionLedger.Crypto.Sha256
import SubscriptionLedger.Document.Encoding
import SubscriptionLedger.Failure.Fault

namespace SubscriptionLedger

-- The challenge for bearer tokens. Double quotes in a description become single ones.
def challenge (error description : Option String) : String :=
  match error with
  | none => "Bearer"
  | some error =>
    "Bearer error=\"" ++ error ++ "\"" ++
      match description with
      | some text =>
        if text = "" then ""
        else ", error_description=\"" ++ text.map (fun c => if c = '"' then '\'' else c) ++ "\""
      | none => ""

end SubscriptionLedger

namespace SubscriptionLedger.Secret

def after? : (front cs : List Char) → Option (List Char)
  | [], cs => some cs
  | _ :: _, [] => none
  | a :: front, c :: cs => if a = c then after? front cs else none

def ends : List Char → List (List Char)
  | [] => [[]]
  | c :: cs => (c :: cs) :: ends cs

def occursIn (part cs : List Char) : Bool := (ends cs).any part.isPrefixOf

def labels : List String :=
  ["CERTIFICATE", "TRUSTED CERTIFICATE", "PRIVATE KEY", "PUBLIC KEY", "ENCRYPTED PRIVATE KEY",
    "OPENSSH PRIVATE KEY", "DSA PRIVATE KEY", "RSA PRIVATE KEY", "RSA PUBLIC KEY", "EC PRIVATE KEY",
    "DH PARAMETERS", "NEW CERTIFICATE REQUEST", "CERTIFICATE REQUEST", "SSH2 PUBLIC KEY",
    "SSH2 ENCRYPTED PRIVATE KEY", "X509 CRL"]

-- One of the four ways to draw a line of armour; a blank may take the place of the inner hyphens.
def lines (word label : String) : List (List Char) :=
  ["-", " "].flatMap fun left => ["-", " "].map fun right =>
    ("----" ++ left ++ word ++ " " ++ label ++ right ++ "----").toList

def nextLine? : List Char → Option (List Char)
  | '\r' :: '\n' :: rest => some rest
  | '\n' :: rest => some rest
  | _ => none

def isClosed (label : String) (inside : List Char) : Bool :=
  (lines "END" label).any fun line => occursIn ('\n' :: line) (inside.drop 1)

def isArmoured (cs : List Char) : Bool :=
  labels.any fun label => (ends cs).any fun rest => (lines "BEGIN" label).any fun line =>
    (((after? line rest).bind nextLine?).map (isClosed label)).getD false

def shellKinds : List String :=
  ["ssh-ed25519", "ssh-rsa", "ssh-dss", "ecdsa-sha2-nistp256", "ecdsa-sha2-nistp384", "ecdsa-sha2-nistp521"]

-- A kind that ends like a certificate, with something else behind it on the line.
def isShellCertificate (cs : List Char) : Bool :=
  let kind := cs.takeWhile (!Text.isAsciiBlank ·)
  let rest := cs.dropWhile (!Text.isAsciiBlank ·)
  let isGap (c : Char) := c = ' ' || c = '\t'
  "-cert-v01@openssh.com".toList.isSuffixOf kind && rest.head?.any isGap &&
    (rest.dropWhile isGap).head?.any (!Text.isAsciiBlank ·)

def isShellKey (cs : List Char) : Bool :=
  shellKinds.any (fun kind => occursIn kind.toList cs) || isShellCertificate cs

mutual
def holdsKey : Document → Bool
  | .list ds => anyHoldsKey ds
  | .object ms => anyMemberHoldsKey ms
  | _ => false

def anyHoldsKey : List Document → Bool
  | [] => false
  | d :: ds => holdsKey d || anyHoldsKey ds

def anyMemberHoldsKey : Members → Bool
  | [] => false
  | (name, d) :: ms => name == "kty" || holdsKey d || anyMemberHoldsKey ms
end

def isKeyDocument (cs : List Char) : Bool :=
  match Document.readBytes (Text.Utf8.encode cs) with
  | .ok d => holdsKey d
  | .error _ => false

def isForeignKey (s : String) : Bool :=
  isArmoured s.toList || isShellKey s.toList || isKeyDocument s.toList

end SubscriptionLedger.Secret

namespace SubscriptionLedger.Token

abbrev Verdict := Except TokenFlaw

structure Segments where
  header : List Char
  payload : List Char
  signature : List Char

-- What the code is made of: all before the last dot.
def Segments.signed (s : Segments) : List Char := s.header ++ '.' :: s.payload

-- The header ends at the first dot, the signature begins after the last.
def Segments.split (token : List Char) : Verdict Segments :=
  let signature := token.reverse.takeWhile (· != '.')
  match token.reverse.dropWhile (· != '.') with
  | [] => .error .segments
  | _ :: front =>
    let front := front.reverse
    match front.dropWhile (· != '.') with
    | [] => .error .segments
    | _ :: payload => .ok ⟨front.takeWhile (· != '.'), payload, signature.reverse⟩

structure Opened where
  header : Members
  payload : List UInt8
  signature : List UInt8
  signed : List Char

def segmentBytes (cs : List Char) (flaw : TokenFlaw) : Verdict (List UInt8) :=
  match Text.Base64Url.decode? cs with
  | some bytes => .ok bytes
  | none => .error flaw

def readObject (bytes : List UInt8) (unreadable : String → TokenFlaw) (other : TokenFlaw) :
    Verdict Members :=
  match Document.readBytes bytes with
  | .ok (.object members) => .ok members
  | .ok _ => .error other
  | .error e => .error (unreadable e.message)

-- The header may say that the payload is sent on another way.
def isDetached (header : Members) : Bool := Members.get header "b64" == .bool false

def openSegments (s : Segments) : Verdict Opened := do
  let headerBytes ← segmentBytes s.header .headerPadding
  let header ← readObject headerBytes .unreadableHeader .headerNotObject
  if isDetached header && !s.payload.isEmpty then
    throw .payloadPresent
  let payload ← segmentBytes s.payload .payloadPadding
  let signature ← segmentBytes s.signature .signaturePadding
  return ⟨header, payload, signature, s.signed⟩

def knownExtension : String := "b64"

def checkExtensions (header : Members) : List Document → Verdict Unit
  | [] => .ok ()
  | .text extension :: rest =>
    if extension ≠ knownExtension then .error (.criticalUnknown extension)
    else if (Members.find? header extension).isNone then .error (.criticalAbsent extension)
    else checkExtensions header rest
  | _ :: _ => .error .criticalText

def checkHeader (header : Members) : Verdict Unit := do
  match Members.find? header "kid" with
  | none | some (.text _) => pure ()
  | some _ => throw .keyId
  match Members.find? header "crit" with
  | none => if isDetached header then throw .payloadNotCritical
  | some (.list (d :: ds)) => checkExtensions header (d :: ds)
  | some _ => throw .criticalList

def algorithm : String := "HS256"

def checkAlgorithm (header : Members) : Verdict Unit :=
  match Members.find? header "alg" with
  | none => .error .noAlgorithm
  | some alg => if alg = .text algorithm then .ok () else .error .algorithm

def opened (token : String) : Verdict Opened := do
  let segments ← Segments.split token.toList
  let t ← openSegments segments
  checkHeader t.header
  if isDetached t.header then
    throw .payloadElsewhere
  checkAlgorithm t.header
  return t

def checkSignature (mac : Mac) (secret : String) (t : Opened) : Verdict Unit :=
  if mac (Text.Utf8.encodeText secret) (Text.Utf8.encode t.signed) = t.signature then .ok ()
  else .error .signature

def refused : Verdict α → Except Fault α
  | .ok a => .ok a
  | .error flaw => .error (.invalidToken flaw)

def claims (mac : Mac) (secret token : String) : Except Fault Members := do
  let t ← refused (opened token)
  if Secret.isForeignKey secret then
    throw .foreignKey
  refused (checkSignature mac secret t)
  refused (readObject t.payload .unreadablePayload .payloadNotObject)

def secondsClaim? (members : Members) (name : String) (flaw : TokenFlaw) : Verdict (Option Int) :=
  match Members.find? members name with
  | none => .ok none
  | some d =>
    match d.whole with
    | .ok seconds => .ok (some seconds)
    | .error _ => .error flaw

def checkText (members : Members) (name : String) (flaw : TokenFlaw) : Verdict Unit :=
  match Members.find? members name with
  | none | some (.text _) => .ok ()
  | some _ => .error flaw

def isText : Document → Bool
  | .text _ => true
  | _ => false

def audience : String := "authenticated"

def checkAudience (d : Document) : Verdict Unit :=
  if !d.isTruthy then .error .noAudience
  else match d with
    | .text s => if s = audience then .ok () else .error .audience
    | .list ds =>
      if !ds.all isText then .error .audienceForm
      else if ds.contains (.text audience) then .ok () else .error .audience
    | _ => .error .audienceForm

-- Whether a token has run out is told apart from all that is wrong with it. The clock is read as a float.
def checkTimes (now : Instant) (members : Members) : Verdict Bool := do
  let issued ← secondsClaim? members "iat" .issuedNotWhole
  if issued.any now.seconds.isBelow then
    throw .issuedLater
  let start ← secondsClaim? members "nbf" .startNotWhole
  if start.any now.seconds.isBelow then
    throw .startLater
  let stop ← secondsClaim? members "exp" .endNotWhole
  return stop.any fun time => !now.seconds.isBelow time

def checkParties (members : Members) : Verdict Unit := do
  checkAudience (Members.get members "aud")
  checkText members "sub" .subject
  checkText members "jti" .tokenId

def verifiedClaims (mac : Mac) (secret : String) (now : Instant) (token : String) : Except Fault Members := do
  let members ← claims mac secret token
  if ← refused (checkTimes now members) then
    throw .expiredToken
  refused (checkParties members)
  return members

def commonRole (role : String) : String := if role = "authenticated" then "user" else role

def Claims.identity (c : Claims) : Except Fault Identity := do
  let email := c.email.getD ""
  if email = "" then
    throw (.invalidToken .noEmail)
  let lastSignIn ← Except.orMisfit (Moment.ofUnix c.issued)
  Checked.orInvalid .identity <|
    (Checked.field "email" Rule.mail (.text email)).map fun email =>
      ⟨c.subject, email, c.isEmailVerified, some lastSignIn, commonRole c.role⟩

def identify (mac : Mac) (secret : String) (now : Instant) (token : String) : Except Fault Identity := do
  if token = "" then
    throw .missingToken
  if secret = "" then
    throw (.invalidToken .noSecret)
  let members ← verifiedClaims mac secret now token
  let c ← Checked.orInvalid .claims (SubscriptionLedger.Claims.form members)
  Claims.identity c

end SubscriptionLedger.Token
