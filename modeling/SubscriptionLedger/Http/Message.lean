import SubscriptionLedger.Document.Encoding
import SubscriptionLedger.Failure.Fault

namespace SubscriptionLedger.Http.Host

def signs : List Char := "-._~!$&'()*+,;=".toList

def isName : List Char → Bool
  | '%' :: a :: b :: rest => (Text.Hex.value? a).isSome && (Text.Hex.value? b).isSome && isName rest
  | c :: rest => (c.isAlphanum || signs.contains c) && isName rest
  | [] => true

def isOctet (cs : List Char) : Bool :=
  !cs.isEmpty && cs.length ≤ 3 && cs.all Char.isDigit && (cs.length = 1 || cs.head? != some '0') &&
    Text.valueOf (cs.map fun c => c.toNat - 48) ≤ 255

def isDotted (cs : List Char) : Bool :=
  let octets := Text.splitOn '.' cs
  octets.length = 4 && octets.all isOctet

def isGroup (cs : List Char) : Bool :=
  !cs.isEmpty && cs.length ≤ 4 && cs.all fun c => (Text.Hex.value? c).isSome

-- An address may begin, and may end, with a gap; nothing else at an end is empty.
def closeEnd? : List (List Char) → Option (List (List Char))
  | [] :: [] :: rest => some ([] :: rest)
  | [] :: _ => none
  | parts => some parts

-- Eight groups; one gap may stand for one of them or more.
def isAddress (cs : List Char) : Bool :=
  match (closeEnd? (Text.splitOn ':' cs)).bind fun parts => closeEnd? parts.reverse with
  | none => false
  | some parts =>
    let dotted := parts.head?.any isDotted
    let groups := (if dotted then parts.drop 1 else parts).filter fun part => !part.isEmpty
    let width := groups.length + if dotted then 2 else 0
    groups.all isGroup &&
      match parts.count [] with
      | 0 => width = 8
      | 1 => width ≤ 7
      | _ => false

def isPort : List Char → Bool
  | [] => true
  | c :: ds => c = ':' && ds.all Char.isDigit && Text.valueOf (ds.map fun c => c.toNat - 48) ≤ 65535

def isHost (s : String) : Bool :=
  match s.toList with
  | '[' :: rest =>
    match rest.dropWhile (· != ']') with
    | _ :: port => isAddress (rest.takeWhile (· != ']')) && isPort port
    | [] => false
  | cs =>
    let name := cs.takeWhile (· != ':')
    !name.isEmpty && isName name && isPort (cs.dropWhile (· != ':'))

end SubscriptionLedger.Http.Host

namespace SubscriptionLedger.Http

abbrev Headers := List (String × String)

namespace Headers

def get? (headers : Headers) (name : String) : Option String :=
  (headers.find? fun h => Text.lower h.1 == name).map (·.2)

-- A header holds no character above U+00FF.
def isSendable (headers : Headers) : Bool := headers.all fun h => h.2.toList.all (·.toNat < 256)

end Headers

structure Request where
  -- the own name of the service
  host : String
  method : String
  path : String
  query : String
  headers : Headers
  body : List UInt8

inductive Body where
  | document (d : Document)
  | text (s : String)
  | empty
deriving DecidableEq, Repr

structure Response where
  status : Nat
  headers : Headers
  body : Body
deriving DecidableEq, Repr

namespace Response

def json (status : Nat) (d : Document) (headers : Headers) : Except Fault Response :=
  if d.isStandard then .ok ⟨status, ("content-type", "application/json") :: headers, .document d⟩
  else .error (.misfit .badValue)

def plain (status : Nat) (s : String) (headers : Headers) : Response :=
  ⟨status, ("content-type", "text/plain; charset=utf-8") :: headers, .text s⟩

def detail (status : Nat) (message : String) (headers : Headers) : Response :=
  ⟨status, ("content-type", "application/json") :: headers, .document (.object [("detail", .text message)])⟩

def internalError : Response :=
  ⟨500, [("content-type", "application/json")],
    .document (.object [("error", .text "INTERNAL_ERROR"), ("message", .text "Internal server error"),
      ("details", .object [])])⟩

end Response

-- Only an answer with sendable headers is sent.
def Response.sendable (r : Response) : Except Fault Response :=
  if r.headers.isSendable then .ok r else .error (.misfit .badValue)

namespace Request

def target (s : String) : String × String :=
  let path := String.ofList (s.toList.takeWhile (· != '?'))
  (Text.Percent.decode path, String.ofList ((s.toList.dropWhile (· != '?')).drop 1))

-- The name of the service as the caller knows it, or its own name if that is none.
def authority (r : Request) : String :=
  match r.headers.get? "host" with
  | some name => if Host.isHost name then name else r.host
  | none => r.host

end Request

def mediaType (header : String) : List (List Char) :=
  Text.splitOn '/' (Text.trim Text.isBlank ((Text.lower header).toList.takeWhile (· != ';')))

def endsWith (cs tail : List Char) : Bool := tail.length ≤ cs.length && cs.drop (cs.length - tail.length) = tail

def isDocumentType (header : String) : Bool :=
  match mediaType header with
  | [type, subtype] =>
    type == "application".toList && (subtype == "json".toList || endsWith subtype "+json".toList)
  | _ => false

inductive Content where
  | nothing
  | document (d : Document)
  | bytes (bs : List UInt8)

inductive BodyError where
  -- a text that is no document
  | broken (complaint : Complaint) (position : Nat)
  | unreadable

def content (r : Request) : Except BodyError Content :=
  if r.body.isEmpty then .ok .nothing
  else if !((r.headers.get? "content-type").any isDocumentType) then .ok (.bytes r.body)
  else match Document.readBytes r.body with
    | .ok .null => .ok .nothing
    | .ok d => .ok (.document d)
    | .error (.text _ e) =>
      if e.complaint.isFormal then .error (.broken e.complaint e.position) else .error .unreadable
    | .error _ => .error .unreadable

def record (form : Form α) : Content → Checked α
  | .nothing => .refuse .missing .null
  | .document d => form.rule .notAttributes d
  | .bytes bs => .refuse .notAttributes (.text (Text.Utf8.lossy bs))

-- A body that is no text cannot be quoted back.
def isQuotable : Content → Bool
  | .bytes bs => (Text.Utf8.decode bs).toOption.isSome
  | _ => true

def issueText : IssueKind → String
  | .missing => "Field required"
  | .notText => "Input should be a valid string"
  | .tooShort least =>
    "String should have at least " ++ toString least ++ (if least = 1 then " character" else " characters")
  | .notAttributes => "Input should be a valid dictionary or object to extract fields from"
  | .unreadableBody _ => "JSON decode error"
  | kind => kind.word

def issueContext : IssueKind → Members
  | .tooShort least => [("ctx", .object [("min_length", .int least)])]
  | .unreadableBody message => [("ctx", .object [("error", .text message)])]
  | _ => []

def stepDocument : Step → Document
  | .field name => .text name
  | .index n => .int n

def issueDocument (i : Issue) : Document :=
  .object ([("type", .text i.kind.word), ("loc", .list (i.place.map stepDocument)),
    ("msg", .text (issueText i.kind)), ("input", i.input)] ++ issueContext i.kind)

def unprocessable (issues : List Issue) : Except Fault Response :=
  Response.json 422 (.object [("detail", .list (issues.map fun i => issueDocument (i.under (.field "body"))))]) []

def BodyError.response : BodyError → Except Fault Response
  | .broken complaint position =>
    unprocessable [⟨.unreadableBody complaint.message, [.index position], .object []⟩]
  | .unreadable => .ok (.detail 400 "There was an error parsing the body" [])

end SubscriptionLedger.Http
