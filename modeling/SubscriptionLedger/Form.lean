import SubscriptionLedger.Mail.Address
import SubscriptionLedger.Moment

namespace SubscriptionLedger

inductive Step where
  | field (name : String)
  | index (n : Nat)
deriving DecidableEq, Repr

inductive IssueKind where
  | missing
  | notText
  -- a text with half of a surrogate pair in it
  | brokenText
  | tooShort (least : Nat)
  | notMail
  | notWhole
  | unreadableWhole
  | fractionalWhole
  | unboundedWhole
  -- a float that no machine word holds, or a text of too many digits
  | oversizedWhole
  | tooSmall (least : Int)
  | notTruth
  | unreadableTruth
  | notMoment
  | unreadableMoment
  -- a number that no moment of the calendar belongs to
  | outsideCalendar
  | unknownChoice
  -- not the one value that the field of this record has
  | otherConstant
  | noTag
  | unknownTag
  | notList
  | notRecord
  -- not a record, where a record of one of several kinds, or a request body, is expected
  | notAttributes
  -- the text of a body is no document
  | unreadableBody (message : String)
deriving DecidableEq, Repr

def IssueKind.word : IssueKind → String
  | missing => "missing"
  | notText => "string_type"
  | brokenText => "string_unicode"
  | tooShort _ => "string_too_short"
  | notMail => "value_error"
  | notWhole => "int_type"
  | unreadableWhole => "int_parsing"
  | fractionalWhole => "int_from_float"
  | unboundedWhole => "finite_number"
  | oversizedWhole => "int_parsing_size"
  | tooSmall _ => "greater_than_equal"
  | notTruth => "bool_type"
  | unreadableTruth => "bool_parsing"
  | notMoment => "datetime_type"
  | unreadableMoment => "datetime_from_date_parsing"
  | outsideCalendar => "datetime_parsing"
  | unknownChoice => "enum"
  | otherConstant => "literal_error"
  | noTag => "union_tag_not_found"
  | unknownTag => "union_tag_invalid"
  | notList => "list_type"
  | notRecord => "model_type"
  | notAttributes => "model_attributes_type"
  | unreadableBody _ => "json_invalid"

structure Issue where
  kind : IssueKind
  place : List Step
  input : Document
deriving DecidableEq, Repr

def Issue.under (step : Step) (i : Issue) : Issue := { i with place := step :: i.place }

abbrev Checked (α : Type) := Except (List Issue) α

namespace Checked

def refuse (kind : IssueKind) (input : Document) : Checked α := .error [⟨kind, [], input⟩]

def map (f : α → β) : Checked α → Checked β
  | .ok a => .ok (f a)
  | .error issues => .error issues

def under (step : Step) : Checked α → Checked α
  | .ok a => .ok a
  | .error issues => .error (issues.map (·.under step))

-- Applies a function to an argument; the issues of both are kept.
def both (f : Checked (α → β)) (a : Checked α) : Checked β :=
  match f, a with
  | .ok f, .ok a => .ok (f a)
  | .error i, .ok _ => .error i
  | .ok _, .error j => .error j
  | .error i, .error j => .error (i ++ j)

end Checked

abbrev Rule (α : Type) := Document → Checked α

namespace Rule

def text : Rule String
  | .text s => .ok s
  | d => .refuse .notText d

def textAtLeast (least : Nat) : Rule String
  | .text s =>
    if Text.Surrogate.hasHalf s then .refuse .brokenText (.text s)
    else if s.length < least then .refuse (.tooShort least) (.text s)
    else .ok s
  | d => .refuse .notText d

def mail : Rule String
  | .text s =>
    match Mail.normal? s with
    | some address => .ok address
    | none => .refuse .notMail (.text s)
  | d => .refuse .notText d

-- No numeral is longer, its minus sign included.
def longestNumeral : Nat := 4300

def numeral (cs : List Char) : Except IssueKind Int :=
  let (negative, body) := match cs with
    | '-' :: rest => (true, rest)
    | _ => (false, cs)
  let digits := body.takeWhile Char.isDigit
  let end_ := cs.length - (body.length - digits.length)
  match digits with
  | [] => .error .unreadableWhole
  | '0' :: _ => if body = ['0'] then .ok 0 else .error .unreadableWhole
  | _ =>
    if longestNumeral < end_ then .error .oversizedWhole
    else if end_ < cs.length then .error .unreadableWhole
    else .ok (Binary64.signed negative (Text.valueOf (digits.map fun c => c.toNat - 48)))

-- Drops the zeros, and the low lines behind them, in front of the first other digit; where none follows,
-- the last one stays. A minus sign stops this at once.
def dropZeros? : List Char → Option (List Char)
  | [] => none
  | c :: rest =>
    if c = '0' then go c rest
    else if c = '-' || c.isDigit then some (c :: rest) else none
where
  go (last : Char) : List Char → Option (List Char)
    | [] => some [last]
    | c :: rest =>
      if c = '0' || c = '_' then go c rest
      else if c = '.' then some (last :: c :: rest)
      else if c.isDigit then some (c :: rest) else none

def dropFraction (cs : List Char) : List Char :=
  match cs.dropWhile (· != '.') with
  | '.' :: '0' :: zeros => if zeros.all (· == '0') then cs.takeWhile (· != '.') else cs
  | _ => cs

def dropLowLines (cs : List Char) : List Char :=
  if (Text.splitOn '_' cs).all fun group => !group.isEmpty then cs.filter (· != '_') else cs

-- White space around a numeral, one plus sign, zeros in front of it, a fraction of zeros and single low
-- lines are forgiven.
def tidy? (cs : List Char) : Option (List Char) :=
  let body := Text.trim Text.isWhiteSpace cs
  let unsigned := match body with
    | '+' :: '-' :: _ => none
    | '+' :: rest => some rest
    | _ => some body
  (unsigned.bind dropZeros?).map fun body => dropLowLines (dropFraction body)

def wholeText (s : String) : Except IssueKind Int :=
  if Text.Surrogate.hasHalf s then .error .brokenText
  else match numeral s.toList with
    | .error .unreadableWhole => ((tidy? s.toList).elim (.error .unreadableWhole) numeral)
    | read => read

-- A whole float that a signed word of 64 bits holds.
def wholeReal (x : Binary64) : Except IssueKind Int :=
  if !x.isFinite then .error .unboundedWhole
  else match x.whole? with
    | none => .error .fractionalWhole
    | some n => if -wordLimit < n ∧ n < wordLimit then .ok n else .error .oversizedWhole

def whole : Rule Int := fun d =>
  let read : Except IssueKind Int := match d with
    | .int n => .ok n
    | .bool b => .ok (if b then 1 else 0)
    | .real x => wholeReal x
    | .text s => wholeText s
    | _ => .error .notWhole
  match read with
  | .ok n => .ok n
  | .error kind => .refuse kind d

def wholeAtLeast (least : Int) : Rule Int := fun d =>
  match whole d with
  | .ok n => if n < least then .refuse (.tooSmall least) d else .ok n
  | .error issues => .error issues

def trueWords : List String := ["1", "true", "t", "yes", "y", "on"]
def falseWords : List String := ["0", "false", "f", "no", "n", "off"]

def truthOfWhole (n : Int) : Except IssueKind Bool :=
  if n = 0 then .ok false else if n = 1 then .ok true
  else if fitsWord n then .error .unreadableTruth else .error .notTruth

def truthOfText (s : String) : Except IssueKind Bool :=
  let word := s.toLower
  if Text.Surrogate.hasHalf s then .error .brokenText
  else if trueWords.contains word then .ok true
  else if falseWords.contains word then .ok false
  else .error .unreadableTruth

def truth : Rule Bool := fun d =>
  let read : Except IssueKind Bool := match d with
    | .bool b => .ok b
    | .int n => truthOfWhole n
    | .real x =>
      match wholeReal x with
      | .ok n => truthOfWhole n
      | .error _ => .error .notTruth
    | .text s => truthOfText s
    | _ => .error .notTruth
  match read with
  | .ok b => .ok b
  | .error kind => .refuse kind d

def moment : Rule Moment
  | .text s =>
    match Moment.ofText? s with
    | some m => .ok m
    | none => .refuse (if Text.Surrogate.hasHalf s then .brokenText else .unreadableMoment) (.text s)
  | .int n =>
    match Moment.ofNumber? n with
    | some m => .ok m
    | none => .refuse (if (Binary64.ofInt n).isFinite then .outsideCalendar else .notMoment) (.int n)
  | .real x =>
    match Moment.ofReal? x with
    | some m => .ok m
    | none => .refuse .outsideCalendar (.real x)
  | d => .refuse .notMoment d

def choice (read : String → Option α) (kind : IssueKind) : Rule α
  | .text s =>
    match read s with
    | some a => .ok a
    | none => .refuse kind (.text s)
  | d => .refuse kind d

def nullable (rule : Rule α) : Rule (Option α)
  | .null => .ok none
  | d => (rule d).map some

def listFrom (rule : Rule α) (n : Nat) : List Document → Checked (List α)
  | [] => .ok []
  | d :: rest => .both ((Checked.under (.index n) (rule d)).map List.cons) (listFrom rule (n + 1) rest)

def listOf (rule : Rule α) : Rule (List α)
  | .list items => listFrom rule 0 items
  | d => .refuse .notList d

end Rule

def Checked.field (name : String) (rule : Rule α) (d : Document) : Checked α :=
  Checked.under (.field name) (rule d)

def Form (α : Type) := Members → Checked α

namespace Form

instance : Functor Form where
  map f form := fun ms => (form ms).map f

instance : Seq Form where
  seq f a := fun ms => Checked.both (f ms) (a () ms)

instance : Pure Form where
  pure a := fun _ => .ok a

def required (name : String) (rule : Rule α) : Form α := fun ms =>
  match ms.find? name with
  | some d => Checked.under (.field name) (rule d)
  | none => Checked.under (.field name) (.refuse .missing (.object ms))

def defaulted (name : String) (value : α) (rule : Rule α) : Form α := fun ms =>
  match ms.find? name with
  | some d => Checked.under (.field name) (rule d)
  | none => .ok value

def optional (name : String) (rule : Rule α) : Form (Option α) := defaulted name none rule.nullable

-- Reads a record; everything that is no object is refused as `kind`.
def rule (form : Form α) (kind : IssueKind) : Rule α
  | .object members => form members
  | d => .refuse kind d

def record (form : Form α) : Rule α := form.rule .notRecord

end Form

def Document.ofOption (write : α → Document) : Option α → Document
  | some a => write a
  | none => .null

def Document.ofText? : Option String → Document := Document.ofOption .text

def Document.ofMoment (m : Moment) : Document := .text m.text

end SubscriptionLedger
