import SubscriptionLedger.Mail.Domain.Name
import SubscriptionLedger.Text.Case

namespace SubscriptionLedger.Mail

def localSigns : List Char := "!#$%&'*+-/=?^_`\x7b|\x7d~".toList

def isLocalChar (c : Char) : Bool :=
  c.isAlphanum || localSigns.contains c || (0x80 ≤ c.toNat && Text.isVisible c)

-- Atoms joined by single dots. A mark at the front would join what stands before the address.
def isLocalPart (cs : List Char) : Bool :=
  ((Text.splitOn '.' cs).all fun atom => !atom.isEmpty && atom.all isLocalChar) && !cs.head?.any Text.isMark

def isPlain (cs : List Char) : Bool := cs.all Domain.Punycode.isPlain

-- Mailboxes whose names every domain reads without regard to case.
def roleNames : List String :=
  ["info", "marketing", "sales", "support", "abuse", "noc", "security", "postmaster", "hostmaster",
    "usenet", "news", "webmaster", "www", "uucp", "ftp"]

def localPart? (cs : List Char) : Option (List Char) :=
  let composed := Text.normal cs
  if isLocalPart cs && isLocalPart composed then
    let lowered := cs.map Char.toLower
    some (if isPlain cs && roleNames.contains (String.ofList lowered) then lowered else composed)
  else none

structure Address where
  localPart : List Char
  domain : Domain.Name
  deriving DecidableEq, Repr

def Address.shown (address : Address) : List Char := address.localPart ++ '@' :: address.domain.shown

def Address.sent (address : Address) : List Char := address.localPart ++ '@' :: address.domain.sent

-- An address fits in this many bytes in each of its forms.
def maxLength : Nat := 254

def isShort (cs : List Char) : Bool := (String.ofList cs).utf8ByteSize ≤ maxLength

-- Reads an address that stands alone. One whose local part is written in plain characters must also fit as
-- it is sent.
def Address.read? (cs : List Char) : Option Address :=
  let written := Text.trim Text.isBlank cs
  let before := written.takeWhile (· != '@')
  match written.dropWhile (· != '@') with
  | _ :: behind =>
    (localPart? before).bind fun localPart =>
      (Domain.Name.read? behind).bind fun domain =>
        let address : Address := { localPart, domain }
        if isShort written && isShort address.shown && (!isPlain before || isShort address.sent) then some address
        else none
  | [] => none

def isDisplayChar (c : Char) : Bool := Text.isWord c || localSigns.contains c || c = '.'

def isDisplayName (cs : List Char) : Bool := cs.all fun c => isDisplayChar c || Text.isBlank c

-- The text between an opening angle bracket at the front and the last closing one, which ends the text.
def bracketed? : List Char → Option (List Char)
  | '<' :: rest =>
    match rest.reverse with
    | '>' :: inner => if inner.isEmpty then none else some inner.reverse
    | _ => none
  | _ => none

-- After a quoted display name: the brackets that follow the last quote they can follow.
def afterQuoted? : List Char → Option (List Char)
  | [] => none
  | c :: rest =>
    (afterQuoted? rest).orElse fun _ => if c = '"' then bracketed? (rest.dropWhile Text.isBlank) else none

def inBrackets? (cs : List Char) : Option (List Char) :=
  let cs := Text.trim Text.isBlank cs
  match cs with
  | '"' :: _ :: rest => afterQuoted? rest
  | _ => if isDisplayName (cs.takeWhile (· != '<')) then bracketed? (cs.dropWhile (· != '<')) else none

def maxWritten : Nat := 2048

def normal? (s : String) : Option String :=
  let cs := s.toList
  if maxWritten < cs.length || cs.contains '\r' || cs.contains '\n' then none
  else (Address.read? ((inBrackets? cs).getD cs)).map fun address => String.ofList address.shown

end SubscriptionLedger.Mail
