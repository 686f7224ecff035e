import Ebrc.Record.Basic

/-!
# Mail accounts

What a mail block says about an account: where its mail is fetched and sent, by whom, and to
whom copies go. Servers, names and the reply address are mandatory; ports follow from the rest
when they are not given.
-/

namespace Ebrc

/-- How a connection is encrypted. -/
inductive Tls where
  | none
  /-- From the first byte on. -/
  | implicit
  /-- After a request, which must be granted. -/
  | required
  /-- After a request, if it is granted. -/
  | opportunistic
  deriving Repr, DecidableEq

/-- What becomes of a message automatically. -/
inductive RecipientKind where
  | to
  | cc
  | bcc
  | attachment
  deriving Repr, DecidableEq

/-- Somebody to whom every message goes, or a file that is attached to it. -/
structure Recipient where
  kind : RecipientKind
  value : Text
  deriving Repr, DecidableEq

/-- A mail account. -/
structure Account where
  inServer : Option Text := none
  outServer : Option Text := none
  login : Option Text := none
  password : Option Text := none
  sender : Option Text := none
  reply : Option Text := none
  /-- The port for fetching; 0 while it is not given. -/
  inPort : Int := 0
  /-- The port for sending; 0 while it is not given. -/
  outPort : Int := 0
  inTls : Tls := .none
  outTls : Tls := .none
  recipients : List Recipient := []
  secure : Bool := false
  imap : Bool := false
  noFetch : Bool := false
  deriving Repr, DecidableEq

/-- What a line of a mail block may give a value to. -/
inductive AccountKeyword where
  | inServer
  | outServer
  | login
  | password
  | sender
  | reply
  | inPort
  | outPort
  | recipient (kind : RecipientKind)
  deriving Repr, DecidableEq

/-- What a line of a mail block may turn on. -/
inductive AccountFlag where
  /-- The account that is used when none is named. -/
  | standard
  | noFetch
  | secure
  | imap
  deriving Repr, DecidableEq

/-- The flag that a line is. -/
def AccountFlag.ofLine? (line : Text) : Option AccountFlag :=
  if line = "default".toList then some .standard
  else if line = "nofetch".toList then some .noFetch
  else if line = "secure".toList then some .secure
  else if line = "imap".toList then some .imap
  else none

namespace Account

/-- The first mandatory keyword that has no value. -/
def missing? (a : Account) : Option String :=
  if isMissing a.inServer then some "inserver"
  else if isMissing a.outServer then some "outserver"
  else if isMissing a.login then some "login"
  else if isMissing a.password then some "password"
  else if isMissing a.sender then some "from"
  else if isMissing a.reply then some "reply"
  else none

/-- The port for fetching that goes with a kind of account. -/
def standardInPort (secure imap : Bool) : Int :=
  match secure, imap with
  | true, true => 993
  | true, false => 995
  | false, true => 143
  | false, false => 110

/-- The port for sending that goes with a kind of account. -/
def standardOutPort (secure : Bool) : Int := if secure then 465 else 25

/-- The account with encryption and ports as they follow from its flags. -/
def withDefaults (a : Account) : Account :=
  { a with
    inTls := if a.secure then .implicit else a.inTls
    outTls := if a.secure then .implicit else a.outTls
    inPort := if a.inPort = 0 then standardInPort a.secure a.imap else a.inPort
    outPort := if a.outPort = 0 then standardOutPort a.secure else a.outPort }

/-- A mark in front of a port, which asks for a kind of encryption, and the value without it. -/
def takeMark (mark : Char) (tls : Tls) : Tls × Text → Tls × Text
  | (before, v) =>
    match v with
    | [] => (before, v)
    | c :: rest => if c = mark then (tls, rest) else (before, v)

/-- Set the port for fetching; a star in front asks for encryption. -/
def setInPort (v : Text) (a : Account) : Except Refusal Account := do
  let (tls, v) := takeMark '*' .implicit (a.inTls, v)
  let port ← leadingNumber v
  .ok { a with inTls := tls, inPort := port }

/-- Set the port for sending; marks in front, each at most once and in a fixed order, ask for
encryption, and the last of them counts. -/
def setOutPort (v : Text) (a : Account) : Except Refusal Account := do
  let marked := takeMark '*' .implicit
    (takeMark '^' .required (takeMark '+' .opportunistic (a.outTls, v)))
  let port ← leadingNumber marked.2
  .ok { a with outTls := marked.1, outPort := port }

/-- Add a recipient, unless there are enough. -/
def addRecipient (limit : Nat) (kind : RecipientKind) (v : Text) (a : Account) :
    Except Refusal Account :=
  if limit ≤ a.recipients.length then .error (.fault (.tooManyRecipients limit))
  else .ok { a with recipients := a.recipients ++ [⟨kind, v⟩] }

/-- Give a keyword its value. -/
def set (recipientLimit : Nat) (keyword : AccountKeyword) (v : Text) (a : Account) :
    Except Refusal Account :=
  match keyword with
  | .inServer => .ok { a with inServer := some v }
  | .outServer => .ok { a with outServer := some v }
  | .login => .ok { a with login := some v }
  | .password => .ok { a with password := some v }
  | .sender => .ok { a with sender := some v }
  | .reply => .ok { a with reply := some v }
  | .inPort => a.setInPort v
  | .outPort => a.setOutPort v
  | .recipient kind => a.addRecipient recipientLimit kind v

end Account

end Ebrc
