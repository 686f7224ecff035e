import Ebrc.Report
import Ebrc.Text.Case
import Ebrc.Text.Quoted
import Ebrc.Url.Literal

/-!
# URLs

A URL is cut into its scheme, authority, path, query and fragment. The host is the part of the
authority after any user name and before any port. A URL without a protocol is taken for one of
the protocol `http`.
-/

namespace Ebrc

/-- The parts of a URL. What is missing is empty. -/
structure Url where
  /-- In small letters. -/
  scheme : Text
  authority : Text
  path : Text
  query : Text
  fragment : Text
  deriving Repr, DecidableEq

namespace Url

/-- Why a URL cannot be cut. -/
inductive SplitFault where
  /-- The brackets of the authority do not enclose a whole host. -/
  | badBrackets
  | badLiteral (fault : AddressLiteral.Fault)
  /-- The authority has a character that stands for a delimiter. -/
  | hiddenDelimiter (authority : Text)
  deriving Repr, DecidableEq

/-- The wording of a fault. -/
def SplitFault.message : SplitFault → String
  | badBrackets => "Invalid IPv6 URL"
  | badLiteral .badFutureAddress => "IPvFuture address is invalid"
  | badLiteral .versionFour => "An IPv4 address cannot be in brackets"
  | badLiteral (.notAddress content) =>
    s!"{(Text.quoted content).toString} does not appear to be an IPv4 or IPv6 address"
  | hiddenDelimiter authority =>
    s!"netloc '{authority.toString}' contains invalid characters under NFKC normalization"

/-! ## Cutting -/

/-- May the character stand in a scheme? -/
def isSchemeChar (c : Char) : Bool := c.isAlphanum || c = '+' || c = '-' || c = '.'

/-- The scheme in front of the first colon, in small letters, and the text after it; without a
scheme nothing is cut off. -/
def cutScheme (t : Text) : Text × Text :=
  match Text.cut ':' t with
  | (scheme, some rest) =>
    if scheme.head?.any Char.isAlpha && scheme.all isSchemeChar then (Text.lower scheme, rest)
    else ([], t)
  | (_, none) => ([], t)

/-- Does the character end an authority? -/
def endsAuthority (c : Char) : Bool := c = '/' || c = '?' || c = '#'

/-- The authority behind two slashes and the text after it; without two slashes there is no
authority. -/
def cutAuthority : Text → Text × Text
  | '/' :: '/' :: t => t.span (!endsAuthority ·)
  | t => ([], t)

/-- The text before the first occurrence of a separator, and the text after it, which is empty
if there is none. -/
def cutAt (sep : Char) (t : Text) : Text × Text :=
  let (before, after) := Text.cut sep t
  (before, after.getD [])

/-- The characters that compatibility normalization turns into a delimiter, or into text with a
delimiter in it. -/
def hiddenDelimiters : List Char := [
  '\u2047', '\u2048', '\u2049', '\u2100', '\u2101', '\u2105', '\u2106', '\u2a74', '\ufe13',
  '\ufe16', '\ufe55', '\ufe56', '\ufe5f', '\ufe6b', '\uff03', '\uff0f', '\uff1a', '\uff1f',
  '\uff20']

/-- The part of an authority after the user name. -/
def hostAndPort (authority : Text) : Text := Text.afterLast '@' authority

/-- The text between the brackets of a host with brackets, or the host without its port. -/
def hostOf (authority : Text) : Text :=
  match Text.cut '[' (hostAndPort authority) with
  | (_, some bracketed) => (Text.cut ']' bracketed).1
  | (host, none) => (Text.cut ':' host).1

/-- Check the brackets of an authority: they enclose the whole host, which is an address. -/
def checkBrackets (authority : Text) : Except SplitFault Unit :=
  match authority.contains '[', authority.contains ']' with
  | false, false => .ok ()
  | true, true =>
    let stray := match Text.cut '[' (hostAndPort authority) with
      | (before, some bracketed) =>
        let after := (cutAt ']' bracketed).2
        before ≠ [] || (after ≠ [] && after.head? ≠ some ':')
      | (_, none) => false
    if stray then .error .badBrackets
    else (AddressLiteral.check (hostOf authority)).mapError .badLiteral
  | _, _ => .error .badBrackets

/-- Drop the blanks and controls in front, and all tabs and line ends. -/
def clean (t : Text) : Text :=
  (t.dropWhile (· ≤ ' ')).filter fun c => c ≠ '\t' && c ≠ '\r' && c ≠ '\n'

/-- Cut a URL into its parts. -/
def split (t : Text) : Except SplitFault Url := do
  let (scheme, rest) := cutScheme (clean t)
  let (authority, rest) := cutAuthority rest
  checkBrackets authority
  if authority.any (hiddenDelimiters.contains ·) then .error (.hiddenDelimiter authority)
  else
    let (rest, fragment) := cutAt '#' rest
    let (path, query) := cutAt '?' rest
    .ok { scheme, authority, path, query, fragment }

/-- The host of a URL, in small letters up to a percent sign. -/
def host (url : Url) : Text :=
  match Text.cut '%' (hostOf url.authority) with
  | (name, some zone) => Text.lower name ++ '%' :: zone
  | (name, none) => Text.lower name

/-! ## Protocol, host and path -/

/-- The protocol of a URL that names none. -/
def standardProtocol : Text := "http".toList

/-- What stands between a protocol and a host. -/
def protocolMark : Text := "://".toList

/-- A URL with a protocol in front, if it names none. -/
def complete (t : Text) : Text :=
  if Text.occursIn protocolMark t then t else standardProtocol ++ protocolMark ++ t

end Url

/-- Why a text does not serve as a URL. -/
inductive UrlFault where
  | empty
  | unparsable (fault : Url.SplitFault)
  | noHost
  deriving Repr, DecidableEq

/-- A fault and the URL as it was understood. -/
structure UrlError where
  fault : UrlFault
  url : Text
  deriving Repr, DecidableEq

namespace UrlError

/-- The wording of the error. -/
def message (e : UrlError) : String :=
  match e.fault with
  | .empty => "empty url"
  | .unparsable fault => s!"cannot parse url: {fault.message}"
  | .noHost => "url has no host"

/-- What is told about the error. -/
def report (e : UrlError) : Report := .url e.message (.text e.url)

end UrlError

namespace Url

/-- The protocol and the host of a URL. -/
def protocolAndHost (t : Text) : Except UrlError (Text × Text) :=
  if t = [] then .error ⟨.empty, t⟩
  else
    let t := complete t
    match split t with
    | .error fault => .error ⟨.unparsable fault, t⟩
    | .ok url =>
      if url.scheme = [] ∨ hostOf url.authority = [] then .error ⟨.noHost, t⟩
      else .ok (url.scheme, url.host)

/-- The path of a URL; the root when it has none or cannot be cut. -/
def pathOf (t : Text) : Text :=
  match split (complete t) with
  | .ok url => if url.path = [] then ['/'] else url.path
  | .error _ => ['/']

/-- Does the URL carry its data in itself? -/
def isData (t : Text) : Bool := Text.lower (t.take 5) = "data:".toList

end Url

end Ebrc
