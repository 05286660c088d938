import FileDepot.Number.Shortest
import FileDepot.Web.Layer
import FileDepot.Web.Scripted.Reference
import FileDepot.Web.Scripted.Reply
import FileDepot.Web.Scripted.Status
import FileDepot.Web.Scripted.Url

/-!
# A scripted network

An HTTP layer for trying out what downloads: each address has the reply that a script gives it. Addresses
are read, answers unpacked and redirections followed, up to a bound, by the rules that servers and clients
share. It is one layer among others, and nothing that is said of downloads rests on it.
-/

namespace FileDepot.Web.Scripted

/-! ## Trouble -/

/-- Trouble of a kind that is known by its name. -/
def named (name message : String) : Trouble := ⟨.named name, message, none⟩

/-- Trouble with an encoding. -/
def codingTrouble (e : Encoding.Fault) : Trouble :=
  ⟨Fault.codingFamily e, e.message, (Fault.coding e).cause?⟩

/-- Trouble with an address. -/
def urlTrouble : UrlFault → Trouble
  | .coding e => codingTrouble e
  | e => named "InvalidURL" e.message

/-- The name of the kind of trouble that a text is that is no name of a host. -/
def domainKind : Domain.Fault → String
  | .unknownDirection .. | .firstDirection _ | .rightDirection _ | .leftDirection _ | .mixedDigits
  | .lastDirection => "IDNABidiError"
  | .codepoint .. => "InvalidCodepoint"
  | .joiner .. | .unknownNeighbour .. | .context .. => "InvalidCodepointContext"
  | _ => "IDNAError"

/-- The kind of trouble that a name of a host was refused for. -/
def domainCause? : Domain.Fault → Option Family
  | .badCode => some .unicode
  | .unknownNeighbour .. => some .value
  | _ => none

/-- Trouble with the name of a host. -/
def domainTrouble (e : Domain.Fault) : Trouble := ⟨.named (domainKind e), e.message, domainCause? e⟩

/-- Trouble with an address that does not tell its scheme. -/
def schemeTrouble (text : String) : Trouble :=
  ⟨.value, "unknown url type: " ++ Text.quoted text, none⟩

/-- The kinds of trouble that are not of HTTP. -/
def foreignKinds : List String :=
  ["InvalidURL", "CookieConflict", "StreamError", "StreamConsumed", "StreamClosed",
    "ResponseNotRead", "RequestNotRead", "IDNABidiError", "InvalidCodepoint",
    "InvalidCodepointContext", "IDNAError"]

/-- The kind of trouble that the status of an answer is. -/
def statusKind : String := "HTTPStatusError"

/-! ## Addresses -/

/-- Read an address. -/
def read (s : List Point) : Except Trouble Url := (Url.parse s).mapError urlTrouble

/-- Make sure that the host of an address can be shown. -/
def checkHost (url : Url) : Except Trouble Unit :=
  if Domain.mark.isPrefixOf url.host then
    ((Domain.decode url.host).mapError domainTrouble).map fun _ => ()
  else .ok ()

/-- Make sure that an address can be asked for. -/
def checkAsked (url : Url) : Except Trouble Unit := do
  (Reply.checkText url.place).mapError codingTrouble
  checkHost url

/-- Whether the text of an address, up to a fragment, tells its scheme. -/
def tellsScheme (s : List Char) : Bool :=
  let s := match s.reverse.dropWhile (· ≠ '#') with
    | _ :: front => front.reverse
    | [] => s
  match s.span fun c => c ≠ '/' && c ≠ ':' with
  | (_ :: _, ':' :: _) => true
  | _ => false

/-- The text of an address, without an empty fragment. -/
def shownText (s : List Char) : List Char :=
  if s.getLast? = some '#' then s.dropLast else s

/-- An answer is kept only with an address that tells its scheme. -/
def checkScheme (url : Url) : Except Trouble Unit :=
  let s := url.text.toList
  if tellsScheme s then .ok () else .error (schemeTrouble (String.ofList (shownText s)))

/-- The fragment of an address, with its escapes read. -/
def fragment (url : Url) : List Point := unescape (url.fragment.getD "").toList

/-- An address that an answer names, with the host that was asked where it tells a scheme alone. -/
def hosted (url target : Url) : Except Trouble Url :=
  if target.scheme.isEmpty then .ok target
  else if target.host.isEmpty then (target.withHost url.host).mapError urlTrouble
  else (checkHost target).map fun _ => target

/-- An address that an answer names, from the address that was asked for. -/
def completed (url target : Url) : Except Trouble Url :=
  if target.isAbsolute then .ok target
  else read ((Reference.resolve url.text.toList target.text.toList).map .char)

/-- An address that an answer names, with the fragment that was asked for unless it has its own. -/
def marked (url target : Url) : Except Trouble Url :=
  if !(fragment url).isEmpty && (fragment target).isEmpty then
    (target.withFragment (fragment url)).mapError urlTrouble
  else .ok target

/-- What an address that an answer names comes to from the address that was asked for, if it can be asked
for. -/
def directed (url target : Url) : Except Trouble Url := do
  let target ← hosted url target
  let target ← completed url target
  let target ← marked url target
  checkAsked target
  pure target

/-- What is reported when the address that an answer names is none. -/
def locationTrouble (e : UrlFault) : Trouble :=
  named "RemoteProtocolError" ("Invalid URL in location header: " ++ e.message ++ ".")

/-- The address that an answer sends the client to. -/
def redirected (url : Url) (location : String) : Except Trouble Url := do
  let target ← (Url.parse (Point.ofString location)).mapError locationTrouble
  directed url target

/-! ## Asking -/

/-- The most redirections that are followed. -/
def maxRedirects : Nat := 20

/-- The reply to each address that is asked for. -/
abbrev Script := String → Reply

/-- An answer. -/
structure Answer where
  /-- the address that was asked for -/
  url : String
  /-- the status -/
  status : Nat
  /-- the body, unpacked -/
  body : Bytes
  deriving DecidableEq, Repr

/-- What a reply leads to. -/
inductive Lead where
  /-- an answer that stays -/
  | stays (a : Answer)
  /-- another address -/
  | other (url : Url)

/-- What is reported when a body cannot be unpacked. -/
def packingTrouble (e : Compression.WrapFault) : Trouble := named "DecodingError" e.message

/-- The address that an answer names, if its status sends the client to another one. -/
def location? (status : Nat) (headers : List (String × String)) : Option String :=
  if Status.isRedirect status then Reply.header? headers "location" else none

/-- What an answer leads to. -/
def lead (url : Url) (status : Nat) (headers : List (String × String)) (body : Bytes) :
    Except Trouble Lead := do
  (Reply.checkHeaders headers).mapError codingTrouble
  let data ← (Reply.unpacked headers body).mapError packingTrouble
  checkScheme url
  match location? status headers with
  | some location => (redirected url location).map .other
  | none => pure (.stays ⟨url.text, status, data⟩)

/-- Ask for an address. -/
def ask (script : Script) (url : Url) : Except Trouble Lead :=
  match script url.text with
  | .broken reason message => .error (named reason message)
  | .answer status headers body => lead url status headers body

/-- What is reported when there are too many redirections. -/
def redirectsTrouble : Trouble := named "TooManyRedirects" "Exceeded maximum allowed redirects."

/-- Ask for an address and follow redirections; `left` counts the requests that may still be made. -/
def run (script : Script) (accept : String) : Nat → Url → Except Trouble Answer × List Exchange
  | 0, _ => (.error redirectsTrouble, [])
  | left + 1, url =>
    match ask script url with
    | .error t => (.error t, [.asked url.text accept])
    | .ok (.stays a) => (.ok a, [.asked url.text accept])
    | .ok (.other next) =>
      let (result, log) := run script accept left next
      (result, .asked url.text accept :: log)

/-- The address that is asked for first. -/
def firstUrl (target : List Point) : Except Trouble Url := do
  let url ← (← read target).asked.mapError urlTrouble
  checkAsked url
  pure url

/-- The layer whose replies a script gives. It follows redirections in any case. -/
def layer (script : Script) : Layer Answer where
  get q :=
    let made := Exchange.client q.timeout q.verify q.follow
    match firstUrl q.target with
    | .error t => (.error t, [made])
    | .ok url =>
      let (result, log) := run script q.accept (maxRedirects + 1) url
      (result, made :: log)
  check a :=
    if Status.isSuccess a.status then .ok ()
    else .error (named statusKind (Status.report a.status a.url))
  status := Answer.status
  content := Answer.body
  isStatus k := k = .named statusKind
  isHttp
    | .named name => !foreignKinds.contains name
    | _ => false

end FileDepot.Web.Scripted
