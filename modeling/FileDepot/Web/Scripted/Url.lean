import FileDepot.Text.Quoted
import FileDepot.Web.Scripted.Host

/-!
# Addresses

The scripted network takes an address apart into its scheme, the part that names a host, path, query and
fragment. `Url.parse` brings each part to its normal form, which is ASCII, and `Url.text` puts them
together again. Parts of an address can be replaced, where each part is held against the rules again.
-/

namespace FileDepot.Web.Scripted

/-- Why a text is no address. -/
inductive UrlFault where
  /-- it is too long -/
  | tooLong
  /-- it holds a control character -/
  | control (c : Char) (place : Nat)
  /-- a part of it is too long -/
  | partTooLong (part : String)
  /-- a part of it holds a control character -/
  | partControl (part : String) (c : Char) (place : Nat)
  /-- its port is no number -/
  | port (text : List Point)
  /-- its host is none -/
  | host (e : HostFault)
  /-- its path does not begin with a separator -/
  | path
  /-- its path begins with two separators, without a host -/
  | doubleSlash
  /-- its path begins with a colon, without a host -/
  | leadingColon
  /-- a part of it cannot be written -/
  | coding (e : Encoding.Fault)
  deriving DecidableEq, Repr

/-- The wording of a fault. -/
def UrlFault.message : UrlFault → String
  | .tooLong => "URL too long"
  | .control c place =>
    "Invalid non-printable ASCII character in URL, " ++ Text.quoted (String.singleton c) ++
      " at position " ++ toString place ++ "."
  | .partTooLong part => "URL component '" ++ part ++ "' too long"
  | .partControl part c place =>
    "Invalid non-printable ASCII character in URL " ++ part ++ " component, " ++
      Text.quoted (String.singleton c) ++ " at position " ++ toString place ++ "."
  | .port text => "Invalid port: " ++ Text.quotedPoints text
  | .host (.fourNumbers name) => "Invalid IPv4 address: " ++ Text.quotedPoints name
  | .host (.groups name) => "Invalid IPv6 address: " ++ Text.quotedPoints name
  | .host (.name name) => "Invalid IDNA hostname: " ++ Text.quotedPoints name
  | .path => "For absolute URLs, path must be empty or begin with '/'"
  | .doubleSlash => "Relative URLs cannot have a path starting with '//'"
  | .leadingColon => "Relative URLs cannot have a path starting with ':'"
  | .coding e => e.message

/-- An address. -/
structure Url where
  /-- how to reach the host -/
  scheme : String
  /-- who asks -/
  user : String
  /-- the host -/
  host : List Char
  /-- the port, unless it is the usual one -/
  port : Option Int
  /-- the path -/
  path : String
  /-- the query, if there is one -/
  query : Option String
  /-- the part of the document, if there is one -/
  fragment : Option String
  deriving DecidableEq, Repr

namespace Url

/-! ## Taking an address apart -/

/-- The parts of an address as they are written. -/
structure Parts where
  /-- the scheme -/
  scheme : List Point
  /-- the part that names a host -/
  authority : List Point
  /-- the path -/
  path : List Point
  /-- the query -/
  query : Option (List Point)
  /-- the fragment -/
  fragment : Option (List Point)

/-- Split a text at the first character of a kind, which is dropped. -/
def cutAt (c : Char) (s : List Point) : List Point × Option (List Point) :=
  match s.dropWhile (· ≠ .char c) with
  | _ :: rest => (s.takeWhile (· ≠ .char c), some rest)
  | [] => (s, none)

/-- Whether a text can be a scheme. -/
def isScheme : List Point → Bool
  | [] => true
  | p :: rest =>
    p.char?.any Char.isAlpha &&
      rest.all fun p => p.char?.any fun c => c.isAlphanum || c = '+' || c = '.' || c = '-'

/-- Split an address into its parts. -/
def split (s : List Point) : Parts :=
  let (s, fragment) := cutAt '#' s
  let (s, query) := cutAt '?' s
  let (scheme, s) := match cutAt ':' s with
    | (scheme, some rest) => if isScheme scheme then (scheme, rest) else ([], s)
    | _ => ([], s)
  let (authority, path) := match s with
    | .char '/' :: .char '/' :: rest =>
      (rest.takeWhile (· ≠ .char '/'), rest.dropWhile (· ≠ .char '/'))
    | _ => ([], s)
  ⟨scheme, authority, path, query, fragment⟩

/-- Split a text at the last character of a kind, which is dropped. -/
def cutAtLast (c : Char) (s : List Point) : Option (List Point) × List Point :=
  match cutAt c s.reverse with
  | (last, some front) => (some front.reverse, last.reverse)
  | (_, none) => (none, s)

/-- Split the part that names a host into user, host and port. -/
def splitAuthority (s : List Point) : List Point × List Point × List Point :=
  let (user, s) := cutAtLast '@' s
  let (host, rest) :=
    if s.head? = some (.char '[') && s.contains (.char ']') then
      let rest := (s.reverse.takeWhile (· ≠ .char ']')).reverse
      (s.take (s.length - rest.length), rest)
    else (s.takeWhile (· ≠ .char ':'), s.dropWhile (· ≠ .char ':'))
  (user.getD [], host, if rest.head? = some (.char ':') then rest.drop 1 else rest)

/-- The usual port of a scheme. -/
def usualPort? (scheme : String) : Option Int :=
  [("ftp", 21), ("http", 80), ("https", 443), ("ws", 80), ("wss", 443)].lookup scheme

/-- Read a port. -/
def readPort (scheme : String) (text : List Point) : Except UrlFault (Option Int) :=
  if text.isEmpty then .ok none
  else match (text.mapM Point.char?).bind fun s => Number.readInt? (String.ofList s) with
    | none => .error (.port text)
    | some n => .ok (if usualPort? scheme = some n then none else some n)

/-- The pieces of a path between its separators. -/
def segments : List Point → List (List Point)
  | [] => [[]]
  | p :: rest =>
    if p = .char '/' then [] :: segments rest
    else match segments rest with
      | piece :: more => (p :: piece) :: more
      | [] => [[p]]

/-- The piece of a path that leads nowhere. -/
def here : List Point := [.char '.']

/-- The piece of a path that leads upwards. -/
def upward : List Point := [.char '.', .char '.']

/-- Take `.` and `..` out of a path. -/
def plainPath (s : List Point) : List Point :=
  let parts := segments s
  if !parts.contains here && !parts.contains upward then s
  else
    let out := parts.foldl (fun (out : List (List Point)) p =>
      if p = here then out
      else if p = upward then (if out = [] || out = [[]] then out else out.dropLast)
      else out ++ [p]) []
    [Point.char '/'].intercalate out

/-- The most characters of an address, or of a part of it that is replaced. -/
def maxLength : Nat := 65536

/-- The characters of a text, of which surrogates are left out. -/
def plainText (s : List Point) : String := String.ofList (s.filterMap Point.char?)

/-- Put an address together from parts as they are written. Another host may take the place of the one
that is written. -/
def ofParts (p : Parts) (host? : Option (List Point)) : Except UrlFault Url := do
  let (user, host, port) := splitAuthority p.authority
  let escaped (unsafeChars : List Char) (s : List Point) : Except UrlFault String :=
    ((escapePoints unsafeChars s).mapError .coding).map String.ofList
  let user ← escaped userUnsafe user
  let host ← (Host.read (host?.getD host)).mapError .host
  let port ← readPort (plainText p.scheme) port
  let hasScheme := !p.scheme.isEmpty
  let hasHost := !user.isEmpty || !host.isEmpty || port.isSome
  if hasHost && !p.path.isEmpty && p.path.head? ≠ some (.char '/') then .error .path
  else if !hasScheme && !hasHost && [Point.char '/', .char '/'].isPrefixOf p.path then
    .error .doubleSlash
  else if !hasScheme && !hasHost && p.path.head? = some (.char ':') then .error .leadingColon
  else
    let path ← escaped pathUnsafe (if hasScheme || hasHost then plainPath p.path else p.path)
    let query ← p.query.mapM (escaped queryUnsafe)
    let fragment ← p.fragment.mapM (escaped fragmentUnsafe)
    pure ⟨Text.lower (plainText p.scheme), user, host, port, path, query, fragment⟩

/-- Whether a code point is a control character. -/
def isControl (p : Point) : Bool := p.toNat < 32 || p.toNat = 127

/-- The first control character of a text and its place. -/
def control? (s : List Point) : Option (Char × Nat) :=
  match s.dropWhile (!isControl ·) with
  | .char c :: _ => some (c, (s.takeWhile (!isControl ·)).length)
  | _ => none

/-- Read an address. -/
def parse (s : List Point) : Except UrlFault Url :=
  if maxLength < s.length then .error .tooLong
  else match control? s with
    | some (c, place) => .error (.control c place)
    | none => ofParts (split s) none

/-! ## Putting an address together -/

/-- A host or address of eight groups between brackets. -/
def bracketed (host : List Char) : List Char :=
  if host.contains ':' then ['['] ++ host ++ [']'] else host

/-- Host and port. -/
def place (u : Url) : String :=
  String.ofList (bracketed u.host) ++
    (match u.port with
      | some n => ":" ++ toString n
      | none => "")

/-- The part that names a host. -/
def authority (u : Url) : String := (if u.user.isEmpty then "" else u.user ++ "@") ++ u.place

/-- The text of an address. -/
def text (u : Url) : String :=
  (if u.scheme.isEmpty then "" else u.scheme ++ ":") ++
    (if u.authority.isEmpty then "" else "//" ++ u.authority) ++ u.path ++
    (match u.query with
      | some q => "?" ++ q
      | none => "") ++
    (match u.fragment with
      | some f => "#" ++ f
      | none => "")

/-- Whether an address names a host and how to reach it. -/
def isAbsolute (u : Url) : Bool := !u.scheme.isEmpty && !u.host.isEmpty

/-! ## Replacing parts -/

/-- The parts of an address. -/
def parts (u : Url) : Parts :=
  ⟨Point.ofString u.scheme, Point.ofString u.authority, Point.ofString u.path, u.query.map Point.ofString,
    u.fragment.map Point.ofString⟩

/-- Hold a part that is to be put into an address against the rules. -/
def checkPart (name : String) (part : Option (List Point)) : Except UrlFault Unit :=
  match part with
  | none => .ok ()
  | some s =>
    if maxLength < s.length then .error (.partTooLong name)
    else match control? s with
      | some (c, place) => .error (.partControl name c place)
      | none => .ok ()

/-- Put an address together from parts that were replaced. -/
def rebuild (p : Parts) (host? : Option (List Point)) : Except UrlFault Url := do
  checkPart "scheme" (some p.scheme)
  checkPart "authority" (some p.authority)
  checkPart "path" (some p.path)
  checkPart "query" p.query
  checkPart "fragment" p.fragment
  checkPart "host" host?
  ofParts p host?

/-- The address with another host. -/
def withHost (u : Url) (host : List Char) : Except UrlFault Url :=
  rebuild u.parts (some ((bracketed host).map .char))

/-- The address with another fragment. -/
def withFragment (u : Url) (fragment : List Point) : Except UrlFault Url :=
  rebuild { u.parts with fragment := some fragment } none

/-- The address that is asked for: one without a host is only a path. -/
def asked (u : Url) : Except UrlFault Url :=
  if u.isAbsolute then .ok u
  else
    let path := '/' :: u.path.toList.dropWhile (· = '/')
    rebuild ⟨[], [], path.map .char, u.query.map Point.ofString, none⟩ none

end Url

end FileDepot.Web.Scripted
