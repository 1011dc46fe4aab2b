import SchemaRecords.Text.Part
import SchemaRecords.Text.Utf8
import SchemaRecords.Web.Host

/-!
# Addresses on the web

* `Reference` -- the five parts of a text that refers to an address, as they are written, and
  `Reference.text`, the text of such parts;
* `Authority` -- the user, the host and the port that an authority writes;
* `Url` -- an address in its normal form: the scheme in lower case, the host as it is sent, no port
  where it is the scheme's own, no dots between slashes, and all characters that an address may not
  hold as escapes of their octets;
* `Url.ofText`, `Url.text` -- the address a text writes, and its text;
* `Url.withHost`, `Url.withFragment`, `Url.rooted` -- the address with another host or another
  fragment, and its path alone;
* `UrlFault` -- why a text is no address.
-/

namespace SchemaRecords.Web

open Text

/-! ## 1. References -/

/-- The parts of a reference as they are written. -/
structure Reference where
  scheme : List Char
  authority : List Char
  path : List Char
  query : Option (List Char)
  fragment : Option (List Char)
  deriving DecidableEq, Repr

/-- Whether characters are a scheme, which begins with a letter; it may be empty. -/
def isScheme : List Char → Bool
  | [] => true
  | c :: rest =>
      c.isAlpha && rest.all fun c => c.isAlphanum || c == '+' || c == '.' || c == '-'

/-- The scheme before the first colon of a text and the rest. -/
def cutScheme (s : List Char) : List Char × List Char :=
  match cut ':' s with
  | (word, some rest) => if isScheme word then (word, rest) else ([], s)
  | (_, none) => ([], s)

/-- The authority behind two slashes and the rest. -/
def cutAuthority : List Char → List Char × List Char
  | '/' :: '/' :: rest => (rest.takeWhile (· != '/'), rest.dropWhile (· != '/'))
  | s => ([], s)

/-- A mark and the text after it, if there is one. -/
def marked (mark : Char) : Option (List Char) → List Char
  | none => []
  | some s => mark :: s

namespace Reference

/-- The parts that a text writes. -/
def ofText (s : List Char) : Reference :=
  let (rest, fragment) := cut '#' s
  let (rest, query) := cut '?' rest
  let (scheme, rest) := cutScheme rest
  let (authority, path) := cutAuthority rest
  ⟨scheme, authority, path, query, fragment⟩

/-- The text of the parts. -/
def text (r : Reference) : List Char :=
  (if r.scheme.isEmpty then [] else r.scheme ++ [':']) ++
    (if r.authority.isEmpty then [] else '/' :: '/' :: r.authority) ++
    r.path ++ marked '?' r.query ++ marked '#' r.fragment

end Reference

/-! ## 2. Authorities -/

/-- What an authority writes. -/
structure Authority where
  user : List Char
  host : List Char
  port : List Char
  deriving DecidableEq, Repr

/-- The text up to the last of the marks and the text after it, if there is such a mark. -/
def cutLast (mark : Char) (s : List Char) : Option (List Char × List Char) :=
  match cut mark s.reverse with
  | (behind, some before) => some (before.reverse, behind.reverse)
  | (_, none) => none

/-- The host in front of a text and the rest; a host in brackets may hold colons. -/
def cutHost (s : List Char) : List Char × List Char :=
  match if s.head? == some '[' then cutLast ']' s else none with
  | some (host, rest) => (host ++ [']'], rest)
  | none => (s.takeWhile (· != ':'), s.dropWhile (· != ':'))

namespace Authority

/-- The parts of an authority. -/
def ofText (s : List Char) : Authority :=
  let (user, rest) := (cutLast '@' s).getD ([], s)
  let (host, rest) := cutHost rest
  ⟨user, host, if rest.head? == some ':' then rest.drop 1 else rest⟩

end Authority

/-! ## 3. Faults -/

/-- The parts that an address is put together from. -/
inductive UrlPart where
  | scheme
  | authority
  | path
  | query
  | fragment
  | host
  deriving DecidableEq, Repr

/-- The word for a part. -/
def UrlPart.name : UrlPart → String
  | .scheme => "scheme"
  | .authority => "authority"
  | .path => "path"
  | .query => "query"
  | .fragment => "fragment"
  | .host => "host"

/-- Why a text is no address, or parts of one make none. -/
inductive UrlFault where
  | tooLong (part : Option UrlPart)
  | control (part : Option UrlPart) (c : Char) (index : Nat)
  | half (refusal : Utf8.Refusal)
  | host (fault : HostFault)
  | port (text : List Char)
  | pathBesideHost
  | doubleSlash
  | leadingColon
  deriving DecidableEq, Repr

/-- The words for a fault. -/
def UrlFault.message : UrlFault → String
  | .tooLong none => "URL too long"
  | .tooLong (some part) => s!"URL component '{part.name}' too long"
  | .control part c index =>
      let place := match part with
        | none => "URL"
        | some part => s!"URL {part.name} component"
      let shown := quoted (String.singleton c)
      s!"Invalid non-printable ASCII character in {place}, {shown} at position {index}."
  | .half refusal => refusal.message
  | .host fault => fault.message
  | .port text => s!"Invalid port: {quoted (String.ofList text)}"
  | .pathBesideHost => "For absolute URLs, path must be empty or begin with '/'"
  | .doubleSlash => "Relative URLs cannot have a path starting with '//'"
  | .leadingColon => "Relative URLs cannot have a path starting with ':'"

/-- The most characters of an address and of each of its parts. -/
def longestUrl : Nat := 65536

/-- Checks that a text is short enough and free of control characters. -/
def checkText (part : Option UrlPart) (s : List Char) : Except UrlFault Unit :=
  if longestUrl < s.length then .error (.tooLong part)
  else
    match s.zipIdx.find? fun (c, _) => c.toNat < 0x20 || c.toNat == 0x7F with
    | some (c, index) => .error (.control part c index)
    | none => .ok ()

/-! ## 4. Normal forms of the parts -/

/-- The characters that a fragment may not hold. -/
def fragmentUnsafe : List Char := "\"<>\x60".toList

/-- The characters that a query may not hold. -/
def queryUnsafe : List Char := "\"#<>".toList

/-- The characters that a path may not hold. -/
def pathUnsafe : List Char := "\"#<>?\x60\x7b\x7d".toList

/-- The characters that a user may not hold. -/
def userUnsafe : List Char := pathUnsafe ++ "/;=@[\\]^|".toList

/-- The text with escapes. Each character is written by itself, so a half is refused as the first one
    of a text. -/
def escaped (unsafeChars : List Char) (s : List Char) : Except UrlFault (List Char) :=
  match s.find? isHalf with
  | some c => .error (.half ⟨c, 0, 1⟩)
  | none => .ok (escapeExcept unsafeChars s)

/-- The port of a scheme. -/
def ownPort (scheme : List Char) : Option Int :=
  [("ftp", 21), ("http", 80), ("https", 443), ("ws", 80), ("wss", 443)].lookup
    (String.ofList scheme)

/-- The port that a text writes, unless it is the scheme's own. -/
def normalPort (scheme port : List Char) : Except UrlFault (Option Int) :=
  if port.isEmpty then .ok none
  else
    match Number.grouped? port with
    | none => .error (.port port)
    | some n => .ok (if ownPort scheme == some n then none else some n)

/-- One more name of a path without dots; two dots take the last one away, but not the start. -/
def pushName (names : List (List Char)) (name : List Char) : List (List Char) :=
  if name == ['.'] then names
  else if name == ['.', '.'] then (if names == [[]] then names else names.dropLast)
  else names ++ [name]

/-- The path without dots between slashes. -/
def withoutDots (path : List Char) : List Char :=
  let names := path.splitOn '/'
  if names.contains ['.'] || names.contains ['.', '.'] then
    ['/'].intercalate (names.foldl pushName [])
  else path

/-- Checks the path of an address with or without a scheme and an authority. -/
def checkPath (hasScheme hasAuthority : Bool) (path : List Char) : Except UrlFault Unit :=
  if hasAuthority then
    if path.isEmpty || path.head? == some '/' then .ok () else .error .pathBesideHost
  else if hasScheme then .ok ()
  else if path.take 2 == ['/', '/'] then .error .doubleSlash
  else if path.head? == some ':' then .error .leadingColon
  else .ok ()

/-! ## 5. Addresses -/

/-- An address. The host stands without the brackets that one with colons has in the text. -/
structure Url where
  scheme : List Char
  user : List Char
  host : List Char
  port : Option Int
  path : List Char
  query : Option (List Char)
  fragment : Option (List Char)
  deriving DecidableEq, Repr

/-- A host as it stands in the text. -/
def bracketed (host : List Char) : List Char :=
  if host.contains ':' then '[' :: host ++ [']'] else host

namespace Url

/-- The address that the parts of a reference and of its authority write. -/
def ofParts (r : Reference) (a : Authority) : Except UrlFault Url := do
  let scheme := r.scheme.map Char.toLower
  let user ← escaped userUnsafe a.user
  let host ← (normalHost a.host).mapError .host
  let port ← normalPort r.scheme a.port
  let hasScheme := !scheme.isEmpty
  let hasAuthority := !user.isEmpty || !host.isEmpty || port.isSome
  checkPath hasScheme hasAuthority r.path
  let path := if hasScheme || hasAuthority then withoutDots r.path else r.path
  let path ← escaped pathUnsafe path
  let query ← r.query.mapM (escaped queryUnsafe)
  let fragment ← r.fragment.mapM (escaped fragmentUnsafe)
  return { scheme, user, host, port, path, query, fragment }

/-- The address a text writes. -/
def ofText (text : String) : Except UrlFault Url := do
  checkText none text.toList
  let r := Reference.ofText text.toList
  ofParts r (.ofText r.authority)

/-- The host and the port as they are sent. -/
def place (u : Url) : List Char :=
  bracketed u.host ++ marked ':' (u.port.map fun n => (toString n).toList)

/-- The parts of the text of an address. -/
def reference (u : Url) : Reference where
  scheme := u.scheme
  authority := (if u.user.isEmpty then [] else u.user ++ ['@']) ++ u.place
  path := u.path
  query := u.query
  fragment := u.fragment

/-- The text of an address. -/
def text (u : Url) : String := String.ofList u.reference.text

/-- Checks each part that an address is put together from again. -/
def checkParts (r : Reference) : Except UrlFault Unit := do
  checkText (some .scheme) r.scheme
  checkText (some .authority) r.authority
  checkText (some .path) r.path
  checkText (some .query) (r.query.getD [])
  checkText (some .fragment) (r.fragment.getD [])

/-- The address with another host. -/
def withHost (u : Url) (host : List Char) : Except UrlFault Url := do
  checkParts u.reference
  checkText (some .host) (bracketed host)
  ofParts u.reference { Authority.ofText u.reference.authority with host := bracketed host }

/-- The address with another fragment. -/
def withFragment (u : Url) (fragment : List Char) : Except UrlFault Url := do
  let r := { u.reference with fragment := some fragment }
  checkParts r
  ofParts r (.ofText r.authority)

/-- The path and the query of an address as an address of their own. -/
def rooted (u : Url) : Except UrlFault Url := do
  let r : Reference := ⟨[], [], '/' :: u.path.dropWhile (· == '/'), u.query, none⟩
  checkParts r
  ofParts r (.ofText [])

/-- Whether an address says which host it is of and by which scheme. -/
def isAbsolute (u : Url) : Bool := !u.scheme.isEmpty && !u.host.isEmpty

/-- The text of a fragment, its escapes read as octets. -/
def fragmentText (u : Url) : List Char :=
  (receive (Utf8.decodeLossy (unescape (u.fragment.getD [])))).toList

end Url

end SchemaRecords.Web
