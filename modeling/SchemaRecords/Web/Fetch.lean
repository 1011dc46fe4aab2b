import SchemaRecords.Outcome
import SchemaRecords.Web.Relative
import SchemaRecords.Web.Response

/-!
# Fetching

* `Routes` -- what the web answers at each address: a response, a failure of the connection, or an
  interruption by the user; every other address is not found;
* `redirected` -- the address that a location leads to;
* `fetch` -- the answer to a request for an address, after at most twenty redirects where those are
  followed;
* `FetchFault` -- why there is none.
-/

namespace SchemaRecords.Web

open Text

/-! ## 1. Routes -/

/-- What the web answers to a request. -/
inductive Reply where
  | response (r : Response)
  | failure (reason : String)
  | interrupt
  deriving DecidableEq, Repr

/-- What the web answers, and whether redirects are followed. -/
structure Routes where
  replies : List (String × Reply)
  follow : Bool

/-- The answer at an address. -/
def Routes.reply (r : Routes) (url : String) : Reply :=
  (r.replies.lookup url).getD (.response .notFound)

/-! ## 2. Faults -/

/-- A run of characters outside the basic alphabet, in a text that may only hold basic ones. -/
structure Foreign where
  first : Char
  position : Nat
  length : Nat
  deriving DecidableEq, Repr

/-- The first run of such characters of a text. -/
def Foreign.of? (s : List Char) : Option Foreign :=
  let basic := s.takeWhile fun c => c.toNat < 0x80
  match s.drop basic.length with
  | [] => none
  | c :: rest =>
      some ⟨c, basic.length, (rest.takeWhile fun c => 0x80 ≤ c.toNat).length + 1⟩

/-- A character as the escape of its number. -/
def escapedNumber (c : Char) : String :=
  let n := c.toNat
  String.ofList ('\\' :: (if n < 0x100 then 'x' :: hexFixed 2 n
    else if n < 0x10000 then 'u' :: hexFixed 4 n
    else 'U' :: hexFixed 8 n))

/-- The words for a run of such characters. -/
def Foreign.message (f : Foreign) : String :=
  let what :=
    if f.length == 1 then s!"character '{escapedNumber f.first}' in position {f.position}"
    else s!"characters in position {f.position}-{f.position + f.length - 1}"
  s!"'ascii' codec can't encode {what}: ordinal not in range(128)"

/-- Why there is no answer. -/
inductive FetchFault where
  | failure (reason : String)
  | interrupted
  | invalid (fault : UrlFault)
  | noScheme (url : String)
  | brackets (fault : BracketFault)
  | foreign (text : Foreign)
  | name (fault : LabelFault)
  deriving DecidableEq, Repr

/-- The words for a fault. -/
def FetchFault.message : FetchFault → String
  | .failure reason => reason
  | .interrupted => ""
  | .invalid fault => fault.message
  | .noScheme url => s!"unknown url type: {quoted url}"
  | .brackets fault => fault.message
  | .foreign text => text.message
  | .name fault => fault.message

/-! ## 3. Redirects -/

/-- Checks that a text holds basic characters alone. -/
def checkBasic (s : List Char) : Except FetchFault Unit :=
  match Foreign.of? s with
  | some text => .error (.foreign text)
  | none => .ok ()

/-- The name of the host of an address. -/
def hostName (url : Url) : Except FetchFault (List Char) :=
  (decodeName url.host).mapError .name

/-- Checks that the hosts of two addresses can be compared. -/
def checkHosts (first second : Url) : Except FetchFault Unit := do
  let _ ← hostName first
  let _ ← hostName second

/-- The address with a host: its own, or that of the base if it has a scheme alone. -/
def hosted (base target : Url) : Except FetchFault Url := do
  if target.scheme.isEmpty then return target
  else
    let name ← hostName target
    if name.isEmpty then
      let baseName ← hostName base
      (target.withHost baseName).mapError .invalid
    else return target

/-- The address that a location leads to from another address; the fragment goes with it. -/
def redirected (base : Url) (location : String) : Except FetchFault Url := do
  let target ← (Url.ofText location).mapError fun fault =>
    .failure s!"Invalid URL in location header: {fault.message}."
  let target ← hosted base target
  let target ←
    if target.isAbsolute then .ok target
    else do
      let text ← (resolve base.text.toList target.text.toList).mapError .brackets
      (Url.ofText (String.ofList text)).mapError .invalid
  let fragment := base.fragmentText
  let target ←
    if !fragment.isEmpty && target.fragmentText.isEmpty then
      (target.withFragment fragment).mapError .invalid
    else .ok target
  if target.scheme == base.scheme then checkHosts target base else checkHosts base target
  checkBasic target.place
  return target

/-! ## 4. Requests -/

/-- The most redirects that are followed. -/
def mostRedirects : Nat := 20

/-- A response and the address that gave it. -/
structure Fetched where
  url : String
  response : Response
  deriving DecidableEq, Repr

/-- Checks that the headers of a response hold basic characters alone. -/
def checkHeaders (r : Response) : Except FetchFault Unit := do
  checkBasic (r.contentType.getD "").toList
  checkBasic (r.location.getD "").toList

/-- Checks that the text of an address, its fragment aside, begins with a word and a colon. -/
def checkScheme (url : Url) : Except FetchFault Unit :=
  let text := url.text.toList
  let (front, fragment) := (cutLast '#' text).getD (text, [])
  let word := front.takeWhile fun c => c != '/' && c != ':'
  if !word.isEmpty && front[word.length]? == some ':' then .ok ()
  else .error (.noScheme (String.ofList (if fragment.isEmpty then front else text)))

/-- Requests an address, with some redirects left. -/
def request (routes : Routes) : Nat → Url → Outcome FetchFault Fetched
  | redirectsLeft, url =>
      match routes.reply url.text with
      | .failure reason => .fail (.failure reason)
      | .interrupt => .fail .interrupted
      | .response r => do
          Outcome.ofExcept (checkHeaders r)
          Outcome.ofExcept (checkScheme url)
          Outcome.note (.fetched url.text r.status (reasonOf r.status))
          match r.redirect? with
          | none => return ⟨url.text, r⟩
          | some location =>
              let target ← Outcome.ofExcept (redirected url location)
              if !routes.follow then return ⟨url.text, r⟩
              else
                match redirectsLeft with
                | 0 => .fail (.failure "Exceeded maximum allowed redirects.")
                | left + 1 => request routes left target

/-- The address that a text is asked for at: one without a host is a path of its own. -/
def requested (source : String) : Except FetchFault Url := do
  let url ← (Url.ofText source).mapError .invalid
  let url ← if url.isAbsolute then .ok url else url.rooted.mapError .invalid
  checkBasic url.place
  return url

/-- The answer at an address. -/
def fetch (routes : Routes) (source : String) : Outcome FetchFault Fetched := do
  let url ← Outcome.ofExcept (requested source)
  request routes mostRedirects url

end SchemaRecords.Web
