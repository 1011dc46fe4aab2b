import SchemaRecords.Charset.Names
import SchemaRecords.Web.MediaType

/-!
# Responses

* `Response` -- a status, the two headers that count, and the octets of the body;
* `reasonOf` -- the words for a status;
* `Response.text` -- the body as text, in the character set that the content type names;
* `Response.complaint?` -- what is wrong with a response whose status is no success.
-/

namespace SchemaRecords.Web

open Text

/-! ## 1. Statuses -/

/-- The words for the statuses that have any. -/
def reasons : List (Nat × String) :=
  [(100, "Continue"), (101, "Switching Protocols"), (102, "Processing"), (103, "Early Hints"),
    (200, "OK"), (201, "Created"), (202, "Accepted"), (203, "Non-Authoritative Information"),
    (204, "No Content"), (205, "Reset Content"), (206, "Partial Content"), (207, "Multi-Status"),
    (208, "Already Reported"), (226, "IM Used"), (300, "Multiple Choices"),
    (301, "Moved Permanently"), (302, "Found"), (303, "See Other"), (304, "Not Modified"),
    (305, "Use Proxy"), (307, "Temporary Redirect"), (308, "Permanent Redirect"),
    (400, "Bad Request"), (401, "Unauthorized"), (402, "Payment Required"), (403, "Forbidden"),
    (404, "Not Found"), (405, "Method Not Allowed"), (406, "Not Acceptable"),
    (407, "Proxy Authentication Required"), (408, "Request Timeout"), (409, "Conflict"),
    (410, "Gone"), (411, "Length Required"), (412, "Precondition Failed"),
    (413, "Request Entity Too Large"), (414, "Request-URI Too Long"),
    (415, "Unsupported Media Type"), (416, "Requested Range Not Satisfiable"),
    (417, "Expectation Failed"), (418, "I'm a teapot"), (421, "Misdirected Request"),
    (422, "Unprocessable Entity"), (423, "Locked"), (424, "Failed Dependency"),
    (425, "Too Early"), (426, "Upgrade Required"), (428, "Precondition Required"),
    (429, "Too Many Requests"), (431, "Request Header Fields Too Large"),
    (451, "Unavailable For Legal Reasons"), (500, "Internal Server Error"),
    (501, "Not Implemented"), (502, "Bad Gateway"), (503, "Service Unavailable"),
    (504, "Gateway Timeout"), (505, "HTTP Version Not Supported"),
    (506, "Variant Also Negotiates"), (507, "Insufficient Storage"), (508, "Loop Detected"),
    (510, "Not Extended"), (511, "Network Authentication Required")]

/-- The words for a status. -/
def reasonOf (status : Nat) : String := (reasons.lookup status).getD ""

/-- The statuses that lead elsewhere. -/
def redirects : List Nat := [301, 302, 303, 307, 308]

/-! ## 2. Responses -/

/-- A response. -/
structure Response where
  status : Nat
  contentType : Option String
  location : Option String
  body : List UInt8
  deriving DecidableEq, Repr

namespace Response

/-- The response of an address that nothing is known of. -/
def notFound : Response := ⟨404, none, none, []⟩

/-- Where a response leads, if it leads elsewhere. -/
def redirect? (r : Response) : Option String :=
  if redirects.contains r.status then r.location else none

/-- The class of a status in words. -/
def statusClass (status : Nat) : String :=
  match status / 100 with
  | 1 => "Informational response"
  | 3 => "Redirect response"
  | 4 => "Client error"
  | 5 => "Server error"
  | _ => "Invalid status code"

/-- Where the statuses are described. -/
def statusGuide : String := "https://developer.mozilla.org/en-US/docs/Web/HTTP/Status/"

/-- What is wrong with a response to a request for an address, if anything is. -/
def complaint? (r : Response) (url : String) : Option String :=
  if r.status / 100 == 2 then none
  else
    let head := s!"{statusClass r.status} '{r.status} {reasonOf r.status}' for url '{url}'\n"
    let middle :=
      match r.redirect? with
      | some location => s!"Redirect location: '{location}'\n"
      | none => ""
    some (head ++ middle ++ s!"For more information check: {statusGuide}{r.status}")

/-! ## 3. Bodies -/

/-- The octets as characters of a set; there is no text if one of them is malformed. -/
def reading? (charset octets : List Char) : Except Charset.Fault (Option (List Char)) :=
  if charset.contains (Char.ofNat 0) then .error .nullInName
  else
    let name := if charset.isEmpty then "us-ascii".toList else charset
    let bytes := octets.map fun c => UInt8.ofNat c.toNat
    return (Charset.find? name).bind (·.faithful? bytes)

/-- The name that the value of a parameter writes. -/
def nameOf : Word → Except Charset.Fault (List Char)
  | .plain text => .ok text
  | .marked charset octets => (reading? charset octets).map (·.getD octets)

/-- The name of the character set that a content type has, if it has one in basic characters. -/
def charsetName? (contentType : List Char) : Except Charset.Fault (Option (List Char)) := do
  match ← word? "charset".toList contentType with
  | none => return none
  | some word =>
      let name ← nameOf word
      return if name.all fun c => c.toNat < 0x80 then some (lower name) else none

/-- The text of octets in the set of a name, or in the form of Unicode in single octets if there is
    no such set. -/
def decode (name? : Option (List Char)) (bytes : List UInt8) : Except Charset.Fault String :=
  match name? with
  | none => .ok (receive (Utf8.decodeLossy bytes))
  | some name =>
      if name.contains (Char.ofNat 0) then .error .nullInName
      else
        match Charset.find? name with
        | none => .ok (receive (Utf8.decodeLossy bytes))
        | some set => (set.decode bytes).map (String.ofList ∘ Charset.text)

/-- The body as text, an empty one in any set. -/
def text (r : Response) : Except Charset.Fault String := do
  if r.body.isEmpty then return ""
  else
    let name? ← charsetName? (r.contentType.getD "").toList
    decode name? r.body

end Response

end SchemaRecords.Web
