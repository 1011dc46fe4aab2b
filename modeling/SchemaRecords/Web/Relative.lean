import SchemaRecords.Web.Url

/-!
# References relative to an address

A reference leads from one text of an address to another one.

* `Place` -- a path, the parameters of its last name, and a query;
* `joinPath` -- the path that a relative path leads to from another path;
* `BracketFault`, `checkBrackets` -- whether the brackets of an authority hold a number;
* `resolve` -- the text that a reference leads to from a base. A base of a scheme that knows no
  relative references, or of another scheme than the reference, does not count.
-/

namespace SchemaRecords.Web

open Text

/-! ## 1. Schemes -/

/-- The schemes whose references may be relative. -/
def relativeSchemes : List String :=
  ["", "ftp", "http", "gopher", "nntp", "imap", "wais", "file", "https", "shttp", "mms",
    "prospero", "rtsp", "rtsps", "rtspu", "sftp", "svn", "svn+ssh", "ws", "wss"]

/-- The schemes whose addresses have a host. -/
def hostedSchemes : List String :=
  relativeSchemes ++ ["telnet", "snews", "rsync", "nfs", "git", "git+ssh"]

/-- The schemes whose paths end in parameters. -/
def parameterSchemes : List String :=
  ["", "ftp", "hdl", "prospero", "http", "imap", "https", "shttp", "rtsp", "rtsps", "rtspu",
    "sip", "sips", "mms", "sftp", "tel"]

/-! ## 2. Paths -/

/-- A path, the parameters behind the first semicolon of its last name, and a query. -/
structure Place where
  path : List Char
  parameters : List Char
  query : List Char
  deriving DecidableEq, Repr

/-- The place that the parts of a reference write. -/
def Place.ofReference (scheme : List Char) (r : Reference) : Place :=
  let query := r.query.getD []
  let last := (r.path.reverse.takeWhile (· != '/')).reverse
  match cut ';' last with
  | (name, some parameters) =>
      if parameterSchemes.contains (String.ofList scheme) then
        ⟨r.path.take (r.path.length - last.length) ++ name, parameters, query⟩
      else ⟨r.path, [], query⟩
  | (_, none) => ⟨r.path, [], query⟩

/-- The names of a path on the way, two dots taking the last one away. -/
def walk (names : List (List Char)) : List (List Char) :=
  let done := names.foldl
    (fun done name =>
      if name == ['.', '.'] then done.dropLast else if name == ['.'] then done else done ++ [name])
    []
  let last := names.getLast?
  if last == some ['.'] || last == some ['.', '.'] then done ++ [[]] else done

/-- The names without empty ones between the first and the last. -/
def withoutGaps : List (List Char) → List (List Char)
  | [] => []
  | first :: rest => first :: (rest.dropLast.filter (!·.isEmpty) ++ rest.getLast?.toList)

/-- The path that a relative path leads to from another path. -/
def joinPath (base path : List Char) : List Char :=
  let names := path.splitOn '/'
  let all :=
    if path.head? == some '/' then names
    else
      let folder := base.splitOn '/'
      let folder := if folder.getLast? == some [] then folder else folder.dropLast
      withoutGaps (folder ++ names)
  let joined := ['/'].intercalate (walk all)
  if joined.isEmpty then ['/'] else joined

/-! ## 3. Brackets -/

/-- Why brackets stand in an authority in vain: one of them stands alone, what they hold is no
    number of a later version, it is a number of four parts, or it is no number at all. -/
inductive BracketFault where
  | alone
  | laterVersion
  | fourPart
  | noNumber (inner : List Char)
  deriving DecidableEq, Repr

/-- The words for a fault. -/
def BracketFault.message : BracketFault → String
  | .alone => "Invalid IPv6 URL"
  | .laterVersion => "IPvFuture address is invalid"
  | .fourPart => "An IPv4 address cannot be in brackets"
  | .noNumber inner =>
      s!"{quoted (String.ofList inner)} does not appear to be an IPv4 or IPv6 address"

/-- Whether a text is a number of a later version: a letter, the version, a full stop and the
    number. -/
def isLaterVersion (s : List Char) : Bool :=
  match cut '.' (s.drop 1) with
  | (version, some number) =>
      !version.isEmpty && version.all (fun c => (hexValue? c).isSome) && !number.isEmpty
  | (_, none) => false

/-- Checks what the brackets of an authority hold. -/
def checkBrackets (authority : List Char) : Except BracketFault Unit :=
  if authority.contains '[' != authority.contains ']' then .error .alone
  else if !authority.contains '[' then .ok ()
  else
    let inner := ((authority.dropWhile (· != '[')).drop 1).takeWhile (· != ']')
    if inner.head? == some 'v' then
      if isLaterVersion inner then .ok () else .error .laterVersion
    else if isFourPartNumber inner then .error .fourPart
    else if isColonNumber inner then .ok ()
    else .error (.noNumber inner)

/-! ## 4. References -/

/-- A text, unless it is empty. -/
def filled? (s : List Char) : Option (List Char) := if s.isEmpty then none else some s

/-- The text of a place of an authority. -/
def placeText (scheme authority : List Char) (place : Place) (fragment : List Char) : List Char :=
  let path := place.path ++ marked ';' (filled? place.parameters)
  let hosted := !authority.isEmpty ||
    (!scheme.isEmpty && hostedSchemes.contains (String.ofList scheme)) ||
    path.take 2 == ['/', '/']
  let rooted := if path.isEmpty || path.head? == some '/' then path else '/' :: path
  let front := if hosted then '/' :: '/' :: authority ++ rooted else path
  (if scheme.isEmpty then [] else scheme ++ [':']) ++ front ++
    marked '?' (filled? place.query) ++ marked '#' (filled? fragment)

/-- The text that a reference leads to from a base. -/
def resolve (base reference : List Char) : Except BracketFault (List Char) :=
  if base.isEmpty then .ok reference
  else if reference.isEmpty then .ok base
  else do
    let b := Reference.ofText base
    let r := Reference.ofText reference
    checkBrackets b.authority
    checkBrackets r.authority
    let baseScheme := b.scheme.map Char.toLower
    let scheme := if r.scheme.isEmpty then baseScheme else r.scheme.map Char.toLower
    if scheme != baseScheme || !relativeSchemes.contains (String.ofList scheme) then
      return reference
    else
      let there := Place.ofReference scheme r
      let fragment := r.fragment.getD []
      if !r.authority.isEmpty then return placeText scheme r.authority there fragment
      else
        let here := Place.ofReference baseScheme b
        let place :=
          if there.path.isEmpty && there.parameters.isEmpty then
            { here with query := if there.query.isEmpty then here.query else there.query }
          else { there with path := joinPath here.path there.path }
        return placeText scheme b.authority place fragment

end SchemaRecords.Web
