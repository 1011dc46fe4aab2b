import SchemaRecords.Generate
import SchemaRecords.Yaml.OfText

/-!
# Loading documents

A source is the path of a file or an address on the web.

* `World` -- what can be reached: a file tree and the web, and what becomes of halves of pairs that
  are printed;
* `isAddress` -- whether a source is an address, by its first characters alone;
* `loadDocument` -- the entries of the mapping that a source holds, in JSON or YAML. A file is YAML
  by the suffix of its name, whatever its case; a page is YAML by its content type or by the end of
  its address;
* `loadSchema`, `loadTools` -- the schema and the tools of a source.
-/

namespace SchemaRecords

open Document

/-! ## 1. Sources -/

/-- What can be reached. -/
structure World where
  tree : File.Tree
  web : Web.Routes
  stdout : Text.Utf8.Handling := .strict

/-- Whether a source is an address on the web. -/
def isAddress (source : String) : Bool :=
  Text.startsWith "http://" source || Text.startsWith "https://" source

/-- The suffixes of YAML files. -/
def yamlSuffixes : List String := [".yaml", ".yml"]

/-- A text and the format it is in. -/
structure SourceText where
  text : String
  isYaml : Bool
  deriving DecidableEq, Repr

/-- The octets of a file, at a path that can be written and holds no null character. -/
def readOctets (tree : File.Tree) (source : String) : Except Fault (List UInt8) :=
  let path := File.Path.ofText source
  match Text.Utf8.refusal? .lenient path.text with
  | some refusal => .error (.unencodable refusal)
  | none =>
      if source.contains (Char.ofNat 0) then .error (.nullInPath none)
      else (tree.read path).mapError fun denial => .document source (.unreadable denial)

theorem readOctets_eq {source : String}
    (htaken : Text.Utf8.refusal? .lenient (File.Path.ofText source).text = none)
    (hnull : source.contains (Char.ofNat 0) = false) (tree : File.Tree) :
    readOctets tree source =
      (tree.read (.ofText source)).mapError fun denial => .document source (.unreadable denial) := by
  unfold readOctets
  dsimp only
  rw [htaken]
  dsimp only
  rw [hnull, if_neg Bool.false_ne_true]

/-- The text of a file: its line breaks are all line feeds. -/
def readFile (tree : File.Tree) (source : String) : Except Fault SourceText := do
  let octets ← readOctets tree source
  let text ← (Text.Utf8.decode octets).mapError .encoding
  let isYaml := (File.Path.ofText source).hasSuffix yamlSuffixes
  return ⟨String.ofList (Text.unifyBreaks (Text.receive text).toList), isYaml⟩

/-- The text of a page, as it is. -/
def readPage (web : Web.Routes) (source : String) : Outcome Fault SourceText := do
  let fetched ← (Web.fetch web source).mapError (.ofFetch source)
  match fetched.response.complaint? fetched.url with
  | some complaint => .fail (.document source (.unfetched complaint))
  | none =>
      let named := Text.mentions "yaml" (fetched.response.contentType.getD "")
      let text ← Outcome.ofExcept (fetched.response.text.mapError .charset)
      return ⟨text, named || yamlSuffixes.any (Text.endsWith · source)⟩

/-- The text of a source. -/
def readSource (world : World) (source : String) : Outcome Fault SourceText :=
  if isAddress source then readPage world.web source
  else Outcome.ofExcept (readFile world.tree source)

/-! ## 2. Documents -/

/-- The value of the text of a source. -/
def parseSource (source : String) (s : SourceText) : Except Fault Value :=
  if s.isYaml then (Value.ofYaml s.text).mapError (.ofYamlDocument source)
  else (Value.ofJson s.text).mapError (.ofJsonDocument source s.text)

/-- The entries of the mapping that a source holds. -/
def loadDocument (world : World) (source : String) : Outcome Fault Entries := do
  let text ← readSource world source
  let value ← Outcome.ofExcept (parseSource source text)
  match value with
  | .mapping entries => do
      Outcome.note (.loaded source)
      return entries
  | _ => .fail (.document source .notMapping)

/-- The schema of a source. -/
def loadSchema (world : World) (source : String) : Outcome Fault Schema := do
  let entries ← loadDocument world source
  Outcome.ofExcept ((Schema.ofValue (.mapping entries)).mapError .ofSchema)

/-- The tools of a source. -/
def loadTools (world : World) (source : String) : Outcome Fault (List Tool) := do
  let entries ← loadDocument world source
  Outcome.ofExcept ((Tool.ofManifest entries).mapError .ofTool)

end SchemaRecords
