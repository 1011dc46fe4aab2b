import SchemaRecords.Command.Arguments
import SchemaRecords.Name.Scope

/-!
# Help pages

* `Verb` -- what the program can be asked to do;
* `Page` -- the program as a whole, or one verb: its switches, its usage line and its help;
* `table` -- two columns, the first as wide as its widest entry and two blanks.
-/

namespace SchemaRecords.Command

/-! ## 1. Verbs and pages -/

/-- What the program can be asked to do. -/
inductive Verb where
  | schema
  | tools
  deriving DecidableEq, Repr

/-- The word for a verb. -/
def Verb.name : Verb → String
  | .schema => "schema"
  | .tools => "tools"

/-- The verbs, in the order they are listed. -/
def Verb.all : List Verb := [.schema, .tools]

/-- The verb a word stands for. -/
def Verb.ofName? (word : String) : Option Verb := Verb.all.find? (·.name == word)

@[simp] theorem Verb.ofName?_name (v : Verb) : Verb.ofName? v.name = some v := by
  cases v <;> decide

/-- What a verb does. -/
def Verb.purpose : Verb → String
  | .schema => "Render records for the JSON Schema at SOURCE (file path or URL)."
  | .tools => "Render \x7bTool\x7dRequest records for the tool manifest at SOURCE."

/-- The program as a whole, or one of its verbs. -/
inductive Page where
  | program
  | verb (v : Verb)
  deriving DecidableEq, Repr

/-! ## 2. Switches -/

/-- Asks for more notices. -/
def verboseSwitch : Switch :=
  ⟨.verbose, "--verbose", some 'v', none, ["Enable debug logging"]⟩

/-- Asks for help. -/
def helpSwitch : Switch :=
  ⟨.help, "--help", some 'h', none, ["Show this message and exit."]⟩

/-- Names the root record. -/
def rootSwitch : Switch :=
  ⟨.root, "--name", none, some "TEXT", ["Name of the root record  [required]"]⟩

/-- Names the namespace of the records. -/
def spaceSwitch : Switch :=
  ⟨.space, "--namespace", none, some "TEXT",
    ["C# namespace for the generated records", "[default: Generated]"]⟩

/-- Names the file to write. -/
def outputSwitch : Switch :=
  ⟨.output, "--output", none, some "FILE", ["File to write; prints to stdout when omitted"]⟩

/-- Chooses the policy about names that are taken. -/
def policySwitch : Switch :=
  ⟨.policy, "--on-collision", none, some "[error|suffix]",
    ["Fail on duplicate record names, or rename", "later ones Name2, Name3, ...  [default:",
      "error]"]⟩

/-- The switches of a page. -/
def Page.switches : Page → List Switch
  | .program => [verboseSwitch, helpSwitch]
  | .verb .schema => [rootSwitch, spaceSwitch, outputSwitch, policySwitch, helpSwitch]
  | .verb .tools => [spaceSwitch, outputSwitch, policySwitch, helpSwitch]

/-! ## 3. Tables -/

/-- Some blanks. -/
def blanks (n : Nat) : String := String.ofList (List.replicate n ' ')

/-- The lines of a table with entries on the left and their lines on the right. -/
def table (rows : List (String × List String)) : String :=
  let width := (rows.map fun row => row.1.length).foldl max 0 + 2
  let show1 := fun (row : String × List String) =>
    let first := "  " ++ row.1 ++ blanks (width - row.1.length)
    first ++ ("\n" ++ blanks (width + 2)).intercalate row.2 ++ "\n"
  String.join (rows.map show1)

/-- The names of a switch and the word for its value. -/
def Switch.shown (s : Switch) : String :=
  let letter :=
    match s.letter with
    | some c => String.ofList ['-', c] ++ ", "
    | none => ""
  let value :=
    match s.value with
    | some word => " " ++ word
    | none => ""
  letter ++ s.long ++ value

/-! ## 4. Pages -/

namespace Page

/-- The words that call the program up to the page. -/
def path : Page → String
  | .program => "dtogen"
  | .verb v => "dtogen " ++ v.name

/-- The arguments that a page takes. -/
def pattern : Page → String
  | .program => "[OPTIONS] COMMAND [ARGS]..."
  | .verb _ => "[OPTIONS] SOURCE"

/-- What the page is for. -/
def purpose : Page → String
  | .program => "Generate immutable C# records from JSON Schema."
  | .verb v => v.purpose

/-- The usage line. -/
def usage (p : Page) : String := s!"Usage: {p.path} {p.pattern}\n"

/-- Where to find help. -/
def hint (p : Page) : String := s!"Try '{p.path} --help' for help.\n"

/-- The list of verbs. -/
def verbs : Page → String
  | .program => "\nCommands:\n" ++ table (Verb.all.map fun v => (v.name, [v.purpose]))
  | .verb _ => ""

/-- The whole page. -/
def help (p : Page) : String :=
  let options := table (p.switches.map fun s => (s.shown, s.purpose))
  s!"{p.usage}\n  {p.purpose}\n\nOptions:\n{options}{p.verbs}"

end Page

end SchemaRecords.Command
