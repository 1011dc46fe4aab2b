import SchemaRecords.Command.Page
import SchemaRecords.Fault

/-!
# Requests

A request is what the arguments ask for, once they are found in order.

* `Request` -- the verb with what it needs, the source, and where its result goes;
* `Request.ofArguments` -- reads the arguments of the program up to its verb, and those behind it
  by the switches of the verb;
* `Stop` -- why nothing is done: help was asked for, or the arguments are not in order.

Help comes before every value. The options that were given are looked at in the order in which they
came first, then the source, then the options that are missing; arguments left over come last.
-/

namespace SchemaRecords.Command

open Name (Policy)

/-! ## 1. Requests -/

/-- What is to be read, and the name of the root record of a schema. -/
inductive Task where
  | schema (root : String)
  | tools
  deriving DecidableEq, Repr

/-- What the arguments ask for. -/
structure Request where
  verbose : Bool
  task : Task
  source : String
  space : String
  policy : Policy
  output : Option String
  deriving DecidableEq, Repr

/-! ## 2. Faults of usage -/

/-- What is wrong with the way the program was called. -/
inductive UsageFault where
  | argument (fault : ArgumentFault)
  | noVerb
  | unknownVerb (word : String) (near : List String)
  | isFolder (value : String)
  | unknownPolicy (value : String)
  | noSource
  | noRoot
  | extra (arguments : List String)
  deriving DecidableEq, Repr

namespace UsageFault

/-- The words for the value of an option that is refused. -/
def refusedValue (s : Switch) (reason : String) : String :=
  s!"Invalid value for '{s.long}': {reason}"

/-- The words for what is wrong. -/
def message : UsageFault → String
  | .argument fault => fault.message
  | .noVerb => "Missing command."
  | .unknownVerb word near => s!"No such command {Text.quoted word}." ++ offer near
  | .isFolder value => refusedValue outputSwitch s!"File {Text.quoted value} is a directory."
  | .unknownPolicy value =>
      let words := ", ".intercalate (Policy.all.map fun p => Text.quoted p.name)
      refusedValue policySwitch s!"{Text.quoted value} is not one of {words}."
  | .noSource => "Missing argument 'SOURCE'."
  | .noRoot => s!"Missing option '{rootSwitch.long}'."
  | .extra [word] => s!"Got unexpected extra argument ({word})"
  | .extra words =>
      let listed := " ".intercalate words
      s!"Got unexpected extra arguments ({listed})"

/-- Whether the usage of the page is shown before the words; the value of an option, missing or
    unwanted, is a matter of that option alone. -/
def showsUsage : UsageFault → Bool
  | .argument (.noValue _) => false
  | .argument (.unwantedValue _) => false
  | _ => true

/-- The whole text about what is wrong. -/
def text (page : Page) (fault : UsageFault) : String :=
  let usage := if fault.showsUsage then page.usage ++ page.hint ++ "\n" else ""
  s!"{usage}Error: {fault.message}\n"

end UsageFault

/-- Why nothing is done. -/
inductive Stop where
  | noArguments
  | help (page : Page)
  | misused (page : Page) (fault : UsageFault)
  | broken (fault : Fault)
  deriving DecidableEq, Repr

/-! ## 3. Reading -/

/-- The arguments of a page, sorted out, unless they ask for help. -/
def readPage (page : Page) (anywhere : Bool) (arguments : List String) : Except Stop Given :=
  match read page.switches anywhere arguments with
  | .error fault => .error (.misused page (.argument fault))
  | .ok given => if given.has .help then .error (.help page) else .ok given

/-- Looks at the value of an option: the file to write has a path and is no folder, and the policy is
    known. -/
def checkValue (tree : File.Tree) (page : Page) (key : Key) (value : String) : Except Stop Unit :=
  match key with
  | .output =>
      match Text.Utf8.refusal? .lenient value with
      | some refusal => .error (.broken (.unencodable refusal))
      | none =>
          if value.contains (Char.ofNat 0) then .error (.broken (.nullInPath (some "stat")))
          else if value != "" && tree.isFolder (.ofText value) then
            .error (.misused page (.isFolder value))
          else .ok ()
  | .policy =>
      if (Policy.ofName? value).isSome then .ok ()
      else .error (.misused page (.unknownPolicy value))
  | _ => .ok ()

/-- Looks at the values of options, one after the other. -/
def checkValues (tree : File.Tree) (page : Page) (given : Given) : List Key → Except Stop Unit
  | [] => .ok ()
  | key :: rest => do
      checkValue tree page key ((given.value? key).getD "")
      checkValues tree page given rest

/-- The task of a verb. -/
def taskOf (page : Page) (given : Given) : Verb → Except Stop Task
  | .tools => .ok .tools
  | .schema =>
      match given.value? .root with
      | some root => .ok (.schema root)
      | none => .error (.misused page .noRoot)

/-- The request of a verb and the arguments behind it. -/
def Request.ofVerb (tree : File.Tree) (verbose : Bool) (verb : Verb) (arguments : List String) :
    Except Stop Request := do
  let page := Page.verb verb
  let given ← readPage page true arguments
  checkValues tree page given given.keys
  match given.others with
  | [] => .error (.misused page .noSource)
  | source :: extra => do
      let task ← taskOf page given verb
      if extra.isEmpty then
        return {
          verbose := verbose
          task := task
          source := source
          space := (given.value? .space).getD Source.defaultSpace
          policy := ((given.value? .policy).bind Policy.ofName?).getD .refuse
          output := given.value? .output }
      else .error (.misused page (.extra extra))

/-- The request of the arguments of the program. What stands in place of a verb and is none is read
    once more, as it may be an option behind two hyphens. -/
def Request.ofArguments (tree : File.Tree) (arguments : List String) : Except Stop Request := do
  if arguments.isEmpty then .error .noArguments
  else
    let given ← readPage .program false arguments
    match given.others with
    | [] => .error (.misused .program .noVerb)
    | word :: rest =>
        match Verb.ofName? word with
        | some verb => Request.ofVerb tree (given.has .verbose) verb rest
        | none => do
            let _ ← readPage .program false given.others
            let near := Text.closeMatches word (Verb.all.map Verb.name)
            .error (.misused .program (.unknownVerb word near))

end SchemaRecords.Command
