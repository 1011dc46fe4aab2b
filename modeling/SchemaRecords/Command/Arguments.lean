import SchemaRecords.Text.Part
import SchemaRecords.Text.Quoted
import SchemaRecords.Text.Similarity

/-!
# Arguments of a command

Arguments are options, values of options, and all others, which stand for themselves.

* `Switch` -- an option with its names; some take a value;
* `readOne` -- what an argument says by itself: a long option may have its value behind an equals
  sign, the letters behind one hyphen are options of their own, two hyphens end the options;
* `read` -- sorts all arguments out;
* `ArgumentFault` -- an option is unknown, lacks its value or takes none.
-/

namespace SchemaRecords.Command

/-! ## 1. Switches -/

/-- What an option is about. -/
inductive Key where
  | verbose
  | help
  | root
  | space
  | output
  | policy
  deriving DecidableEq, Repr

/-- An option: its names, the word for its value if it takes one, and what it is for. -/
structure Switch where
  key : Key
  long : String
  letter : Option Char
  value : Option String
  purpose : List String
  deriving DecidableEq, Repr

/-- Whether the option takes a value. -/
def Switch.takesValue (s : Switch) : Bool := s.value.isSome

/-- The option with a long name. -/
def findLong (switches : List Switch) (name : String) : Option Switch :=
  switches.find? (·.long == name)

/-- The option with a letter. -/
def findLetter (switches : List Switch) (letter : Char) : Option Switch :=
  switches.find? (·.letter == some letter)

/-! ## 2. Faults -/

/-- What is wrong with the arguments. -/
inductive ArgumentFault where
  | unknown (option : String) (near : List String)
  | noValue (option : String)
  | unwantedValue (option : String)
  deriving DecidableEq, Repr

/-- The words that offer what is near to an unknown word, in alphabetical order. -/
def offer : List String → String
  | [] => ""
  | [word] => s!" Did you mean {Text.quoted word}?"
  | words =>
      let sorted := words.mergeSort fun a b => decide (a ≤ b)
      let listed := ", ".intercalate (sorted.map Text.quoted)
      s!" (Did you mean one of: {listed}?)"

/-- The words for what is wrong with the arguments. -/
def ArgumentFault.message : ArgumentFault → String
  | .unknown option near => s!"No such option {Text.quoted option}." ++ offer near
  | .noValue option => s!"Option {Text.quoted option} requires an argument."
  | .unwantedValue option => s!"Option {Text.quoted option} does not take a value."

/-! ## 3. Single arguments -/

/-- Options and their values; an option without a value has the empty text. -/
abbrev Settings := List (Key × String)

/-- What an argument says by itself. -/
inductive Reading where
  | ending
  | other
  | options (given : Settings)
  | asking (given : Settings) (key : Key) (option : String)
  deriving DecidableEq, Repr

/-- The text before the first equals sign and, if there is one, the text after it. -/
def cutValue (argument : String) : String × Option String :=
  let (name, value) := Text.cut '=' argument.toList
  (String.ofList name, value.map String.ofList)

/-- What a long option says, with or without a value behind an equals sign. -/
def readLong (s : Switch) (name : String) (value : Option String) :
    Except ArgumentFault Reading :=
  match s.takesValue, value with
  | true, some v => .ok (.options [(s.key, v)])
  | true, none => .ok (.asking [] s.key name)
  | false, some _ => .error (.unwantedValue name)
  | false, none => .ok (.options [(s.key, "")])

/-- What letters say, after some that were read. An option that takes a value takes all letters
    behind its own for it. -/
def readLetters (switches : List Switch) (given : Settings) :
    List Char → Except ArgumentFault Reading
  | [] => .ok (.options given)
  | c :: rest =>
      let name := String.ofList ['-', c]
      match findLetter switches c with
      | none => .error (.unknown name [])
      | some s =>
          if s.takesValue then
            if rest.isEmpty then .ok (.asking given s.key name)
            else .ok (.options (given ++ [(s.key, String.ofList rest)]))
          else readLetters switches (given ++ [(s.key, "")]) rest

/-- What an argument says by itself. -/
def readOne (switches : List Switch) (argument : String) : Except ArgumentFault Reading :=
  match argument.toList with
  | ['-', '-'] => .ok .ending
  | '-' :: c :: rest =>
      let (name, value) := cutValue argument
      match findLong switches name with
      | some s => readLong s name value
      | none =>
          if c == '-' then
            .error (.unknown name (Text.closeMatches name (switches.map Switch.long)))
          else readLetters switches [] (c :: rest)
  | _ => .ok .other

/-! ## 4. All arguments -/

/-- The options that were given, in order, and the other arguments. -/
structure Given where
  options : Settings
  others : List String
  deriving DecidableEq, Repr

namespace Given

/-- The same after some more options. -/
def after (given : Settings) (g : Given) : Given := { g with options := given ++ g.options }

/-- The same after one more argument that is no option. -/
def afterOther (argument : String) (g : Given) : Given := { g with others := argument :: g.others }

/-- The keys of the options, each where it came first. -/
def keys (g : Given) : List Key := (g.options.map (·.1)).eraseDups

/-- The value an option was given last. -/
def value? (g : Given) (key : Key) : Option String := g.options.reverse.lookup key

/-- Whether an option was given. -/
def has (g : Given) (key : Key) : Bool := (g.value? key).isSome

end Given

/-- Sorts arguments out. Unless options may stand anywhere, the first other argument ends them. -/
def read (switches : List Switch) (anywhere : Bool) : List String → Except ArgumentFault Given
  | [] => .ok ⟨[], []⟩
  | argument :: rest =>
      match readOne switches argument with
      | .error fault => .error fault
      | .ok .ending => .ok ⟨[], rest⟩
      | .ok .other =>
          if anywhere then (read switches anywhere rest).map (.afterOther argument)
          else .ok ⟨[], argument :: rest⟩
      | .ok (.options given) => (read switches anywhere rest).map (.after given)
      | .ok (.asking given key option) =>
          match rest with
          | [] => .error (.noValue option)
          | value :: rest => (read switches anywhere rest).map (.after (given ++ [(key, value)]))

end SchemaRecords.Command
