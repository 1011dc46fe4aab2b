/-!
# Control sequences of terminals

What is printed to a place that is no terminal is printed without the sequences of characters by
which a terminal is told of colours and the like.

* `sequenceLength?` -- the length of the control sequence at the front of some characters: an escape
  character and a bracket, some parameters, and a letter;
* `shown` -- a text without its control sequences, which are looked for from left to right; what
  comes together where one was is not looked at again.
-/

namespace SchemaRecords.Text

/-! ## 1. Sequences -/

/-- The character that a control sequence starts with. -/
def escape : Char := '\x1b'

/-- The characters that stand between the start of a control sequence and its end. -/
def isParameter (c : Char) : Bool := c.isDigit || c == ';' || c == '?'

/-- The length of some parameters and the letter behind them. -/
def endingLength? : List Char → Option Nat
  | [] => none
  | c :: rest =>
      if isParameter c then (endingLength? rest).map (· + 1)
      else if c.isAlpha then some 1
      else none

/-- The length of the control sequence that some characters start with. -/
def sequenceLength? : List Char → Option Nat
  | first :: '[' :: rest => if first == escape then (endingLength? rest).map (· + 2) else none
  | _ => none

/-! ## 2. What is shown -/

/-- The characters without the control sequences, where the first `skip` belong to one. -/
def dropSequences : Nat → List Char → List Char
  | _, [] => []
  | skip + 1, _ :: rest => dropSequences skip rest
  | 0, c :: rest =>
      match sequenceLength? (c :: rest) with
      | some length => dropSequences (length - 1) rest
      | none => c :: dropSequences 0 rest

/-- The text without its control sequences. -/
def shown (text : String) : String := String.ofList (dropSequences 0 text.toList)

example : shown "\x1b[1mBold\x1b[0m \x1b[ \x1b]" = "Bold \x1b[ \x1b]" := by decide +kernel

end SchemaRecords.Text
