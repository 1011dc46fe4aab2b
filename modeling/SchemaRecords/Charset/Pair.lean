import SchemaRecords.Charset.Basic
import SchemaRecords.Charset.Table

/-!
# Characters of two octets

* `found` -- the step to the characters of a code, or over one malformed octet;
* `doubleStep` -- basic characters of one octet, and any others of two;
* `highCode?` -- the code of two octets that both are above the basic alphabet.
-/

namespace SchemaRecords.Charset

/-- The step to the characters of a code of some octets, or over its first octet if there are
    none. -/
def found {σ : Type} (length : Nat) (next : σ) : Option (List Char) → Step σ
  | some s => .characters s length next
  | none => .malformed 1 next

/-- What stands at an octet that needs a second one. -/
def pairStep (step : Nat → Nat → Step Unit) (b : Nat) : List UInt8 → Step Unit
  | [] => .unfinished
  | c :: _ => step b c.toNat

/-- What stands at an octet, where basic characters have one octet and others two. -/
def doubleStep (characters? : Nat → Nat → Option (List Char)) (b : Nat) (rest : List UInt8) :
    Step Unit :=
  if b < 0x80 then .character b 1 ()
  else pairStep (fun b c => found 2 () (characters? b c)) b rest

/-- A character as a text. -/
def alone (c : Option Char) : Option (List Char) := c.map ([·])

/-- The code of two octets. -/
def codeOf (b c : Nat) : Nat := b * 0x100 + c

/-- The code of two octets above the basic alphabet, both without their highest bit. -/
def highCode? (b c : Nat) : Option Nat :=
  if b < 0x80 || c < 0x80 then none else some (codeOf (b - 0x80) (c - 0x80))

end SchemaRecords.Charset
