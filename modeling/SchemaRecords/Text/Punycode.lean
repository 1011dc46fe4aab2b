import SchemaRecords.Text.Half

/-!
# Texts in the basic alphabet

A text with other characters is written with the basic ones first and then the places and numbers
of the others, as digits to the base 36 of variable length.

* `adapt` -- the bias that fits the next number;
* `digits`, `readNumber` -- a number as digits whose weights depend on the bias, and back;
* `encode`, `decode` -- a text in the basic alphabet, and back.
-/

namespace SchemaRecords.Text.Punycode

/-! ## 1. Numbers -/

/-- The digit of a number below 36. -/
def digit (n : Nat) : Char := if n < 26 then Char.ofNat (0x61 + n) else Char.ofNat (0x30 + n - 26)

/-- The threshold of the digit with weight index `k`, in steps of 36. -/
def threshold (k bias : Nat) : Nat := if k ≤ bias then 1 else if bias + 26 ≤ k then 26 else k - bias

/-- Divides by 35 down to 455, counting in steps of 36. -/
def reduce (delta k : Nat) : Nat × Nat :=
  if _h : 455 < delta then reduce (delta / 35) (k + 36) else (delta, k)
termination_by delta
decreasing_by omega

/-- The bias after a number, the first one or a later one, with `points` characters written. -/
def adapt (delta points : Nat) (first : Bool) : Nat :=
  let halved := if first then delta / 700 else delta / 2
  let (rest, k) := reduce (halved + halved / points) 0
  k + 36 * rest / (rest + 38)

/-- A number as digits to a bias; the number of steps bounds their number. -/
def digits (bias : Nat) : Nat → Nat → Nat → List Char
  | 0, _, _ => []
  | steps + 1, k, q =>
      let t := threshold k bias
      if q < t then [digit q]
      else digit (t + (q - t) % (36 - t)) :: digits bias steps (k + 36) ((q - t) / (36 - t))

/-! ## 2. Labels -/

/-- What is known while a label is written: the number last written for, the distance since, the
    bias, and how many characters are written. -/
structure State where
  next : Nat
  delta : Nat
  bias : Nat
  written : Nat

/-- Passes over the characters of a label, writing those of the given number. -/
def pass (basic : Nat) (s : State) : List Nat → State × List Char
  | [] => (s, [])
  | c :: rest =>
      if c < s.next then pass basic { s with delta := s.delta + 1 } rest
      else if c == s.next then
        let text := digits s.bias (s.delta + 1) 36 s.delta
        let bias := adapt s.delta (s.written + 1) (s.written == basic)
        let (s, more) := pass basic { s with delta := 0, bias, written := s.written + 1 } rest
        (s, text ++ more)
      else pass basic s rest

/-- Writes the characters that are not basic in the order of their numbers, one number a round. -/
def rounds (points : List Nat) (basic : Nat) : Nat → State → List Char
  | 0, _ => []
  | steps + 1, s =>
      match (points.filter (s.next ≤ ·)).min? with
      | none => []
      | some m =>
          let s := { s with delta := s.delta + (m - s.next) * (s.written + 1), next := m }
          let (s, text) := pass basic s points
          text ++ rounds points basic steps { s with delta := s.delta + 1, next := m + 1 }

/-- A text in the basic alphabet; a hyphen follows its basic characters. -/
def encode (s : List Char) : List Char :=
  let basic := s.filter fun c => c.toNat < 0x80
  let start : State := ⟨0x80, 0, 72, basic.length⟩
  let mark := if basic.isEmpty then [] else ['-']
  basic ++ mark ++ rounds (s.map Char.toNat) basic.length s.length start

/-! ## 3. Reading -/

/-- The value of a digit to the base 36. -/
def digitValue? (c : Char) : Option Nat :=
  let n := c.toNat
  if 0x61 ≤ n && n ≤ 0x7A then some (n - 0x61)
  else if 0x41 ≤ n && n ≤ 0x5A then some (n - 0x41)
  else if 0x30 ≤ n && n ≤ 0x39 then some (n - 0x30 + 26)
  else none

/-- The number at the front of digits and the digits after it. -/
def readNumber (bias k weight : Nat) : List Char → Option (Nat × List Char)
  | [] => none
  | c :: rest => do
      let d ← digitValue? c
      let t := threshold k bias
      if d < t then some (d * weight, rest)
      else
        let (more, rest) ← readNumber bias (k + 36) (weight * (36 - t)) rest
        some (d * weight + more, rest)

/-- Where characters are put into a text: the number of the last one, the place behind it, the bias,
    and whether none was put in yet. -/
structure Insertion where
  number : Nat
  place : Nat
  bias : Nat
  first : Bool

/-- Puts characters into a text: each number of the digits says how far the next one is from the
    last, counted over all places and then over all characters; `pick` turns what is counted into
    the number of a character. The answer is the text as far as the digits can be read, and whether
    that is to their end. -/
def insertAll (pick : Nat → Option Nat) : Nat → Insertion → List Char → List Char →
    List Char × Bool
  | _, _, text, [] => (text, true)
  | 0, _, text, _ => (text, false)
  | steps + 1, i, text, digits =>
      match readNumber i.bias 36 1 digits with
      | none => (text, false)
      | some (delta, rest) =>
          let places := text.length + 1
          let place := (i.place + delta) % places
          match pick (i.number + (i.place + delta) / places) with
          | none => (text, false)
          | some number =>
              let next : Insertion := ⟨number, place + 1, adapt delta places i.first, false⟩
              insertAll pick steps next (text.take place ++ ofNumber number :: text.drop place) rest

/-- The number of a character or of a half. -/
def existing? (n : Nat) : Option Nat := if n < 0x110000 then some n else none

/-- The number of a character or of a half, a question mark beyond the last one. -/
def nearest? (n : Nat) : Option Nat := if n < 0x110000 then some n else some 0x3F

/-- The text as far as it is written with some basic characters and some digits. -/
def insert (pick : Nat → Option Nat) (basic digits : List Char) : List Char × Bool :=
  insertAll pick digits.length ⟨0x80, 0, 72, true⟩ basic digits

/-- The basic characters before the last hyphen, and the digits behind it. -/
def parts (s : List Char) : List Char × List Char :=
  let digits := (s.reverse.takeWhile (· != '-')).reverse
  (s.take (s.length - digits.length - 1), digits)

/-- The text that is written in the basic alphabet. -/
def decode (s : List Char) : Option (List Char) :=
  let (basic, digits) := parts s
  match insert existing? basic digits with
  | (text, true) => some text
  | (_, false) => none

end SchemaRecords.Text.Punycode
