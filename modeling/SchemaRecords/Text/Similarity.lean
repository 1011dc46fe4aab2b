/-!
# Similar words

How alike two words are, by the blocks of characters that they share.

* `longestBlock` -- the longest block of two words, of equally long ones the first in the first
  word, and then in the second;
* `shared` -- the characters in that block and, on both sides of it, in the blocks found in the
  same way;
* `Ratio` -- twice the shared characters over all characters;
* `closeMatches` -- the three most similar words of a list that are similar enough.
-/

namespace SchemaRecords.Text

/-! ## 1. Shared blocks -/

/-- How many characters two words have in common at their front. -/
def commonStart : List Char → List Char → Nat
  | a :: s, b :: t => if a == b then commonStart s t + 1 else 0
  | _, _ => 0

/-- A block: where it starts in the two words, and its length. -/
structure Block where
  first : Nat
  second : Nat
  length : Nat

/-- The longer block, the former one of equally long ones. -/
def Block.longer (x y : Block) : Block := if x.length < y.length then y else x

/-- The longest block that starts at the front of the first word. -/
def longestHere (first : Nat) (s : List Char) : Nat → List Char → Block
  | second, [] => ⟨first, second, 0⟩
  | second, b :: t =>
      Block.longer ⟨first, second, commonStart s (b :: t)⟩ (longestHere first s (second + 1) t)

/-- The longest block of two words. -/
def longestBlock (t : List Char) : Nat → List Char → Block
  | first, [] => ⟨first, 0, 0⟩
  | first, a :: s => (longestHere first (a :: s) 0 t).longer (longestBlock t (first + 1) s)

/-- The characters that two words share; the length of the first bounds the steps. -/
def sharedIn : Nat → List Char → List Char → Nat
  | 0, _, _ => 0
  | steps + 1, s, t =>
      let b := longestBlock t 0 s
      if b.length == 0 then 0
      else
        sharedIn steps (s.take b.first) (t.take b.second) + b.length +
          sharedIn steps (s.drop (b.first + b.length)) (t.drop (b.second + b.length))

/-- The characters that two words share. -/
def shared (s t : List Char) : Nat := sharedIn s.length s t

/-! ## 2. Close matches -/

/-- The shared characters of two words, and all their characters. -/
structure Ratio where
  shared : Nat
  total : Nat

/-- How alike two words are. -/
def Ratio.of (s t : String) : Ratio := ⟨Text.shared s.toList t.toList, s.length + t.length⟩

/-- Whether twice the shared characters are three fifths of all, or more. -/
def Ratio.isClose (r : Ratio) : Bool := 3 * r.total ≤ 10 * r.shared

/-- Whether a word comes before another one: it is more alike, or as much and greater. -/
def comesFirst (x y : Ratio × String) : Bool :=
  let a := x.1.shared * y.1.total
  let b := y.1.shared * x.1.total
  b < a || (a == b && decide (y.2 ≤ x.2))

/-- The three words that are most like the given one, of those that are close to it. -/
def closeMatches (word : String) (words : List String) : List String :=
  let rated := words.map fun w => (Ratio.of w word, w)
  (((rated.filter fun x => x.1.isClose).mergeSort comesFirst).take 3).map (·.2)

end SchemaRecords.Text
