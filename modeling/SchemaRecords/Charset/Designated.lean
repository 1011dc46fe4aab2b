import SchemaRecords.Charset.Chinese
import SchemaRecords.Charset.Japanese
import SchemaRecords.Charset.Korean

/-!
# Sets in basic octets with escapes

An escape sequence designates the set that the basic octets behind it stand for.

* `Designation` -- a set that can be designated, by the mark at the end of its escape sequence;
* `Family` -- which sets can be designated, whether octets shift to a second one, and whether an
  escape takes a single character from a third one;
* `Designated` -- the sets designated so far;
* `escapeStep`, `designatedStep` -- what stands at an escape and at any octet;
* `designated` -- the sets of this kind.
-/

namespace SchemaRecords.Charset

/-! ## 1. Designations -/

/-- A set by its mark: the octets of a character and what they stand for. -/
structure Designation where
  mark : Nat
  width : Nat
  characters? : Nat → Option (List Char)

/-- The mark of a set of two octets. -/
def doubleMark (final : Char) : Nat := final.toNat + 0x100

/-- The mark of the basic alphabet. -/
def basicMark : Nat := 'B'.toNat

/-- The sets that can be designated. -/
inductive Script where
  | roman
  | narrow
  | latin
  | greek
  | oldJis
  | jis
  | supplement
  | plane (edition : Edition)
  | secondPlane (edition : Edition)
  | ks
  | gb
  deriving DecidableEq, Repr

/-- The designation of a set. The sets that only the third place may hold have no characters of
    their own. -/
def Script.designation : Script → Designation
  | .roman => ⟨'J'.toNat, 1, fun b => some [Char.ofNat (romanBasic b)]⟩
  | .narrow => ⟨'I'.toNat, 1, fun b =>
      if isNarrow (b + 0x80) then some [Char.ofNat (narrowOffset + b + 0x80)] else none⟩
  | .latin => ⟨'A'.toNat, 1, fun _ => none⟩
  | .greek => ⟨'F'.toNat, 1, fun _ => none⟩
  | .oldJis => ⟨doubleMark '@', 2, alone ∘ jis0208.get?⟩
  | .jis => ⟨doubleMark 'B', 2, alone ∘ jis0208.get?⟩
  | .supplement => ⟨doubleMark 'D', 2, alone ∘ jis0212.get?⟩
  | .plane .first => ⟨doubleMark 'O', 2, firstPlane? .first⟩
  | .plane .second => ⟨doubleMark 'Q', 2, firstPlane? .second⟩
  | .secondPlane edition => ⟨doubleMark 'P', 2, secondPlane? edition⟩
  | .ks => ⟨doubleMark 'C', 2, alone ∘ ks1001.get?⟩
  | .gb => ⟨doubleMark 'A', 2, alone ∘ gb2312.get?⟩

/-- What escapes can do. -/
structure Family where
  scripts : List Script
  hasShifts : Bool
  hasThird : Bool
  hasRevisions : Bool

/-- Whether a mark can be designated. -/
def Family.knows (family : Family) (mark : Nat) : Bool :=
  mark == basicMark || family.scripts.any (·.designation.mark == mark)

/-! ## 2. States -/

/-- The marks designated so far, whether the second one counts, and whether the octets of an unknown
    escape are passed through. -/
structure Designated where
  first : Nat
  second : Nat
  third : Nat
  shifted : Bool
  passing : Bool
  deriving DecidableEq, Repr

/-- All sets are the basic alphabet at the start. -/
def Designated.start : Designated := ⟨basicMark, basicMark, basicMark, false, false⟩

/-- The places that a set can be designated to. -/
inductive Slot where
  | first
  | second
  | third
  deriving DecidableEq, Repr

/-- The state with a set designated to a place. -/
def Designated.put (s : Designated) (mark : Nat) : Slot → Designated
  | .first => { s with first := mark }
  | .second => { s with second := mark }
  | .third => { s with third := mark }

/-! ## 3. Escapes -/

/-- Whether an octet ends an escape sequence. -/
def isFinal (c : Char) : Bool := ('A' ≤ c && c ≤ 'Z') || c == '@'

/-- The most octets of an escape sequence. -/
def longestEscape : Nat := 16

/-- How an escape sequence ends: with an octet at a place, not within the octets there are, or not
    within the most that it may have. -/
inductive Ending where
  | at (length : Nat)
  | beyond
  | never
  deriving DecidableEq, Repr

/-- The ending of an escape sequence, `read` of its octets being read; the mark of a revision hides
    the escape behind it. -/
def ending (hasRevisions : Bool) (read : Nat) (s : List Char) : Ending :=
  if longestEscape ≤ read then .never
  else
    match s with
    | [] => .beyond
    | c :: rest =>
        if isFinal c then .at (read + 1)
        else if hasRevisions && c == '&' && rest.head? == some '@' then
          ending hasRevisions (read + 3) (rest.drop 2)
        else ending hasRevisions (read + 1) rest
termination_by s.length
decreasing_by all_goals (simp; try omega)

/-- The place and the mark that an escape sequence designates, its first octet aside. -/
def designation? (family : Family) : List Char → Option (Slot × Nat)
  | ['$', final] => some (.first, doubleMark final)
  | ['(', final] => some (.first, final.toNat)
  | [')', final] => some (.second, final.toNat)
  | ['.', final] => if family.hasThird then some (.third, final.toNat) else none
  | ['$', '(', final] => some (.first, doubleMark final)
  | ['$', ')', final] => some (.second, doubleMark final)
  | ['&', '@', '\x1b', '$', 'B'] =>
      if family.hasRevisions then some (.first, doubleMark 'B') else none
  | _ => none

/-- The step of an escape sequence. -/
def designationStep (family : Family) (s : Designated) (rest : List Char) : Step Designated :=
  match ending family.hasRevisions 1 rest with
  | .never => .malformed 1 s
  | .beyond => .unfinished
  | .at length =>
      match designation? family (rest.take (length - 1)) with
      | some (slot, mark) =>
          if family.knows mark then .characters [] length (s.put mark slot)
          else .malformed length s
      | none => .malformed length s

/-- The Greek characters of the upper half of octets. -/
def greekRuns : String :=
  "80-A0 2018-2019 A3 FFFD FFFD A6-A9 FFFD AB-AD FFFD 2015 B0-B3 384-386 B7 388-38A BB 38C BD
   38E-3A1 FFFD 3A3-3CE FFFD 0-7F"

/-- The character of an octet in the third set. -/
def third? (mark b : Nat) : Option Char :=
  if mark == Script.latin.designation.mark then
    if b < 0x80 then some (Char.ofNat (b + 0x80)) else none
  else if mark == Script.greek.designation.mark then ((cells greekRuns)[b]?).join
  else if mark == basicMark && b < 0x80 then some (Char.ofNat b)
  else none

/-- The step of a single character from the third set. -/
def thirdStep (s : Designated) : List UInt8 → Step Designated
  | _ :: b :: _ =>
      match third? s.third b.toNat with
      | some c => .characters [c] 3 s
      | none => .malformed 3 s
  | _ => .unfinished

/-- What stands at an escape. -/
def escapeStep (family : Family) (s : Designated) (rest : List UInt8) : Step Designated :=
  match rest with
  | [] => .unfinished
  | b :: _ =>
      let c := Char.ofNat b.toNat
      if "()$.&".toList.contains c then
        designationStep family s ((rest.take longestEscape).map fun b => Char.ofNat b.toNat)
      else if family.hasThird && c == 'N' then thirdStep s rest
      else .characters ['\x1b'] 1 { s with passing := true }

/-! ## 4. Octets -/

/-- What stands at an octet of a designated set. -/
def designatedCharacter (d : Designation) (s : Designated) (b : Nat) (rest : List UInt8) :
    Step Designated :=
  let step := fun (code : Nat) =>
    match d.characters? code with
    | some characters => .characters characters d.width s
    | none => .malformed d.width s
  if d.width == 1 then step b
  else
    match rest with
    | [] => .unfinished
    | c :: _ => step (codeOf b c.toNat)

/-- What stands at an octet. -/
def designatedStep (family : Family) (s : Designated) (b : Nat) (rest : List UInt8) :
    Step Designated :=
  if s.passing then .character b 1 { s with passing := !isFinal (Char.ofNat b) }
  else if b == 0x1B then escapeStep family s rest
  else if family.hasShifts && b == 0x0F then .characters [] 1 { s with shifted := false }
  else if family.hasShifts && b == 0x0E then .characters [] 1 { s with shifted := true }
  else if b == 0x0A then .character b 1 { s with shifted := false }
  else if b < 0x20 then .character b 1 s
  else if 0x80 ≤ b then .malformed 1 s
  else
    let mark := if s.shifted then s.second else s.first
    match family.scripts.find? (·.designation.mark == mark) with
    | some script => designatedCharacter script.designation s b rest
    | none => .character b 1 s

/-! ## 5. Sets -/

/-- A set with escapes. -/
def escaping (name aliases : String) (family : Family) : Charset :=
  total name aliases (readFrom .start (designatedStep family))

/-- The Japanese escapes with some sets. -/
def japaneseFamily (scripts : List Script) : Family := ⟨scripts, false, false, true⟩

/-- The sets with escapes. -/
def designated : List Charset :=
  [ escaping "iso2022_jp" "csiso2022jp iso2022jp iso_2022_jp"
      (japaneseFamily [.jis, .roman, .oldJis]),
    escaping "iso2022_jp_1" "iso2022jp_1 iso_2022_jp_1"
      (japaneseFamily [.jis, .supplement, .roman, .oldJis]),
    escaping "iso2022_jp_2" "iso2022jp_2 iso_2022_jp_2"
      ⟨[.jis, .supplement, .ks, .gb, .roman, .oldJis, .latin, .greek], false, true, true⟩,
    escaping "iso2022_jp_2004" "iso2022jp_2004 iso_2022_jp_2004"
      (japaneseFamily [.jis, .plane .second, .secondPlane .second]),
    escaping "iso2022_jp_3" "iso2022jp_3 iso_2022_jp_3"
      (japaneseFamily [.jis, .plane .first, .secondPlane .first]),
    escaping "iso2022_jp_ext" "iso2022jp_ext iso_2022_jp_ext"
      (japaneseFamily [.jis, .supplement, .roman, .narrow, .oldJis]),
    escaping "iso2022_kr" "csiso2022kr iso2022kr iso_2022_kr" ⟨[.ks], true, false, false⟩ ]

end SchemaRecords.Charset
