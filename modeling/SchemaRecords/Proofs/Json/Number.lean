import SchemaRecords.Json.Reader
import SchemaRecords.Json.Writer
import SchemaRecords.Proofs.Number.Layout
import SchemaRecords.Proofs.Number.Shortest
import SchemaRecords.Proofs.Text.Units

/-!
# Numbers are read as they are written

* `Stops` -- what may follow a number in a JSON text without becoming part of it;
* `readNumber?_text` -- a proper numeral is read to its end, whatever follows that stops it;
* `exists_numeral_int`, `exists_numeral_double` -- the texts of whole numbers and doubles are
  numerals that are read as them;
* `isHalf_scalarText` -- the text of a scalar that is no text has no halves of pairs;
* `readPlain_scalar` -- **a scalar that is no text is read back from its text**.
-/

namespace SchemaRecords.Json

open Document Number

/-! ## 1. What follows a number -/

/-- The rest does not go on with a number. -/
def Stops (rest : List Char) : Prop :=
  ∀ c ∈ rest.head?, isDigit c = false ∧ c ≠ '.' ∧ c ≠ 'e' ∧ c ≠ 'E'

theorem stops_nil : Stops [] := nofun

theorem stops_cons {c : Char} (h : isDigit c = false ∧ c ≠ '.' ∧ c ≠ 'e' ∧ c ≠ 'E')
    (rest : List Char) : Stops (c :: rest) := fun d hd => by
  cases hd
  exact h

/-- The rest does not go on with a digit. -/
def EndsDigits (rest : List Char) : Prop := ∀ c ∈ rest.head?, isDigit c = false

theorem Stops.endsDigits {rest : List Char} (h : Stops rest) : EndsDigits rest :=
  fun c hc => (h c hc).1

/-- A run of digits is taken to its end. -/
theorem takeWhile_digits {digits rest : List Char} (hdigits : ∀ c ∈ digits, isDigit c = true)
    (hrest : EndsDigits rest) :
    (digits ++ rest).takeWhile isDigit = digits ∧ (digits ++ rest).dropWhile isDigit = rest := by
  have hend : rest.takeWhile isDigit = [] ∧ rest.dropWhile isDigit = rest := by
    cases rest with
    | nil => exact ⟨rfl, rfl⟩
    | cons c rest =>
      have hc := hrest c rfl
      simp [hc]
  rw [List.takeWhile_append_of_pos hdigits, List.dropWhile_append_of_pos hdigits, hend.1, hend.2,
    List.append_nil]
  exact ⟨rfl, rfl⟩

/-! ## 2. The parts of a numeral -/

theorem readWhole_text {x : Numeral} (hx : x.Proper) {rest : List Char} (hrest : EndsDigits rest) :
    readWhole (x.whole ++ rest) = (x.whole, rest) := by
  rcases hx.start with h | ⟨d, ds, h, hd⟩
  · rw [h]
    rfl
  · have hdigits : ∀ c ∈ d :: ds, isDigit c = true := fun c hc =>
      hx.digits c (List.mem_append_left _ (h ▸ hc))
    obtain ⟨htake, hdrop⟩ := takeWhile_digits hdigits hrest
    rw [h, List.cons_append, readWhole]
    · rw [← List.cons_append, htake, hdrop]
    · intro rest' e
      exact hd (List.cons.inj e).1

theorem readFraction_text {fraction rest : List Char} (hdigits : ∀ c ∈ fraction, isDigit c = true)
    (hrest : EndsDigits rest) (hpoint : ∀ c ∈ rest.head?, c ≠ '.') :
    readFraction ((if fraction.isEmpty then [] else '.' :: fraction) ++ rest) =
      (fraction, rest) := by
  cases fraction with
  | nil =>
    rw [List.isEmpty_nil, if_pos rfl, List.nil_append, readFraction]
    intro rest' e
    exact hpoint '.' (by rw [e]; rfl) rfl
  | cons d ds =>
    obtain ⟨htake, hdrop⟩ := takeWhile_digits hdigits hrest
    rw [List.isEmpty_cons, if_neg Bool.false_ne_true, List.cons_append, readFraction, htake, hdrop,
      List.isEmpty_cons, if_neg Bool.false_ne_true]

/-- The exponent is read with its sign. -/
theorem readExponent_some (power : Int) {rest : List Char} (hrest : EndsDigits rest) :
    readExponent ('e' :: exponentText power ++ rest) = (some power, rest) := by
  set digits := zeros (2 - (Nat.toDigits 10 power.natAbs).length) ++
    Nat.toDigits 10 power.natAbs with hdef
  have hdigits : ∀ c ∈ digits, isDigit c = true :=
    List.forall_mem_append.mpr ⟨fun c => isDigit_of_mem_zeros, fun c => isDigit_of_mem_toDigits⟩
  obtain ⟨htake, hdrop⟩ := takeWhile_digits hdigits hrest
  have hne : digits.isEmpty = false :=
    List.isEmpty_eq_false_iff.mpr (List.append_ne_nil_of_right_ne_nil _ Nat.toDigits_ne_nil)
  have hvalue : decimalValue digits = power.natAbs := by
    rw [hdef, decimalValue_append, decimalValue_zeros, decimalValue_toDigits]
    omega
  have hsign : readSign (exponentText power ++ rest) =
      (decide (power < 0), digits ++ rest) := by
    unfold exponentText
    by_cases h : power < 0 <;> simp [h, readSign, hdef]
  rw [List.cons_append, readExponent]
  simp only [beq_self_eq_true, Bool.true_or, if_true, hsign, htake, hdrop, hne, Bool.false_eq_true,
    if_false, hvalue]
  by_cases h : power < 0
  · simp [h, Double.signed, abs_of_neg h]
  · simp [h, Double.signed, abs_of_nonneg (not_lt.mp h)]

theorem readExponent_none {rest : List Char} (hrest : Stops rest) :
    readExponent rest = (none, rest) := by
  cases rest with
  | nil => rfl
  | cons c rest =>
    obtain ⟨_, _, he, hE⟩ := hrest c rfl
    rw [readExponent]
    simp [he, hE]

/-- What stands after the digits of a numeral goes on with no digit and no point, and is read as
    its exponent. -/
theorem exponent_text (exponent : Option Int) {rest : List Char} (hrest : Stops rest) :
    let tail := (exponent.elim [] fun power => 'e' :: exponentText power) ++ rest
    readExponent tail = (exponent, rest) ∧ EndsDigits tail ∧ ∀ c ∈ tail.head?, c ≠ '.' := by
  cases exponent with
  | none => exact ⟨readExponent_none hrest, hrest.endsDigits, fun c hc => (hrest c hc).2.1⟩
  | some power =>
    refine ⟨readExponent_some power hrest.endsDigits, fun c hc => ?_, fun c hc => ?_⟩ <;>
      obtain rfl := Option.mem_some.mp hc <;> decide

/-- A sign in front of a text. -/
def signText (negative : Bool) : List Char := if negative then ['-'] else []

/-- **A proper numeral is read to its end.** -/
theorem readNumber?_text (negative : Bool) {x : Numeral} (hx : x.Proper) {rest : List Char}
    (hrest : Stops rest) :
    readNumber? (signText negative ++ (x.text ++ rest)) =
      some ((numeral negative x.whole x.fraction x.exponent).map fun n => (n, rest)) := by
  obtain ⟨hexponent, hdigits, hpoint⟩ := exponent_text x.exponent hrest
  set tail := (x.exponent.elim [] fun power => 'e' :: exponentText power) ++ rest with htail
  have hfraction := readFraction_text (fun c hc => hx.digits c (List.mem_append_right _ hc))
    hdigits hpoint
  have hends : EndsDigits ((if x.fraction.isEmpty then [] else '.' :: x.fraction) ++ tail) := by
    split
    · exact hdigits
    · intro c hc
      obtain rfl := Option.mem_some.mp hc
      decide
  have hwhole := readWhole_text hx hends
  have htext : x.text ++ rest =
      x.whole ++ ((if x.fraction.isEmpty then [] else '.' :: x.fraction) ++ tail) := by
    rw [Numeral.text, htail, List.append_assoc, List.append_assoc]
  obtain ⟨d, ds, hd⟩ := hx.exists_whole
  have hne : x.whole.isEmpty = false := by rw [hd]; rfl
  have hsign : d ≠ '-' := by
    rintro rfl
    have h := hx.digits '-' (List.mem_append_left _ (hd ▸ List.mem_cons_self))
    exact absurd h (by decide)
  rw [htext]
  unfold readNumber?
  cases negative with
  | true =>
    simp only [signText, if_true, List.cons_append, List.nil_append, hwhole, hfraction, hexponent,
      hne, Bool.false_eq_true, if_false]
  | false =>
    have hmatch : ∀ s, x.whole ++ s = d :: (ds ++ s) := fun s => by rw [hd, List.cons_append]
    simp only [signText, Bool.false_eq_true, if_false, List.nil_append]
    rw [hmatch]
    simp only [List.cons.injEq, hsign, false_and, imp_false, not_false_eq_true, implies_true]
    rw [← hmatch]
    simp only [hwhole, hfraction, hexponent, hne, Bool.false_eq_true, if_false]

/-! ## 3. Whole numbers and doubles -/

theorem toList_toString_nat (n : Nat) : (toString n).toList = Nat.toDigits 10 n :=
  String.toList_ofList

theorem toList_toString_int (n : Int) :
    (toString n).toList = signText (decide (n < 0)) ++ Nat.toDigits 10 n.natAbs := by
  cases n with
  | ofNat n =>
    have h : ¬ (Int.ofNat n < 0) := by simp
    rw [decide_eq_false h]
    exact toList_toString_nat n
  | negSucc n =>
    have h : Int.negSucc n < 0 := Int.negSucc_lt_zero n
    rw [decide_eq_true h]
    exact (String.toList_append ..).trans (congrArg ('-' :: ·) (toList_toString_nat (n + 1)))

theorem proper_toDigits (n : Nat) : Numeral.Proper ⟨Nat.toDigits 10 n, [], none⟩ := by
  refine ⟨fun c hc => isDigit_of_mem_toDigits (List.append_nil _ ▸ hc), ?_⟩
  rcases Nat.eq_zero_or_pos n with rfl | hn
  · exact Or.inl rfl
  · exact Or.inr (exists_toDigits hn)

theorem firstUnwritable_eq : firstUnwritable = 10 ^ longest := by
  unfold firstUnwritable
  generalize longest = k
  exact Nat.pow_eq

/-- A whole number can be written exactly if it has no more digits than are allowed. -/
theorem isWritable_int_iff (n : Int) :
    (Scalar.int n).isWritable = true ↔ (Nat.toDigits 10 n.natAbs).length ≤ longest := by
  rw [Scalar.isWritable, decide_eq_true_eq, firstUnwritable_eq]
  exact (Nat.length_toDigits_le_iff (by norm_num) (by decide)).symm

/-- The text of a whole number that can be written is a numeral that is read as the number. -/
theorem exists_numeral_int {n : Int} (h : (Scalar.int n).isWritable = true) :
    ∃ y : Numeral, y.Proper ∧
      (toString n).toList = signText (decide (n < 0)) ++ y.text ∧
      numeral (decide (n < 0)) y.whole y.fraction y.exponent = .ok (.int n) := by
  have hlength := not_lt.mpr ((isWritable_int_iff n).mp h)
  have hsigned : Double.signed (decide (n < 0)) n.natAbs = n := by
    unfold Double.signed
    split <;> simp_all [abs_of_neg, abs_of_nonneg]
  refine ⟨_, proper_toDigits n.natAbs, ?_, ?_⟩
  · rw [toList_toString_int]
    simp [Numeral.text]
  · simp only [numeral, List.isEmpty_nil, Option.isNone_none, Bool.and_self, if_true, hlength,
      if_false, decimalValue_toDigits, hsigned]

/-- The text of a finite double is a numeral that is read as the double. -/
theorem exists_numeral_double (s : Bool) {m : Nat} {e : Int} (hm : Regular m e) :
    ∃ y : Numeral, y.Proper ∧ ((Double.finite s m e).text words).toList = signText s ++ y.text ∧
      numeral s y.whole y.fraction y.exponent = .ok (.float (.finite s m e)) := by
  have hsign : ∀ t : String, ((if s then "-" else "") ++ t).toList = signText s ++ t.toList := by
    intro t
    rw [String.toList_append]
    cases s <;> rfl
  rcases Nat.eq_zero_or_pos m with rfl | hpos
  · obtain rfl := hm.full.resolve_left (by norm_num)
    refine ⟨⟨['0'], ['0'], none⟩, ⟨fun c hc => ?_, Or.inl rfl⟩, ?_, ?_⟩
    · obtain rfl : c = '0' := by simpa using hc
      decide
    · rw [Double.text, beq_self_eq_true, if_pos rfl, hsign]
      rfl
    · cases s <;> rfl
  · have hround := roundsTo_shortest (e := e) hpos hm.small
    obtain ⟨y, hy, htext, hvalue, hfloat⟩ := exists_numeral (hround.digits_pos hpos)
    rw [← hvalue] at hround
    refine ⟨y, hy, ?_, ?_⟩
    · rw [Double.text]
      simp only [beq_iff_eq, hpos.ne', if_false]
      rw [hsign, String.toList_ofList, htext]
    · have hnot : (y.fraction.isEmpty && y.exponent.isNone) = false := by
        rcases hfloat with h | h
        · rw [List.isEmpty_eq_false_iff.mpr h, Bool.false_and]
        · rw [Option.isNone_eq_false_iff.mpr (Option.isSome_iff_ne_none.mpr h), Bool.and_false]
      rw [numeral, hnot, if_neg Bool.false_ne_true, readDecimal,
        ofDecimal_of_roundsTo s hm hpos hround]

end SchemaRecords.Json

/-! ## 4. Values without parts -/

namespace SchemaRecords.Document

/-- A scalar that is no double, or a regular one. -/
def Scalar.IsRegular : Scalar → Prop
  | .float x => x.IsRegular
  | _ => True

end SchemaRecords.Document

namespace SchemaRecords.Json

open Document Number

/-- The characters that a number or a constant begins with. -/
def beginsPlain (c : Char) : Bool :=
  isDigit c || ['-', 'n', 't', 'f', 'N', 'I'].contains c

/-- No constant begins with a digit, nor with a minus sign and a digit. -/
theorem readConstant?_numeral (negative : Bool) {c : Char} (hc : isDigit c = true)
    (rest : List Char) : readConstant? (signText negative ++ c :: rest) = none := by
  have hne {d : Char} (hd : isDigit d = false) : d ≠ c := by
    rintro rfl
    exact Bool.false_ne_true (hd.symm.trans hc)
  have hn := hne (d := 'n') (by decide)
  have ht := hne (d := 't') (by decide)
  have hf := hne (d := 'f') (by decide)
  have hN := hne (d := 'N') (by decide)
  have hI := hne (d := 'I') (by decide)
  have hminus := hne (d := '-') (by decide)
  cases negative <;>
    simp [signText, readConstant?, constants, afterWord?, hn, ht, hf, hN, hI, hminus]

/-- A numeral is read as the number it stands for. -/
theorem readPlain_numeral (negative : Bool) {x : Numeral} (hx : x.Proper) {value : Scalar}
    (h : numeral negative x.whole x.fraction x.exponent = .ok value) {rest : List Char}
    (hrest : Stops rest) :
    readPlain (signText negative ++ x.text ++ rest) = .ok (.scalar value, rest) := by
  obtain ⟨d, ds, hd⟩ := hx.exists_whole
  have hdigit : isDigit d = true := hx.digits d (List.mem_append_left _ (hd ▸ List.mem_cons_self))
  have hread := readNumber?_text negative hx hrest
  have hconstant : readConstant? (signText negative ++ (x.text ++ rest)) = none := by
    rw [Numeral.text, hd]
    exact readConstant?_numeral negative hdigit _
  rw [List.append_assoc, readPlain, hconstant, hread, h]
  rfl

/-- A numeral begins with a digit or a sign. -/
theorem beginsPlain_numeral (negative : Bool) {x : Numeral} (hx : x.Proper) :
    ∃ c cs, signText negative ++ x.text = c :: cs ∧ beginsPlain c = true := by
  obtain ⟨d, ds, hd⟩ := hx.exists_whole
  have hdigit : isDigit d = true := hx.digits d (List.mem_append_left _ (hd ▸ List.mem_cons_self))
  rw [Numeral.text, hd]
  cases negative with
  | true => exact ⟨'-', _, rfl, by decide⟩
  | false => exact ⟨d, _, rfl, by rw [beginsPlain, hdigit, Bool.true_or]⟩

theorem isHalf_of_isDigit {c : Char} (hc : isDigit c = true) : Text.isHalf c = false := by
  rw [isDigit, Bool.and_eq_true, decide_eq_true_eq, decide_eq_true_eq] at hc
  rw [← Bool.not_eq_true, Text.isHalf_iff]
  omega

/-- A numeral is written in the basic alphabet. -/
theorem isHalf_numeral (negative : Bool) {x : Numeral} (hx : x.Proper) :
    ∀ c ∈ signText negative ++ x.text, Text.isHalf c = false := by
  have hpower (power : Int) : ∀ c ∈ exponentText power, Text.isHalf c = false := by
    unfold exponentText
    refine List.forall_mem_cons.mpr ⟨by split <;> rfl, List.forall_mem_append.mpr ⟨?_, ?_⟩⟩
    · exact fun c hc => isHalf_of_isDigit (isDigit_of_mem_zeros hc)
    · exact fun c hc => isHalf_of_isDigit (isDigit_of_mem_toDigits hc)
  refine List.forall_mem_append.mpr ⟨by cases negative <;> simp [signText, Text.isHalf], ?_⟩
  rw [Numeral.text]
  refine List.forall_mem_append.mpr ⟨?_, List.forall_mem_append.mpr ⟨?_, ?_⟩⟩
  · exact fun c hc => isHalf_of_isDigit (hx.digits c (List.mem_append_left _ hc))
  · split
    · exact List.forall_mem_nil _
    · exact List.forall_mem_cons.mpr
        ⟨rfl, fun c hc => isHalf_of_isDigit (hx.digits c (List.mem_append_right _ hc))⟩
  · cases x.exponent with
    | none => exact List.forall_mem_nil _
    | some power => exact List.forall_mem_cons.mpr ⟨rfl, hpower power⟩

/-- **The text of a scalar that is no text has no halves.** -/
theorem isHalf_scalarText {s : Scalar} (hs : s.IsRegular) (hno : ∀ t, s ≠ .text t) {text : String}
    (h : scalarText s = .ok text) : ∀ c ∈ text.toList, Text.isHalf c = false := by
  cases s with
  | null =>
    obtain rfl := Except.ok.inj h
    simp [Text.isHalf]
  | bool b => cases b <;> obtain rfl := Except.ok.inj h <;> simp [Text.isHalf]
  | int n =>
    rw [scalarText] at h
    split at h
    · rename_i hwritable
      obtain rfl := Except.ok.inj h
      obtain ⟨y, hy, htext, _⟩ := exists_numeral_int hwritable
      exact htext ▸ isHalf_numeral _ hy
    · cases h
  | float x =>
    obtain rfl := Except.ok.inj h
    cases x with
    | nan => simp [Double.text, words, Text.isHalf]
    | infinite negative => cases negative <;> simp [Double.text, words, Text.isHalf]
    | finite negative m e =>
      obtain ⟨y, hy, htext, _⟩ := exists_numeral_double negative hs
      exact htext ▸ isHalf_numeral _ hy
  | text t => exact absurd rfl (hno t)
  | date d => cases h
  | moment m => cases h
  | bytes octets => cases h

/-- **A scalar that is no text is read back from its text**, and the text shows that it is none. -/
theorem readPlain_scalar {s : Scalar} (hs : s.IsRegular) (hno : ∀ t, s ≠ .text t) {text : String}
    (h : scalarText s = .ok text) {rest : List Char} (hrest : Stops rest) :
    readPlain (text.toList ++ rest) = .ok (.scalar s, rest) ∧
      ∃ c cs, text.toList = c :: cs ∧ beginsPlain c = true := by
  have hword {word : String} {c : Char} {cs : List Char} {value : Scalar}
      (hfirst : word.toList = c :: cs) (hc : beginsPlain c = true)
      (hvalue : readConstant? (word.toList ++ rest) = some (value, rest)) :
      readPlain (word.toList ++ rest) = .ok (.scalar value, rest) ∧
        ∃ c cs, word.toList = c :: cs ∧ beginsPlain c = true :=
    ⟨by rw [readPlain, hvalue], c, cs, hfirst, hc⟩
  cases s with
  | null =>
    obtain rfl := Except.ok.inj h
    exact hword rfl (by decide) (by simp [readConstant?, constants, afterWord?])
  | bool b =>
    cases b <;> obtain rfl := Except.ok.inj h <;>
      exact hword rfl (by decide) (by simp [readConstant?, constants, afterWord?])
  | int n =>
    rw [scalarText] at h
    split at h
    · rename_i hwritable
      obtain rfl := Except.ok.inj h
      obtain ⟨y, hy, htext, hvalue⟩ := exists_numeral_int hwritable
      rw [htext]
      exact ⟨readPlain_numeral _ hy hvalue hrest, beginsPlain_numeral _ hy⟩
    · cases h
  | float x =>
    obtain rfl := Except.ok.inj h
    cases x with
    | nan =>
      exact hword rfl (by decide)
        (by simp [readConstant?, constants, afterWord?, Double.text, words])
    | infinite negative =>
      cases negative <;>
        exact hword rfl (by decide)
          (by simp [readConstant?, constants, afterWord?, Double.text, words])
    | finite negative m e =>
      obtain ⟨y, hy, htext, hvalue⟩ := exists_numeral_double negative hs
      rw [htext]
      exact ⟨readPlain_numeral negative hy hvalue hrest, beginsPlain_numeral negative hy⟩
  | text t => exact absurd rfl (hno t)
  | date d => cases h
  | moment m => cases h
  | bytes octets => cases h

end SchemaRecords.Json
