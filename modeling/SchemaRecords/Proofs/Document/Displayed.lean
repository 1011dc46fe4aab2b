import SchemaRecords.Document.Date
import SchemaRecords.Proofs.Json.Number
import SchemaRecords.Proofs.Source.Reading
import SchemaRecords.Proofs.Text.Quoted

/-!
# What a displayed scalar tells

A text is displayed as itself. Any other scalar shows in its text what it is.

* `padded_inj`, `Date.iso_inj`, `zoneText_inj`, `Moment.iso_inj` -- the texts of numbers in a fixed
  width, of dates, of zones and of moments are those of one each;
* `Look` -- what the text of a scalar looks like: a word, a number, a date, a moment or octets;
  `lookOf` tells them by what stands at the front, and `lookOf_display` -- it is right;
* `display_inj` -- **two scalars that are no texts are displayed alike only if they are the same**;
* `display_eq_iff` -- so two different scalars are only if one of them is a text.
-/

namespace SchemaRecords.Document

open Json Number Source

/-! ## 1. Dates and moments -/

theorem toList_padded (width n : Nat) :
    (padded width n).toList =
      zeros (width - (Nat.toDigits 10 n).length) ++ Nat.toDigits 10 n :=
  String.toList_ofList

theorem isDigit_of_mem_padded {width n : Nat} {c : Char} (h : c ∈ (padded width n).toList) :
    isDigit c = true := by
  rw [toList_padded] at h
  rcases List.mem_append.mp h with h | h
  · exact isDigit_of_mem_zeros h
  · exact isDigit_of_mem_toDigits h

theorem toList_padded_ne_nil (width n : Nat) : (padded width n).toList ≠ [] := by
  rw [toList_padded]
  exact List.append_ne_nil_of_right_ne_nil _ Nat.toDigits_ne_nil

/-- The zeros in front do not count. -/
theorem padded_inj (width : Nat) {m n : Nat}
    (h : (padded width m).toList = (padded width n).toList) : m = n := by
  have hvalue := congrArg decimalValue h
  simpa [toList_padded, decimalValue_append] using hvalue

/-- No mark of a date or a time is among the digits. -/
theorem not_mem_padded {width n : Nat} {c : Char} (hc : isDigit c = false) :
    c ∉ (padded width n).toList := fun h =>
  Bool.false_ne_true (hc.symm.trans (isDigit_of_mem_padded h))

theorem Date.toList_iso (d : Date) :
    d.iso.toList =
      (padded 4 d.year).toList ++
        '-' :: ((padded 2 d.month).toList ++ '-' :: (padded 2 d.day).toList) := by
  simp [Date.iso]

/-- The text of a date is that of no other. -/
theorem Date.iso_inj {d d' : Date} (h : d.iso.toList = d'.iso.toList) : d = d' := by
  have hmark {width n : Nat} : '-' ∉ (padded width n).toList := not_mem_padded (by decide)
  rw [toList_iso, toList_iso] at h
  obtain ⟨hyear, h⟩ := append_inj_of_first hmark hmark h
  obtain ⟨hmonth, hday⟩ := append_inj_of_first hmark hmark h
  cases d
  cases d'
  rw [Date.mk.injEq]
  exact ⟨padded_inj 4 hyear, padded_inj 2 hmonth, padded_inj 2 hday⟩

theorem Date.blank_not_mem_iso (d : Date) : ' ' ∉ d.iso.toList := by
  have hmark {width n : Nat} : ' ' ∉ (padded width n).toList := not_mem_padded (by decide)
  rw [toList_iso]
  simp [hmark]

/-- The text of a zone is that of no other. -/
theorem zoneText_inj {z z' : Int} (h : (zoneText z).toList = (zoneText z').toList) : z = z' := by
  have hmark {width n : Nat} : ':' ∉ (padded width n).toList := not_mem_padded (by decide)
  have hzone (z : Int) : (zoneText z).toList = (if z < 0 then '-' else '+') ::
      ((padded 2 (z.natAbs / 60)).toList ++ ':' :: (padded 2 (z.natAbs % 60)).toList) := by
    unfold zoneText
    split <;> simp
  rw [hzone, hzone] at h
  obtain ⟨hsign, h⟩ := List.cons.inj h
  obtain ⟨hhours, hminutes⟩ := append_inj_of_first hmark hmark h
  have hhours := padded_inj 2 hhours
  have hminutes := padded_inj 2 hminutes
  split at hsign <;> split at hsign <;> first | omega | exact absurd hsign (by decide)

/-- The fraction of a second, if there is one. -/
def Moment.fraction (m : Moment) : List Char :=
  if m.micro == 0 then [] else '.' :: (padded 6 m.micro).toList

/-- The text of the zone, if there is one. -/
def Moment.zoneTail (m : Moment) : List Char := m.zone.elim [] fun z => (zoneText z).toList

theorem Moment.toList_iso (m : Moment) :
    m.iso.toList =
      m.date.iso.toList ++
        ' ' :: ((padded 2 m.hour).toList ++
          ':' :: ((padded 2 m.minute).toList ++
            ':' :: ((padded 2 m.second).toList ++ (m.fraction ++ m.zoneTail)))) := by
  unfold Moment.iso Moment.fraction Moment.zoneTail
  cases m.zone <;> split <;> simp

theorem Moment.fraction_inj {m m' : Moment} (h : m.fraction = m'.fraction) :
    m.micro = m'.micro := by
  unfold Moment.fraction at h
  split at h
  next hzero =>
    split at h
    next hzero' => exact (eq_of_beq hzero).trans (eq_of_beq hzero').symm
    next => cases h
  next =>
    split at h
    next => cases h
    next => exact padded_inj 6 (List.cons.inj h).2

/-- A zone begins with a sign. -/
theorem Moment.head_zoneTail (m : Moment) : ∀ c ∈ m.zoneTail.head?, c = '-' ∨ c = '+' := by
  intro c hc
  unfold Moment.zoneTail at hc
  cases hz : m.zone with
  | none =>
    rw [hz] at hc
    cases hc
  | some z =>
    rw [hz, Option.elim_some, zoneText, String.toList_append, String.toList_append,
      String.toList_append] at hc
    split at hc
    · exact Or.inl (Option.some.inj hc).symm
    · exact Or.inr (Option.some.inj hc).symm

theorem Moment.zoneTail_inj {m m' : Moment} (h : m.zoneTail = m'.zoneTail) : m.zone = m'.zone := by
  have hne (z : Int) : (zoneText z).toList ≠ [] := by
    unfold zoneText
    split <;> simp
  unfold Moment.zoneTail at h
  cases hz : m.zone with
  | none =>
    cases hz' : m'.zone with
    | none => rfl
    | some z' =>
      rw [hz, hz'] at h
      exact absurd h.symm (hne z')
  | some z =>
    cases hz' : m'.zone with
    | none =>
      rw [hz, hz'] at h
      exact absurd h (hne z)
    | some z' =>
      rw [hz, hz'] at h
      rw [zoneText_inj h]

/-- The characters of a fraction. -/
def isFraction (c : Char) : Bool := isDigit c || c == '.'

theorem Moment.isFraction_of_mem (m : Moment) : ∀ c ∈ m.fraction, isFraction c = true := by
  unfold Moment.fraction
  split
  · exact nofun
  · refine List.forall_mem_cons.mpr ⟨rfl, fun c hc => ?_⟩
    rw [isFraction, isDigit_of_mem_padded hc, Bool.true_or]

/-- The text of a moment is that of no other. -/
theorem Moment.iso_inj {m m' : Moment} (h : m.iso.toList = m'.iso.toList) : m = m' := by
  have hmark {width n : Nat} : ':' ∉ (padded width n).toList := not_mem_padded (by decide)
  have hdigits {width n : Nat} : ∀ c ∈ (padded width n).toList, isDigit c = true :=
    fun c => isDigit_of_mem_padded
  have hsign (m : Moment) : ∀ c ∈ m.zoneTail.head?, isFraction c = false := by
    intro c hc
    rcases m.head_zoneTail c hc with rfl | rfl <;> rfl
  -- the digits of the seconds end at the point, or at the sign of the zone
  have hpoint (m : Moment) : ∀ c ∈ (m.fraction ++ m.zoneTail).head?, isDigit c = false := by
    intro c hc
    unfold Moment.fraction at hc
    split at hc
    · have hout := hsign m c hc
      rw [isFraction, Bool.or_eq_false_iff] at hout
      exact hout.1
    · cases hc
      rfl
  rw [toList_iso, toList_iso] at h
  obtain ⟨hdate, h⟩ := append_inj_of_first m.date.blank_not_mem_iso m'.date.blank_not_mem_iso h
  obtain ⟨hhour, h⟩ := append_inj_of_first hmark hmark h
  obtain ⟨hminute, h⟩ := append_inj_of_first hmark hmark h
  obtain ⟨hsecond, h⟩ := append_inj_of_class hdigits hdigits (hpoint m) (hpoint m') h
  obtain ⟨hmicro, hzone⟩ :=
    append_inj_of_class m.isFraction_of_mem m'.isFraction_of_mem (hsign m) (hsign m') h
  cases m
  cases m'
  rw [Moment.mk.injEq]
  exact ⟨Date.iso_inj hdate, padded_inj 2 hhour, padded_inj 2 hminute, padded_inj 2 hsecond,
    Moment.fraction_inj hmicro, Moment.zoneTail_inj hzone⟩

/-! ## 2. Looks -/

/-- What the text of a scalar that is no text looks like. -/
inductive Look where
  | word
  | number
  | date
  | moment
  | octets
  deriving DecidableEq, Repr

/-- What a scalar looks like that is no text. -/
def Scalar.look? : Scalar → Option Look
  | .text _ => none
  | .int _ | .float (.finite ..) => some .number
  | .date _ => some .date
  | .moment _ => some .moment
  | .bytes _ => some .octets
  | _ => some .word

/-- What a text looks like: a number and a date begin with digits, and only in a date they are
    followed by a hyphen; of the others, only octets begin with their letter. -/
def lookOf (s : List Char) : Look :=
  let body := (readSign s).2
  if (body.takeWhile isDigit).isEmpty then
    if body.head? == some 'b' then .octets else .word
  else if (body.dropWhile isDigit).head? == some '-' then
    if s.contains ' ' then .moment else .date
  else .number

/-- Behind a sign, the digits at the front are taken to their end. -/
theorem lookOf_digits (negative : Bool) {digits rest : List Char}
    (hdigits : ∀ c ∈ digits, isDigit c = true) (hne : digits ≠ []) (hrest : EndsDigits rest) :
    lookOf (signText negative ++ (digits ++ rest)) =
      if rest.head? == some '-' then
        if (signText negative ++ (digits ++ rest)).contains ' ' then .moment else .date
      else .number := by
  obtain ⟨htake, hdrop⟩ := takeWhile_digits hdigits hrest
  have hsign : (readSign (signText negative ++ (digits ++ rest))).2 = digits ++ rest := by
    obtain ⟨d, ds, rfl⟩ := List.exists_cons_of_ne_nil hne
    have hd := hdigits d List.mem_cons_self
    cases negative with
    | true => rfl
    | false =>
      have hno {c : Char} (hc : isDigit c = false) : d ≠ c := by
        rintro rfl
        exact Bool.false_ne_true (hc.symm.trans hd)
      have hminus := hno (c := '-') (by decide)
      have hplus := hno (c := '+') (by decide)
      simp [signText, readSign, hminus, hplus]
  rw [lookOf, hsign, htake, hdrop, if_neg (by simpa using hne)]

/-- A numeral looks like a number. -/
theorem lookOf_numeral (negative : Bool) {x : Numeral} (hx : x.Proper) :
    lookOf (signText negative ++ x.text) = .number := by
  obtain ⟨d, ds, hd⟩ := hx.exists_whole
  set rest := (if x.fraction.isEmpty then [] else '.' :: x.fraction) ++
    x.exponent.elim [] fun power => 'e' :: exponentText power with hrest
  -- what follows the digits is nothing, a point or the mark of an exponent
  have hhead : ∀ c ∈ rest.head?, c = '.' ∨ c = 'e' := by
    intro c hc
    rw [hrest] at hc
    cases hfraction : x.fraction with
    | cons _ _ =>
      rw [hfraction] at hc
      exact Or.inl (Option.some.inj hc).symm
    | nil =>
      rw [hfraction] at hc
      cases hexponent : x.exponent with
      | none =>
        rw [hexponent] at hc
        cases hc
      | some power =>
        rw [hexponent] at hc
        exact Or.inr (Option.some.inj hc).symm
  have hends : EndsDigits rest := by
    intro c hc
    rcases hhead c hc with rfl | rfl <;> decide
  have hno : (rest.head? == some '-') = false := by
    rw [beq_eq_false_iff_ne]
    intro e
    rcases hhead '-' e with h | h <;> exact absurd h (by decide)
  have hdigits : ∀ c ∈ x.whole, isDigit c = true := fun c hc =>
    hx.digits c (List.mem_append_left _ hc)
  rw [Numeral.text, lookOf_digits negative hdigits (by rw [hd]; exact List.cons_ne_nil d ds) hends,
    hno, if_neg Bool.false_ne_true]

/-- Digits with a hyphen behind them look like a date, or like a moment where there is a blank. -/
theorem lookOf_year (year : Nat) (rest : List Char) :
    lookOf ((padded 4 year).toList ++ '-' :: rest) = if ' ' ∈ rest then .moment else .date := by
  have hblank : ' ' ∉ (padded 4 year).toList := not_mem_padded (by decide)
  have hyear : ∀ c ∈ (padded 4 year).toList, isDigit c = true := fun c => isDigit_of_mem_padded
  have hhyphen : EndsDigits ('-' :: rest) := fun c hc => by
    cases hc
    decide
  have hlook := lookOf_digits false hyear (toList_padded_ne_nil 4 year) hhyphen
  simpa [signText, hblank] using hlook

/-! ## 3. The texts of numbers -/

/-- **A number is displayed as a numeral that is read as it.** -/
theorem exists_numeral_display {s : Scalar} (hs : s.IsRegular) (hw : s.isWritable = true)
    (h : s.look? = some .number) :
    ∃ negative, ∃ y : Numeral, y.Proper ∧ s.display.toList = signText negative ++ y.text ∧
      numeral negative y.whole y.fraction y.exponent = .ok s := by
  cases s with
  | int n =>
    obtain ⟨y, hy, htext, hread⟩ := exists_numeral_int hw
    exact ⟨_, y, hy, htext, hread⟩
  | float x =>
    cases x with
    | finite negative m e =>
      obtain ⟨y, hy, htext, hread⟩ := exists_numeral_double negative hs
      exact ⟨negative, y, hy, htext, hread⟩
    | _ => cases h
  | bool b => cases h
  | _ => cases h

/-- Two numbers that are displayed alike are one. -/
theorem eq_of_display_number {a b : Scalar} (ha : a.IsRegular ∧ a.isWritable = true)
    (hb : b.IsRegular ∧ b.isWritable = true) (hlook : a.look? = some .number)
    (hlook' : b.look? = some .number) (h : a.display = b.display) : a = b := by
  obtain ⟨negative, y, hy, htext, hread⟩ := exists_numeral_display ha.1 ha.2 hlook
  obtain ⟨negative', y', hy', htext', hread'⟩ := exists_numeral_display hb.1 hb.2 hlook'
  have hplain := readPlain_numeral negative hy hread stops_nil
  have hplain' := readPlain_numeral negative' hy' hread' stops_nil
  rw [← htext, h] at hplain
  rw [← htext'] at hplain'
  exact Value.scalar.inj (Prod.mk.inj (Except.ok.inj (hplain.symm.trans hplain'))).1

/-- The scalars that are displayed as words. -/
def wordScalars : List Scalar :=
  [.null, .bool true, .bool false, .float .nan, .float (.infinite true), .float (.infinite false)]

theorem mem_wordScalars {s : Scalar} (h : s.look? = some .word) : s ∈ wordScalars := by
  cases s with
  | null => decide
  | bool b => cases b <;> decide
  | float x =>
    cases x with
    | nan => decide
    | infinite negative => cases negative <;> decide
    | finite negative m e => cases h
  | _ => cases h

/-! ## 4. All scalars -/

theorem eq_date {s : Scalar} (h : s.look? = some .date) : ∃ d, s = .date d := by
  cases s with
  | date d => exact ⟨d, rfl⟩
  | float x => cases x <;> cases h
  | _ => cases h

theorem eq_bytes {s : Scalar} (h : s.look? = some .octets) : ∃ octets, s = .bytes octets := by
  cases s with
  | bytes octets => exact ⟨octets, rfl⟩
  | float x => cases x <;> cases h
  | _ => cases h

theorem eq_moment {s : Scalar} (h : s.look? = some .moment) : ∃ m, s = .moment m := by
  cases s with
  | moment m => exact ⟨m, rfl⟩
  | float x => cases x <;> cases h
  | _ => cases h

/-- Every scalar but a text looks like something. -/
theorem exists_look {s : Scalar} (h : ∀ t, s ≠ .text t) : ∃ look, s.look? = some look := by
  cases s with
  | text t => exact absurd rfl (h t)
  | float x => cases x <;> exact ⟨_, rfl⟩
  | _ => exact ⟨_, rfl⟩

/-- **A displayed scalar looks like what it is.** -/
theorem lookOf_display {s : Scalar} (hs : s.IsRegular) (hw : s.isWritable = true) {look : Look}
    (h : s.look? = some look) : lookOf s.display.toList = look := by
  cases look with
  | word =>
    have hwords : ∀ s ∈ wordScalars, lookOf s.display.toList = .word := by decide +kernel
    exact hwords s (mem_wordScalars h)
  | number =>
    obtain ⟨negative, y, hy, htext, _⟩ := exists_numeral_display hs hw h
    rw [htext]
    exact lookOf_numeral negative hy
  | date =>
    obtain ⟨d, rfl⟩ := eq_date h
    have hblank := d.blank_not_mem_iso
    rw [Date.toList_iso, List.mem_append, List.mem_cons, not_or, not_or] at hblank
    rw [Scalar.display, Date.toList_iso, lookOf_year, if_neg hblank.2.2]
  | moment =>
    obtain ⟨m, rfl⟩ := eq_moment h
    rw [Scalar.display, Moment.toList_iso, Date.toList_iso, List.append_assoc, List.cons_append,
      lookOf_year, if_pos (by simp)]
  | octets =>
    obtain ⟨octets, rfl⟩ := eq_bytes h
    obtain ⟨mark, _, hdisplay⟩ := Text.toList_quotedOctets octets
    rw [Scalar.display, Scalar.literal, hdisplay]
    · rfl
    all_goals exact nofun

/-- **Two scalars that are no texts are displayed alike only if they are the same.** -/
theorem display_inj {a b : Scalar} (ha : a.IsRegular ∧ a.isWritable = true)
    (hb : b.IsRegular ∧ b.isWritable = true) (hno : ∀ t, a ≠ .text t) (hno' : ∀ t, b ≠ .text t)
    (h : a.display = b.display) : a = b := by
  obtain ⟨look, hlook⟩ := exists_look hno
  obtain ⟨look', hlook'⟩ := exists_look hno'
  obtain rfl : look = look' := by
    rw [← lookOf_display ha.1 ha.2 hlook, ← lookOf_display hb.1 hb.2 hlook', h]
  cases look with
  | word =>
    have hwords : ∀ a ∈ wordScalars, ∀ b ∈ wordScalars, a.display = b.display → a = b := by
      decide +kernel
    exact hwords a (mem_wordScalars hlook) b (mem_wordScalars hlook') h
  | number => exact eq_of_display_number ha hb hlook hlook' h
  | date =>
    obtain ⟨d, rfl⟩ := eq_date hlook
    obtain ⟨d', rfl⟩ := eq_date hlook'
    exact congrArg Scalar.date (Date.iso_inj (congrArg String.toList h))
  | moment =>
    obtain ⟨m, rfl⟩ := eq_moment hlook
    obtain ⟨m', rfl⟩ := eq_moment hlook'
    exact congrArg Scalar.moment (Moment.iso_inj (congrArg String.toList h))
  | octets =>
    obtain ⟨octets, rfl⟩ := eq_bytes hlook
    obtain ⟨octets', rfl⟩ := eq_bytes hlook'
    exact congrArg Scalar.bytes (Text.quotedOctets_inj h)

/-- **Two different scalars are displayed alike only if one of them is a text**, that of the
    other. -/
theorem display_eq_iff {a b : Scalar} (ha : a.IsRegular ∧ a.isWritable = true)
    (hb : b.IsRegular ∧ b.isWritable = true) :
    a.display = b.display ↔ a = b ∨ a = .text b.display ∨ b = .text a.display := by
  constructor
  · intro h
    by_cases hno : ∃ t, a = .text t
    · obtain ⟨t, rfl⟩ := hno
      exact Or.inr (Or.inl (congrArg Scalar.text h))
    · by_cases hno' : ∃ t, b = .text t
      · obtain ⟨t, rfl⟩ := hno'
        exact Or.inr (Or.inr (congrArg Scalar.text h.symm))
      · exact Or.inl (display_inj ha hb (not_exists.mp hno) (not_exists.mp hno') h)
  · rintro (rfl | h | h)
    · rfl
    · rw [h]
      rfl
    · rw [h]
      rfl

end SchemaRecords.Document
