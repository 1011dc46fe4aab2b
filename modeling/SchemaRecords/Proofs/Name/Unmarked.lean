import SchemaRecords.Proofs.Name.Lacks

/-!
# Names without a question mark

Behind the name of a type, a question mark says that nothing is admitted. It is foreign to names, so
no name gets one on its way from a text without one.

* `Unmarked` -- a text without a question mark;
* `Unmarked.pascal`, `Unmarked.compose`, `Unmarked.withNumber`, `Unmarked.ofReference` -- names made
  of such texts.
-/

namespace SchemaRecords.Name

/-- A text without a question mark. -/
def Unmarked (s : String) : Prop := '?' ∉ s.toList

instance (s : String) : Decidable (Unmarked s) := inferInstanceAs (Decidable (¬_))

variable {s t : String}

theorem unmarked_append : Unmarked (s ++ t) ↔ Unmarked s ∧ Unmarked t := lacks_append

theorem unmarked_items (depth : Nat) : Unmarked (items depth) := lacks_items foreign_question depth

theorem Unmarked.pascal (h : Unmarked s) : Unmarked (pascal s) := Lacks.pascal h foreign_question

theorem Unmarked.compose {record key : String} (hrecord : Unmarked record) (hkey : Unmarked key)
    (depth : Nat) : Unmarked (compose record key depth) :=
  Lacks.compose hrecord hkey foreign_question depth

theorem Unmarked.withNumber (h : Unmarked s) (k : Nat) : Unmarked (withNumber s k) :=
  Lacks.withNumber h foreign_question k

theorem Unmarked.ofReference (h : Unmarked s) : Unmarked (ofReference s) :=
  Lacks.ofReference h foreign_question

end SchemaRecords.Name
