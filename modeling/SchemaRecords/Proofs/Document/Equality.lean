import Mathlib
import SchemaRecords.Document.Value

/-!
# Equality of document values

Whether two values are the same is decided part by part, so a value that was read can be compared
with the one that was meant.
-/

namespace SchemaRecords.Document

mutual

/-- Whether two values are the same. -/
def Value.decEq : (v w : Value) → Decidable (v = w)
  | .scalar s, .scalar t => decidable_of_iff (s = t) (by rw [Value.scalar.injEq])
  | .list a, .list b =>
      have := decEqItems a b
      decidable_of_iff (a = b) (by rw [Value.list.injEq])
  | .pair a b, .pair c d =>
      have := a.decEq c
      have := b.decEq d
      decidable_of_iff (a = c ∧ b = d) (by rw [Value.pair.injEq])
  | .mapping a, .mapping b =>
      have := decEqEntries a b
      decidable_of_iff (a = b) (by rw [Value.mapping.injEq])
  | .set a, .set b => decidable_of_iff (a = b) (by rw [Value.set.injEq])
  | .scalar _, .list _ => isFalse nofun
  | .scalar _, .pair .. => isFalse nofun
  | .scalar _, .mapping _ => isFalse nofun
  | .list _, .scalar _ => isFalse nofun
  | .list _, .pair .. => isFalse nofun
  | .list _, .mapping _ => isFalse nofun
  | .pair .., .scalar _ => isFalse nofun
  | .pair .., .list _ => isFalse nofun
  | .pair .., .mapping _ => isFalse nofun
  | .mapping _, .scalar _ => isFalse nofun
  | .mapping _, .list _ => isFalse nofun
  | .mapping _, .pair .. => isFalse nofun
  | .scalar _, .set _ => isFalse nofun
  | .list _, .set _ => isFalse nofun
  | .pair .., .set _ => isFalse nofun
  | .mapping _, .set _ => isFalse nofun
  | .set _, .scalar _ => isFalse nofun
  | .set _, .list _ => isFalse nofun
  | .set _, .pair .. => isFalse nofun
  | .set _, .mapping _ => isFalse nofun

/-- Whether two lists have the same items. -/
def decEqItems : (a b : List Value) → Decidable (a = b)
  | [], [] => isTrue rfl
  | v :: a, w :: b =>
      have := v.decEq w
      have := decEqItems a b
      decidable_of_iff (v = w ∧ a = b) (by rw [List.cons.injEq])
  | [], _ :: _ => isFalse nofun
  | _ :: _, [] => isFalse nofun

/-- Whether two mappings have the same entries. -/
def decEqEntries : (a b : List (Scalar × Value)) → Decidable (a = b)
  | [], [] => isTrue rfl
  | (k, v) :: a, (l, w) :: b =>
      have := v.decEq w
      have := decEqEntries a b
      decidable_of_iff ((k = l ∧ v = w) ∧ a = b) (by rw [List.cons.injEq, Prod.mk.injEq])
  | [], _ :: _ => isFalse nofun
  | _ :: _, [] => isFalse nofun

end

instance : DecidableEq Value := Value.decEq

end SchemaRecords.Document
