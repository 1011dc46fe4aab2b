import SchemaRecords.Proofs.Document.Entries

/-!
# Faults of a kind

* `FaultsIn` -- a result, or a fault of a kind;
* `faultsIn_bind`, `faultsIn_mapError` -- which kinds of faults sequences have, and faults that are
  read in another way.
-/

namespace SchemaRecords

variable {ε δ α β : Type}

/-- There is a result, or a fault of a kind. -/
def FaultsIn (kind : ε → Prop) (r : Except ε α) : Prop := ∀ fault, r = .error fault → kind fault

variable {kind : ε → Prop}

@[simp] theorem faultsIn_ok (a : α) : FaultsIn kind (.ok a : Except ε α) := nofun

@[simp] theorem faultsIn_error {fault : ε} :
    FaultsIn kind (.error fault : Except ε α) ↔ kind fault :=
  ⟨fun h => h fault rfl, fun h _ e => Except.error.inj e ▸ h⟩

/-- The faults of a sequence are of a kind if those of both steps are. -/
theorem faultsIn_bind {x : Except ε α} {f : α → Except ε β} :
    FaultsIn kind (x >>= f) ↔ FaultsIn kind x ∧ ∀ a, x = .ok a → FaultsIn kind (f a) := by
  cases x with
  | error fault =>
    exact ⟨fun h => ⟨faultsIn_error.mpr (faultsIn_error.mp h), nofun⟩,
      fun h => faultsIn_error.mpr (faultsIn_error.mp h.1)⟩
  | ok a => exact ⟨fun h => ⟨faultsIn_ok a, fun _ e => Except.ok.inj e ▸ h⟩, fun h => h.2 a rfl⟩

theorem faultsIn_map {x : Except ε α} {f : α → β} :
    FaultsIn kind (x.map f) ↔ FaultsIn kind x := by
  cases x with
  | error fault =>
    exact ⟨fun h _ e => Except.error.inj e ▸ h fault rfl,
      fun h _ e => Except.error.inj e ▸ h fault rfl⟩
  | ok a => exact iff_of_true (faultsIn_ok (f a)) (faultsIn_ok a)

theorem FaultsIn.imp {kind' : ε → Prop} {r : Except ε α} (h : FaultsIn kind r)
    (himp : ∀ fault, kind fault → kind' fault) : FaultsIn kind' r :=
  fun fault hf => himp fault (h fault hf)

end SchemaRecords
