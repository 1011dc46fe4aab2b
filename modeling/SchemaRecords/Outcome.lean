import SchemaRecords.Notice

/-!
# Outcomes

An outcome is a result, or the fault that ended the run, together with the notices given up to
that point, in order.

* `Outcome` is a lawful monad: the second step runs only after a result, and its notices follow
  those of the first;
* the result of a sequence is the sequence of the results (`result_bind`), so the notices never
  change what a run answers.
-/

namespace SchemaRecords

/-- A result or a fault, and the notices given before it. -/
structure Outcome (ε α : Type) where
  log : List Notice
  result : Except ε α

namespace Outcome

variable {ε δ α β : Type}

/-- A result without notices. -/
def done (a : α) : Outcome ε α := ⟨[], .ok a⟩

/-- A fault without notices. -/
def fail (e : ε) : Outcome ε α := ⟨[], .error e⟩

/-- A single notice. -/
def note (n : Notice) : Outcome ε Unit := ⟨[n], .ok ()⟩

/-- The outcome of a step that gives no notices. -/
def ofExcept (r : Except ε α) : Outcome ε α := ⟨[], r⟩

/-- One step after the other. -/
def andThen (x : Outcome ε α) (f : α → Outcome ε β) : Outcome ε β :=
  match x.result with
  | .error e => ⟨x.log, .error e⟩
  | .ok a => ⟨x.log ++ (f a).log, (f a).result⟩

instance : Monad (Outcome ε) where
  pure := done
  bind := andThen

/-- The same outcome with its fault read in another way. -/
def mapError (f : ε → δ) (x : Outcome ε α) : Outcome δ α := ⟨x.log, x.result.mapError f⟩

@[simp] theorem result_pure (a : α) : (pure a : Outcome ε α).result = .ok a := rfl

@[simp] theorem log_pure (a : α) : (pure a : Outcome ε α).log = [] := rfl

@[simp] theorem result_fail (e : ε) : (fail e : Outcome ε α).result = .error e := rfl

@[simp] theorem result_note (n : Notice) : (note n : Outcome ε Unit).result = .ok () := rfl

@[simp] theorem result_ofExcept (r : Except ε α) : (ofExcept r).result = r := rfl

@[simp] theorem result_bind (x : Outcome ε α) (f : α → Outcome ε β) :
    (x >>= f).result = x.result >>= fun a => (f a).result := by
  show (andThen x f).result = _
  unfold andThen
  cases x.result <;> rfl

/-- A sequence has a result exactly when both steps have one. -/
theorem result_bind_eq_ok {x : Outcome ε α} {f : α → Outcome ε β} {b : β} :
    (x >>= f).result = .ok b ↔ ∃ a, x.result = .ok a ∧ (f a).result = .ok b := by
  rw [result_bind]
  cases h : x.result with
  | error e => exact ⟨fun hb => (by cases hb), fun ⟨_, ha, _⟩ => (by cases ha)⟩
  | ok a => exact ⟨fun hb => ⟨a, rfl, hb⟩, fun ⟨_, ha, hb⟩ => by cases ha; exact hb⟩

/-- A sequence is at fault exactly when its first step is, or the second behind it. -/
theorem result_bind_eq_error {x : Outcome ε α} {f : α → Outcome ε β} {e : ε} :
    (x >>= f).result = .error e ↔
      x.result = .error e ∨ ∃ a, x.result = .ok a ∧ (f a).result = .error e := by
  rw [result_bind]
  cases h : x.result with
  | error d =>
    constructor
    · intro hd
      cases hd
      exact Or.inl rfl
    · rintro (hd | ⟨_, ha, _⟩)
      · cases hd
        rfl
      · cases ha
  | ok a =>
    constructor
    · exact fun ha => Or.inr ⟨a, rfl, ha⟩
    · rintro (ha | ⟨_, hb, ha⟩)
      · cases ha
      · cases hb
        exact ha

theorem result_mapError (f : ε → δ) (x : Outcome ε α) :
    (x.mapError f).result = x.result.mapError f := rfl

theorem result_mapError_eq_ok {f : ε → δ} {x : Outcome ε α} {a : α} :
    (x.mapError f).result = .ok a ↔ x.result = .ok a := by
  rw [result_mapError]
  cases x.result with
  | error e => exact ⟨fun h => (by cases h), fun h => (by cases h)⟩
  | ok b => exact ⟨fun h => by cases h; rfl, fun h => by cases h; rfl⟩

theorem result_mapError_eq_error {f : ε → δ} {x : Outcome ε α} {d : δ} :
    (x.mapError f).result = .error d ↔ ∃ e, x.result = .error e ∧ f e = d := by
  rw [result_mapError]
  cases x.result with
  | error e =>
    constructor
    · intro h
      cases h
      exact ⟨e, rfl, rfl⟩
    · rintro ⟨_, h, rfl⟩
      cases h
      rfl
  | ok b => exact ⟨fun h => (by cases h), fun ⟨_, h, _⟩ => (by cases h)⟩

theorem bind_of_ok {x : Outcome ε α} {a : α} (h : x.result = .ok a) (f : α → Outcome ε β) :
    x >>= f = ⟨x.log ++ (f a).log, (f a).result⟩ := by
  show andThen x f = _
  simp [andThen, h]

theorem bind_of_error {x : Outcome ε α} {e : ε} (h : x.result = .error e) (f : α → Outcome ε β) :
    x >>= f = ⟨x.log, .error e⟩ := by
  show andThen x f = _
  simp [andThen, h]

theorem andThen_assoc {γ : Type} (x : Outcome ε α) (f : α → Outcome ε β) (g : β → Outcome ε γ) :
    andThen (andThen x f) g = andThen x fun a => andThen (f a) g := by
  unfold andThen
  cases x.result with
  | error e => rfl
  | ok a =>
    cases h : (f a).result with
    | error e => simp [h]
    | ok b => simp [h]

theorem andThen_done_comp (x : Outcome ε α) (f : α → β) :
    andThen x (fun a => done (f a)) = ⟨x.log, x.result.map f⟩ := by
  unfold andThen
  cases x.result with
  | error e => rfl
  | ok a => simp [done, Except.map]

instance : LawfulMonad (Outcome ε) := LawfulMonad.mk' _
  (fun x => by
    show andThen x (fun a => done (id a)) = x
    rw [andThen_done_comp]
    cases x with
    | mk log result => cases result <;> rfl)
  (fun _ _ => rfl)
  (fun x f g => andThen_assoc x f g)

/-- Reading faults in another way goes into both steps. -/
theorem mapError_bind (x : Outcome ε α) (f : α → Outcome ε β) (g : ε → δ) :
    (x >>= f).mapError g = x.mapError g >>= fun a => (f a).mapError g := by
  show mapError g (andThen x f) = andThen (mapError g x) fun a => mapError g (f a)
  unfold andThen mapError
  cases x.result <;> rfl

end Outcome

end SchemaRecords
