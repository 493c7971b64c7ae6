/-!
# Outcomes

When a mapped or chained outcome is a result, and when it is an error. Parsing, typing and
evaluation all end in an `Except`, and their proofs take outcomes apart with these equivalences.
-/

namespace Except

variable {ε ε' α β γ : Type}

/-- A mapped outcome is a result if the outcome is one. -/
theorem map_eq_ok_iff {f : α → β} {x : Except ε α} {b : β} :
    x.map f = .ok b ↔ ∃ a, x = .ok a ∧ f a = b := by
  cases x <;> simp [Except.map]

/-- A mapped outcome is an error if the outcome is that error. -/
theorem map_eq_error_iff {f : α → β} {x : Except ε α} {e : ε} : x.map f = .error e ↔ x = .error e := by
  cases x <;> simp [Except.map]

/-- A chain has a result if both of its parts have one. -/
theorem bind_eq_ok_iff {f : α → Except ε β} {x : Except ε α} {b : β} :
    x >>= f = .ok b ↔ ∃ a, x = .ok a ∧ f a = .ok b := by
  cases x <;> simp [Bind.bind, Except.bind]

@[simp] theorem mapError_ok (f : ε → ε') (a : α) : (Except.ok a).mapError f = .ok a := rfl

@[simp] theorem mapError_error (f : ε → ε') (e : ε) :
    (Except.error e : Except ε α).mapError f = .error (f e) := rfl

/-- Results do not change where errors are mapped. -/
theorem mapError_eq_ok_iff {f : ε → ε'} {x : Except ε α} {a : α} :
    x.mapError f = .ok a ↔ x = .ok a := by
  cases x <;> simp

theorem eq_ok_of_toOption {x : Except ε α} {a : α} (h : x.toOption = some a) : x = .ok a := by
  match x with
  | .error _ => cases h
  | .ok b => rw [Option.some.inj h]

/-- An outcome that can be seen to hold something holds something. -/
theorem exists_of_isSome_join {x : Except ε (Option α)} (h : x.toOption.join.isSome = true) :
    ∃ a, x = .ok (some a) := by
  match x with
  | .error _ => cases h
  | .ok none => cases h
  | .ok (some a) => exact ⟨a, rfl⟩

/-- An outcome of which something can be seen is a result. -/
theorem exists_of_map {f : α → β} {b : β} {x : Except ε α} (h : x.toOption.map f = some b) :
    ∃ a, x = .ok a ∧ f a = b := by
  match x with
  | .error _ => cases h
  | .ok a => exact ⟨a, rfl, Option.some.inj h⟩

/-- An outcome of which something can be seen holds something. -/
theorem exists_of_map_join {f : α → β} {b : β} {x : Except ε (Option α)}
    (h : x.toOption.join.map f = some b) : ∃ a, x = .ok (some a) ∧ f a = b := by
  match x with
  | .error _ => cases h
  | .ok none => cases h
  | .ok (some a) => exact ⟨a, rfl, Option.some.inj h⟩

/-- An outcome that is seen to hold nothing holds nothing. -/
theorem ne_ok_some_of_isSome_join {x : Except ε (Option α)} (h : x.toOption.join.isSome = false)
    (a : α) : x ≠ .ok (some a) := by
  rintro rfl
  cases h

/-- Mapping does not change whether an outcome is a result. -/
theorem isOk_map (f : α → β) (x : Except ε α) : (x.map f).isOk = x.isOk := by
  cases x <;> rfl

/-- Two outcomes in a row are a result if both are. -/
theorem isOk_bind_map (f : α → β → γ) (x : Except ε α) (y : Except ε β) :
    (x.bind fun a => y.map (f a)).isOk = (x.isOk && y.isOk) := by
  cases x <;> cases y <;> rfl

theorem isOk_eq_false_iff {x : Except ε α} : x.isOk = false ↔ ∃ e, x = .error e := by
  cases x <;> simp [Except.isOk, Except.toBool]

/-- Two outcomes that are seen to hold the same both hold it, or both are errors. -/
theorem cases_of_toOption_eq {x : Except ε α} {y : Except ε' α} (h : x.toOption = y.toOption) :
    (∃ a, x = .ok a ∧ y = .ok a) ∨ ∃ e e', x = .error e ∧ y = .error e' := by
  match x, y, h with
  | .ok a, .ok b, h => exact .inl ⟨a, rfl, by rw [Option.some.inj h]⟩
  | .error e, .error e', _ => exact .inr ⟨e, e', rfl, rfl⟩

/-! ## Related outcomes -/

/-- Outcomes that are the same error, or results that are related. -/
inductive Related (R : α → β → Prop) : Except ε α → Except ε β → Prop
  | error (e : ε) : Related R (.error e) (.error e)
  | ok {a : α} {b : β} (h : R a b) : Related R (.ok a) (.ok b)

namespace Related

variable {α' β' : Type} {R : α → β → Prop} {R' : α' → β' → Prop} {x : Except ε α} {y : Except ε β}

/-- A reflexive relation relates every outcome to itself. -/
theorem refl {R : α → α → Prop} (h : ∀ a, R a a) : ∀ x : Except ε α, Related R x x
  | .error e => .error e
  | .ok a => .ok (h a)

/-- Related results are mapped to related results, and errors stay. -/
theorem map (h : Related R x y) {f : α → α'} {g : β → β'} (hfg : ∀ a b, R a b → R' (f a) (g b)) :
    Related R' (x.map f) (y.map g) := by
  cases h with
  | error e => exact .error e
  | ok h => exact .ok (hfg _ _ h)

/-- Mapping errors keeps outcomes related. -/
theorem mapError (h : Related R x y) (f : ε → ε') : Related R (x.mapError f) (y.mapError f) := by
  cases h with
  | error e => exact .error (f e)
  | ok h => exact .ok h

/-- Outcomes stay related under a weaker relation. -/
theorem mono {S : α → β → Prop} (h : Related R x y) (hRS : ∀ a b, R a b → S a b) : Related S x y := by
  cases h with
  | error e => exact .error e
  | ok h => exact .ok (hRS _ _ h)

/-- Outcomes that are related by equality are equal. -/
theorem eq {x y : Except ε α} (h : Related Eq x y) : x = y := by
  cases h with
  | error => rfl
  | ok h => rw [h]

end Related

end Except

namespace Option.Rel

variable {α : Type}

theorem refl {R : α → α → Prop} (h : ∀ a, R a a) : ∀ x : Option α, Rel R x x
  | .none => .none
  | .some a => .some (h a)

theorem eq {x y : Option α} (h : Rel Eq x y) : x = y := by
  cases h with
  | none => rfl
  | some h => rw [h]

end Option.Rel
