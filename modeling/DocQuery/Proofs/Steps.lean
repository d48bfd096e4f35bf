/-!
# Steps that may be refused

When a sequence of steps is accepted, and with which result, for which reasons it may be refused,
and when two sequences come to the same verdict.
-/

namespace DocQuery

variable {ε δ α β γ : Type}

/-- A sequence is accepted if both steps are. -/
theorem bind_eq_ok_iff {x : Except ε α} {f : α → Except ε β} {b : β} :
    x >>= f = .ok b ↔ ∃ a, x = .ok a ∧ f a = .ok b := by
  cases x <;> simp [bind, Except.bind]

/-- A sequence is refused by the first step that is. -/
theorem bind_eq_error_iff {x : Except ε α} {f : α → Except ε β} {e : ε} :
    x >>= f = .error e ↔ x = .error e ∨ ∃ a, x = .ok a ∧ f a = .error e := by
  cases x <;> simp [bind, Except.bind]

/-- Only an accepted result is changed by a function. -/
theorem map_eq_ok_iff {x : Except ε α} {f : α → β} {b : β} :
    f <$> x = .ok b ↔ ∃ a, x = .ok a ∧ f a = b := by
  cases x <;> simp [Functor.map, Except.map]

/-- Another account of refusals accepts the same. -/
theorem mapError_eq_ok_iff {x : Except ε α} {f : ε → δ} {a : α} :
    x.mapError f = .ok a ↔ x = .ok a := by
  cases x with
  | error e => exact ⟨nofun, nofun⟩
  | ok b =>
    change Except.ok b = .ok a ↔ _
    rw [Except.ok.injEq, Except.ok.injEq]

/-- A step that leaves a result is accepted with it. -/
theorem toOption_eq_some_iff {x : Except ε α} {a : α} : x.toOption = some a ↔ x = .ok a := by
  cases x <;> simp [Except.toOption]

/-- A step that counts as true is accepted. -/
theorem exists_eq_ok {x : Except ε α} (h : x.toBool = true) : ∃ a, x = .ok a := by
  cases x with
  | ok a => exact ⟨a, rfl⟩
  | error e => cases h

/-- A step that counts as false is refused. -/
theorem exists_eq_error {x : Except ε α} (h : x.toBool = false) : ∃ e, x = .error e := by
  cases x with
  | ok a => cases h
  | error e => exact ⟨e, rfl⟩

/-- Whether a step is refused for reasons of a sort only. -/
def RefusedFor (reason : ε → Prop) (x : Except ε α) : Prop := ∀ e, x = .error e → reason e

namespace RefusedFor

variable {reason : ε → Prop} {x : Except ε α}

/-- An accepted step is refused for no reason. -/
theorem of_ok (a : α) : RefusedFor reason (.ok a : Except ε α) := nofun

/-- A refused step is refused for reasons of the sort of its own. -/
theorem of_error {e : ε} (h : reason e) : RefusedFor reason (.error e : Except ε α) := by
  rintro _ ⟨⟩
  exact h

/-- A sequence is refused for reasons of a sort if both steps are. -/
theorem bind {f : α → Except ε β} (hx : RefusedFor reason x)
    (hf : ∀ a, RefusedFor reason (f a)) : RefusedFor reason (x >>= f) := by
  cases x with
  | error e => exact of_error (hx e rfl)
  | ok a => exact hf a

/-- A function of the result adds no reason. -/
theorem map (f : α → β) (hx : RefusedFor reason x) : RefusedFor reason (f <$> x) := by
  cases x with
  | error e => exact of_error (hx e rfl)
  | ok a => exact of_ok (f a)

end RefusedFor

/-- Two steps come to the same verdict: both are refused, and for the same reason, or both are
accepted, with results that are related. -/
inductive SameVerdict (R : α → β → Prop) : Except ε α → Except ε β → Prop
  | accepted {a : α} {b : β} (h : R a b) : SameVerdict R (.ok a) (.ok b)
  | refused (e : ε) : SameVerdict R (.error e) (.error e)

namespace SameVerdict

variable {R : α → β → Prop} {x : Except ε α} {y : Except ε β}

/-- A step comes to the same verdict as itself. -/
theorem refl {R : α → α → Prop} (h : ∀ a, R a a) (x : Except ε α) : SameVerdict R x x := by
  cases x with
  | error e => exact refused e
  | ok a => exact accepted (h a)

/-- Equal steps come to the same verdict. -/
theorem of_eq {y : Except ε α} (h : x = y) : SameVerdict Eq x y := h ▸ refl (fun _ => rfl) x

/-- Sequences come to the same verdict if their steps do. -/
theorem bind {S : γ → δ → Prop} {f : α → Except ε γ} {g : β → Except ε δ}
    (h : SameVerdict R x y) (hfg : ∀ a b, R a b → SameVerdict S (f a) (g b)) :
    SameVerdict S (x >>= f) (y >>= g) := by
  cases h with
  | refused e => exact refused e
  | accepted hab => exact hfg _ _ hab

/-- Sequences with the same first step. -/
theorem bind_eq {S : γ → δ → Prop} {f : α → Except ε γ} {g : α → Except ε δ}
    {y : Except ε α} (h : x = y) (hfg : ∀ a, SameVerdict S (f a) (g a)) :
    SameVerdict S (x >>= f) (y >>= g) :=
  (of_eq h).bind fun a _ hab => hab ▸ hfg a

/-- If one step is accepted, the other is, with a related result. -/
theorem exists_ok (h : SameVerdict R x y) {a : α} (hx : x = .ok a) : ∃ b, y = .ok b ∧ R a b := by
  cases h with
  | refused e => cases hx
  | accepted hab =>
    cases hx
    exact ⟨_, rfl, hab⟩

/-- Steps with the same verdict are refused for the same reasons. -/
theorem error_iff (h : SameVerdict R x y) {e : ε} : x = .error e ↔ y = .error e := by
  cases h with
  | refused f => rw [Except.error.injEq, Except.error.injEq]
  | accepted hab => exact ⟨nofun, nofun⟩

end SameVerdict

/-- Two steps have the same result, or both are refused, for reasons that correspond. -/
inductive SameUpTo (R : ε → ε → Prop) : Except ε α → Except ε α → Prop
  | accepted (a : α) : SameUpTo R (.ok a) (.ok a)
  | refused {e e' : ε} (h : R e e') : SameUpTo R (.error e) (.error e')

namespace SameUpTo

variable {R S : ε → ε → Prop} {x y : Except ε α}

/-- Equal steps have the same result or corresponding reasons. -/
theorem of_eq (hR : ∀ e, R e e) (h : x = y) : SameUpTo R x y := by
  subst h
  cases x with
  | error e => exact refused (hR e)
  | ok a => exact accepted a

/-- Sequences have the same result or corresponding reasons if their steps do. -/
theorem bind {f g : α → Except ε β} (h : SameUpTo R x y) (hfg : ∀ a, SameUpTo R (f a) (g a)) :
    SameUpTo R (x >>= f) (y >>= g) := by
  cases h with
  | accepted a => exact hfg a
  | refused h => exact refused h

/-- A function of the results keeps them the same. -/
theorem map (f : α → β) (h : SameUpTo R x y) : SameUpTo R (f <$> x) (f <$> y) := by
  cases h with
  | accepted a => exact accepted (f a)
  | refused h => exact refused h

/-- Steps whose reasons are the same where they correspond have the same result. -/
theorem eq (hR : ∀ e e', R e e' → e = e') (h : SameUpTo R x y) : x = y := by
  cases h with
  | accepted a => rfl
  | refused h => rw [hR _ _ h]

end SameUpTo

end DocQuery
