import Mathlib.Data.List.Forall2

/-!
# Chains of steps that may fail

A chain succeeds exactly if each of its steps does, and so does one step made for each item of a
list.
-/

namespace TypedLayouts

variable {ε α β : Type} {y : Except ε β} {b : β} {e : ε}

theorem bind_eq_ok_iff {x : Except ε α} {f : α → Except ε β} :
    x >>= f = .ok b ↔ ∃ a, x = .ok a ∧ f a = .ok b := by
  cases x with
  | error e => simp [bind, Except.bind]
  | ok a => simp [bind, Except.bind]

theorem guard_eq_ok_iff {f : α → Except ε β} {c : Prop} [Decidable c] :
    (if c then (throw e : Except ε α) >>= f else y) = .ok b ↔ ¬ c ∧ y = .ok b := by
  by_cases hc : c
  · simp [hc, bind_eq_ok_iff, throw, throwThe, MonadExceptOf.throw]
  · simp [hc]

theorem mapM_eq_ok_iff {f : α → Except ε β} {as : List α} {bs : List β} :
    as.mapM f = .ok bs ↔ List.Forall₂ (fun a b => f a = .ok b) as bs := by
  induction as generalizing bs with
  | nil => cases bs <;> simp [pure, Except.pure]
  | cons a as ih =>
    rw [List.mapM_cons]
    simp only [bind_eq_ok_iff, ih, List.forall₂_cons_left_iff]
    constructor
    · rintro ⟨b, hb, bs', hbs, hall⟩
      cases hall
      exact ⟨b, bs', hb, hbs, rfl⟩
    · rintro ⟨b, bs', hb, hbs, rfl⟩
      exact ⟨b, hb, bs', hbs, rfl⟩

end TypedLayouts
