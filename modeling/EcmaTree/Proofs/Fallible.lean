import Mathlib.Data.List.Basic

/-!
# Computations that may fail

What is known of a computation in `Except` from what it is made of.  A sequence of computations has
a result if each of them has one (`mapM_eq_ok`), and where all failures have the same reason one
failure is enough to know the outcome (`mapM_eq_error`).
-/

namespace EcmaTree

variable {ε α β : Type} {x : Except ε α}

/-- What a computation gives that goes on with the result of another. -/
theorem bind_eq_ok {f : α → Except ε β} {b : β} :
    (x >>= f) = .ok b ↔ ∃ a, x = .ok a ∧ f a = .ok b := by
  cases x with
  | error e => simp [bind, Except.bind]
  | ok a => simp [bind, Except.bind]

/-- What a computation gives whose result is put into another form. -/
theorem map_eq_ok {f : α → β} {b : β} : x.map f = .ok b ↔ ∃ a, x = .ok a ∧ f a = b := by
  cases x with
  | error e => simp [Except.map]
  | ok a => simp [Except.map]

theorem map_eq_error {f : α → β} {e : ε} : x.map f = .error e ↔ x = .error e := by
  cases x with
  | error e => simp [Except.map]
  | ok a => simp [Except.map]

/-- A reason stays in its place when it is put into another form. -/
theorem mapError_eq_ok {ε' : Type} {f : ε → ε'} {a : α} : x.mapError f = .ok a ↔ x = .ok a := by
  cases x with
  | error e => simp [Except.mapError]
  | ok a => simp [Except.mapError]

theorem toOption_eq_some {a : α} : x.toOption = some a ↔ x = .ok a := by
  cases x with
  | error e => simp [Except.toOption]
  | ok a => simp [Except.toOption]

section Traversal

variable {f : α → Except ε β} {l : List α}

/-- Where each member has a result the members have all of them. -/
theorem mapM_eq_ok {g : α → β} (h : ∀ a ∈ l, f a = .ok (g a)) : l.mapM f = .ok (l.map g) := by
  induction l with
  | nil => rfl
  | cons a l ih =>
    rw [List.forall_mem_cons] at h
    rw [List.mapM_cons, h.1, ih h.2]
    rfl

/-- One failure is a failure of the whole, and its reason is known if there is no other reason. -/
theorem mapM_eq_error {e : ε} (h : ∀ a ∈ l, f a = .error e ∨ ∃ b, f a = .ok b) {a : α} (ha : a ∈ l)
    (hfail : f a = .error e) : l.mapM f = .error e := by
  induction l with
  | nil => cases ha
  | cons c l ih =>
    rw [List.forall_mem_cons] at h
    rw [List.mapM_cons]
    rcases h.1 with hc | ⟨b, hc⟩
    · rw [hc]
      rfl
    · -- the first member has a result, so the failure is behind it
      have hl : a ∈ l := by
        rcases List.mem_cons.mp ha with rfl | hl
        · rw [hfail] at hc
          cases hc
        · exact hl
      rw [hc, ih h.2 hl]
      rfl

end Traversal

end EcmaTree
