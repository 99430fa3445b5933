import EcmaTree.Build.Property
import Mathlib.Data.List.Basic

/-!
# The parts of a value

A value is made of components: a sequence of its members, a mapping of its keys and values, a token
of its text and its location, a node of its fields and its location.  Its parts are itself and the
parts of its components (`Value.IsPartOf`); other than in a walk nothing is left out, neither tokens
nor what stands in a field of the wrong shape.  A value is synthetic if no token or node among its
parts has a location.
-/

namespace EcmaTree.Value

/-- What a value is immediately made of. -/
def components : Value → List Value
  | list items => items
  | tuple items => items
  | mapping entries => entries.flatMap fun e => [e.1, e.2]
  | token _ location => [location]
  | identifier name location => [name, location]
  | literal _ spelling location => [spelling, location]
  | span file line column endLine endColumn raw => [file, line, column, endLine, endColumn, raw]
  | place _ attributes => attributes.map Prod.snd
  | node _ fields location => location :: fields
  | _ => []

/-- A value is part of another if it is that value or part of one of its components. -/
inductive IsPartOf (w : Value) : Value → Prop where
  /-- Every value is part of itself. -/
  | refl : w.IsPartOf w
  /-- A part of a component. -/
  | inside {c v : Value} (hc : c ∈ v.components) (h : w.IsPartOf c) : w.IsPartOf v

variable {S : Value → Prop} {v w : Value}

/-- All parts of the value are in the class. -/
def Within (S : Value → Prop) (v : Value) : Prop := ∀ w : Value, w.IsPartOf v → S w

theorem within_iff : v.Within S ↔ S v ∧ ∀ c ∈ v.components, c.Within S := by
  constructor
  · intro h
    exact ⟨h v .refl, fun c hc w hw => h w (.inside hc hw)⟩
  · rintro ⟨hv, hcomponents⟩ w hw
    cases hw with
    | refl => exact hv
    | inside hc hw => exact hcomponents _ hc w hw

theorem Within.self (h : v.Within S) : S v := h v .refl

theorem Within.component (h : v.Within S) (hw : w ∈ v.components) : w.Within S :=
  (within_iff.mp h).2 w hw

/-- The value is no token or node with a location. -/
def IsUnlocated (v : Value) : Prop := ∀ l, v.location? = some l → l = none

/-- No token or node in the value has a location. -/
def IsSynthetic (v : Value) : Prop := v.Within IsUnlocated

end EcmaTree.Value
