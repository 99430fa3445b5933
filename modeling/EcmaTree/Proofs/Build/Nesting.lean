import EcmaTree.Proofs.Fallible
import EcmaTree.Script
import Mathlib.Data.List.Basic

/-!
# Nestings of builder calls

A term is a nesting of builder calls (`Term.Nests`) if it is put together from values of some kind,
sequences, mappings and calls.  What holds of the values at its leaves, and is passed on by
sequences and by every call, holds of what the whole term evaluates to: if the calls may fail, of
its value should there be one (`Term.Nests.of_eval`), and if they may not, the term has a value
(`Term.Nests.exists_eval`).
-/

namespace EcmaTree

namespace Term

variable {env : Environment} {P : Value → Prop}

/-! ### Several terms -/

/-- If each term has a value, then all of them have. -/
theorem exists_evalAll {ts : List Term} (h : ∀ t ∈ ts, ∃ v, t.eval env = .ok v ∧ P v) :
    ∃ vs, evalAll env ts = .ok vs ∧ ∀ v ∈ vs, P v := by
  induction ts with
  | nil => exact ⟨[], rfl, List.forall_mem_nil _⟩
  | cons t ts ih =>
    rw [List.forall_mem_cons] at h
    obtain ⟨v, hv, hPv⟩ := h.1
    obtain ⟨vs, hvs, hPvs⟩ := ih h.2
    refine ⟨v :: vs, ?_, List.forall_mem_cons.mpr ⟨hPv, hPvs⟩⟩
    rw [evalAll, hv, hvs]
    rfl

/-- The values of terms are as each of them is. -/
theorem forall_of_evalAll {ts : List Term} (h : ∀ t ∈ ts, ∀ v, t.eval env = .ok v → P v)
    {vs : List Value} (hvs : evalAll env ts = .ok vs) : ∀ v ∈ vs, P v := by
  induction ts generalizing vs with
  | nil =>
    cases hvs
    exact List.forall_mem_nil _
  | cons t ts ih =>
    rw [List.forall_mem_cons] at h
    rw [evalAll] at hvs
    obtain ⟨v, hv, hrest⟩ := bind_eq_ok.mp hvs
    obtain ⟨ws, hws, hcons⟩ := bind_eq_ok.mp hrest
    cases hcons
    exact List.forall_mem_cons.mpr ⟨h.1 v hv, ih h.2 hws⟩

/-- If keys and values can be had, then so can the entries. -/
theorem exists_evalEntries {es : List (Term × Term)}
    (hkeys : ∀ e ∈ es, ∃ v, e.1.eval env = .ok v ∧ P v)
    (hvalues : ∀ e ∈ es, ∃ v, e.2.eval env = .ok v ∧ P v) :
    ∃ ws, evalEntries env es = .ok ws ∧ ∀ w ∈ ws, P w.1 ∧ P w.2 := by
  induction es with
  | nil => exact ⟨[], rfl, List.forall_mem_nil _⟩
  | cons e es ih =>
    rw [List.forall_mem_cons] at hkeys hvalues
    obtain ⟨k, hk, hPk⟩ := hkeys.1
    obtain ⟨v, hv, hPv⟩ := hvalues.1
    obtain ⟨ws, hws, hPws⟩ := ih hkeys.2 hvalues.2
    refine ⟨(k, v) :: ws, ?_, List.forall_mem_cons.mpr ⟨⟨hPk, hPv⟩, hPws⟩⟩
    rw [evalEntries, hk, hv, hws]
    rfl

/-- Keys and values that come of entries are as each of them is. -/
theorem forall_of_evalEntries {es : List (Term × Term)}
    (hkeys : ∀ e ∈ es, ∀ v, e.1.eval env = .ok v → P v)
    (hvalues : ∀ e ∈ es, ∀ v, e.2.eval env = .ok v → P v) {ws : List (Value × Value)}
    (hws : evalEntries env es = .ok ws) : ∀ w ∈ ws, P w.1 ∧ P w.2 := by
  induction es generalizing ws with
  | nil =>
    cases hws
    exact List.forall_mem_nil _
  | cons e es ih =>
    rw [List.forall_mem_cons] at hkeys hvalues
    rw [evalEntries] at hws
    obtain ⟨k, hk, hrest⟩ := bind_eq_ok.mp hws
    obtain ⟨v, hv, hrest⟩ := bind_eq_ok.mp hrest
    obtain ⟨others, hothers, hcons⟩ := bind_eq_ok.mp hrest
    cases hcons
    exact List.forall_mem_cons.mpr
      ⟨⟨hkeys.1 k hk, hvalues.1 v hv⟩, ih hkeys.2 hvalues.2 hothers⟩

/-! ### Nestings -/

/-- The term is put together from leaves, sequences, mappings and calls, each of them allowed for
the values of its arguments. -/
inductive Nests (leaf : Value → Prop) (allowed : Builder → List Value → Prop)
    (env : Environment) : Term → Prop where
  /-- A leaf. -/
  | value {v : Value} (h : leaf v) : Nests leaf allowed env (.value v)
  /-- A list. -/
  | list {ts : List Term} (h : ∀ t ∈ ts, Nests leaf allowed env t) :
    Nests leaf allowed env (.list ts)
  /-- A tuple. -/
  | tuple {ts : List Term} (h : ∀ t ∈ ts, Nests leaf allowed env t) :
    Nests leaf allowed env (.tuple ts)
  /-- A mapping. -/
  | mapping {es : List (Term × Term)} (hkeys : ∀ e ∈ es, Nests leaf allowed env e.1)
    (hvalues : ∀ e ∈ es, Nests leaf allowed env e.2) : Nests leaf allowed env (.mapping es)
  /-- A call. -/
  | call {b : Builder} {ts : List Term} (h : ∀ t ∈ ts, Nests leaf allowed env t)
    (hallowed : ∀ vs, evalAll env ts = .ok vs → allowed b vs) :
    Nests leaf allowed env (.call b ts)

/-- The property is passed on from the members of a sequence or a mapping to the whole. -/
structure PassedOn (P : Value → Prop) : Prop where
  /-- To a list. -/
  list : ∀ vs, (∀ v ∈ vs, P v) → P (.list vs)
  /-- To a tuple. -/
  tuple : ∀ vs, (∀ v ∈ vs, P v) → P (.tuple vs)
  /-- To a mapping. -/
  mapping : ∀ ws : List (Value × Value), (∀ w ∈ ws, P w.1 ∧ P w.2) → P (.mapping ws)

variable {leaf : Value → Prop} {allowed : Builder → List Value → Prop} {t : Term}

/-- If no allowed call fails, a nesting has a value, and it is as the leaves are. -/
theorem Nests.exists_eval (h : t.Nests leaf allowed env) (hleaf : ∀ v, leaf v → P v)
    (hP : PassedOn P)
    (hbuild : ∀ b vs, allowed b vs → (∀ v ∈ vs, P v) → ∃ w, b.build vs = .ok w ∧ P w) :
    ∃ v, t.eval env = .ok v ∧ P v := by
  -- The induction is on how the term is put together, with one case for each way.
  induction h with
  | value h => exact ⟨_, rfl, hleaf _ h⟩
  | list _ ih =>
    obtain ⟨vs, hvs, hPvs⟩ := exists_evalAll ih
    refine ⟨.list vs, ?_, hP.list vs hPvs⟩
    rw [eval, hvs]
    rfl
  | tuple _ ih =>
    obtain ⟨vs, hvs, hPvs⟩ := exists_evalAll ih
    refine ⟨.tuple vs, ?_, hP.tuple vs hPvs⟩
    rw [eval, hvs]
    rfl
  | mapping _ _ ihkeys ihvalues =>
    obtain ⟨ws, hws, hPws⟩ := exists_evalEntries ihkeys ihvalues
    refine ⟨.mapping ws, ?_, hP.mapping ws hPws⟩
    rw [eval, hws]
    rfl
  | call _ hallowed ih =>
    obtain ⟨vs, hvs, hPvs⟩ := exists_evalAll ih
    obtain ⟨w, hw, hPw⟩ := hbuild _ vs (hallowed vs hvs) hPvs
    refine ⟨w, ?_, hPw⟩
    rw [eval, hvs]
    exact hw

/-- Whatever value a nesting has, it is as the leaves are. -/
theorem Nests.of_eval (h : t.Nests leaf allowed env) (hleaf : ∀ v, leaf v → P v)
    (hP : PassedOn P)
    (hbuild : ∀ (b : Builder) (vs : List Value) (w : Value), b.build vs = .ok w →
      (∀ v ∈ vs, P v) → P w) {v : Value} (hv : t.eval env = .ok v) : P v := by
  induction h generalizing v with
  | value h =>
    cases hv
    exact hleaf _ h
  | list _ ih =>
    rw [eval] at hv
    obtain ⟨vs, hvs, hlist⟩ := bind_eq_ok.mp hv
    cases hlist
    exact hP.list vs (forall_of_evalAll (fun t ht _ => ih t ht) hvs)
  | tuple _ ih =>
    rw [eval] at hv
    obtain ⟨vs, hvs, htuple⟩ := bind_eq_ok.mp hv
    cases htuple
    exact hP.tuple vs (forall_of_evalAll (fun t ht _ => ih t ht) hvs)
  | mapping _ _ ihkeys ihvalues =>
    rw [eval] at hv
    obtain ⟨ws, hws, hmapping⟩ := bind_eq_ok.mp hv
    cases hmapping
    exact hP.mapping ws (forall_of_evalEntries (fun e he _ => ihkeys e he)
      (fun e he _ => ihvalues e he) hws)
  -- A call is the only place where a builder comes in.
  | call _ _ ih =>
    rw [eval] at hv
    obtain ⟨vs, hvs, hw⟩ := bind_eq_ok.mp hv
    exact hbuild _ vs v hw (forall_of_evalAll (fun t ht _ => ih t ht) hvs)

end Term

end EcmaTree
