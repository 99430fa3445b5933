import EcmaTree.Diagnostic.Session
import Mathlib.Tactic.Common

/-!
# Sessions do not interfere

However the requests for several sessions are interleaved, each session ends as if it had been given
its own requests alone, and what is seen of each of them is what is seen then
(`Session.runAll_isolated`).  So the order of requests for different sessions does not matter.

A request steps one session and leaves the others as they are.  So the projection of a run to one
session is a run of that session (`Session.getElem?_runAll`, `Session.ofSession_transcript`), and
everything else follows.
-/

namespace EcmaTree

/-- The operations for one session, in order. -/
def Request.operationsFor (i : ℕ) (requests : List Request) : List Operation :=
  requests.filterMap fun r => if r.session = i then some r.operation else none

/-- What is seen of one session, in order. -/
def Effect.ofSession (i : ℕ) (seen : List (ℕ × Option Effect)) : List Effect :=
  seen.filterMap fun e => if e.1 = i then e.2 else none

namespace Request

variable {i : ℕ} {r : Request}

theorem operationsFor_cons_of_eq (h : r.session = i) (requests : List Request) :
    operationsFor i (r :: requests) = r.operation :: operationsFor i requests := by
  unfold operationsFor
  rw [List.filterMap_cons, if_pos h]

theorem operationsFor_cons_of_ne (h : r.session ≠ i) (requests : List Request) :
    operationsFor i (r :: requests) = operationsFor i requests := by
  unfold operationsFor
  rw [List.filterMap_cons, if_neg h]

end Request

namespace Session

variable {i j : ℕ} (sessions : List Session) (requests : List Request)

theorem getElem?_stepAt_self (op : Operation) :
    (stepAt sessions i op)[i]? = (sessions[i]?).map fun s => s.step op := by
  rw [stepAt, List.getElem?_modify_eq]
  rfl

theorem getElem?_stepAt_of_ne (h : j ≠ i) (op : Operation) :
    (stepAt sessions j op)[i]? = sessions[i]? := by
  exact List.getElem?_modify_ne _ _ h

/-- A session among others runs through its own operations. -/
theorem getElem?_runAll : (runAll sessions requests)[i]?
    = (sessions[i]?).map fun s => s.run (Request.operationsFor i requests) := by
  induction requests generalizing sessions with
  | nil => exact Option.map_id'.symm
  | cons r requests ih =>
    show (runAll (stepAt sessions r.session r.operation) requests)[i]? = _
    rw [ih]
    by_cases h : r.session = i
    · rw [Request.operationsFor_cons_of_eq h, h, getElem?_stepAt_self, Option.map_map]
      rfl
    · rw [Request.operationsFor_cons_of_ne h, getElem?_stepAt_of_ne sessions h]

/-- What is seen of a session among others is what is seen of it alone. -/
theorem ofSession_transcript {s : Session} (hs : sessions[i]? = some s) :
    Effect.ofSession i (transcript sessions requests)
      = s.effects (Request.operationsFor i requests) := by
  unfold Effect.ofSession
  induction requests generalizing sessions s with
  | nil => rfl
  | cons r requests ih =>
    rw [transcript, List.filterMap_cons]
    -- a step of this session, or of another one, which leaves this one as it is
    by_cases h : r.session = i
    · have hstep : (stepAt sessions r.session r.operation)[i]? = some (s.step r.operation) := by
        rw [h, getElem?_stepAt_self, hs, Option.map_some]
      rw [Request.operationsFor_cons_of_eq h, effects, ← ih _ hstep]
      simp [h, hs]
    · have hstep : (stepAt sessions r.session r.operation)[i]? = some s := by
        rw [getElem?_stepAt_of_ne sessions h, hs]
      rw [Request.operationsFor_cons_of_ne h, ← ih _ hstep]
      simp [h]

/-- The sessions at the end depend on nothing but the operations for each of them. -/
theorem runAll_congr {others : List Request}
    (h : ∀ i < sessions.length,
      Request.operationsFor i others = Request.operationsFor i requests) :
    runAll sessions others = runAll sessions requests := by
  apply List.ext_getElem?
  intro i
  rw [getElem?_runAll, getElem?_runAll]
  rcases Nat.lt_or_ge i sessions.length with hi | hi
  · rw [h i hi]
  · rw [List.getElem?_eq_none hi]
    rfl

theorem getElem?_map_start (options : List SessionOptions) (i : Fin options.length) :
    (options.map start)[i.val]? = some (start (options.get i)) := by
  rw [List.getElem?_map, List.getElem?_eq_getElem i.isLt]
  rfl

/-- **Sessions do not interfere.**  After any interleaving of requests each session is as after its
own operations alone, and what is seen of these is the same.  Requests that are the same for each
session lead to the same sessions, in whatever order they come. -/
theorem runAll_isolated (options : List SessionOptions) (requests others : List Request) :
    (∀ i : Fin options.length,
      (runAll (options.map start) requests)[i.val]?
          = some ((start (options.get i)).run (Request.operationsFor i requests)) ∧
        Effect.ofSession i (transcript (options.map start) requests)
          = (start (options.get i)).effects (Request.operationsFor i requests)) ∧
      ((∀ i : Fin options.length,
          Request.operationsFor i others = Request.operationsFor i requests) →
        runAll (options.map start) others = runAll (options.map start) requests) := by
  refine ⟨fun i => ⟨?_, ofSession_transcript _ _ (getElem?_map_start options i)⟩,
    fun h => runAll_congr _ _ ?_⟩
  · rw [getElem?_runAll, getElem?_map_start]
    rfl
  · intro i hi
    rw [List.length_map] at hi
    exact h ⟨i, hi⟩

/-- Two requests for different sessions, in either order. -/
theorem runAll_isolated_swap :
    (∀ i : Fin 2,
      Request.operationsFor i [⟨1, .report .warning .none [] []⟩, ⟨0, .clearError⟩]
        = Request.operationsFor i [⟨0, .clearError⟩, ⟨1, .report .warning .none [] []⟩]) ∧
      runAll ([{}, { warningsAsErrors := true }].map start)
          [⟨1, .report .warning .none [] []⟩, ⟨0, .clearError⟩]
        = runAll ([{}, { warningsAsErrors := true }].map start)
          [⟨0, .clearError⟩, ⟨1, .report .warning .none [] []⟩] := by
  have hsame : ∀ i : Fin 2,
      Request.operationsFor i [⟨1, .report .warning .none [] []⟩, ⟨0, .clearError⟩]
        = Request.operationsFor i [⟨0, .clearError⟩, ⟨1, .report .warning .none [] []⟩] := by
    intro i
    match i with
    | 0 => rfl
    | 1 => rfl
  exact ⟨hsame, (runAll_isolated [{}, { warningsAsErrors := true }] _ _).2 hsame⟩

end Session

end EcmaTree
