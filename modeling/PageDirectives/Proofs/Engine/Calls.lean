import PageDirectives.Proofs.Dispatch.Chain
import PageDirectives.Proofs.Engine.OneShot

set_option autoImplicit false

/-! # The calls of a run

Each of the actions that a directive runs is called with its arguments, for some elements and on the
page as the actions before it have left it (`ActionCall`). A call leaves one-shot listeners behind or
does not, and the listeners that are registered at a moment are those that its calls have left behind,
in order (`Moment.registered_eq`).
-/

namespace PageDirectives

/-- A call of an action on a page. -/
structure ActionCall (H : Type) where
  action : Action H
  call : Call
  host : H

/-- What the call leaves. The action is shown none of the listeners that wait already. -/
def ActionCall.left {H : Type} (i : ActionCall H) : Scene H := (i.action i.call { host := i.host }).2

namespace Piece

variable {H : Type}

/-- The calls of a chain, each on the page that the one before it leaves. -/
def calls (r : Registry H) (d : Directive) (origin : List NodeId) :
    List Piece → H → List (ActionCall H)
  | [], _ => []
  | piece :: pieces, h =>
    match piece.action? r with
    | none => calls r d origin pieces h
    | some a =>
      let i : ActionCall H := ⟨a.1, ⟨origin, d, a.2⟩, h⟩
      i :: calls r d origin pieces i.left.host

variable {r : Registry H} {d : Directive} {origin : List NodeId}

/-- A call is of an action that is registered. -/
theorem find?_of_mem_calls {pieces : List Piece} {h : H} {i : ActionCall H}
    (hi : i ∈ calls r d origin pieces h) : ∃ name, r.find? name = some i.action := by
  induction pieces generalizing h with
  | nil => cases hi
  | cons piece pieces ih =>
      rw [calls] at hi
      split at hi
      · exact ih hi
      · next a ha =>
          rcases List.mem_cons.mp hi with rfl | hi
          · cases piece with
            | blank => cases ha
            | call name args =>
                obtain ⟨action, hfound, rfl⟩ := Option.map_eq_some_iff.mp ha
                exact ⟨name, hfound⟩
          · exact ih hi

/-- **The listeners that a chain leaves behind** are those that its calls do, in order. -/
theorem runAll_waiting (pieces : List Piece) (s : Scene H) :
    (runAll r d origin pieces s).1.waiting
      = s.waiting ++ (calls r d origin pieces s.host).flatMap (·.left.waiting) := by
  induction pieces generalizing s with
  | nil => simp [runAll, calls]
  | cons piece pieces ih =>
      rw [runAll_cons, ih, run_scene, calls]
      cases haction : piece.action? r with
      | none => rfl
      | some a =>
          rw [List.flatMap_cons, ← List.append_assoc]
          rfl

end Piece

namespace Moment

variable {H : Type}

/-- The calls that are made at a moment, in order. -/
def calls (m : Moment H) : List (ActionCall H) :=
  match m.step with
  | .dispatch d origin =>
    Piece.calls m.engine.registry d origin
      (Piece.chain m.engine.grammar.conjunction d.action) m.engine.host
  | _ => []

theorem find?_of_mem_calls {m : Moment H} {i : ActionCall H} (hi : i ∈ m.calls) :
    ∃ name, m.engine.registry.find? name = some i.action := by
  obtain ⟨e, s⟩ := m
  cases s with
  | dispatch d origin => exact Piece.find?_of_mem_calls hi
  | _ => cases hi

/-- **The listeners that are registered at a moment** are those that its calls leave behind. -/
theorem registered_eq (m : Moment H) : m.registered = m.calls.flatMap (·.left.waiting) := by
  obtain ⟨e, s⟩ := m
  cases s with
  | dispatch d origin => exact Piece.runAll_waiting _ _
  | _ => rfl

end Moment

end PageDirectives
