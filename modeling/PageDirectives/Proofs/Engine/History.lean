import PageDirectives.Proofs.Engine.Step

set_option autoImplicit false

/-! # The history of a run

The history of a run are its moments: the steps the engine takes, one after the other, each with
the engine that takes it. Operations that are performed one after the other have their histories
one after the other too, and the moments at which an event arrives somewhere are those of an
event that happens in the run.
-/

namespace PageDirectives

/-- A step with the engine that takes it. -/
structure Moment (H : Type) where
  engine : Engine H
  step : Step

/-- The engine once the step is taken. -/
def Moment.after {H : Type} [Host H] (m : Moment H) : Engine H := m.engine.take m.step

namespace Engine

variable {H : Type} [Host H]

/-- The moments of steps taken in order. -/
def moments (e : Engine H) : List Step → List (Moment H)
  | [] => []
  | s :: steps => ⟨e, s⟩ :: (e.take s).moments steps

@[simp] theorem map_step_moments (e : Engine H) (steps : List Step) :
    (e.moments steps).map Moment.step = steps := by
  induction steps generalizing e with
  | nil => rfl
  | cons s steps ih => rw [moments, List.map_cons, ih]

theorem moments_append (e : Engine H) (steps more : List Step) :
    e.moments (steps ++ more) = e.moments steps ++ (e.takeAll steps).moments more := by
  induction steps generalizing e with
  | nil => rfl
  | cons s steps ih => rw [List.cons_append, moments, ih]; rfl

/-- The moments of operations performed in order. -/
def history (e : Engine H) : List (Op H) → List (Moment H)
  | [] => []
  | op :: ops => (e.prepare op).moments (e.steps op) ++ (e.perform op).history ops

theorem history_append (e : Engine H) (ops more : List (Op H)) :
    e.history (ops ++ more) = e.history ops ++ (e.run ops).history more := by
  induction ops generalizing e with
  | nil => rfl
  | cons op ops ih => rw [List.cons_append, history, ih, history, List.append_assoc]; rfl

/-- Every moment of a run belongs to one of its operations. -/
theorem exists_op_of_mem_history {e : Engine H} {ops : List (Op H)} {m : Moment H}
    (hm : m ∈ e.history ops) :
    ∃ before op rest, ops = before ++ op :: rest ∧
      m ∈ ((e.run before).prepare op).moments ((e.run before).steps op) := by
  induction ops generalizing e with
  | nil => cases hm
  | cons op ops ih =>
      rcases List.mem_append.mp hm with hm | hm
      · exact ⟨[], op, ops, rfl, hm⟩
      · obtain ⟨before, op', rest, rfl, hmem⟩ := ih hm
        exact ⟨op :: before, op', rest, rfl, hmem⟩

/-- A new directive makes no event arrive. -/
theorem arrive_notMem_firstSteps (index : Nat) (ds : List Directive) (node : NodeId)
    (event : String) : .arrive node event ∉ firstSteps index ds := by
  intro hmem
  rcases step_of_mem_firstSteps hmem with ⟨d, -, -, heq⟩ | ⟨d, -, i, name, -, heq⟩
  · cases heq
  · cases heq

/-- An event arrives where one that happens bubbles to, and nowhere else. -/
theorem exists_fire_of_mem_steps {e : Engine H} {op : Op H} {n : NodeId} {event : String}
    (h : .arrive n event ∈ e.steps op) :
    ∃ node, op = .fire node event ∧ n ∈ Host.lineage e.host node := by
  cases op with
  | readSource source => exact absurd h (arrive_notMem_firstSteps _ _ n event)
  | readScripts => exact absurd h (arrive_notMem_firstSteps _ _ n event)
  | fire node name =>
      obtain ⟨k, hk, hmem⟩ := List.mem_flatMap.mp h
      rcases List.mem_cons.mp hmem with heq | hmem
      · obtain ⟨rfl, rfl⟩ := Step.arrive.inj heq
        exact ⟨node, rfl, hk⟩
      · obtain ⟨d, heq⟩ := exists_of_mem_tail_visitSteps hmem
        cases heq
  | _ => cases h

/-- Every arrival in a run belongs to an event that happens in it. -/
theorem exists_fire_of_mem_history {e : Engine H} {ops : List (Op H)} {m : Moment H}
    (hm : m ∈ e.history ops) {n : NodeId} {event : String} (hstep : m.step = .arrive n event) :
    ∃ before node rest, ops = before ++ .fire node event :: rest ∧
      n ∈ Host.lineage (e.run before).host node := by
  induction ops generalizing e with
  | nil => cases hm
  | cons op ops ih =>
      rcases List.mem_append.mp hm with hm | hm
      -- the moment belongs to the first operation, which has to be an event then
      · have hmem : m.step ∈ e.steps op := by
          rw [← (e.prepare op).map_step_moments (e.steps op)]
          exact List.mem_map_of_mem hm
        obtain ⟨node, rfl, hn⟩ := exists_fire_of_mem_steps (hstep ▸ hmem)
        exact ⟨[], node, ops, rfl, hn⟩
      · obtain ⟨before, node, rest, rfl, hn⟩ := ih hm
        exact ⟨op :: before, node, rest, rfl, hn⟩

theorem history_fire (e : Engine H) (node : NodeId) (event : String) :
    e.history [.fire node event]
      = e.moments ((Host.lineage e.host node).flatMap (e.visitSteps event)) :=
  List.append_nil _

end Engine

end PageDirectives
