import PageDirectives.Proofs.Action.Latest
import PageDirectives.Proofs.Dispatch.Chain
import PageDirectives.Proofs.Engine.History
import PageDirectives.Sketch.Basic

set_option autoImplicit false

/-! # Registrations in a run

Actions are registered by operations of a run, and called by directives at its moments. Nothing but
these operations changes the registry (`Engine.run_registry`): it holds what was registered before the
operation that a moment belongs to. A directive keeps the words of its actions and not the actions, so
each of its calls reaches the action that was registered last under its name, whether that happened
before the directive was read or after (`Engine.dispatch_of_latest`).
-/

namespace PageDirectives

variable {H : Type}

/-! ## Calls by name -/

namespace Piece

variable {r : Registry H} {d : Directive} {origin : List NodeId} {s : Scene H} {name : String}
  {args : List String}

/-- What is reported of the answer to a call. -/
def problem? (name : String) (d : Directive) : Except ActionError Unit → Option Diagnostic
  | .ok () => none
  | .error cause => some (.actionFailed name d.raw cause.message)

theorem run_call_of_find? {action : Action H} (hfind : r.find? name = some action) :
    run r d origin s (.call name args)
      = ((s.run action ⟨origin, d, args⟩).2,
          problem? name d (s.run action ⟨origin, d, args⟩).1) := by
  rcases hrun : s.run action ⟨origin, d, args⟩ with ⟨answer, left⟩
  cases answer with
  | ok _ => simp only [run, hfind, hrun, problem?]
  | error cause => simp only [run, hfind, hrun, problem?]

/-- A name is unknown where nothing is found under it, and nowhere else. -/
theorem run_call_unknown_iff :
    (run r d origin s (.call name args)).2 = some (.unknownAction name d.raw) ↔
      r.find? name = none := by
  cases hfind : r.find? name with
  | none => simp [run, hfind]
  | some action =>
      rw [run_call_of_find? hfind]
      cases (s.run action ⟨origin, d, args⟩).1 with
      | ok _ => simp [problem?]
      | error cause => simp [problem?]

/-- **A call in a chain** is made on what the pieces in front of it have left, of the action that is
found under its name. The name is reported as unknown if and only if nothing is found. -/
theorem runAll_call (r : Registry H) (d : Directive) (origin : List NodeId) {pieces : List Piece}
    {k : Nat} (hpiece : pieces[k]? = some (.call name args)) (s : Scene H) :
    (∀ action, r.find? name = some action →
      let answer := (runAll r d origin (pieces.take k) s).1.run action ⟨origin, d, args⟩
      (runAll r d origin (pieces.take (k + 1)) s).1 = answer.2 ∧
        (runAll r d origin pieces s).2[k]? = some (problem? name d answer.1)) ∧
    ((runAll r d origin pieces s).2[k]? = some (some (.unknownAction name d.raw)) ↔
      r.find? name = none) := by
  obtain ⟨hscene, houtcome⟩ := runAll_of_getElem? r d origin hpiece s
  refine ⟨fun action hfind => ?_, ?_⟩
  · rw [run_call_of_find? hfind] at hscene houtcome
    exact ⟨hscene, houtcome⟩
  · rw [houtcome, Option.some.injEq, run_call_unknown_iff]

theorem chain_getElem? {conjunction action text : String} {k : Nat}
    (htext : (Text.split conjunction action)[k]? = some text) (hwords : Text.words text = name :: args) :
    (chain conjunction action)[k]? = some (.call name args) := by
  rw [chain, List.getElem?_map, htext, Option.map_some, ofText, hwords]

end Piece

variable [Host H]

namespace Engine

/-! ## The registry of a run -/

/-- The actions that an operation registers, in order. -/
def Op.registrations : Op H → List (String × Action H)
  | .register name action => [(name, action)]
  | .enable x => x.actions
  | _ => []

/-- Whether an operation does no more to the registry than to register actions. -/
def Op.KeepsRegistry : Op H → Prop
  | .useRegistry _ => False
  | _ => True

/-- All that has been registered in a run, the built-in actions first. -/
def registrations (ops : List (Op H)) : List (String × Action H) :=
  Builtin.all ++ ops.flatMap Op.registrations

theorem perform_registry (e : Engine H) {op : Op H} (hop : op.KeepsRegistry) :
    (e.perform op).registry = e.registry.registerAll op.registrations := by
  rw [perform_eq, takeAll_registry]
  cases op with
  | enable x => rfl
  | useRegistry r => exact absurd hop not_false
  | _ => rfl

/-- **The registry of a run** is what the operations have registered, one after the other. -/
theorem run_registry (host : H) {ops : List (Op H)} (hops : ∀ op ∈ ops, op.KeepsRegistry) :
    ((new host).run ops).registry = Registry.empty.registerAll (registrations ops) := by
  suffices h : ∀ e : Engine H,
      (e.run ops).registry = e.registry.registerAll (ops.flatMap Op.registrations) by
    rw [h, registrations, Registry.registerAll_append]
    rfl
  induction ops with
  | nil => exact fun e => rfl
  | cons op ops ih =>
      obtain ⟨hop, hops⟩ := List.forall_mem_cons.mp hops
      intro e
      rw [run_cons, ih hops, perform_registry e hop, List.flatMap_cons, Registry.registerAll_append]

/-- No step changes the registry, so it is the same at all moments of the steps. -/
theorem registry_of_mem_moments {e : Engine H} {steps : List Step} {m : Moment H}
    (hm : m ∈ e.moments steps) : m.engine.registry = e.registry := by
  induction steps generalizing e with
  | nil => cases hm
  | cons s steps ih =>
      rcases List.mem_cons.mp hm with rfl | hm
      · rfl
      · rw [ih hm, take_registry]

/-- An operation that takes steps registers nothing. -/
theorem prepare_registry_of_mem_moments {e : Engine H} {op : Op H} {m : Moment H}
    (hm : m ∈ (e.prepare op).moments (e.steps op)) : (e.prepare op).registry = e.registry := by
  cases op with
  | readSource source => rfl
  | readScripts => rfl
  | fire node event => rfl
  | _ => cases hm

/-- At any moment of a run the registry holds what was registered before the operation that the
moment belongs to. -/
theorem exists_registrations (host : H) {ops : List (Op H)} (hops : ∀ op ∈ ops, op.KeepsRegistry)
    {m : Moment H} (hm : m ∈ (new host).history ops) :
    ∃ before op rest, ops = before ++ op :: rest ∧
      m ∈ (((new host).run before).prepare op).moments (((new host).run before).steps op) ∧
      m.engine.registry = Registry.empty.registerAll (registrations before) := by
  obtain ⟨before, op, rest, hops', hmem⟩ := exists_op_of_mem_history hm
  refine ⟨before, op, rest, hops', hmem, ?_⟩
  rw [registry_of_mem_moments hmem, prepare_registry_of_mem_moments hmem]
  exact run_registry host fun o ho => hops o (hops' ▸ List.mem_append_left _ ho)

/-- No name is lost. -/
theorem names_subset_of_run (host : H) {ops more : List (Op H)}
    (hops : ∀ op ∈ ops, op.KeepsRegistry) (hmore : ∀ op ∈ more, op.KeepsRegistry) :
    ((new host).run ops).registry.names ⊆ ((new host).run (ops ++ more)).registry.names := by
  intro name hname
  have hall : ∀ op ∈ ops ++ more, op.KeepsRegistry := fun op hop =>
    (List.mem_append.mp hop).elim (hops op) (hmore op)
  rw [run_registry host hops, Registry.mem_names_registerAll_iff] at hname
  rw [run_registry host hall, Registry.mem_names_registerAll_iff, registrations,
    List.flatMap_append, ← List.append_assoc, List.map_append]
  exact List.mem_append_left _ hname

/-! ## Late binding -/

/-- **What a call in a directive reaches.** Take any moment of a run at which a directive runs, and the
operation that the moment belongs to. Each call in the actions of the directive, by the first word of
its piece, is a call of the action that was registered last under this name before the operation,
the built-in actions being registered first of all; it is made on what the pieces in front of it have
left. The name is unknown if and only if nothing was registered under it.

At the end of any run the names in the registry are in increasing order, by code points. They are
those that were ever registered, and there are as many entries as names; so registering an action
replaces one if and only if its name was registered before, and no name is ever lost. -/
theorem dispatch_of_latest (host : H) {ops : List (Op H)} (hops : ∀ op ∈ ops, op.KeepsRegistry) :
    (∀ m ∈ (new host).history ops, ∀ d origin, m.step = .dispatch d origin →
      ∃ before op rest, ops = before ++ op :: rest ∧
        m ∈ (((new host).run before).prepare op).moments (((new host).run before).steps op) ∧
        let texts := Text.split m.engine.grammar.conjunction d.action
        let pieces := Piece.chain m.engine.grammar.conjunction d.action
        let run := fun pieces => Piece.runAll m.engine.registry d origin pieces m.engine.scene
        m.after.scene = (run pieces).1 ∧
        m.after.diagnostics = m.engine.diagnostics ++ (run pieces).2.filterMap id ∧
        ∀ (k : Nat) text name args, texts[k]? = some text → Text.words text = name :: args →
          (∀ action, IsLatest (registrations before) name action →
            let answer := (run (pieces.take k)).1.run action ⟨origin, d, args⟩
            (run (pieces.take (k + 1))).1 = answer.2 ∧
              (run pieces).2[k]? = some (Piece.problem? name d answer.1)) ∧
          ((run pieces).2[k]? = some (some (.unknownAction name d.raw)) ↔
            name ∉ (registrations before).map Prod.fst)) ∧
    let r := ((new host).run ops).registry
    let regs := registrations ops
    r.names.Pairwise (· < ·) ∧
    (∀ name, name ∈ r.names ↔ name ∈ regs.map Prod.fst) ∧
    r.size = (regs.map Prod.fst).toFinset.card ∧
    (∀ name action, r.find? name = some action ↔ IsLatest regs name action) ∧
    (∀ name action,
      (r.replace name action).1 = ((new host).run (ops ++ [.register name action])).registry ∧
      ((r.replace name action).2.isSome ↔ name ∈ regs.map Prod.fst) ∧
      ∀ old, (r.replace name action).2 = some old ↔ IsLatest regs name old) ∧
    ∀ more, (∀ op ∈ more, op.KeepsRegistry) →
      r.names ⊆ ((new host).run (ops ++ more)).registry.names := by
  refine ⟨fun m hm d origin hstep => ?_, ?_⟩
  · obtain ⟨before, op, rest, hops', hmem, hregistry⟩ := exists_registrations host hops hm
    have hafter : m.after = m.engine.dispatch d origin := by rw [Moment.after, hstep, take]
    refine ⟨before, op, rest, hops', hmem, by rw [hafter]; rfl, by rw [hafter]; rfl, ?_⟩
    intro k text name args htext hwords
    have hpiece := Piece.chain_getElem? htext hwords
    obtain ⟨hfound, hunknown⟩ :=
      Piece.runAll_call m.engine.registry d origin hpiece m.engine.scene
    refine ⟨fun action hlatest => hfound action ?_, hunknown.trans ?_⟩
    · rw [hregistry]
      exact Registry.find?_registerAll_iff.mpr hlatest
    · rw [hregistry, ← Registry.mem_names_registerAll_iff, Registry.mem_names_iff,
        Option.not_isSome_iff_eq_none]
  · intro r regs
    have hr : r = Registry.empty.registerAll regs := run_registry host hops
    have hmem (name : String) : name ∈ r.names ↔ name ∈ regs.map Prod.fst := by
      rw [hr]
      exact Registry.mem_names_registerAll_iff
    have hfind (name : String) (action : Action H) :
        r.find? name = some action ↔ IsLatest regs name action := by
      rw [hr]
      exact Registry.find?_registerAll_iff
    refine ⟨?_, hmem, ?_, hfind, fun name action => ⟨?_, ?_, hfind name⟩,
      fun more hmore => names_subset_of_run host hops hmore⟩
    · rw [hr]
      exact Registry.isSorted_registerAll regs
    · rw [hr]
      exact Registry.size_registerAll regs
    · rw [run_append]
      rfl
    · rw [← hmem, Registry.mem_names_iff]
      rfl

/-- An action is bound to a click and registered anew before the click: the later action runs, and the
element that was to be hidden is shown. -/
theorem dispatch_of_hide :
    let ops : List (Op Sketch) := [.readSource "a should hide and sing on click",
      .register "hide" (Builtin.setVisible true), .enable (.animate "motion.css"), .fire 0 "click"]
    let e := (new (Sketch.empty.add "a")).run ops
    (∀ op ∈ ops, op.KeepsRegistry) ∧ IsLatest (registrations ops) "hide" (Builtin.setVisible true) ∧
      e.registry.find? "hide" = some (Builtin.setVisible true) ∧ e.registry.size = 9 ∧
      Host.isVisible e.host 0 ∧ e.diagnostics.length = 1 := by
  intro ops e
  have hops : ∀ op ∈ ops, op.KeepsRegistry := by
    intro op hop
    simp only [ops, List.mem_cons, List.not_mem_nil, or_false] at hop
    rcases hop with rfl | rfl | rfl | rfl <;> trivial
  have hlatest : IsLatest (registrations ops) "hide" (Builtin.setVisible true) :=
    ⟨Builtin.all, [("animate", Builtin.animate)], rfl, by simp⟩
  obtain ⟨-, -, -, hsize, hfind, -⟩ := dispatch_of_latest (Sketch.empty.add "a") hops
  refine ⟨hops, hlatest, (hfind _ _).mpr hlatest, hsize.trans ?_, ?_, ?_⟩
  · decide +kernel
  · decide +kernel
  · decide +kernel

end Engine

end PageDirectives
