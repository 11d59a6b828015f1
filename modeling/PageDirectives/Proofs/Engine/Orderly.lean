import PageDirectives.Proofs.Engine.History
import PageDirectives.Proofs.Page.Evolution

set_option autoImplicit false

/-! # Engines that keep to their page

An engine that works on a page is *orderly* (`Engine.IsOrderly`) if all that it might run makes the
page become another one, and if directives are bound to elements only. Every step is for elements
then (`Moment.IsOrderly`), and the engine it leaves is orderly again, since the elements it knows stay
elements (`Engine.IsOrderly.take`). So this holds at all moments of a run in which nobody else does
anything to the page but operations on its document (`Engine.IsOrderly.history`).
-/

namespace PageDirectives

/-- The nodes that a step is for. -/
def Step.nodes : Step → List NodeId
  | .arrive _ _ => []
  | .dispatch _ origin => origin
  | .bind _ d _ => d.bound

namespace Engine

/-- All that the engine might run makes pages become other pages, and it has bound directives to
elements of its page. -/
structure IsOrderly (e : Engine Page) : Prop where
  registry : e.registry.IsOrderly
  waiting : ∀ l ∈ e.waiting, ∀ p : Page, p.Becomes (l.effect p)
  bindings : ∀ b ∈ e.bindings, e.host.document.HasElement b.node

/-- An operation on an engine by which pages become other pages, and nothing else. -/
def Op.IsOrderly : Op Page → Prop
  | .register _ action => action.IsOrderly
  | .enable x => ∀ entry ∈ x.actions, Action.IsOrderly entry.2
  | .useRegistry r => r.IsOrderly
  | .change f => ∀ p : Page, p.Becomes (f p)
  | _ => True

end Engine

/-- An orderly engine takes a step that is for elements. -/
structure Moment.IsOrderly (m : Moment Page) : Prop where
  engine : m.engine.IsOrderly
  nodes : ∀ n ∈ m.step.nodes, m.engine.host.document.HasElement n

namespace Engine

theorem isOrderly_new (p : Page) : (new p).IsOrderly where
  registry := Registry.isOrderly_builtin
  waiting _ hl := by cases hl
  bindings _ hb := by cases hb

namespace IsOrderly

variable {e : Engine Page}

/-! ## One step -/

theorem arrive (he : e.IsOrderly) (node : NodeId) (event : String) :
    (e.runDue node event).IsOrderly ∧ e.host.Becomes (e.runDue node event).host := by
  have hbecomes : e.host.Becomes (e.runDue node event).host :=
    Page.becomes_foldl (fun l hl => he.waiting l (List.mem_of_mem_filter hl)) _
  refine ⟨⟨he.registry, fun l hl => ?_, fun b hb => ?_⟩, hbecomes⟩
  · exact he.waiting l (List.mem_of_mem_filter hl)
  · exact hbecomes.hasElement (he.bindings b hb)

theorem dispatch (he : e.IsOrderly) (d : Directive) (origin : List NodeId) :
    (e.dispatch d origin).IsOrderly ∧ e.host.Becomes (e.dispatch d origin).host := by
  have hscene := he.registry.runAll d origin (Piece.chain e.grammar.conjunction d.action) e.scene
  refine ⟨⟨he.registry, fun l hl => ?_, fun b hb => ?_⟩, hscene.host⟩
  · exact (hscene.waiting l hl).elim (he.waiting l) id
  · exact hscene.host.hasElement (he.bindings b hb)

theorem bind (he : e.IsOrderly) (index : Nat) {d : Directive} (event : String)
    (hd : ∀ n ∈ d.bound, e.host.document.HasElement n) :
    (e.bind index d event).IsOrderly ∧ e.host.Becomes (e.bind index d event).host := by
  have hbecomes : e.host.Becomes (e.bind index d event).host :=
    Page.becomes_foldl (fun n _ p => p.becomes_update n _) _
  refine ⟨⟨he.registry, he.waiting, fun b hb => hbecomes.hasElement ?_⟩, hbecomes⟩
  rcases List.mem_append.mp hb with hb | hb
  · exact he.bindings b hb
  · obtain ⟨n, hn, rfl⟩ := List.mem_map.mp hb
    exact hd n hn

/-- **One step** that is for elements leaves an engine orderly. -/
theorem take (he : e.IsOrderly) {s : Step} (hs : ∀ n ∈ s.nodes, e.host.document.HasElement n) :
    (e.take s).IsOrderly ∧ e.host.Becomes (e.take s).host := by
  cases s with
  | arrive node event => exact he.arrive node event
  | dispatch d origin => exact he.dispatch d origin
  | bind index d event => exact he.bind index event hs

/-! ## A whole run -/

/-- **Steps one after the other** are all taken by an orderly engine, if they are for elements to
begin with. -/
theorem takeAll (he : e.IsOrderly) {steps : List Step}
    (hsteps : ∀ s ∈ steps, ∀ n ∈ s.nodes, e.host.document.HasElement n) :
    (∀ m ∈ e.moments steps, m.IsOrderly) ∧ (e.takeAll steps).IsOrderly := by
  induction steps generalizing e with
  | nil => exact ⟨List.forall_mem_nil _, he⟩
  | cons s steps ih =>
      obtain ⟨hs, hsteps⟩ := List.forall_mem_cons.mp hsteps
      obtain ⟨hafter, hbecomes⟩ := he.take hs
      -- elements stay elements, so the steps that are left are for elements still
      have hrest := ih hafter fun s hs n hn => hbecomes.hasElement (hsteps s hs n hn)
      refine ⟨fun m hm => ?_, hrest.2⟩
      rcases List.mem_cons.mp hm with rfl | hm
      · exact ⟨he, hs⟩
      · exact hrest.1 m hm

theorem prepare (he : e.IsOrderly) {op : Op Page} (hop : op.IsOrderly) :
    (e.prepare op).IsOrderly := by
  cases op with
  | readSource source => exact ⟨he.registry, he.waiting, he.bindings⟩
  | readScripts => exact ⟨he.registry, he.waiting, he.bindings⟩
  | fire node event => exact he
  | register name action =>
      exact ⟨Registry.forall_register he.registry hop, he.waiting, he.bindings⟩
  | enable x =>
      exact ⟨Registry.forall_registerAll he.registry hop, he.waiting, fun b hb =>
        (e.host.becomes_inject x.assets).hasElement (he.bindings b hb)⟩
  | change f =>
      exact ⟨he.registry, he.waiting, fun b hb => (hop e.host).hasElement (he.bindings b hb)⟩
  | takeDiagnostics => exact ⟨he.registry, he.waiting, he.bindings⟩
  | useGrammar g => exact ⟨he.registry, he.waiting, he.bindings⟩
  | useScriptTypes types => exact ⟨he.registry, he.waiting, he.bindings⟩
  | useRegistry r => exact ⟨hop, he.waiting, he.bindings⟩

/-- The elements of a directive that is read are elements of the page. -/
theorem hasElement_of_mem_firstSteps {lines : List String} {index : Nat} {s : Step}
    (hs : s ∈ firstSteps index (e.newDirectives lines)) :
    ∀ n ∈ s.nodes, e.host.document.HasElement n := by
  have hbound : ∀ d ∈ e.newDirectives lines, ∀ n ∈ d.bound, e.host.document.HasElement n := by
    intro d hd n hn
    obtain ⟨line, -, hline⟩ := mem_newDirectives_iff.mp hd
    rw [Reading.bound_of_ofLine hline] at hn
    exact Page.hasElement_of_mem_select hn
  rcases step_of_mem_firstSteps hs with ⟨d, hd, -, rfl⟩ | ⟨d, hd, i, event, -, rfl⟩
  · exact hbound d hd
  · exact hbound d hd

/-- An operation takes steps that are for elements. -/
theorem hasElement_of_mem_steps (he : e.IsOrderly) {op : Op Page} {s : Step}
    (hs : s ∈ e.steps op) : ∀ n ∈ s.nodes, (e.prepare op).host.document.HasElement n := by
  cases op with
  | readSource source => exact hasElement_of_mem_firstSteps hs
  | readScripts => exact hasElement_of_mem_firstSteps hs
  | fire node event =>
      obtain ⟨k, -, hs⟩ := List.mem_flatMap.mp hs
      rcases List.mem_cons.mp hs with rfl | hs
      · exact List.forall_mem_nil _
      -- a directive that runs at a node is bound there
      · obtain ⟨index, hindex, hd⟩ := List.mem_filterMap.mp hs
        obtain ⟨d, -, rfl⟩ := Option.map_eq_some_iff.mp hd
        obtain ⟨b, hb, -⟩ := List.mem_map.mp hindex
        obtain ⟨hbound, hpass⟩ := List.mem_filter.mp hb
        obtain rfl : b.node = k := eq_of_beq (Bool.and_eq_true_iff.mp hpass).1
        exact List.forall_mem_singleton.mpr (he.bindings b hbound)
  | _ => cases hs

/-- **All moments of a run are orderly.** -/
theorem history (he : e.IsOrderly) {ops : List (Op Page)} (hops : ∀ op ∈ ops, op.IsOrderly) :
    ∀ m ∈ e.history ops, m.IsOrderly := by
  induction ops generalizing e with
  | nil => exact List.forall_mem_nil _
  | cons op ops ih =>
      obtain ⟨hop, hops⟩ := List.forall_mem_cons.mp hops
      obtain ⟨hmoments, hafter⟩ := (he.prepare hop).takeAll fun s => he.hasElement_of_mem_steps
      rw [← perform_eq] at hafter
      intro m hm
      rcases List.mem_append.mp hm with hm | hm
      · exact hmoments m hm
      · exact ih hafter hops m hm

/-! ## The pages of a run -/

theorem becomes_takeAll (he : e.IsOrderly) {steps : List Step}
    (hsteps : ∀ s ∈ steps, ∀ n ∈ s.nodes, e.host.document.HasElement n) :
    (∀ m ∈ e.moments steps, e.host.Becomes m.engine.host) ∧
      e.host.Becomes (e.takeAll steps).host := by
  induction steps generalizing e with
  | nil => exact ⟨List.forall_mem_nil _, .refl _⟩
  | cons s steps ih =>
      obtain ⟨hs, hsteps⟩ := List.forall_mem_cons.mp hsteps
      obtain ⟨hafter, hbecomes⟩ := he.take hs
      obtain ⟨hmoments, hend⟩ := ih hafter fun s hs n hn => hbecomes.hasElement (hsteps s hs n hn)
      refine ⟨fun m hm => ?_, hbecomes.trans hend⟩
      rcases List.mem_cons.mp hm with rfl | hm
      · exact .refl _
      · exact hbecomes.trans (hmoments m hm)

theorem becomes_prepare (e : Engine Page) {op : Op Page} (hop : op.IsOrderly) :
    e.host.Becomes (e.prepare op).host := by
  cases op with
  | enable x => exact e.host.becomes_inject x.assets
  | change f => exact hop e.host
  | _ => exact .refl _

/-- **The pages at all moments of a run** are what the first one becomes. -/
theorem becomes_history (he : e.IsOrderly) {ops : List (Op Page)} (hops : ∀ op ∈ ops, op.IsOrderly) :
    ∀ m ∈ e.history ops, e.host.Becomes m.engine.host := by
  induction ops generalizing e with
  | nil => exact List.forall_mem_nil _
  | cons op ops ih =>
      obtain ⟨hop, hops⟩ := List.forall_mem_cons.mp hops
      have hprepared := he.prepare hop
      have hsteps : ∀ s ∈ e.steps op, ∀ n ∈ s.nodes,
          (e.prepare op).host.document.HasElement n := fun s => he.hasElement_of_mem_steps
      obtain ⟨hmoments, hend⟩ := hprepared.becomes_takeAll hsteps
      obtain ⟨-, hafter⟩ := hprepared.takeAll hsteps
      rw [← perform_eq] at hend hafter
      have hfirst := becomes_prepare e hop
      intro m hm
      rcases List.mem_append.mp hm with hm | hm
      · exact hfirst.trans (hmoments m hm)
      · exact (hfirst.trans hend).trans (ih hafter hops m hm)

end IsOrderly

end Engine

end PageDirectives
