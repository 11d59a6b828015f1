import Mathlib.Data.List.Basic
import PageDirectives.Proofs.Engine.Step
import PageDirectives.Sketch.Basic

set_option autoImplicit false

/-! # Bindings

An engine keeps its directives and its bindings in two lists. In every state it reaches, the
second is the list of the bindings that the first calls for (`bindingsOf`): operations only add
to both of them, at the end, and what they add to the one fits what they add to the other
(`Engine.perform_grows`). The numbers that bindings hold are therefore numbers of directives.
-/

namespace PageDirectives

/-! ## The bindings that directives call for -/

/-- The elements a directive waits on, each with the event it waits for. -/
def Directive.listeners (d : Directive) : List (NodeId × String) :=
  match d.trigger with
  | .event event => d.bound.map fun n => (n, event)
  | .load | .predicate => []

theorem Directive.mem_listeners_iff {d : Directive} {node : NodeId} {event : String} :
    (node, event) ∈ d.listeners ↔ d.trigger = .event event ∧ node ∈ d.bound := by
  unfold listeners
  cases d.trigger with
  | event name => simp [and_comm, eq_comm]
  | load => simp
  | predicate => simp

/-- The bindings of directives that are numbered from `first`. -/
def bindingsFrom (first : Nat) (ds : List Directive) : List Binding :=
  (ds.zipIdx first).flatMap fun (d, index) =>
    d.listeners.map fun (node, event) => ⟨node, event, index⟩

/-- The bindings of all directives, in the order of their numbers. -/
def bindingsOf (ds : List Directive) : List Binding := bindingsFrom 0 ds

@[simp] theorem bindingsFrom_nil (first : Nat) : bindingsFrom first [] = [] := rfl

theorem bindingsFrom_cons (first : Nat) (d : Directive) (ds : List Directive) :
    bindingsFrom first (d :: ds)
      = d.listeners.map (fun (node, event) => ⟨node, event, first⟩)
        ++ bindingsFrom (first + 1) ds := rfl

theorem bindingsFrom_append (first : Nat) (ds es : List Directive) :
    bindingsFrom first (ds ++ es)
      = bindingsFrom first ds ++ bindingsFrom (first + ds.length) es := by
  simp only [bindingsFrom, List.zipIdx_append, List.flatMap_append]

/-- A binding belongs to a directive of the list, and to one of the elements it waits on. -/
theorem mem_bindingsOf_iff {ds : List Directive} {b : Binding} :
    b ∈ bindingsOf ds ↔
      ∃ d, ds[b.directive]? = some d ∧ (b.node, b.event) ∈ d.listeners := by
  simp only [bindingsOf, bindingsFrom, List.mem_flatMap, List.mem_map]
  constructor
  · rintro ⟨⟨d, index⟩, hd, ⟨node, event⟩, hl, rfl⟩
    exact ⟨d, List.mem_zipIdx_iff_getElem?.mp hd, hl⟩
  · rintro ⟨d, hd, hl⟩
    exact ⟨(d, b.directive), List.mem_zipIdx_iff_getElem?.mpr hd, (b.node, b.event), hl, rfl⟩

/-- The bindings of one number are the listeners of the directive with this number. -/
theorem filter_bindingsFrom (first i : Nat) (ds : List Directive) :
    ((bindingsFrom first ds).filter (·.directive == first + i)).map (fun b => (b.node, b.event))
      = (ds[i]?).elim [] Directive.listeners := by
  induction ds generalizing first i with
  | nil => simp
  | cons d ds ih =>
      rw [bindingsFrom_cons, List.filter_append, List.map_append]
      cases i with
      | zero =>
          -- the directives after the first have greater numbers
          have hrest : (bindingsFrom (first + 1) ds).filter (·.directive == first + 0) = [] := by
            rw [List.filter_eq_nil_iff]
            intro b hb
            obtain ⟨⟨d', index⟩, hd', hb⟩ := List.mem_flatMap.mp hb
            obtain ⟨l, -, rfl⟩ := List.mem_map.mp hb
            have hle := (List.le_snd_of_mem_zipIdx hd')
            simp only [beq_iff_eq]
            omega
          rw [hrest]
          simp [List.filter_map, Function.comp_def]
      | succ i =>
          -- the first directive has a smaller number
          have hhead : (d.listeners.map fun (node, event) => (⟨node, event, first⟩ : Binding)).filter
              (·.directive == first + (i + 1)) = [] := by
            rw [List.filter_eq_nil_iff]
            intro b hb
            obtain ⟨l, -, rfl⟩ := List.mem_map.mp hb
            simp only [beq_iff_eq]
            omega
          have hnum : first + (i + 1) = first + 1 + i := by omega
          rw [hhead, hnum, ih (first + 1) i]
          rfl

/-! ## What operations add -/

namespace Engine

variable {H : Type} [Host H]

/-- The steps in which directives take effect bind what the directives call for. -/
theorem flatMap_bindings_firstSteps (first : Nat) (ds : List Directive) :
    (firstSteps first ds).flatMap Step.bindings = bindingsFrom first ds := by
  simp only [firstSteps, bindingsFrom, List.flatMap_map]
  congr 1
  funext ⟨d, index⟩
  unfold Directive.firstStep Directive.listeners
  cases d.trigger with
  | event name => simp [Step.bindings, Function.comp_def]
  | load => rfl
  | predicate => rfl

/-- An event changes neither of the lists. -/
theorem fire_frame (e : Engine H) (node : NodeId) (event : String) :
    (e.fire node event).1.directives = e.directives ∧
      (e.fire node event).1.bindings = e.bindings := by
  have hnil : (e.steps (.fire node event)).flatMap Step.bindings = [] := by
    simp [steps, List.flatMap_assoc, flatMap_bindings_visitSteps]
  rw [fire_eq]
  simp [hnil]

/-- The lines that an operation reads. -/
def linesOf (e : Engine H) : Op H → List String
  | .readSource source => sourceLines [source]
  | .readScripts => sourceLines (e.scriptTypes.flatMap (Host.scriptBlocks e.host))
  | _ => []

/-- **What an operation adds to the lists**: the directives among the lines it reads at the end of
the one, and at the end of the other the bindings that these directives call for. -/
theorem perform_grows (e : Engine H) (op : Op H) :
    (e.perform op).directives = e.directives ++ e.newDirectives (e.linesOf op) ∧
      (e.perform op).bindings
        = e.bindings ++ bindingsFrom e.directives.length (e.newDirectives (e.linesOf op)) := by
  have hread (lines : List String) :
      (e.readLines lines).1.directives = e.directives ++ e.newDirectives lines ∧
        (e.readLines lines).1.bindings
          = e.bindings ++ bindingsFrom e.directives.length (e.newDirectives lines) := by
    rw [readLines_eq, takeAll_directives, takeAll_bindings, flatMap_bindings_firstSteps]
    exact ⟨rfl, rfl⟩
  cases op with
  | readSource source => exact hread _
  | readScripts => exact hread _
  | fire node event =>
      obtain ⟨hd, hb⟩ := e.fire_frame node event
      exact ⟨hd.trans (List.append_nil _).symm, hb.trans (List.append_nil _).symm⟩
  -- nothing else reads a line
  | _ => exact ⟨(List.append_nil _).symm, (List.append_nil _).symm⟩

theorem perform_prefix (e : Engine H) (op : Op H) :
    e.directives <+: (e.perform op).directives ∧ e.bindings <+: (e.perform op).bindings := by
  obtain ⟨hd, hb⟩ := e.perform_grows op
  exact ⟨⟨_, hd.symm⟩, ⟨_, hb.symm⟩⟩

/-- Both lists only grow, and only at the end. -/
theorem run_prefix (e : Engine H) (ops : List (Op H)) :
    e.directives <+: (e.run ops).directives ∧ e.bindings <+: (e.run ops).bindings := by
  induction ops generalizing e with
  | nil => exact ⟨List.prefix_refl _, List.prefix_refl _⟩
  | cons op ops ih =>
      obtain ⟨hd, hb⟩ := e.perform_prefix op
      obtain ⟨hd', hb'⟩ := ih (e.perform op)
      exact ⟨hd.trans hd', hb.trans hb'⟩

/-- The bindings of a reachable engine are those its directives call for. -/
theorem Reachable.bindings_eq {e : Engine H} (he : e.Reachable) :
    e.bindings = bindingsOf e.directives := by
  induction he with
  | new host => rfl
  | @perform e op _ ih =>
      obtain ⟨hd, hb⟩ := e.perform_grows op
      -- the new directives are numbered from where the old ones end
      rw [hd, hb, ih, bindingsOf, bindingsOf, bindingsFrom_append, Nat.zero_add]

/-- What holds of every directive that is read from a line holds of those of a reachable
engine. -/
theorem Reachable.forall_directives {P : Directive → Prop}
    (hread : ∀ (g : Grammar) (h : H) (line : String) (d : Directive),
      Reading.ofLine g h line = .directive d → P d)
    {e : Engine H} (he : e.Reachable) : ∀ d ∈ e.directives, P d := by
  induction he with
  | new host => intro d hd; cases hd
  | @perform e op _ ih =>
      obtain ⟨hgrow, -⟩ := e.perform_grows op
      intro d hd
      rw [hgrow] at hd
      rcases List.mem_append.mp hd with hd | hd
      · exact ih d hd
      -- a new one comes from a line that was read on the page as it was then
      · obtain ⟨line, -, hline⟩ := mem_newDirectives_iff.mp hd
        exact hread _ _ line d hline

/-- The number in a binding is the number of a directive, which waits as the binding says. -/
theorem Reachable.exists_directive {e : Engine H} (he : e.Reachable) {b : Binding}
    (hb : b ∈ e.bindings) :
    ∃ d, e.directives[b.directive]? = some d ∧ (b.node, b.event) ∈ d.listeners :=
  mem_bindingsOf_iff.mp (he.bindings_eq ▸ hb)

/-- The number in every binding to an event on a node names a directive. -/
theorem Reachable.exists_of_mem_boundTo {e : Engine H} (he : e.Reachable) {node : NodeId}
    {event : String} {index : Nat} (hi : index ∈ e.boundTo node event) :
    ∃ d, e.directives[index]? = some d := by
  obtain ⟨b, hb, rfl⟩ := List.mem_map.mp hi
  obtain ⟨d, hd, -⟩ := he.exists_directive (List.mem_filter.mp hb).1
  exact ⟨d, hd⟩

/-- No number that is looked up at a node is passed over. -/
theorem Reachable.visitFirings_eq {e : Engine H} (he : e.Reachable) (event : String)
    (node : NodeId) : e.visitFirings event node = (e.boundTo node event).map (⟨node, ·⟩) := by
  refine List.filterMap_eq_map_iff_forall_eq_some.mpr fun index hi => ?_
  obtain ⟨d, hd⟩ := he.exists_of_mem_boundTo hi
  rw [hd, Option.map_some]

theorem Reachable.listenersOf_eq {e : Engine H} (he : e.Reachable) (index : Nat) :
    e.listenersOf index = (e.directives[index]?).elim [] Directive.listeners := by
  have h := filter_bindingsFrom 0 index e.directives
  rw [Nat.zero_add] at h
  rw [listenersOf, he.bindings_eq, bindingsOf, h]

/-- **The bindings of every state are those its directives call for.** Both lists only ever grow
at the end, and an event changes neither of them. Every number in a binding is the number of a
directive, so that an event runs a directive for each number it looks up, and the listeners of a
number are those of the directive with this number, if there is one. -/
theorem bindings_of_reachable {e : Engine H} (he : e.Reachable) :
    e.bindings = bindingsOf e.directives ∧
    (∀ ops, e.directives <+: (e.run ops).directives ∧ e.bindings <+: (e.run ops).bindings) ∧
    (∀ node event, (e.fire node event).1.directives = e.directives ∧
      (e.fire node event).1.bindings = e.bindings) ∧
    (∀ b ∈ e.bindings, b.directive < e.directives.length) ∧
    (∀ node event, (e.fire node event).2 =
      (Host.lineage e.host node).flatMap fun n => (e.boundTo n event).map (⟨n, ·⟩)) ∧
    ∀ index, e.listenersOf index = (e.directives[index]?).elim [] Directive.listeners := by
  refine ⟨he.bindings_eq, e.run_prefix, fun node event => ?_, fun b hb => ?_,
    fun node event => ?_, he.listenersOf_eq⟩
  · obtain ⟨hd, hb⟩ := e.fire_frame node event
    exact ⟨hd, hb⟩
  · obtain ⟨d, hd, -⟩ := he.exists_directive hb
    exact (List.getElem?_eq_some_iff.mp hd).1
  · rw [fire_eq, funext (he.visitFirings_eq event)]

/-- A page with one button, read twice with an event in between: the bindings of the second
reading follow those of the first, and a directive that runs at once leaves a gap. -/
theorem bindings_of_button :
    let e := (new (Sketch.empty.add "button#a")).run
      [.readSource "#a should hide on click\n#a should show on load", .fire 0 "click",
        .readSource "button should show on click"]
    e.Reachable ∧ bindingsOf e.directives = [⟨0, "click", 0⟩, ⟨0, "click", 2⟩] ∧
      (e.directives[2]?).elim [] Directive.listeners = [(0, "click")] := by
  intro e
  have he : e.Reachable := (Reachable.new _).run _
  have h := bindings_of_reachable he
  have hb : e.bindings = [⟨0, "click", 0⟩, ⟨0, "click", 2⟩] := by decide +kernel
  refine ⟨he, h.1.symm.trans hb, ?_⟩
  rw [← h.2.2.2.2.2 2, listenersOf, hb]
  rfl

end Engine

end PageDirectives
