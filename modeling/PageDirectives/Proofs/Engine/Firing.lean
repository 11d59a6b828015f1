import Mathlib.Algebra.GroupWithZero.Nat
import Mathlib.Data.List.Nodup
import PageDirectives.Proofs.Engine.Binding
import PageDirectives.Proofs.Host.Pages

set_option autoImplicit false

/-! # What an event runs

An event runs, at each node of the lineage it starts from, the directives that wait for it
there, in the order of their numbers (`waitingFor`). All of them are known when the event
happens: neither the actions and the one-shot listeners that run on the way nor what they do to
the page make a difference.

The elements of a directive are those a selection has named, so it waits on none of them twice,
and no directive runs twice at a node.
-/

namespace PageDirectives

/-! ## The directives that wait for an event on a node -/

/-- Whether a directive waits for an event on a node. -/
def Directive.waitsFor (d : Directive) (node : NodeId) (event : String) : Bool :=
  d.trigger == .event event && d.bound.contains node

/-- The directives that wait for an event on a node, each with its number, in the order of the
numbers. -/
def waitingFor (ds : List Directive) (node : NodeId) (event : String) :
    List (Directive × Nat) :=
  ds.zipIdx.filter fun p => p.1.waitsFor node event

/-- A directive whose elements are distinct has at most one binding for an event on a node. -/
theorem filter_listeners {d : Directive} (hd : d.bound.Nodup) (node : NodeId)
    (event : String) (index : Nat) :
    (d.listeners.map fun (n, ev) => (⟨n, ev, index⟩ : Binding)).filter
        (fun b => b.node == node && b.event == event)
      = if d.waitsFor node event then [⟨node, event, index⟩] else [] := by
  unfold Directive.listeners Directive.waitsFor
  cases d.trigger with
  | load => rfl
  | predicate => rfl
  | event name =>
      by_cases hname : name = event
      · subst hname
        -- among distinct elements the node is found once or not at all
        have hone : d.bound.filter (· == node)
            = if node ∈ d.bound then [node] else [] := by
          rw [List.filter_beq, hd.count]
          split <;> rfl
        by_cases hmem : node ∈ d.bound <;>
          simp [List.filter_map, Function.comp_def, hone, hmem]
      · simp [List.filter_map, Function.comp_def, hname]

/-- The bindings for an event on a node are those of the directives that wait for it there. -/
theorem filter_bindingsOf {ds : List Directive} (hds : ∀ d ∈ ds, d.bound.Nodup)
    (node : NodeId) (event : String) :
    (bindingsOf ds).filter (fun b => b.node == node && b.event == event)
      = (waitingFor ds node event).map fun p => ⟨node, event, p.2⟩ := by
  -- the numbers shift along the list, so the induction is over all first numbers
  suffices h : ∀ first, (bindingsFrom first ds).filter
      (fun b => b.node == node && b.event == event)
        = ((ds.zipIdx first).filter fun p => p.1.waitsFor node event).map
            fun p => ⟨node, event, p.2⟩ from h 0
  induction ds with
  | nil => intro first; rfl
  | cons d ds ih =>
      intro first
      have hhead := filter_listeners (hds d (by simp)) node event first
      have hrest := ih (fun d' hd' => hds d' (by simp [hd'])) (first + 1)
      rw [bindingsFrom_cons, List.filter_append, hhead, hrest, List.zipIdx_cons,
        List.filter_cons]
      by_cases hw : d.waitsFor node event <;> simp [hw]

theorem nodup_map_snd_waitingFor (ds : List Directive) (node : NodeId) (event : String) :
    ((waitingFor ds node event).map Prod.snd).Nodup := by
  have hidx : (ds.zipIdx.map Prod.snd).Nodup := by
    rw [List.zipIdx_map_snd]
    exact List.nodup_range'
  exact hidx.sublist (List.filter_sublist.map _)

/-- Along a path that repeats no node, no directive runs twice at a node. -/
theorem nodup_firings (ds : List Directive) {path : List NodeId} (hpath : path.Nodup)
    (event : String) :
    (path.flatMap fun n =>
      (waitingFor ds n event).map fun p => (⟨n, p.2⟩ : Firing)).Nodup := by
  refine List.nodup_flatMap.mpr ⟨fun n _ => ?_, hpath.imp fun hne f hf hf' => ?_⟩
  -- at one node the numbers differ, at two nodes the nodes do
  · have hnodup := nodup_map_snd_waitingFor ds n event
    refine (List.nodup_map_iff_inj_on hnodup.of_map).mpr fun x hx y hy hxy => ?_
    exact List.inj_on_of_nodup_map hnodup hx hy (Firing.mk.inj hxy).2
  · obtain ⟨x, -, rfl⟩ := List.mem_map.mp hf
    obtain ⟨y, -, hy⟩ := List.mem_map.mp hf'
    exact hne (Firing.mk.inj hy).1.symm

namespace Engine

variable {H : Type}

/-! ## The firings at a node -/

/-- As many directives are bound to an event on a node as the node lists it. -/
theorem length_boundTo (e : Engine H) (node : NodeId) (event : String) :
    (e.boundTo node event).length = (e.listeners node).count event := by
  rw [boundTo, listeners, List.length_map, List.count, List.countP_map,
    ← List.countP_eq_length_filter, List.countP_filter]
  exact List.countP_congr fun b _ => by simp [and_comm]

variable [Host H] [LawfulHost H]

/-- The elements of a directive are distinct. -/
theorem Reachable.nodup_bound {e : Engine H} (he : e.Reachable) :
    ∀ d ∈ e.directives, d.bound.Nodup := by
  refine he.forall_directives fun g h line d hd => ?_
  rw [Reading.bound_of_ofLine hd]
  exact LawfulHost.nodup_select h _

/-- The numbers looked up for an event on a node are those of the directives that wait there. -/
theorem Reachable.boundTo_eq {e : Engine H} (he : e.Reachable) (node : NodeId)
    (event : String) :
    e.boundTo node event = (waitingFor e.directives node event).map Prod.snd := by
  rw [boundTo, he.bindings_eq, filter_bindingsOf he.nodup_bound, List.map_map]
  rfl

theorem Reachable.visitSteps_eq {e : Engine H} (he : e.Reachable) (event : String)
    (node : NodeId) :
    e.visitSteps event node = .arrive node event ::
      (waitingFor e.directives node event).map fun p => .dispatch p.1 [node] := by
  rw [visitSteps, he.boundTo_eq, List.filterMap_map]
  refine congrArg _ (List.filterMap_eq_map_iff_forall_eq_some.mpr fun p hp => ?_)
  have hget := List.mem_zipIdx_iff_getElem?.mp (List.mem_filter.mp hp).1
  rw [Function.comp_apply, hget, Option.map_some]

/-- **What an event runs.** The event takes a path from the node up, through the parents the
nodes have when it happens. At each node on the path it arrives, and then every directive that
waits for it there is dispatched, with this node as origin, in the order of their numbers. No
directive runs twice at a node. The number of firings is the number of times the nodes on the
path list the event, and an engine with the same parents, directives and bindings has the same
firings, whatever its actions and its one-shot listeners are. -/
theorem fire_of_reachable {e : Engine H} (he : e.Reachable) (node : NodeId) (event : String) :
    ∃ path, Host.IsLineage e.host node path ∧
      (e.fire node event).1 = e.takeAll (path.flatMap fun n => .arrive n event ::
        (waitingFor e.directives n event).map fun p => .dispatch p.1 [n]) ∧
      (e.fire node event).2 = path.flatMap (fun n =>
        (waitingFor e.directives n event).map fun p => ⟨n, p.2⟩) ∧
      (e.fire node event).2.Nodup ∧
      (e.fire node event).2.length = (path.map fun n => (e.listeners n).count event).sum ∧
      ∀ {H' : Type} [Host H'] [LawfulHost H'] (e' : Engine H'),
        (∀ n, Host.parent? e'.host n = Host.parent? e.host n) →
        e'.directives = e.directives → e'.bindings = e.bindings →
        (e'.fire node event).2 = (e.fire node event).2 := by
  have hfirings : (e.fire node event).2 = (Host.lineage e.host node).flatMap fun n =>
      (waitingFor e.directives n event).map fun p => ⟨n, p.2⟩ := by
    rw [fire_eq, funext (he.visitFirings_eq event)]
    simp only [he.boundTo_eq, List.map_map]
    rfl
  refine ⟨Host.lineage e.host node, Host.isLineage_lineage e.host node, ?_, hfirings, ?_, ?_,
    fun e' hpar hd hb => ?_⟩
  · rw [fire_eq, steps, funext (he.visitSteps_eq event)]
  · rw [hfirings]
    exact nodup_firings e.directives (Host.nodup_lineage e.host node) event
  · simp only [fire_eq, he.visitFirings_eq event, List.length_flatMap, List.length_map,
      length_boundTo]
  · rw [fire_eq, fire_eq, visitFirings_congr hd hb, Host.lineage_congr hpar]

/-- A click on an entry of a menu: the entry and the menu each run their directives, and the
one of the menu runs although the first of the entry is unknown. -/
theorem fire_of_menu :
    let e := (new ((Sketch.empty.add "ul#menu").addChild? "menu" "li#entry" |>.getD .empty)).run
      [.readSource "#menu should hide on click\n#entry should sing on click\nul, li should show on click"]
    e.Reachable ∧ (e.fire 1 "click").2 = [⟨1, 1⟩, ⟨1, 2⟩, ⟨0, 0⟩, ⟨0, 2⟩] ∧
      ((e.fire 1 "click").2).Nodup := by
  intro e
  have he : e.Reachable := (Reachable.new _).run _
  obtain ⟨path, -, -, -, hnodup, -, -⟩ := fire_of_reachable he 1 "click"
  exact ⟨he, by decide +kernel, hnodup⟩

end Engine

end PageDirectives
