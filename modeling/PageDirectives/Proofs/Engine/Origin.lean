import Mathlib.Data.List.Induction
import PageDirectives.Proofs.Directive.WellFormed
import PageDirectives.Proofs.Engine.Firing

set_option autoImplicit false

/-! # Where directives come from

A directive has been read by one of the operations of a run (`Engine.exists_reading`): it is one of the
lines of this operation, matched against the page as it was before the operation, and under the
phrases of that time. If these are settled before anything is read, everything that is known of a
single reading holds of all directives at any time (`Engine.directives_of_fixedGrammar`).
-/

namespace PageDirectives

namespace Engine

variable {H : Type}

/-- Whether an operation reads lines. -/
def Op.IsReading : Op H → Prop
  | .readSource _ | .readScripts => True
  | _ => False

/-- Whether an operation leaves the phrases of the grammar as they are. -/
def Op.KeepsGrammar : Op H → Prop
  | .useGrammar _ => False
  | _ => True

variable [Host H]

/-! ## The grammar of a run -/

theorem perform_grammar (e : Engine H) {op : Op H} (hop : op.KeepsGrammar) :
    (e.perform op).grammar = e.grammar := by
  rw [perform_eq, takeAll_grammar]
  cases op with
  | useGrammar g => exact absurd hop not_false
  | _ => rfl

theorem run_grammar (e : Engine H) {ops : List (Op H)} (hops : ∀ op ∈ ops, op.KeepsGrammar) :
    (e.run ops).grammar = e.grammar :=
  run_keeps (fun e _ => e.perform_grammar) e hops

/-! ## The operation that has read a directive -/

theorem isReading_of_mem_linesOf {e : Engine H} {op : Op H} {line : String}
    (h : line ∈ e.linesOf op) : op.IsReading := by
  cases op with
  | readSource source => exact trivial
  | readScripts => exact trivial
  | _ => cases h

/-- An operation that reads nothing adds no directives. -/
theorem perform_directives_of_not_isReading (e : Engine H) {op : Op H} (hop : ¬ op.IsReading) :
    (e.perform op).directives = e.directives := by
  have hnone : e.newDirectives (e.linesOf op) = [] := by
    rw [List.eq_nil_iff_forall_not_mem]
    intro d hd
    obtain ⟨line, hline, -⟩ := mem_newDirectives_iff.mp hd
    exact hop (isReading_of_mem_linesOf hline)
  rw [(e.perform_grows op).1, hnone, List.append_nil]

theorem run_directives_of_not_isReading (e : Engine H) {ops : List (Op H)}
    (hops : ∀ op ∈ ops, ¬ op.IsReading) : (e.run ops).directives = e.directives :=
  run_keeps (fun e _ => e.perform_directives_of_not_isReading) e hops

/-- **Every directive has been read by some operation**: the one during which the list has grown past
its number. -/
theorem exists_reading {e : Engine H} (hnone : e.directives = []) {ops : List (Op H)} {i : Nat}
    {d : Directive} (hd : (e.run ops).directives[i]? = some d) :
    ∃ before op rest, ops = before ++ op :: rest ∧
      (e.run before).directives.length ≤ i ∧
      i < ((e.run before).perform op).directives.length ∧
      d ∈ (e.run before).newDirectives ((e.run before).linesOf op) := by
  -- from the end, so that the last operation is the one in question or leaves the directive alone
  induction ops using List.reverseRecOn with
  | nil => rw [run_nil, hnone] at hd; cases hd
  | append_singleton ops op ih =>
      have hgrow := ((e.run ops).perform_grows op).1
      rw [run_append, run_cons, run_nil] at hd
      have hlt : i < ((e.run ops).perform op).directives.length :=
        (List.getElem?_eq_some_iff.mp hd).1
      rw [hgrow] at hd
      by_cases hold : i < (e.run ops).directives.length
      · rw [List.getElem?_append_left hold] at hd
        obtain ⟨before, op', rest, rfl, hfacts⟩ := ih hd
        exact ⟨before, op', rest ++ [op], by simp, hfacts⟩
      · have hle := Nat.le_of_not_lt hold
        rw [List.getElem?_append_right hle] at hd
        exact ⟨ops, op, [], rfl, hle, hlt, List.mem_of_getElem? hd⟩

/-- If the grammar stays as it is, every directive of a run is a line read under it. -/
theorem exists_line {e : Engine H} (hnone : e.directives = []) {ops : List (Op H)}
    (hops : ∀ op ∈ ops, op.KeepsGrammar) {i : Nat} {d : Directive}
    (hd : (e.run ops).directives[i]? = some d) :
    ∃ before op rest, ops = before ++ op :: rest ∧ op.IsReading ∧
      (e.run before).directives.length ≤ i ∧
      i < ((e.run before).perform op).directives.length ∧
      ∃ line, Reading.ofLine e.grammar (e.run before).host line = .directive d := by
  obtain ⟨before, op, rest, rfl, hle, hlt, hnew⟩ := exists_reading hnone hd
  obtain ⟨line, hline, hreading⟩ := mem_newDirectives_iff.mp hnew
  have hgrammar : (e.run before).grammar = e.grammar :=
    e.run_grammar fun o ho => hops o (List.mem_append_left _ ho)
  rw [hgrammar] at hreading
  exact ⟨before, op, rest, rfl, isReading_of_mem_linesOf hline, hle, hlt, line, hreading⟩

/-- An event for which nothing is bound runs nothing, wherever it happens. -/
theorem fire_of_unbound (e : Engine H) {event : String}
    (h : ∀ b ∈ e.bindings, b.event ≠ event) (node : NodeId) : (e.fire node event).2 = [] := by
  rw [fire_eq, List.flatMap_eq_nil_iff]
  intro n _
  have hfree : e.boundTo n event = [] := by
    rw [boundTo, List.map_eq_nil_iff, List.filter_eq_nil_iff]
    intro b hb hpass
    exact h b hb (eq_of_beq (Bool.and_eq_true_iff.mp hpass).2)
  rw [visitFirings, hfree]
  rfl

/-! ## What is known of all directives -/

/-- **What is known of the directives of a run.** Let the grammar be settled before anything is read.
Then every directive is well-formed under it. There is an operation that has added the directive, and
its elements are those its selector has named on the page before this operation: each of them once, and
each of them one that matches. So nothing is ever bound to the sentinel, and the sentinel as an event
runs nothing anywhere. -/
theorem directives_of_fixedGrammar [FaithfulHost H] (host : H) {setup ops : List (Op H)}
    (hsetup : ∀ op ∈ setup, ¬ op.IsReading) (hops : ∀ op ∈ ops, op.KeepsGrammar) :
    let start := (new host).run setup
    let g := start.grammar
    let e := start.run ops
    (∀ i d, e.directives[i]? = some d → d.IsWellFormed g ∧ d.bound.Nodup ∧
      ∃ before op rest, ops = before ++ op :: rest ∧ op.IsReading ∧
        (start.run before).directives.length ≤ i ∧
        i < ((start.run before).perform op).directives.length ∧
        d.bound = Host.select (start.run before).host d.selector ∧
        ∀ n ∈ d.bound, Host.isMatch (start.run before).host n d.selector) ∧
    (∀ b ∈ e.bindings, b.event ≠ g.loadSentinel) ∧
    ∀ node, (e.fire node g.loadSentinel).2 = [] := by
  intro start g e
  have hreachable : e.Reachable := ((Reachable.new host).run setup).run ops
  have hnone : start.directives = [] := (new host).run_directives_of_not_isReading hsetup
  have hbindings : ∀ b ∈ e.bindings, b.event ≠ g.loadSentinel := by
    intro b hb
    obtain ⟨d, hd, hlistens⟩ := hreachable.exists_directive hb
    obtain ⟨_, _, _, -, -, -, -, line, hreading⟩ := exists_line hnone hops hd
    have htrigger := (Directive.mem_listeners_iff.mp hlistens).1
    exact ((Reading.isWellFormed_of_ofLine hreading).event _ htrigger).2
  refine ⟨fun i d hd => ?_, hbindings, e.fire_of_unbound hbindings⟩
  obtain ⟨before, op, rest, hops', hop, hle, hlt, line, hreading⟩ := exists_line hnone hops hd
  have hbound : d.bound = Host.select (start.run before).host d.selector :=
    Reading.bound_of_ofLine hreading
  refine ⟨Reading.isWellFormed_of_ofLine hreading,
    hreachable.nodup_bound d (List.mem_of_getElem? hd), before, op, rest, hops', hop, hle, hlt,
    hbound, fun n hn => ?_⟩
  exact FaithfulHost.isMatch_of_mem_select _ _ n (hbound ▸ hn)

/-- A page whose directives run at once on `ready`, and wait for `load` as for any other event. -/
theorem directives_of_ready :
    let setup : List (Op Sketch) := [.useGrammar { loadSentinel := "ready" }]
    let ops : List (Op Sketch) :=
      [.readSource "a should hide on ready\na should show on load ", .fire 0 "load"]
    let e := ((new (Sketch.empty.add "a")).run setup).run ops
    (∀ op ∈ setup, ¬ op.IsReading) ∧ (∀ op ∈ ops, op.KeepsGrammar) ∧
      e.bindings = [⟨0, "load", 1⟩] ∧ (e.fire 0 "load").2 = [⟨0, 1⟩] ∧
      (e.fire 0 "ready").2 = [] := by
  intro setup ops e
  have hsetup : ∀ op ∈ setup, ¬ op.IsReading := List.forall_mem_singleton.mpr not_false
  have hops : ∀ op ∈ ops, op.KeepsGrammar :=
    List.forall_mem_cons.mpr ⟨trivial, List.forall_mem_singleton.mpr trivial⟩
  obtain ⟨-, -, hnothing⟩ := directives_of_fixedGrammar (Sketch.empty.add "a") hsetup hops
  exact ⟨hsetup, hops, by decide +kernel, by decide +kernel, hnothing 0⟩

end Engine

end PageDirectives
