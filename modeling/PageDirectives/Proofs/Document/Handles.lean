import Mathlib.Data.List.Sort
import PageDirectives.Proofs.Document.Ancestry
import PageDirectives.Proofs.Document.Run

set_option autoImplicit false

/-! # Handles

A document can be used through handles (`Catalog`): a list says which node a handle stands for, and
a dictionary which handle a node has. Nodes are entered behind an operation: all nodes in the order
in which they were made, but for as many as there are handles. So it matters that no operation makes
nodes without entering them, and that the nodes that have handles come first in that order.

The two tables are inverse to each other and complete after every operation
(`Catalog.Complete.perform`): the handle of a node is its place in the order in which nodes are
made. This is why the number of a node does for a handle, and why handles stay valid
(`Catalog.handles_of_run`).
-/

namespace PageDirectives

/-- The numbers of all nodes, in the order in which they were made. -/
def Document.byAge (d : Document) : List NodeId := (d.trees.labels.map Node.id).mergeSort

theorem Document.byAge_eq (d : Document) : d.byAge = List.range d.size := by
  have hperm : d.byAge.Perm (List.range d.size) := (List.mergeSort_perm _ _).trans d.numbered
  exact hperm.eq_of_sortedLE List.sortedLE_mergeSort List.pairwise_le_range.sortedLE

/-- A document with handles for its nodes. -/
structure Catalog where
  document : Document
  /-- The node of every handle. -/
  nodes : List NodeId := []
  /-- The handle of every node. -/
  handles : List (NodeId × Nat) := []

namespace Catalog

/-- The handle of a node. -/
def handle? (c : Catalog) (node : NodeId) : Option Nat := c.handles.lookup node

/-- Gives a node the next handle. -/
def enter (c : Catalog) (node : NodeId) : Catalog :=
  { c with nodes := c.nodes ++ [node], handles := (node, c.nodes.length) :: c.handles }

/-- Gives handles to all nodes behind those that have one. -/
def register (c : Catalog) : Catalog :=
  (c.document.byAge.drop c.nodes.length).foldl enter c

def parse (markup : String) : Catalog := register { document := .parse markup }

/-- Changes the document in a way that may make nodes. -/
def grow (c : Catalog) (document : Document) : Catalog := register { c with document }

/-- Makes an empty element under a node; the answer is the handle of the element. -/
def appendElement (c : Catalog) (handle : Nat) (name : String) (a : Attributes) :
    Catalog × Option Nat :=
  match c.nodes[handle]? with
  | none => (c, none)
  | some node =>
    let (document, made) := c.document.appendElement node name a
    (c.grow document, made.bind (c.grow document).handle?)

/-- An operation, told by handles. -/
def perform (c : Catalog) : Document.Op → Catalog
  | .update handle f =>
    match c.nodes[handle]? with
    | none => c
    | some node => { c with document := c.document.update node f }
  | .replaceChildren handle markup =>
    match c.nodes[handle]? with
    | none => c
    | some node => c.grow (c.document.replaceChildren node markup)
  | .appendHtml handle markup =>
    match c.nodes[handle]? with
    | none => c
    | some node => c.grow (c.document.appendHtml node markup)
  | .appendElement handle name a => (c.appendElement handle name a).1

def run (c : Catalog) (ops : List Document.Op) : Catalog := ops.foldl perform c

@[simp] theorem run_cons (c : Catalog) (op : Document.Op) (ops : List Document.Op) :
    c.run (op :: ops) = (c.perform op).run ops := rfl

/-! ## Entering nodes -/

/-- The first nodes have handles, each its place in the order of making. -/
structure Numbered (c : Catalog) : Prop where
  nodes_eq : c.nodes = List.range c.nodes.length
  handle?_eq : ∀ n, c.handle? n = if n < c.nodes.length then some n else none

theorem Numbered.enter {c : Catalog} (h : c.Numbered) : (c.enter c.nodes.length).Numbered where
  nodes_eq := by
    show c.nodes ++ [c.nodes.length] = List.range (c.nodes ++ [c.nodes.length]).length
    rw [List.length_append, List.length_singleton, List.range_succ, ← h.nodes_eq]
  handle?_eq n := by
    show List.lookup n ((c.nodes.length, c.nodes.length) :: c.handles)
      = if n < (c.nodes ++ [c.nodes.length]).length then some n else none
    rw [List.length_append, List.length_singleton, List.lookup_cons]
    by_cases hn : n = c.nodes.length
    · simp [hn]
    · have hne : (n == c.nodes.length) = false := by simpa using hn
      have hiff : n < c.nodes.length + 1 ↔ n < c.nodes.length :=
        ⟨fun hlt => Nat.lt_of_le_of_ne (Nat.le_of_lt_succ hlt) hn, Nat.lt_succ_of_lt⟩
      simp only [hne, hiff]
      exact h.handle?_eq n

theorem Numbered.enterAll (k : Nat) :
    ∀ {c : Catalog}, c.Numbered →
      ((List.range' c.nodes.length k).foldl Catalog.enter c).Numbered ∧
      ((List.range' c.nodes.length k).foldl Catalog.enter c).nodes.length = c.nodes.length + k ∧
      ((List.range' c.nodes.length k).foldl Catalog.enter c).document = c.document := by
  induction k with
  | zero => exact fun h => ⟨h, rfl, rfl⟩
  | succ k ih =>
      intro c h
      have hlen : (c.enter c.nodes.length).nodes.length = c.nodes.length + 1 := by
        simp [Catalog.enter]
      have hrest := ih h.enter
      rw [hlen] at hrest
      rw [List.range'_succ, List.foldl_cons]
      refine ⟨hrest.1, ?_, hrest.2.2⟩
      rw [hrest.2.1]
      omega

/-- Every node has a handle, its place in the order of making. -/
structure Complete (c : Catalog) : Prop extends Numbered c where
  length_nodes : c.nodes.length = c.document.size

/-- **Entering the nodes that are left** completes the tables, whatever the document has become, as
long as it still has the nodes that were entered. -/
theorem Numbered.register {c : Catalog} (h : c.Numbered) (hle : c.nodes.length ≤ c.document.size) :
    c.register.Complete ∧ c.register.document = c.document := by
  have hdrop : c.document.byAge.drop c.nodes.length
      = List.range' c.nodes.length (c.document.size - c.nodes.length) := by
    rw [Document.byAge_eq, List.range_eq_range', List.drop_range']
    simp
  obtain ⟨hnumbered, hlength, hdocument⟩ := h.enterAll (c.document.size - c.nodes.length)
  rw [Catalog.register, hdrop]
  refine ⟨⟨hnumbered, ?_⟩, hdocument⟩
  rw [hlength, hdocument]
  omega

theorem complete_parse (markup : String) :
    (parse markup).Complete ∧ (parse markup).document = Document.parse markup := by
  have hempty : Numbered { document := Document.parse markup } := ⟨rfl, fun n => by simp [handle?]⟩
  exact hempty.register (Nat.zero_le _)

namespace Complete

variable {c : Catalog}

theorem nodes_eq_byAge (h : c.Complete) : c.nodes = c.document.byAge := by
  rw [h.nodes_eq, h.length_nodes, Document.byAge_eq]

theorem getElem?_nodes (h : c.Complete) (k : Nat) :
    c.nodes[k]? = if k < c.document.size then some k else none := by
  rw [h.nodes_eq, h.length_nodes]
  by_cases hk : k < c.document.size
  · rw [List.getElem?_range hk, if_pos hk]
  · rw [if_neg hk, List.getElem?_eq_none_iff, List.length_range]
    exact Nat.not_lt.mp hk

/-- Asking for a node by its handle is asking for it by its number. -/
theorem bind_content?_nodes (h : c.Complete) (k : Nat) :
    c.nodes[k]?.bind c.document.content? = c.document.content? k := by
  rw [h.getElem?_nodes]
  split
  · rfl
  · next hk => exact (Document.content?_eq_none_of_size_le (Nat.not_lt.mp hk)).symm

/-- The two tables are inverse to each other. -/
theorem getElem?_nodes_eq_some_iff (h : c.Complete) {k : Nat} {n : NodeId} :
    c.nodes[k]? = some n ↔ c.handle? n = some k := by
  rw [h.getElem?_nodes, h.handle?_eq, h.length_nodes]
  simp only [Option.ite_none_right_eq_some, Option.some.injEq]
  constructor
  · rintro ⟨hlt, rfl⟩
    exact ⟨hlt, rfl⟩
  · rintro ⟨hlt, rfl⟩
    exact ⟨hlt, rfl⟩

theorem isSome_handle?_iff (h : c.Complete) {n : NodeId} :
    (c.handle? n).isSome ↔ n < c.document.size := by
  rw [h.handle?_eq, h.length_nodes]
  split <;> simp [*]

theorem grow (h : c.Complete) {d : Document} (hle : c.document.size ≤ d.size) :
    (c.grow d).Complete ∧ (c.grow d).document = d := by
  have hnumbered : Numbered { c with document := d } := ⟨h.nodes_eq, h.handle?_eq⟩
  exact hnumbered.register (h.length_nodes ▸ hle)

/-- The answer is the handle of the element that was made. -/
theorem appendElement (h : c.Complete) (handle : Nat) (name : String) (a : Attributes) :
    (c.appendElement handle name a).1.Complete ∧
    (c.appendElement handle name a).1.document = (c.document.appendElement handle name a).1 ∧
    (c.appendElement handle name a).2 = (c.document.appendElement handle name a).2 := by
  rw [Catalog.appendElement, h.getElem?_nodes]
  by_cases hhandle : handle < c.document.size
  · have hsize := c.document.size_perform (.appendElement handle name a)
    obtain ⟨hcomplete, hdocument⟩ := h.grow
      (c.document.size_le_perform (.appendElement handle name a))
    rw [Document.perform] at hcomplete hdocument hsize
    rw [if_pos hhandle]
    refine ⟨hcomplete, hdocument, ?_⟩
    have hmade : (c.document.appendElement handle name a).2 = some c.document.size := by
      rw [Document.appendElement_eq, if_pos hhandle]
    -- the element is the last node that was made
    rw [Document.growth, if_pos hhandle] at hsize
    have hlt : c.document.size < (c.grow (c.document.appendElement handle name a).1).nodes.length := by
      rw [hcomplete.length_nodes, hdocument, hsize]
      exact Nat.lt_succ_self _
    show (c.document.appendElement handle name a).2.bind _ = _
    rw [hmade, Option.bind_some, hcomplete.handle?_eq, if_pos hlt]
  · rw [if_neg hhandle, Document.appendElement_eq, if_neg hhandle]
    exact ⟨h, rfl, rfl⟩

/-- **An operation keeps the tables complete**, and does by handles what it does by numbers. -/
theorem perform (h : c.Complete) (op : Document.Op) :
    (c.perform op).Complete ∧ (c.perform op).document = c.document.perform op := by
  cases op with
  | update handle f =>
      rw [Catalog.perform, h.getElem?_nodes, Document.perform]
      by_cases hhandle : handle < c.document.size
      · rw [if_pos hhandle]
        exact ⟨⟨⟨h.nodes_eq, h.handle?_eq⟩, h.length_nodes⟩, rfl⟩
      · rw [if_neg hhandle, Document.update, Document.edit_of_size_le _ (Nat.not_lt.mp hhandle)]
        exact ⟨h, rfl⟩
  | replaceChildren handle markup =>
      have hgrow := h.grow (c.document.size_le_perform (.replaceChildren handle markup))
      rw [Catalog.perform, h.getElem?_nodes]
      by_cases hhandle : handle < c.document.size
      · rw [if_pos hhandle]
        exact hgrow
      · rw [if_neg hhandle, Document.perform, Document.replaceChildren_eq, if_neg hhandle]
        exact ⟨h, rfl⟩
  | appendHtml handle markup =>
      have hgrow := h.grow (c.document.size_le_perform (.appendHtml handle markup))
      rw [Catalog.perform, h.getElem?_nodes]
      by_cases hhandle : handle < c.document.size
      · rw [if_pos hhandle]
        exact hgrow
      · rw [if_neg hhandle, Document.perform, Document.appendHtml_eq, if_neg hhandle]
        exact ⟨h, rfl⟩
  | appendElement handle name a =>
      obtain ⟨hcomplete, hdocument, -⟩ := h.appendElement handle name a
      exact ⟨hcomplete, hdocument⟩

theorem run (h : c.Complete) (ops : List Document.Op) :
    (c.run ops).Complete ∧ (c.run ops).document = c.document.run ops := by
  induction ops generalizing c with
  | nil => exact ⟨h, rfl⟩
  | cons op ops ih =>
      obtain ⟨hcomplete, hdocument⟩ := h.perform op
      rw [run_cons, Document.run_cons, ← hdocument]
      exact ih hcomplete

end Complete

theorem complete_run_parse (markup : String) (ops : List Document.Op) :
    ((parse markup).run ops).Complete ∧
      ((parse markup).run ops).document = (Document.parse markup).run ops := by
  obtain ⟨hparse, hdocument⟩ := complete_parse markup
  rw [← hdocument]
  exact hparse.run ops

/-- **Handles are as good as nodes.** After any operations there are as many handles as nodes were
ever made, the two tables are inverse to each other, and the handle of a node is its place in the
order of making; so every node has one, attached or not, and what an operation makes gets the
handles that follow. A handle stands for the same node after any further operations, and the node
is what it was: a text the same text, an element of the same tag. -/
theorem handles_of_run (markup : String) (ops more : List Document.Op) :
    let c := (parse markup).run ops
    let d := (Document.parse markup).run ops
    let c' := c.run more
    c.document = d ∧ c.nodes = d.byAge ∧ c.nodes.length = d.size ∧
    (∀ (k : Nat) (n : NodeId), c.nodes[k]? = some n ↔ c.handle? n = some k) ∧
    (∀ n, (c.handle? n).isSome ↔ n ∈ d.trees.labels.map Node.id) ∧
    (∀ n ∈ d.attached.map Cursor.id, ∃ k : Nat, c.handle? n = some k ∧ c.nodes[k]? = some n) ∧
    (∀ op, (c.perform op).nodes.length = c.nodes.length + d.growth op ∧
      ∀ k, (c.perform op).nodes[c.nodes.length + k]?.bind (c.perform op).document.content?
        = d.made op k) ∧
    (∀ k name a, (c.appendElement k name a).2 = (d.appendElement k name a).2) ∧
    ∀ (k : Nat) (n : NodeId), c.nodes[k]? = some n →
      c'.nodes[k]? = some n ∧ (c.document.content? n).isSome ∧
      (c'.document.content? n).map Content.bare = (c.document.content? n).map Content.bare := by
  intro c d c'
  obtain ⟨hparse, hdocument⟩ := complete_parse markup
  obtain ⟨hc, hrun⟩ := hparse.run ops
  obtain ⟨hc', hd'⟩ := hc.run more
  have hd : c.document = d := by rw [show c.document = _ from hrun, hdocument]
  refine ⟨hd, hd ▸ hc.nodes_eq_byAge, hd ▸ hc.length_nodes,
    fun k n => hc.getElem?_nodes_eq_some_iff, fun n => ?_, fun n hn => ?_, fun op => ?_,
    fun k name a => hd ▸ (hc.appendElement k name a).2.2, fun k n hk => ?_⟩
  · rw [hc.isSome_handle?_iff, d.numbered.mem_iff, List.mem_range, ← hd]
  · have hlt : n < c.document.size := hd ▸ (Document.mem_attached_iff.mp hn).1
    obtain ⟨k, hk⟩ := Option.isSome_iff_exists.mp (hc.isSome_handle?_iff.mpr hlt)
    exact ⟨k, hk, hc.getElem?_nodes_eq_some_iff.mpr hk⟩
  · obtain ⟨hop, hdoc⟩ := hc.perform op
    rw [← hd]
    refine ⟨?_, fun k => ?_⟩
    · rw [hop.length_nodes, hdoc, Document.size_perform, hc.length_nodes]
    · rw [hop.bind_content?_nodes, hdoc, hc.length_nodes, Document.content?_perform_add]
  · rw [hc.getElem?_nodes, Option.ite_none_right_eq_some] at hk
    obtain ⟨hlt, hkn⟩ := hk
    obtain rfl := Option.some.inj hkn
    have hlt' : k < c'.document.size := by
      rw [show c'.document = _ from hd']
      exact Nat.lt_of_lt_of_le hlt (Document.size_le_run _ _)
    refine ⟨?_, Document.isSome_content?_iff.mpr hlt, ?_⟩
    · rw [hc'.getElem?_nodes, if_pos hlt']
    · rw [show c'.document = _ from hd', Document.map_bare_content?_run more hlt]

/-- The paragraph of a panel, when the panel is given another content: it is not attached any more,
and its handle stands for it as before. -/
theorem handles_of_panel :
    let c := (parse "<div id=panel><p>old</p></div>").run [.update 4 (·.addClass "open")]
    let c' := c.run [.replaceChildren 4 "<b>new</b>"]
    c.nodes[5]? = some 5 ∧ c.document.tag? 5 = some "p" ∧ c'.document.isAttached 5 = false ∧
      c'.nodes[5]? = some 5 ∧
      (c'.document.content? 5).map Content.bare = (c.document.content? 5).map Content.bare := by
  intro c c'
  let add : Document.Op := .update 4 (·.addClass "open")
  let replace : Document.Op := .replaceChildren 4 "<b>new</b>"
  obtain ⟨hd, hnodes, -, -, -, -, -, -, hstays⟩ :=
    handles_of_run "<div id=panel><p>old</p></div>" [add] [replace]
  obtain ⟨hd', -⟩ := handles_of_run "<div id=panel><p>old</p></div>" [add, replace] []
  have hnode : c.nodes[5]? = some 5 := by
    rw [hnodes, Document.byAge_eq]
    decide +kernel
  obtain ⟨hnode', -, hbare⟩ := hstays 5 5 hnode
  refine ⟨hnode, ?_, ?_, hnode', hbare⟩
  · rw [hd]
    decide +kernel
  · rw [show c'.document = _ from hd']
    decide +kernel

end Catalog

end PageDirectives
