import PageDirectives.Page
import PageDirectives.Proofs.Document.Handles
import PageDirectives.Proofs.Document.Reach

set_option autoImplicit false

/-! # Document order

The lists of children put the nodes of a document in an order: a node stands in front of what is
below it, and all of that in front of the siblings that follow (`Links.Preorder`). There is one such
order only, and it is the one in which a document lists its places (`Document.preorder_attached`).

A selection is what is left of this order when each node is asked alone whether it passes
(`Document.selectBy_eq_filter`). Nodes that are not attached can be asked too, but the order does not
lead to them (`Document.selectBy_of_run`).
-/

namespace PageDirectives

namespace Links

/-- The nodes at and below some nodes, in document order. -/
inductive Preorder (l : Links) : List NodeId → List NodeId → Prop where
  | nil : l.Preorder [] []
  | cons {n : NodeId} {ns below after : List NodeId} :
      l.Preorder (l.children n) below → l.Preorder ns after →
        l.Preorder (n :: ns) (n :: (below ++ after))

variable {l : Links} {ns order order' : List NodeId}

/-- **There is one document order only.** -/
theorem Preorder.unique (h : l.Preorder ns order) (h' : l.Preorder ns order') :
    order = order' := by
  induction h generalizing order' with
  | nil =>
      cases h'
      rfl
  | cons _ _ ihbelow ihafter =>
      cases h' with
      | cons hbelow hafter => rw [ihbelow hbelow, ihafter hafter]

end Links

namespace Document

variable {d : Document}

/-! ## The order of places -/

theorem preorder_placesFrom {above : List (Spot Node)} {left f : Forest Node}
    (hplaces : ∀ c ∈ Forest.placesFrom above left f, c ∈ d.places) :
    d.links.Preorder (f.tops.map Node.id) ((Forest.placesFrom above left f).map Cursor.id) := by
  induction f generalizing above left with
  | nil => exact .nil
  | node a children rest ihchildren ihrest =>
      rw [Forest.placesFrom, List.forall_mem_cons, List.forall_mem_append] at hplaces
      obtain ⟨hhere, hbelow, hafter⟩ := hplaces
      have hchildren : d.links.children a.id = children.tops.map Node.id :=
        links_children_of_mem_places hhere
      rw [Forest.placesFrom, List.map_cons, List.map_append]
      exact .cons (hchildren ▸ ihchildren hbelow) (ihrest hafter)

/-- **A place and those below it stand in document order.** -/
theorem preorder_of_mem_places {c : Cursor Node} (hc : c ∈ d.places) :
    d.links.Preorder [c.id] ((c :: c.below).map Cursor.id) := by
  have hbelow := preorder_placesFrom (d := d) fun c' hc' => Forest.mem_places_of_mem_below hc hc'
  rw [← links_children_of_mem_places hc] at hbelow
  have horder := hbelow.cons .nil
  rwa [List.append_nil] at horder

/-- The attached places stand in the order that begins at the root. -/
theorem preorder_attached (d : Document) :
    d.links.Preorder [root] (d.attached.map Cursor.id) := by
  obtain ⟨c, hc, hid, -⟩ := d.exists_root_place
  have hcursor : d.cursor? root = some c := cursor?_eq_some_iff.mpr ⟨hc, hid⟩
  have horder := preorder_of_mem_places hc
  rw [hid] at horder
  rwa [attached, hcursor]

theorem nodup_attached (d : Document) : (d.attached.map Cursor.id).Nodup :=
  d.nodup_id_places.sublist (d.attached_sublist_places.map Cursor.id)

/-! ## Selections -/

/-- Whether a node, attached or not, is an element that passes. -/
def passes (d : Document) (p : Cursor Node → Bool) (n : NodeId) : Bool :=
  (d.cursor? n).any fun c => c.isElement && p c

theorem passes_of_mem_places (p : Cursor Node → Bool) {c : Cursor Node} (hc : c ∈ d.places) :
    d.passes p c.id = (c.isElement && p c) := by
  rw [passes, cursor?_eq_some_iff.mpr ⟨hc, rfl⟩, Option.any_some]

/-- **A selection asks every attached node alone**, in document order. -/
theorem selectBy_eq_filter (d : Document) (p : Cursor Node → Bool) :
    d.selectBy p = (d.attached.map Cursor.id).filter (d.passes p) := by
  rw [selectBy, List.filter_map]
  refine congrArg (List.map Cursor.id) (List.filter_congr fun c hc => ?_)
  exact (passes_of_mem_places p (d.attached_sublist_places.subset hc)).symm

theorem mem_selectBy_iff {p : Cursor Node → Bool} {n : NodeId} :
    n ∈ d.selectBy p ↔ d.isAttached n ∧ d.passes p n := by
  rw [selectBy_eq_filter, List.mem_filter, mem_attached_iff, isAttached_iff]

end Document

/-- A selection told by handles: a node without one is left out. -/
def Catalog.selectBy (c : Catalog) (p : Cursor Node → Bool) : List Nat :=
  (c.document.attached.filter fun place => place.isElement && p place).filterMap
    fun place => c.handle? place.id

/-- Whether a handle stands for an element that passes. -/
def Catalog.passes (c : Catalog) (p : Cursor Node → Bool) (handle : Nat) : Bool :=
  c.nodes[handle]?.any (c.document.passes p)

namespace Catalog.Complete

variable {c : Catalog}

/-- **No match is left out**, as every attached node has a handle. -/
theorem selectBy_eq (h : c.Complete) (p : Cursor Node → Bool) :
    c.selectBy p = c.document.selectBy p := by
  have hhandle : ∀ place ∈ c.document.attached, c.handle? place.id = some place.id := by
    intro place hplace
    have hlt := (Document.mem_attached_iff.mp (List.mem_map_of_mem hplace)).1
    rw [h.handle?_eq, h.length_nodes, if_pos hlt]
  rw [Catalog.selectBy, Document.selectBy, ← List.filterMap_eq_map]
  exact List.filterMap_congr fun place hplace => hhandle place (List.mem_of_mem_filter hplace)

theorem passes_eq (h : c.Complete) (p : Cursor Node → Bool) (k : Nat) :
    c.passes p k = c.document.passes p k := by
  rw [Catalog.passes, h.getElem?_nodes]
  split
  · rfl
  · next hk =>
      rw [Document.passes, Document.cursor?_eq_none_of_size_le (Nat.not_lt.mp hk)]
      rfl

end Catalog.Complete

/-- A page selects what matches. -/
theorem Page.select_eq_filter (page : Page) (selector : String) :
    page.select selector
      = (page.document.attached.map Cursor.id).filter (page.isMatch · selector) := by
  unfold select isMatch
  cases Selector.parse? selector with
  | none => simp
  | some s =>
      -- a selector is for elements only, whoever asks
      have hself (c : Cursor Node) : (c.isElement && s.accepts c) = s.accepts c := by
        rw [Selector.accepts, ← Bool.and_assoc, Bool.and_self]
      show page.document.selectBy s.accepts = _
      rw [Document.selectBy_eq_filter]
      refine List.filter_congr fun n _ => ?_
      simp only [Document.passes, hself, Option.any_some]

namespace Document

/-- **What is selected**: whatever is done to a document, and whatever is asked of elements, a
selection is the document order less the nodes that do not pass. So it names the attached elements
that pass, each once and in order, and no other node, though a node that is not attached may pass
as well. It is the same by handles, and on a page for every selector. -/
theorem selectBy_of_run (markup : String) (ops : List Op) (p : Cursor Node → Bool) :
    let d := (parse markup).run ops
    let l := (parse markup).links.run ops
    let c := (Catalog.parse markup).run ops
    ∃ order, (∀ ns, l.Preorder [root] ns ↔ ns = order) ∧ order.Nodup ∧
      (∀ n, n ∈ order ↔ n < d.size ∧ Relation.ReflTransGen l.Under n root) ∧
      d.selectBy p = order.filter (d.passes p) ∧
      (∀ n, n ∈ d.selectBy p ↔ d.isAttached n ∧ d.passes p n) ∧
      (∀ n, d.passes p n ↔ ∃ place, d.cursor? n = some place ∧ place.isElement ∧ p place) ∧
      c.selectBy p = d.selectBy p ∧ (∀ k, c.passes p k = d.passes p k) ∧
      ∀ (page : Page) (selector : String), page.document = d →
        page.select selector = order.filter (page.isMatch · selector) := by
  intro d l c
  have hlinks : d.links = l := links_run (parse markup) ops
  obtain ⟨hc, hd⟩ : c.Complete ∧ c.document = d := Catalog.complete_run_parse markup ops
  rw [← hlinks]
  refine ⟨d.attached.map Cursor.id, fun ns => ⟨fun h => h.unique d.preorder_attached, ?_⟩,
    d.nodup_attached, fun n => mem_attached_iff, d.selectBy_eq_filter p, fun n => mem_selectBy_iff,
    fun n => ?_, hd ▸ hc.selectBy_eq p, fun k => hd ▸ hc.passes_eq p k, ?_⟩
  · rintro rfl
    exact d.preorder_attached
  · rw [passes, Option.any_eq_true]
    simp only [Bool.and_eq_true]
  · rintro page selector hpage
    rw [← hpage]
    exact page.select_eq_filter selector

/-- The paragraph of a panel, when the panel is given another one: it still passes for a paragraph,
and only the new one is selected. -/
theorem selectBy_of_panel :
    let d := (parse "<div id=panel><p>old</p></div>").run [.replaceChildren 4 "<p>new</p>"]
    let isParagraph (c : Cursor Node) : Bool := c.element?.any (·.tag.name == "p")
    let page : Page := { document := d }
    d.passes isParagraph 5 ∧ 5 ∉ d.selectBy isParagraph ∧ d.selectBy isParagraph = [10] ∧
      page.select "p" = [10] := by
  intro d isParagraph page
  obtain ⟨order, hunique, -, -, hselect, hmem, -, -, -, hpage⟩ :=
    selectBy_of_run "<div id=panel><p>old</p></div>" [.replaceChildren 4 "<p>new</p>"] isParagraph
  have horder : order = [0, 1, 2, 3, 4, 10, 11] := by
    have hlisted : d.attached.map Cursor.id = [0, 1, 2, 3, 4, 10, 11] := by decide +kernel
    rw [← hlisted]
    refine ((hunique _).mp ?_).symm
    rw [← links_run]
    exact d.preorder_attached
  have hdetached : ¬ d.isAttached 5 := by decide +kernel
  refine ⟨by decide +kernel, fun h => hdetached ((hmem 5).mp h).1, hselect.trans ?_,
    (hpage page "p" rfl).trans ?_⟩
  · rw [horder]
    decide +kernel
  · rw [horder]
    decide +kernel

end Document

end PageDirectives
