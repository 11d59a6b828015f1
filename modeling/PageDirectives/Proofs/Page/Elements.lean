import PageDirectives.Action.Basic
import PageDirectives.Page
import PageDirectives.Proofs.Document.Run
import PageDirectives.Proofs.Host.Pages

set_option autoImplicit false

/-! # The elements of a page

An element stays an element, whatever operations are done on the document
(`Document.HasElement.run`). The targets of an action are elements if those are for which it is
called (`Page.hasElement_of_mem_target`): a selection names elements only, and the neighbours of an
element are found among its siblings by asking for elements.
-/

namespace PageDirectives

/-- No element is named twice as a target. -/
theorem nodup_findTarget {H : Type} [Host H] [LawfulHost H] (h : H) (origin : List NodeId)
    (token : String) (args : List String) : (findTarget h origin token args).Nodup := by
  have hone (o : Option NodeId) : o.toList.Nodup := by cases o <;> simp
  unfold findTarget
  split
  · exact hone _
  · split
    · exact hone _
    · split
      · exact hone _
      · exact LawfulHost.nodup_select h token

theorem Content.isElement_bare (c : Content) : c.bare.isElement = c.isElement := by
  cases c <;> rfl

namespace Document

/-- Whether a number is the number of an element. -/
def HasElement (d : Document) (n : NodeId) : Prop := (d.element? n).isSome

variable {d : Document} {n : NodeId}

theorem hasElement_iff : d.HasElement n ↔ (d.content? n).any Content.isElement := by
  rw [HasElement, element?]
  cases d.content? n <;> rfl

theorem HasElement.lt_size (h : d.HasElement n) : n < d.size := by
  rw [← isSome_content?_iff]
  obtain ⟨c, hc, -⟩ := (Option.any_eq_true ..).mp (hasElement_iff.mp h)
  exact Option.isSome_iff_exists.mpr ⟨c, hc⟩

/-- **An element stays an element.** -/
theorem HasElement.run (h : d.HasElement n) (ops : List Op) : (d.run ops).HasElement n := by
  have hbare (o : Option Content) : o.any Content.isElement
      = (o.map Content.bare).any Content.isElement := by
    rw [Option.any_map]
    simp only [Content.isElement_bare]
  rw [hasElement_iff, hbare, map_bare_content?_run ops h.lt_size, ← hbare]
  exact hasElement_iff.mp h

theorem hasElement_of_mem_labels {c : Cursor Node} (hc : c.here.label ∈ d.trees.labels)
    (helement : c.isElement) : d.HasElement c.id := by
  have hcontent : d.content? c.id = some c.content := content?_eq_some_iff.mpr hc
  rw [hasElement_iff, hcontent]
  exact helement

theorem hasElement_of_mem_selectBy {p : Cursor Node → Bool} (hn : n ∈ d.selectBy p) :
    d.HasElement n := by
  obtain ⟨c, hc, rfl⟩ := List.mem_map.mp hn
  obtain ⟨hattached, hpass⟩ := List.mem_filter.mp hc
  obtain ⟨helement, -⟩ := Bool.and_eq_true_iff.mp hpass
  have hplace := d.attached_sublist_places.subset hattached
  refine hasElement_of_mem_labels ?_ helement
  rw [← Forest.map_label_places]
  exact List.mem_map_of_mem hplace

/-- The neighbours of an element are elements. -/
theorem hasElement_of_neighbour {m : NodeId}
    (h : d.nextElement? n = some m ∨ d.previousElement? n = some m) : d.HasElement m := by
  simp only [nextElement?, previousElement?, Option.map_eq_some_iff, Option.bind_eq_some_iff,
    Cursor.nextElement?, Cursor.previousElement?] at h
  rcases h with ⟨c', ⟨c, hc, hfind⟩, rfl⟩ | ⟨c', ⟨c, hc, hfind⟩, rfl⟩
  · have hplace := (cursor?_eq_some_iff.mp hc).1
    have hmem := Forest.label_mem_of_mem_siblings hplace (Or.inl (List.mem_of_find?_eq_some hfind))
    exact hasElement_of_mem_labels hmem (List.find?_some hfind)
  · have hplace := (cursor?_eq_some_iff.mp hc).1
    have hmem := Forest.label_mem_of_mem_siblings hplace (Or.inr (List.mem_of_find?_eq_some hfind))
    exact hasElement_of_mem_labels hmem (List.find?_some hfind)

end Document

namespace Page

variable {p : Page} {n : NodeId}

theorem hasElement_of_mem_select {selector : String} (hn : n ∈ Host.select p selector) :
    p.document.HasElement n := by
  change n ∈ p.select selector at hn
  unfold select at hn
  split at hn
  · cases hn
  · exact Document.hasElement_of_mem_selectBy hn

/-- **The targets of an action are elements.** -/
theorem hasElement_of_mem_target {call : Call}
    (horigin : ∀ n ∈ call.origin, p.document.HasElement n) {position : Nat}
    (hn : n ∈ call.target p position) : p.document.HasElement n := by
  unfold Call.target findTarget at hn
  split at hn
  · exact horigin n (List.mem_of_mem_head? (Option.mem_toList.mp hn))
  split at hn
  · obtain ⟨m, -, hm⟩ := Option.bind_eq_some_iff.mp (Option.mem_toList.mp hn)
    exact Document.hasElement_of_neighbour (Or.inl (Option.filter_eq_some_iff.mp hm).1)
  split at hn
  · obtain ⟨m, -, hm⟩ := Option.bind_eq_some_iff.mp (Option.mem_toList.mp hn)
    exact Document.hasElement_of_neighbour (Or.inr (Option.filter_eq_some_iff.mp hm).1)
  · exact hasElement_of_mem_select hn

end Page

end PageDirectives
