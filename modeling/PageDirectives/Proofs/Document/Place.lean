import Mathlib.Data.List.Nodup
import PageDirectives.Document.Query
import PageDirectives.Proofs.Forest.Place

set_option autoImplicit false

/-! # Places in a document

No two nodes of a document share a number, so a number names at most one place
(`Document.cursor?_eq_some_iff`). The place of the parent of an element is the place above it
(`Document.parentElement?_eq_some_iff`), which is why parents cannot run in a circle.
-/

namespace PageDirectives

namespace Document

theorem map_id_places (d : Document) : d.places.map Cursor.id = d.trees.labels.map Node.id := by
  rw [places, ← Forest.map_label_places, List.map_map]
  rfl

/-- Every place has a number of its own. -/
theorem nodup_id_places (d : Document) : (d.places.map Cursor.id).Nodup := by
  rw [map_id_places]
  exact d.numbered.nodup_iff.mpr List.nodup_range

/-- The cursor of a number is the place that has this number. -/
theorem cursor?_eq_some_iff {d : Document} {id : NodeId} {c : Cursor Node} :
    d.cursor? id = some c ↔ c ∈ d.places ∧ c.id = id := by
  constructor
  · intro h
    refine ⟨List.mem_of_find?_eq_some h, ?_⟩
    simpa [Node.has, Cursor.id] using List.find?_some h
  · rintro ⟨hc, rfl⟩
    cases hfind : d.cursor? c.id with
    | none =>
        have := List.find?_eq_none.mp hfind c hc
        simp [Node.has, Cursor.id] at this
    | some c' =>
        -- the search has ended at a place with the same number, and there is only one
        have hc' : c' ∈ d.places := List.mem_of_find?_eq_some hfind
        have hid : c'.id = c.id := by simpa [Node.has, Cursor.id] using List.find?_some hfind
        rw [List.inj_on_of_nodup_map d.nodup_id_places hc' hc hid]

theorem content?_of_mem_places {d : Document} {c : Cursor Node} (hc : c ∈ d.places) :
    d.content? c.id = some c.content := by
  rw [content?, cursor?_eq_some_iff.mpr ⟨hc, rfl⟩]
  rfl

theorem element?_of_mem_places {d : Document} {c : Cursor Node} (hc : c ∈ d.places) :
    d.element? c.id = c.element? := by
  rw [element?, content?_of_mem_places hc]
  rfl

/-- The parent element of a node is the element at the place above it. -/
theorem parentElement?_eq_some_iff {d : Document} {id parent : NodeId} :
    d.parentElement? id = some parent ↔ ∃ c c', d.cursor? id = some c ∧ c.up? = some c' ∧
      c'.isElement ∧ d.cursor? parent = some c' := by
  simp only [parentElement?, Option.map_eq_some_iff, Option.bind_eq_some_iff,
    Cursor.parentElement?, Option.filter_eq_some_iff]
  constructor
  · rintro ⟨c', ⟨c, hc, hup, hel⟩, hid⟩
    have hmem := Forest.up?_mem_places (cursor?_eq_some_iff.mp hc).1 hup
    exact ⟨c, c', hc, hup, hel, cursor?_eq_some_iff.mpr ⟨hmem, hid⟩⟩
  · rintro ⟨c, c', hc, hup, hel, hparent⟩
    exact ⟨c', ⟨c, hc, hup, hel⟩, (cursor?_eq_some_iff.mp hparent).2⟩

/-- How many nodes there are above a node. -/
def level (d : Document) (id : NodeId) : Nat := (d.cursor? id).elim 0 (·.above.length)

theorem level_le_size (d : Document) (id : NodeId) : d.level id ≤ d.size := by
  unfold level
  cases hc : d.cursor? id with
  | none => exact Nat.zero_le _
  | some c =>
      have hlt := Forest.length_above_places (cursor?_eq_some_iff.mp hc).1
      -- the numbers of a document are those below its size, so it has as many nodes
      have hsize : d.trees.labels.length = d.size := by simpa using d.numbered.length_eq
      show c.above.length ≤ d.size
      omega

theorem level_parentElement?_lt {d : Document} {id parent : NodeId}
    (h : d.parentElement? id = some parent) : d.level parent < d.level id := by
  obtain ⟨c, c', hc, hup, -, hparent⟩ := parentElement?_eq_some_iff.mp h
  have hlen := Forest.length_above_of_up? hup
  simp only [level, hc, hparent, Option.elim_some]
  omega

/-- The places in the document are places of the forest, in the same order. -/
theorem attached_sublist_places (d : Document) : d.attached.Sublist d.places := by
  unfold attached
  split
  · exact List.nil_sublist _
  · next c hc => exact Forest.cons_below_sublist_places (cursor?_eq_some_iff.mp hc).1

/-- A selection names every element once. -/
theorem nodup_selectBy (d : Document) (p : Cursor Node → Bool) : (d.selectBy p).Nodup :=
  d.nodup_id_places.sublist
    ((List.filter_sublist.trans d.attached_sublist_places).map Cursor.id)

end Document

end PageDirectives
