import PageDirectives.Proofs.Forest.Place

set_option autoImplicit false

/-! # Siblings in a forest

A cursor sees the trees on both sides of its node, nearest first. With the node itself in the middle
they are its siblings in order (`Cursor.siblings`), and those are what is right below the node above
(`Forest.siblings_of_mem_places`). A node at the top of a forest has none but itself: the trees of a
forest have nothing to do with each other.
-/

namespace PageDirectives

namespace Cursor

variable {α : Type}

theorem map_label_spotsBefore (right f : Forest α) :
    (spotsBefore right f).map Spot.label = f.tops := by
  induction f generalizing right with
  | nil => rfl
  | node a children rest _ ih => simp [spotsBefore, Forest.tops, ih]

/-- A node with its siblings, from the first to the last. -/
def siblings (c : Cursor α) : List α :=
  c.here.left.tops.reverse ++ c.here.label :: c.here.right.tops

end Cursor

namespace Forest

variable {α : Type}

theorem map_label_spots (left f : Forest α) : (spots left f).map Spot.label = f.tops := by
  induction f generalizing left with
  | nil => rfl
  | node a children rest _ ih => simp [spots, tops, ih]

/-- What is on both sides of a node stands right below one and the same node, or at the top. -/
theorem siblings_of_mem_placesFrom {above : List (Spot α)} {left f : Forest α} {c : Cursor α}
    (hc : c ∈ placesFrom above left f) :
    (c.above = above ∧ c.siblings = left.tops.reverse ++ f.tops) ∨
      ∃ c' : Cursor α, c.up? = some c' ∧ c.siblings = c'.here.children.tops := by
  induction f generalizing above left with
  | nil => cases hc
  | node a children rest ihc ihr =>
      simp only [placesFrom, List.mem_cons, List.mem_append] at hc
      rcases hc with rfl | hc | hc
      · exact Or.inl ⟨rfl, rfl⟩
      -- the top-level nodes of the children stand right below the node itself
      · rcases ihc hc with ⟨habove, hrow⟩ | hbelow
        · exact Or.inr ⟨⟨⟨a, children, left, rest⟩, above⟩, by rw [Cursor.up?, habove], hrow⟩
        · exact Or.inr hbelow
      · rcases ihr hc with ⟨habove, hrow⟩ | hbelow
        · exact Or.inl ⟨habove, by rw [hrow]; simp [tops]⟩
        · exact Or.inr hbelow

/-- **The siblings of a node** are what is right below the node above it. -/
theorem siblings_of_mem_places {f : Forest α} {c : Cursor α} (hc : c ∈ f.places) :
    (c.up? = none ∧ c.siblings = [c.here.label]) ∨
      ∃ c' : Cursor α, c.up? = some c' ∧ c.siblings = c'.here.children.tops := by
  induction f with
  | nil => cases hc
  | node a children rest _ ih =>
      rcases List.mem_append.mp hc with hc | hc
      · rcases siblings_of_mem_placesFrom hc with ⟨habove, hrow⟩ | hbelow
        -- of one tree alone only the root is at the top
        · have htop : c.siblings = [a] := hrow
          have hlabel : c.here.label ∈ c.siblings := by simp [Cursor.siblings]
          rw [htop, List.mem_singleton] at hlabel
          exact Or.inl ⟨by rw [Cursor.up?, habove], by rw [htop, hlabel]⟩
        · exact Or.inr hbelow
      · exact ih hc

end Forest

end PageDirectives
