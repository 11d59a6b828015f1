import PageDirectives.Forest.Basic

set_option autoImplicit false

/-! # Cursors

A cursor is a node of a forest together with all that surrounds it: its siblings on both sides
and the nodes above it. Every question about the place of a node in its tree is a question on
its cursor. `Forest.places` lists the cursors of a tree in preorder.
-/

namespace PageDirectives

/-- A node among its siblings. -/
structure Spot (α : Type) where
  label : α
  children : Forest α
  /-- The trees in front of it, nearest first. -/
  left : Forest α
  /-- The trees after it, nearest first. -/
  right : Forest α
  deriving Repr

/-- A node with the nodes above it, innermost first. -/
structure Cursor (α : Type) where
  here : Spot α
  above : List (Spot α)
  deriving Repr

namespace Forest

variable {α : Type}

/-- The top-level nodes of a forest as spots, with `left` in front of the first of them. -/
def spots (left : Forest α) : Forest α → List (Spot α)
  | nil => []
  | node a children rest => ⟨a, children, left, rest⟩ :: spots (node a children left) rest

/-- The cursors of all nodes in preorder, for a forest that stands below `above` and after
`left`. -/
def placesFrom (above : List (Spot α)) (left : Forest α) : Forest α → List (Cursor α)
  | nil => []
  | node a children rest =>
    let here : Spot α := ⟨a, children, left, rest⟩
    ⟨here, above⟩ ::
      (placesFrom (here :: above) nil children ++ placesFrom above (node a children left) rest)

/-- The cursors of trees that have nothing to do with each other. -/
def places : Forest α → List (Cursor α)
  | nil => []
  | node a children rest => placesFrom [] nil (tree a children) ++ places rest

theorem map_label_placesFrom (above : List (Spot α)) (left f : Forest α) :
    (placesFrom above left f).map (·.here.label) = f.labels := by
  induction f generalizing above left with
  | nil => rfl
  | node a children rest ihc ihr => simp [placesFrom, labels, ihc, ihr]

/-- The cursors stand on the nodes in preorder. -/
theorem map_label_places (f : Forest α) : f.places.map (·.here.label) = f.labels := by
  induction f with
  | nil => rfl
  | node a children rest _ ih =>
    simp [places, labels, tree, map_label_placesFrom, ih, placesFrom]

end Forest

namespace Cursor

variable {α : Type}

/-- The cursor of the node above. -/
def up? (c : Cursor α) : Option (Cursor α) :=
  match c.above with
  | [] => none
  | s :: above => some ⟨s, above⟩

/-- The cursors of the children, in order. -/
def down (c : Cursor α) : List (Cursor α) :=
  (Forest.spots .nil c.here.children).map fun s => ⟨s, c.here :: c.above⟩

/-- The cursors of the nodes below, in preorder. -/
def below (c : Cursor α) : List (Cursor α) :=
  Forest.placesFrom (c.here :: c.above) .nil c.here.children

/-- The cursors of the following siblings, nearest first. -/
def after (c : Cursor α) : List (Cursor α) :=
  (Forest.spots (.node c.here.label c.here.children c.here.left) c.here.right).map
    fun s => ⟨s, c.above⟩

/-- The spots of preceding trees, nearest first, with `right` after the first of them. -/
def spotsBefore (right : Forest α) : Forest α → List (Spot α)
  | .nil => []
  | .node a children rest =>
    ⟨a, children, rest, right⟩ :: spotsBefore (.node a children right) rest

/-- The cursors of the preceding siblings, nearest first. -/
def before (c : Cursor α) : List (Cursor α) :=
  (spotsBefore (.node c.here.label c.here.children c.here.right) c.here.left).map
    fun s => ⟨s, c.above⟩

end Cursor

end PageDirectives
