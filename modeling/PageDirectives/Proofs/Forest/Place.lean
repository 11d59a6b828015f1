import Mathlib.Logic.Relation
import PageDirectives.Forest.Cursor

set_option autoImplicit false

/-! # Places of a forest

Facts about the cursors of a forest, `Forest.places`: the list is closed under going up, going
up leads one level higher, no place is deeper than the forest has nodes, and the places at and
below a node stand in the list in the same order. What is above a place, and what is below it, is
what going up leads to (`Cursor.mem_above_iff`, `Forest.mem_below_iff`).
-/

namespace PageDirectives

namespace Forest

variable {α : Type}

/-! ## Going up -/

/-- Above a place is another place of the forest, unless it is a place at the top. -/
theorem above_eq_or_up?_mem {above : List (Spot α)} {left f : Forest α} {c : Cursor α}
    (hc : c ∈ placesFrom above left f) :
    c.above = above ∨ ∃ c' ∈ placesFrom above left f, c.up? = some c' := by
  induction f generalizing above left with
  | nil => simp [placesFrom] at hc
  | node a children rest ihc ihr =>
      simp only [placesFrom, List.mem_cons, List.mem_append] at hc ⊢
      rcases hc with rfl | hc | hc
      · exact Or.inl rfl
      · -- the places at the top of the children go up to the node
        rcases ihc hc with htop | ⟨c', hc', hup⟩
        · exact Or.inr ⟨_, Or.inl rfl, by rw [Cursor.up?, htop]⟩
        · exact Or.inr ⟨c', Or.inr (Or.inl hc'), hup⟩
      · rcases ihr hc with htop | ⟨c', hc', hup⟩
        · exact Or.inl htop
        · exact Or.inr ⟨c', Or.inr (Or.inr hc'), hup⟩

theorem up?_mem_places {f : Forest α} {c c' : Cursor α} (hc : c ∈ f.places)
    (hup : c.up? = some c') : c' ∈ f.places := by
  induction f with
  | nil => simp [places] at hc
  | node a children rest _ ih =>
      rw [places, List.mem_append] at hc ⊢
      rcases hc with hc | hc
      -- within a tree only the root is at the top, and it has nothing above it
      · rcases above_eq_or_up?_mem hc with htop | ⟨c'', hc'', hup'⟩
        · rw [Cursor.up?, htop] at hup
          cases hup
        · obtain rfl := Option.some.inj (hup.symm.trans hup')
          exact Or.inl hc''
      · exact Or.inr (ih hc)

theorem mem_places_of_transGen_up? {f : Forest α} {c c' : Cursor α} (hc : c ∈ f.places)
    (hup : Relation.TransGen (fun a b : Cursor α => a.up? = some b) c c') : c' ∈ f.places := by
  induction hup with
  | single hstep => exact up?_mem_places hc hstep
  | tail _ hstep ih => exact up?_mem_places ih hstep

/-- Going up leads one level higher. -/
theorem length_above_of_up? {c c' : Cursor α} (hup : c.up? = some c') :
    c.above.length = c'.above.length + 1 := by
  unfold Cursor.up? at hup
  split at hup
  · cases hup
  · next s above habove =>
      obtain rfl := Option.some.inj hup
      simp [habove]

/-! ## Depth -/

theorem length_above_placesFrom {above : List (Spot α)} {left f : Forest α} {c : Cursor α}
    (hc : c ∈ placesFrom above left f) : c.above.length < above.length + f.labels.length := by
  induction f generalizing above left with
  | nil => simp [placesFrom] at hc
  | node a children rest ihc ihr =>
      simp only [placesFrom, List.mem_cons, List.mem_append] at hc
      simp only [labels, List.length_cons, List.length_append]
      rcases hc with rfl | hc | hc
      · simp
      · have h := ihc hc
        rw [List.length_cons] at h
        omega
      · have h := ihr hc
        omega

/-- A place has fewer nodes above it than there are in the forest. -/
theorem length_above_places {f : Forest α} {c : Cursor α} (hc : c ∈ f.places) :
    c.above.length < f.labels.length := by
  induction f with
  | nil => simp [places] at hc
  | node a children rest _ ih =>
      rw [places, List.mem_append] at hc
      simp only [labels, List.length_cons, List.length_append]
      rcases hc with hc | hc
      · have h := length_above_placesFrom hc
        simp only [List.length_nil, labels_tree, List.length_cons] at h
        omega
      · have h := ih hc
        omega

/-! ## Preorder -/

/-- A node and the nodes below it stand in the preorder in this order. -/
theorem cons_below_sublist_placesFrom {above : List (Spot α)} {left f : Forest α}
    {c : Cursor α} (hc : c ∈ placesFrom above left f) :
    (c :: c.below).Sublist (placesFrom above left f) := by
  induction f generalizing above left with
  | nil => simp [placesFrom] at hc
  | node a children rest ihc ihr =>
      simp only [placesFrom, List.mem_cons, List.mem_append] at hc ⊢
      rcases hc with rfl | hc | hc
      · exact (List.sublist_append_left _ _).cons_cons _
      · exact ((ihc hc).trans (List.sublist_append_left _ _)).cons _
      · exact ((ihr hc).trans (List.sublist_append_right _ _)).cons _

theorem cons_below_sublist_places {f : Forest α} {c : Cursor α} (hc : c ∈ f.places) :
    (c :: c.below).Sublist f.places := by
  induction f with
  | nil => simp [places] at hc
  | node a children rest _ ih =>
      rw [places, List.mem_append] at hc
      rw [places]
      rcases hc with hc | hc
      · exact (cons_below_sublist_placesFrom hc).trans (List.sublist_append_left _ _)
      · exact (ih hc).trans (List.sublist_append_right _ _)

theorem mem_places_of_mem_below {f : Forest α} {c c' : Cursor α} (hc : c ∈ f.places)
    (hc' : c' ∈ c.below) : c' ∈ f.places :=
  (cons_below_sublist_places hc).subset (List.mem_cons_of_mem _ hc')

/-! ## Siblings -/

theorem label_mem_of_mem_spots {left f : Forest α} {s : Spot α} (hs : s ∈ spots left f) :
    s.label ∈ f.labels := by
  induction f generalizing left with
  | nil => cases hs
  | node a children rest _ ih =>
      rcases List.mem_cons.mp hs with rfl | hs
      · exact List.mem_cons_self
      · exact List.mem_cons_of_mem _ (List.mem_append_right _ (ih hs))

theorem label_mem_of_mem_spotsBefore {right f : Forest α} {s : Spot α}
    (hs : s ∈ Cursor.spotsBefore right f) : s.label ∈ f.labels := by
  induction f generalizing right with
  | nil => cases hs
  | node a children rest _ ih =>
      rcases List.mem_cons.mp hs with rfl | hs
      · exact List.mem_cons_self
      · exact List.mem_cons_of_mem _ (List.mem_append_right _ (ih hs))

/-- On both sides of a place there are nodes of the forest, or those in front of all of it. -/
theorem siblings_subset_of_mem_placesFrom {above : List (Spot α)} {left f : Forest α}
    {c : Cursor α} (hc : c ∈ placesFrom above left f) :
    c.here.right.labels ⊆ f.labels ∧ c.here.left.labels ⊆ left.labels ++ f.labels := by
  induction f generalizing above left with
  | nil => cases hc
  | node a children rest ihc ihr =>
      simp only [placesFrom, List.mem_cons, List.mem_append] at hc
      simp only [List.subset_def, labels, List.mem_append, List.mem_cons] at ihc ihr ⊢
      rcases hc with rfl | hc | hc
      · exact ⟨fun hb => Or.inr (Or.inr hb), fun hb => Or.inl hb⟩
      · obtain ⟨hright, hleft⟩ := ihc hc
        refine ⟨fun hb => Or.inr (Or.inl (hright hb)), fun hb => ?_⟩
        rcases hleft hb with hb | hb
        · cases hb
        · exact Or.inr (Or.inr (Or.inl hb))
      -- the node itself is in front of what follows it
      · obtain ⟨hright, hleft⟩ := ihr hc
        simp only [labels, List.mem_cons, List.mem_append] at hleft
        refine ⟨fun hb => Or.inr (Or.inr (hright hb)), fun hb => ?_⟩
        rcases hleft hb with (rfl | hb | hb) | hb
        · exact Or.inr (Or.inl rfl)
        · exact Or.inr (Or.inr (Or.inl hb))
        · exact Or.inl hb
        · exact Or.inr (Or.inr (Or.inr hb))

theorem siblings_subset_of_mem_places {f : Forest α} {c : Cursor α} (hc : c ∈ f.places) :
    c.here.right.labels ⊆ f.labels ∧ c.here.left.labels ⊆ f.labels := by
  induction f with
  | nil => cases hc
  | node a children rest _ ih =>
      have hlabels : (node a children rest).labels = (tree a children).labels ++ rest.labels := by
        rw [labels_tree]
        rfl
      rw [hlabels]
      rcases List.mem_append.mp hc with hc | hc
      · obtain ⟨hright, hleft⟩ := siblings_subset_of_mem_placesFrom hc
        exact ⟨List.subset_append_of_subset_left _ hright,
          List.subset_append_of_subset_left _ hleft⟩
      · obtain ⟨hright, hleft⟩ := ih hc
        exact ⟨List.subset_append_of_subset_right _ hright,
          List.subset_append_of_subset_right _ hleft⟩

/-- The siblings of a place, on both sides, are nodes of the forest. -/
theorem label_mem_of_mem_siblings {f : Forest α} {c c' : Cursor α} (hc : c ∈ f.places)
    (hc' : c' ∈ c.after ∨ c' ∈ c.before) : c'.here.label ∈ f.labels := by
  obtain ⟨hright, hleft⟩ := siblings_subset_of_mem_places hc
  rcases hc' with hc' | hc'
  · obtain ⟨s, hs, rfl⟩ := List.mem_map.mp hc'
    exact hright (label_mem_of_mem_spots hs)
  · obtain ⟨s, hs, rfl⟩ := List.mem_map.mp hc'
    exact hleft (label_mem_of_mem_spotsBefore hs)

/-! ## Above and below -/

/-- A place right below another one is below it, or it is at the top of the list. -/
theorem above_eq_or_mem_below {above : List (Spot α)} {left f : Forest α} {c c' : Cursor α}
    (hc' : c' ∈ placesFrom above left f) (hup : c'.up? = some c) :
    c'.above = above ∨ c' ∈ c.below := by
  induction f generalizing above left with
  | nil => simp [placesFrom] at hc'
  | node a children rest ihc ihr =>
      simp only [placesFrom, List.mem_cons, List.mem_append] at hc'
      rcases hc' with rfl | hc' | hc'
      · exact Or.inl rfl
      · rcases ihc hc' with htop | hbelow
        -- at the top of the children of a node, so that this node is the one above
        · rw [Cursor.up?, htop] at hup
          obtain rfl := Option.some.inj hup
          exact Or.inr hc'
        · exact Or.inr hbelow
      · exact ihr hc'

theorem mem_below_of_up? {f : Forest α} {c c' : Cursor α} (hc' : c' ∈ f.places)
    (hup : c'.up? = some c) : c' ∈ c.below := by
  induction f with
  | nil => simp [places] at hc'
  | node a children rest _ ih =>
      rw [places, List.mem_append] at hc'
      rcases hc' with hc' | hc'
      · rcases above_eq_or_mem_below hc' hup with htop | hbelow
        · rw [Cursor.up?, htop] at hup
          cases hup
        · exact hbelow
      · exact ih hc'

/-- Going up from a place below a node leads to the node. -/
theorem transGen_up?_of_mem_below {c : Cursor α} :
    ∀ (level : Nat) {c' : Cursor α}, c'.above.length = level → c' ∈ c.below →
      Relation.TransGen (fun a b : Cursor α => a.up? = some b) c' c := by
  intro level
  induction level using Nat.strongRecOn with
  | ind level ih =>
      intro c' hlevel hc'
      rcases above_eq_or_up?_mem hc' with htop | ⟨c'', hc'', hup⟩
      · exact .single (by rw [Cursor.up?, htop])
      · have hlt := length_above_of_up? hup
        exact .head hup (ih c''.above.length (by omega) rfl hc'')

/-- **What is below a place**: the places from which going up leads there. -/
theorem mem_below_iff {f : Forest α} {c c' : Cursor α} (hc' : c' ∈ f.places) :
    c' ∈ c.below ↔ Relation.TransGen (fun a b : Cursor α => a.up? = some b) c' c := by
  constructor
  · exact transGen_up?_of_mem_below _ rfl
  · intro hup
    induction hup using Relation.TransGen.head_induction_on with
    | single hstep => exact mem_below_of_up? hc' hstep
    | head hstep hrest ih =>
        have hmid := up?_mem_places hc' hstep
        -- what is below the place in between is below the place above that
        have hsub := (cons_below_sublist_placesFrom (ih hmid)).subset
        exact hsub (List.mem_cons_of_mem _ (mem_below_of_up? hc' hstep))

end Forest

/-- What is above a place is where going up leads to. -/
theorem Cursor.mem_above_iff {α : Type} {c : Cursor α} {s : Spot α} :
    s ∈ c.above ↔ ∃ c' : Cursor α, c'.here = s ∧
      Relation.TransGen (fun a b : Cursor α => a.up? = some b) c c' := by
  obtain ⟨here, above⟩ := c
  induction above generalizing here with
  | nil =>
      simp only [List.not_mem_nil, false_iff, not_exists, not_and]
      intro c' _ hup
      obtain ⟨c'', hstep, -⟩ := Relation.TransGen.head'_iff.mp hup
      cases hstep
  | cons t above ih =>
      have hstep : (Cursor.mk here (t :: above)).up? = some ⟨t, above⟩ := rfl
      rw [List.mem_cons]
      constructor
      · rintro (rfl | hs)
        · exact ⟨⟨s, above⟩, rfl, .single hstep⟩
        · obtain ⟨c', hhere, hup⟩ := (ih t).mp hs
          exact ⟨c', hhere, .head hstep hup⟩
      · rintro ⟨c', hhere, hup⟩
        obtain ⟨c'', hstep', hrest⟩ := Relation.TransGen.head'_iff.mp hup
        obtain rfl := Option.some.inj (hstep.symm.trans hstep')
        rcases Relation.reflTransGen_iff_eq_or_transGen.mp hrest with rfl | hrest
        · exact Or.inl hhere.symm
        · exact Or.inr ((ih t).mpr ⟨c', hhere, hrest⟩)

end PageDirectives
