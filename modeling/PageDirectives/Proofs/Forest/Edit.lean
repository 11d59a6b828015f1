import PageDirectives.Proofs.Forest.Rows

set_option autoImplicit false

/-! # Edits row by row

What cutting a tree out of a forest and hanging a tree under a node do to the rows, provided that
no more than one node passes the test that the edit is made at.
-/

namespace PageDirectives

namespace Forest

variable {α : Type} {p : α → Bool}

/-! ## When an edit finds its node -/

theorem cut?_eq_none_iff {f : Forest α} : cut? p f = none ↔ ∀ a ∈ f.labels, ¬ p a := by
  induction f with
  | nil => simp [cut?, labels]
  | node a children rest ihc ihr =>
      rw [cut?]
      by_cases ha : p a
      · simp [ha, labels]
      · cases hc : cut? p children with
        | some found =>
            have hsome : ¬ ∀ b ∈ children.labels, ¬ p b := by
              rw [← ihc, hc]
              exact Option.some_ne_none found
            simp only [ha, labels, Bool.false_eq_true, if_false, reduceCtorEq, false_iff]
            exact fun h => hsome fun b hb => h b (by simp [hb])
        | none =>
            have hnone := ihc.mp hc
            simp only [ha, Bool.false_eq_true, if_false, Option.map_eq_none_iff, ihr, labels,
              List.forall_mem_cons, List.forall_mem_append]
            exact ⟨fun h => ⟨by simp, hnone, h⟩, fun h => h.2.2⟩

theorem appendUnder?_eq_none_iff {g f : Forest α} :
    appendUnder? p g f = none ↔ ∀ a ∈ f.labels, ¬ p a := by
  induction f with
  | nil => simp [appendUnder?, labels]
  | node a children rest ihc ihr =>
      rw [appendUnder?]
      by_cases ha : p a
      · simp [ha, labels]
      · cases hc : appendUnder? p g children with
        | some found =>
            have hsome : ¬ ∀ b ∈ children.labels, ¬ p b := by
              rw [← ihc, hc]
              exact Option.some_ne_none found
            simp only [ha, labels, Bool.false_eq_true, if_false, reduceCtorEq, false_iff]
            exact fun h => hsome fun b hb => h b (by simp [hb])
        | none =>
            have hnone := ihc.mp hc
            simp only [ha, Bool.false_eq_true, if_false, Option.map_eq_none_iff, ihr, labels,
              List.forall_mem_cons, List.forall_mem_append]
            exact ⟨fun h => ⟨by simp, hnone, h⟩, fun h => h.2.2⟩

/-- The tree cut out has a root that passes. -/
theorem exists_root_of_cut? {f t rest : Forest α} (h : cut? p f = some (t, rest)) :
    ∃ a children, t = tree a children ∧ p a := by
  induction f generalizing t rest with
  | nil => simp [cut?] at h
  | node a children more ihc ihr =>
      rw [cut?] at h
      split at h
      · next ha =>
          obtain ⟨rfl, rfl⟩ := Prod.mk.inj (Option.some.inj h)
          exact ⟨a, children, rfl, ha⟩
      · split at h
        · next t' children' hc =>
            obtain ⟨rfl, rfl⟩ := Prod.mk.inj (Option.some.inj h)
            exact ihc hc
        · obtain ⟨⟨t', more'⟩, hr, heq⟩ := Option.map_eq_some_iff.mp h
          obtain ⟨rfl, rfl⟩ := Prod.mk.inj heq
          exact ihr hr

/-! ## Where nothing passes -/

section Nowhere

variable {above : Option α} {f : Forest α} (hf : f.labels.countP p = 0)
include hf

theorem filter_tops_eq_self : f.tops.filter (!p ·) = f.tops := by
  refine List.filter_eq_self.mpr fun a ha => ?_
  simp [List.countP_eq_zero.mp hf a (tops_subset_labels f ha)]

theorem map_cut_rows_eq_self : (rows above f).map (Row.cut p) = rows above f := by
  have hnone := List.countP_eq_zero.mp hf
  refine (List.map_congr_left fun r hr => ?_).trans (List.map_id _)
  have hlabel : ¬ p r.label := hnone _ (label_mem_of_mem_rows hr)
  have hchildren : r.children.filter (!p ·) = r.children :=
    List.filter_eq_self.mpr fun a ha => by simp [hnone a (children_subset_of_mem_rows hr ha)]
  simp [Row.cut, hlabel, hchildren]

theorem map_put_rows_eq_self {more : List α} :
    (rows above f).map (Row.put p more) = rows above f := by
  refine (List.map_congr_left fun r hr => ?_).trans (List.map_id _)
  simp [Row.put, List.countP_eq_zero.mp hf _ (label_mem_of_mem_rows hr)]

theorem map_adopt_rows_eq_self {parent : α} :
    (rows above f).map (Row.adopt p parent) = rows above f := by
  refine (List.map_congr_left fun r hr => ?_).trans (List.map_id _)
  simp [Row.adopt, List.countP_eq_zero.mp hf _ (label_mem_of_mem_rows hr)]

end Nowhere

/-! ## Cutting a tree out -/

/-- What is cut out passes, so it is counted. -/
theorem countP_pos_of_cut? {f t rest : Forest α} (h : cut? p f = some (t, rest)) :
    0 < f.labels.countP p := by
  rw [Nat.pos_iff_ne_zero]
  intro hzero
  rw [cut?_eq_none_iff.mpr (List.countP_eq_zero.mp hzero)] at h
  cases h

/-- Cutting a tree out takes its root from the top-level nodes, if it is one of them. -/
theorem tops_of_cut? {f t rest : Forest α} (hone : f.labels.countP p ≤ 1)
    (h : cut? p f = some (t, rest)) : rest.tops = f.tops.filter (!p ·) := by
  induction f generalizing t rest with
  | nil => simp [cut?] at h
  | node a children more _ ihr =>
      simp only [labels, List.countP_cons, List.countP_append] at hone
      rw [cut?] at h
      by_cases ha : p a
      · simp only [ha, if_true] at h hone
        obtain ⟨rfl, rfl⟩ := Prod.mk.inj (Option.some.inj h)
        have hmore : more.labels.countP p = 0 := by omega
        simp [tops, ha, filter_tops_eq_self hmore]
      · simp only [ha, Bool.false_eq_true, if_false] at h hone
        split at h
        · next t' children' hc =>
            obtain ⟨rfl, rfl⟩ := Prod.mk.inj (Option.some.inj h)
            have hpos := countP_pos_of_cut? hc
            have hmore : more.labels.countP p = 0 := by omega
            simp [tops, ha, filter_tops_eq_self hmore]
        · obtain ⟨⟨t', more'⟩, hr, heq⟩ := Option.map_eq_some_iff.mp h
          obtain ⟨rfl, rfl⟩ := Prod.mk.inj heq
          simp [tops, ha, ihr (by omega) hr]

/-- **Cutting a tree out, row by row**: the rows of the tree and of the rest are those of the
forest, without the step between the two. -/
theorem rows_perm_of_cut? (above : Option α) {f t rest : Forest α}
    (hone : f.labels.countP p ≤ 1) (h : cut? p f = some (t, rest)) :
    ((rows above f).map (Row.cut p)).Perm (rows none t ++ rows above rest) := by
  induction f generalizing above t rest with
  | nil => simp [cut?] at h
  | node a children more ihc ihr =>
      simp only [labels, List.countP_cons, List.countP_append] at hone
      rw [cut?] at h
      simp only [rows, List.map_cons, List.map_append]
      by_cases ha : p a
      -- the node itself is the root of what is cut out
      · simp only [ha, if_true] at h hone
        obtain ⟨rfl, rfl⟩ := Prod.mk.inj (Option.some.inj h)
        have hchildren : children.labels.countP p = 0 := by omega
        have hmore : more.labels.countP p = 0 := by omega
        simp [Row.cut, tree, rows, ha, map_cut_rows_eq_self hchildren,
          map_cut_rows_eq_self hmore, filter_tops_eq_self hchildren]
      · simp only [ha, Bool.false_eq_true, if_false] at h hone
        split at h
        -- the root is below the node, and may be one of its children
        · next t' children' hc =>
            obtain ⟨rfl, rfl⟩ := Prod.mk.inj (Option.some.inj h)
            have hpos := countP_pos_of_cut? hc
            have hmore : more.labels.countP p = 0 := by omega
            have hhead : Row.cut p ⟨a, above, children.tops⟩ = ⟨a, above, children'.tops⟩ := by
              simp [Row.cut, ha, tops_of_cut? (by omega) hc]
            rw [hhead, map_cut_rows_eq_self hmore, rows]
            refine (((ihc _ (by omega) hc).append_right _).cons _).trans ?_
            rw [List.append_assoc]
            exact List.perm_middle.symm
        -- the root is in the trees that follow
        · obtain ⟨⟨t', more'⟩, hr, heq⟩ := Option.map_eq_some_iff.mp h
          obtain ⟨rfl, rfl⟩ := Prod.mk.inj heq
          have hpos := countP_pos_of_cut? hr
          have hchildren : children.labels.countP p = 0 := by omega
          have hhead : Row.cut p ⟨a, above, children.tops⟩ = ⟨a, above, children.tops⟩ := by
            simp [Row.cut, ha, filter_tops_eq_self hchildren]
          rw [hhead, map_cut_rows_eq_self hchildren, rows]
          refine (((ihr _ (by omega) hr).append_left _).cons _).trans ?_
          refine ((List.perm_append_comm_assoc _ _ _).cons _).trans ?_
          exact List.perm_middle.symm

/-! ## Hanging a tree under a node -/

/-- Only the parent of its root tells whether a tree stands at the top or below a node. -/
theorem rows_tree_eq_map_adopt {above : Option α} {a parent : α} {children : Forest α}
    (ha : p a) (hone : (tree a children).labels.countP p ≤ 1) :
    rows (some parent) (tree a children)
      = (rows above (tree a children)).map (Row.adopt p parent) := by
  simp only [labels_tree, List.countP_cons, ha, if_true] at hone
  have hchildren : children.labels.countP p = 0 := by omega
  simp [tree, rows, Row.adopt, ha, map_adopt_rows_eq_self hchildren]

/-- A node that trees are hung under passes, so it is counted. -/
theorem countP_pos_of_appendUnder? {g f f' : Forest α} (h : appendUnder? p g f = some f') :
    0 < f.labels.countP p := by
  rw [Nat.pos_iff_ne_zero]
  intro hzero
  rw [appendUnder?_eq_none_iff.mpr (List.countP_eq_zero.mp hzero)] at h
  cases h

theorem tops_of_appendUnder? {g f f' : Forest α} (h : appendUnder? p g f = some f') :
    f'.tops = f.tops := by
  induction f generalizing f' with
  | nil => simp [appendUnder?] at h
  | node a children rest _ ihr =>
      rw [appendUnder?] at h
      split at h
      · obtain rfl := Option.some.inj h
        rfl
      · split at h
        · obtain rfl := Option.some.inj h
          rfl
        · obtain ⟨rest', hr, rfl⟩ := Option.map_eq_some_iff.mp h
          rw [tops, tops, ihr hr]

/-- **Hanging trees under a node, row by row**: their top-level nodes become children of the
node, behind those it has. -/
theorem rows_perm_of_appendUnder? (above : Option α) {g f f' : Forest α}
    (hone : f.labels.countP p ≤ 1) (h : appendUnder? p g f = some f') :
    ∃ parent ∈ f.labels, p parent ∧
      (rows above f').Perm ((rows above f).map (Row.put p g.tops) ++ rows (some parent) g) := by
  induction f generalizing above f' with
  | nil => simp [appendUnder?] at h
  | node a children rest ihc ihr =>
      simp only [labels, List.countP_cons, List.countP_append] at hone
      rw [appendUnder?] at h
      simp only [rows, List.map_cons, List.map_append]
      by_cases ha : p a
      · simp only [ha, if_true] at h hone
        obtain rfl := Option.some.inj h
        have hchildren : children.labels.countP p = 0 := by omega
        have hrest : rest.labels.countP p = 0 := by omega
        refine ⟨a, List.mem_cons_self, ha, ?_⟩
        rw [map_put_rows_eq_self hchildren, map_put_rows_eq_self hrest, rows, rows_append,
          tops_append, Row.put, if_pos ha, List.cons_append, List.append_assoc, List.append_assoc]
        exact (List.perm_append_comm.append_left _).cons _
      · simp only [ha, Bool.false_eq_true, if_false] at h hone
        have hhead (ts : List α) : Row.put p g.tops ⟨a, above, ts⟩ = ⟨a, above, ts⟩ := by
          simp [Row.put, ha]
        rw [hhead]
        split at h
        · next children' hc =>
            obtain rfl := Option.some.inj h
            have hpos := countP_pos_of_appendUnder? hc
            have hrest : rest.labels.countP p = 0 := by omega
            obtain ⟨parent, hmem, hparent, hperm⟩ := ihc (some a) (by omega) hc
            refine ⟨parent, by simp [labels, hmem], hparent, ?_⟩
            rw [map_put_rows_eq_self hrest, rows, tops_of_appendUnder? hc]
            refine ((hperm.append_right _).cons _).trans ?_
            rw [List.cons_append, List.append_assoc, List.append_assoc]
            exact (List.perm_append_comm.append_left _).cons _
        · next hc =>
            obtain ⟨rest', hr, rfl⟩ := Option.map_eq_some_iff.mp h
            have hchildren : children.labels.countP p = 0 :=
              List.countP_eq_zero.mpr (appendUnder?_eq_none_iff.mp hc)
            obtain ⟨parent, hmem, hparent, hperm⟩ := ihr above (by omega) hr
            refine ⟨parent, by simp [labels, hmem], hparent, ?_⟩
            rw [map_put_rows_eq_self hchildren, rows, List.cons_append, List.append_assoc]
            exact (hperm.append_left _).cons _

/-! ## Moving a tree -/

/-- **Moving a tree under a node outside of it, row by row**: its root is taken from the children
of its parent, gets the node as its parent and becomes the last child of the node. -/
theorem rows_perm_of_move {q : α → Bool} (above : Option α) {f t rest f' : Forest α}
    (hp : f.labels.countP p ≤ 1) (hq : f.labels.countP q ≤ 1)
    (hcut : cut? p f = some (t, rest)) (hput : appendUnder? q t rest = some f')
    (hout : ∀ a ∈ t.labels, ¬ q a) :
    ∃ parent ∈ f.labels, q parent ∧ (rows above f').Perm
      ((rows above f).map fun r => ((r.cut p).adopt p parent).put q t.tops) := by
  obtain ⟨a, children, rfl, ha⟩ := exists_root_of_cut? hcut
  have hlabels := labels_perm_of_cut? hcut
  -- the root is the only node that passes, so that none in the rest does
  have hsplit : f.labels.countP p = (tree a children).labels.countP p + rest.labels.countP p := by
    rw [hlabels.countP_eq, List.countP_append]
  have hroot : 0 < (tree a children).labels.countP p := by simp [ha]
  have hrest : rest.labels.countP p = 0 := by omega
  have hqrest : rest.labels.countP q ≤ 1 := by
    rw [hlabels.countP_eq, List.countP_append] at hq
    omega
  obtain ⟨parent, hmem, hparent, hrows⟩ := rows_perm_of_appendUnder? above hqrest hput
  refine ⟨parent, hlabels.mem_iff.mpr (List.mem_append_right _ hmem), hparent, ?_⟩
  have htree : ((rows none (tree a children)).map (Row.adopt p parent)).map
      (Row.put q (tree a children).tops) = rows (some parent) (tree a children) := by
    rw [← rows_tree_eq_map_adopt ha (by omega), map_put_rows_eq_self (List.countP_eq_zero.mpr hout)]
  have hchange := (((rows_perm_of_cut? above hp hcut).map (Row.adopt p parent)).map
    (Row.put q (tree a children).tops))
  rw [List.map_append, List.map_append, htree, map_adopt_rows_eq_self hrest, List.map_map,
    List.map_map] at hchange
  exact hrows.trans (List.perm_append_comm.trans hchange.symm)

end Forest

end PageDirectives
