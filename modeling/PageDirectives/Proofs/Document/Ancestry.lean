import PageDirectives.Proofs.Document.Links

set_option autoImplicit false

/-! # Above and below in a document

Going up from a node leads through its parents and never back to the node
(`Document.not_transGen_under_self`). What a document finds by going up and what it finds by going
down agree: a node is attached if going up leads to the root, which is if it is on the way down
from the root (`Document.isAttached_iff`, `Document.mem_attached_iff`), and the descendants of a
node are the elements from which going up leads to it (`Document.mem_descendants_iff`).
-/

namespace PageDirectives

namespace Document

variable {d : Document}

/-! ## Going up, by places and by numbers -/

theorem under_iff {n p : NodeId} :
    d.links.Under n p ↔
      ∃ c c', d.cursor? n = some c ∧ c.up? = some c' ∧ d.cursor? p = some c' := by
  constructor
  · intro h
    obtain ⟨c, hc⟩ := exists_cursor?_iff.mpr (lt_size_of_under h)
    obtain ⟨hmem, rfl⟩ := cursor?_eq_some_iff.mp hc
    obtain ⟨c', hup, rfl⟩ :=
      Option.map_eq_some_iff.mp ((links_parent?_of_mem_places hmem).symm.trans h)
    exact ⟨c, c', hc, hup, cursor?_eq_some_iff.mpr ⟨Forest.up?_mem_places hmem hup, rfl⟩⟩
  · rintro ⟨c, c', hc, hup, hc'⟩
    obtain ⟨hmem, rfl⟩ := cursor?_eq_some_iff.mp hc
    obtain ⟨-, rfl⟩ := cursor?_eq_some_iff.mp hc'
    rw [Links.Under, links_parent?_of_mem_places hmem, hup]
    rfl

/-- A parent stands one level higher. -/
theorem level_of_under {n p : NodeId} (h : d.links.Under n p) : d.level n = d.level p + 1 := by
  obtain ⟨c, c', hc, hup, hc'⟩ := under_iff.mp h
  simp only [level, hc, hc', Option.elim_some]
  exact Forest.length_above_of_up? hup

theorem level_lt_of_transGen_under {n p : NodeId}
    (h : Relation.TransGen d.links.Under n p) : d.level p < d.level n := by
  induction h with
  | single hstep =>
      have hlevel := level_of_under hstep
      omega
  | tail _ hstep ih =>
      have hlevel := level_of_under hstep
      omega

/-- **Going up never leads back.** -/
theorem not_transGen_under_self (n : NodeId) : ¬ Relation.TransGen d.links.Under n n :=
  fun h => Nat.lt_irrefl _ (level_lt_of_transGen_under h)

theorem transGen_under_iff {c c' : Cursor Node} (hc : c ∈ d.places) (hc' : c' ∈ d.places) :
    Relation.TransGen d.links.Under c.id c'.id ↔
      Relation.TransGen (fun a b : Cursor Node => a.up? = some b) c c' := by
  constructor
  · intro h
    generalize hn : c.id = n at h
    induction h using Relation.TransGen.head_induction_on generalizing c with
    | single hstep =>
        obtain ⟨a, b, ha, hup, hb⟩ := under_iff.mp hstep
        subst hn
        obtain rfl := Option.some.inj (ha.symm.trans (cursor?_eq_some_iff.mpr ⟨hc, rfl⟩))
        obtain rfl := Option.some.inj (hb.symm.trans (cursor?_eq_some_iff.mpr ⟨hc', rfl⟩))
        exact .single hup
    | head hstep _ ih =>
        obtain ⟨a, b, ha, hup, hb⟩ := under_iff.mp hstep
        subst hn
        obtain rfl := Option.some.inj (ha.symm.trans (cursor?_eq_some_iff.mpr ⟨hc, rfl⟩))
        obtain ⟨hmem, hid⟩ := cursor?_eq_some_iff.mp hb
        exact .head hup (ih hmem hid)
  · intro h
    induction h using Relation.TransGen.head_induction_on with
    | single hstep =>
        exact .single (under_iff.mpr ⟨_, _, cursor?_eq_some_iff.mpr ⟨hc, rfl⟩, hstep,
          cursor?_eq_some_iff.mpr ⟨hc', rfl⟩⟩)
    | head hstep _ ih =>
        have hmem := Forest.up?_mem_places hc hstep
        exact .head (under_iff.mpr ⟨_, _, cursor?_eq_some_iff.mpr ⟨hc, rfl⟩, hstep,
          cursor?_eq_some_iff.mpr ⟨hmem, rfl⟩⟩) (ih hmem)

theorem mem_below_iff {c c' : Cursor Node} (hc : c ∈ d.places) (hc' : c' ∈ d.places) :
    c' ∈ c.below ↔ Relation.TransGen d.links.Under c'.id c.id := by
  rw [transGen_under_iff hc' hc]
  exact Forest.mem_below_iff hc'

/-- The numbers below a place. -/
theorem exists_mem_below_iff {c : Cursor Node} (hc : c ∈ d.places) {m : NodeId} :
    (∃ c' ∈ c.below, c'.id = m) ↔ Relation.TransGen d.links.Under m c.id := by
  constructor
  · rintro ⟨c', hc', rfl⟩
    exact (mem_below_iff hc (Forest.mem_places_of_mem_below hc hc')).mp hc'
  · intro hup
    obtain ⟨p, hstep, -⟩ := Relation.TransGen.head'_iff.mp hup
    obtain ⟨c', -, hcursor, -, -⟩ := under_iff.mp hstep
    obtain ⟨hmem, rfl⟩ := cursor?_eq_some_iff.mp hcursor
    exact ⟨c', (mem_below_iff hc hmem).mpr hup, rfl⟩

/-- The numbers above a place. -/
theorem exists_mem_above_iff {c : Cursor Node} (hc : c ∈ d.places) {p : NodeId} :
    (∃ s ∈ c.above, s.label.id = p) ↔ Relation.TransGen d.links.Under c.id p := by
  constructor
  · rintro ⟨s, hs, rfl⟩
    obtain ⟨c', rfl, hup⟩ := Cursor.mem_above_iff.mp hs
    exact (transGen_under_iff hc (Forest.mem_places_of_transGen_up? hc hup)).mpr hup
  · intro hup
    obtain ⟨m, -, hstep⟩ := Relation.TransGen.tail'_iff.mp hup
    obtain ⟨-, c', -, -, hcursor⟩ := under_iff.mp hstep
    obtain ⟨hmem, rfl⟩ := cursor?_eq_some_iff.mp hcursor
    rw [transGen_under_iff hc hmem] at hup
    exact ⟨c'.here, Cursor.mem_above_iff.mpr ⟨c', rfl, hup⟩, rfl⟩

/-! ## Attached nodes -/

/-- A node is attached if going up from it leads to the root. -/
theorem isAttached_iff {n : NodeId} :
    d.isAttached n ↔ n < d.size ∧ Relation.ReflTransGen d.links.Under n root := by
  cases hcursor : d.cursor? n with
  | none =>
      have hn : ¬ n < d.size := fun hlt => by
        obtain ⟨c, hc⟩ := exists_cursor?_iff.mpr hlt
        cases hcursor.symm.trans hc
      simp [isAttached, hcursor, hn]
  | some c =>
      have hlt : n < d.size := exists_cursor?_iff.mp ⟨c, hcursor⟩
      obtain ⟨hmem, rfl⟩ := cursor?_eq_some_iff.mp hcursor
      simp only [isAttached, hcursor, Option.any_some, Bool.or_eq_true, beq_iff_eq,
        List.any_eq_true, Node.has, exists_mem_above_iff hmem, hlt, true_and,
        Relation.reflTransGen_iff_eq_or_transGen]
      exact or_congr_left eq_comm

/-- The attached nodes are those that the way down from the root leads through. -/
theorem mem_attached_iff {n : NodeId} :
    n ∈ d.attached.map Cursor.id ↔ n < d.size ∧ Relation.ReflTransGen d.links.Under n root := by
  obtain ⟨c, hc, hid, -⟩ := d.exists_root_place
  have hcursor : d.cursor? root = some c := cursor?_eq_some_iff.mpr ⟨hc, hid⟩
  have hroot : c.id = root := hid
  have hbelow := exists_mem_below_iff hc (m := n)
  simp only [attached, hcursor, List.map_cons, List.mem_cons, List.mem_map, hbelow, hroot,
    Relation.reflTransGen_iff_eq_or_transGen]
  constructor
  · rintro (rfl | hup)
    · exact ⟨d.size_pos, Or.inl rfl⟩
    · obtain ⟨p, hstep, -⟩ := Relation.TransGen.head'_iff.mp hup
      exact ⟨lt_size_of_under hstep, Or.inr hup⟩
  · rintro ⟨-, heq | hup⟩
    · exact Or.inl heq.symm
    · exact Or.inr hup

/-- **The descendants of a node** are the elements from which going up leads to it. -/
theorem mem_descendants_iff {n m : NodeId} :
    m ∈ d.descendants n ↔ (d.element? m).isSome ∧ Relation.TransGen d.links.Under m n := by
  cases hcursor : d.cursor? n with
  | none =>
      have hnot : ¬ Relation.TransGen d.links.Under m n := fun hup => by
        obtain ⟨p, -, hstep⟩ := Relation.TransGen.tail'_iff.mp hup
        obtain ⟨-, c, -, -, hc⟩ := under_iff.mp hstep
        cases hcursor.symm.trans hc
      simp [descendants, hcursor, hnot]
  | some c =>
      obtain ⟨hmem, rfl⟩ := cursor?_eq_some_iff.mp hcursor
      rw [← exists_mem_below_iff hmem]
      simp only [descendants, hcursor, Option.map_some, Option.getD_some, List.mem_map,
        List.mem_filter]
      constructor
      · rintro ⟨c', ⟨hc', helement⟩, rfl⟩
        rw [element?_of_mem_places (Forest.mem_places_of_mem_below hmem hc')]
        exact ⟨helement, c', hc', rfl⟩
      · rintro ⟨helement, c', hc', rfl⟩
        rw [element?_of_mem_places (Forest.mem_places_of_mem_below hmem hc')] at helement
        exact ⟨c', ⟨hc', helement⟩, rfl⟩

theorem nodup_descendants (d : Document) (n : NodeId) : (d.descendants n).Nodup := by
  unfold descendants
  cases hcursor : d.cursor? n with
  | none => exact List.nodup_nil
  | some c =>
      have hmem := (cursor?_eq_some_iff.mp hcursor).1
      have hbelow : c.below.Sublist d.places :=
        (List.sublist_cons_self _ _).trans (Forest.cons_below_sublist_places hmem)
      exact d.nodup_id_places.sublist ((List.filter_sublist.trans hbelow).map Cursor.id)

end Document

end PageDirectives
