import PageDirectives.Proofs.Document.Place
import PageDirectives.Proofs.Forest.Edit

set_option autoImplicit false

/-! # The links of a document

A document can be kept in two tables, which give the parent and the children of every number
(`Document.links`). The tables of a document agree (`Document.mem_children_iff`), but nothing in
tables as such makes them agree, and their edits check nothing: `Links.detach` and `Links.append`
write into both tables whatever they are told.

The edits of a document are these edits of its tables. Taking a node out of its place is for every
node (`Document.links_detach`), and putting a node under another one is unless the other one is at
or below the node itself (`Document.links_move`).
-/

namespace PageDirectives

namespace Row

variable {α β : Type}

theorem map_cut (h : α → β) (p : β → Bool) (r : Row α) :
    (r.cut (p ∘ h)).map h = (r.map h).cut p := by
  by_cases hp : p (h r.label)
  · simp [cut, map, hp, List.filter_map, Function.comp_def]
  · simp [cut, map, hp, List.filter_map, Function.comp_def]

theorem map_adopt (h : α → β) (p : β → Bool) (parent : α) (r : Row α) :
    (r.adopt (p ∘ h) parent).map h = (r.map h).adopt p (h parent) := by
  by_cases hp : p (h r.label) <;> simp [adopt, map, hp]

theorem map_put (h : α → β) (p : β → Bool) (more : List α) (r : Row α) :
    (r.put (p ∘ h) more).map h = (r.map h).put p (more.map h) := by
  by_cases hp : p (h r.label) <;> simp [put, map, hp]

theorem parent_of_cut {p : α → Bool} {r : Row α} {a : α} (h : (r.cut p).parent = some a) :
    r.parent = some a := by
  simp only [cut] at h
  split at h
  · cases h
  · exact h

theorem map_move (h : α → β) (p q : β → Bool) (parent : α) (more : List α) (r : Row α) :
    (((r.cut (p ∘ h)).adopt (p ∘ h) parent).put (q ∘ h) more).map h
      = (((r.map h).cut p).adopt p (h parent)).put q (more.map h) := by
  rw [map_put, map_adopt, map_cut]

end Row

/-- The parent and the children of every number, in two tables. -/
@[ext]
structure Links where
  /-- The number of nodes ever made. -/
  size : Nat
  parent? : NodeId → Option NodeId
  children : NodeId → List NodeId

namespace Links

/-- The step from a node to its parent. -/
def Under (l : Links) (n parent : NodeId) : Prop := l.parent? n = some parent

def row (l : Links) (n : NodeId) : Row NodeId := ⟨n, l.parent? n, l.children n⟩

/-! ## Edits -/

/-- Takes a node from its parent. -/
def detach (l : Links) (n : NodeId) : Links where
  size := l.size
  parent? m := if m = n then none else l.parent? m
  children m := if l.parent? n = some m then (l.children m).erase n else l.children m

/-- Takes a node from its parent and makes it the last child of another node, whichever it is. -/
def append (l : Links) (target n : NodeId) : Links where
  size := l.size
  parent? m := if m = n then some target else (l.detach n).parent? m
  children m := if m = target then (l.detach n).children m ++ [n] else (l.detach n).children m

/-- Makes a node without parent and children. -/
def create (l : Links) : Links := { l with size := l.size + 1 }

/-- Takes over the nodes of other tables, with numbers that follow the own ones. -/
def absorb (l m : Links) : Links where
  size := l.size + m.size
  parent? n := if n < l.size then l.parent? n else (m.parent? (n - l.size)).map (l.size + ·)
  children n := if n < l.size then l.children n else (m.children (n - l.size)).map (l.size + ·)

theorem detach_of_parent?_eq_none {l : Links} {n : NodeId} (h : l.parent? n = none) :
    l.detach n = l := by
  apply Links.ext
  · rfl
  · funext m
    show (if m = n then none else l.parent? m) = l.parent? m
    split
    · next hm => rw [hm, h]
    · rfl
  · funext m
    simp [detach, h]

end Links

namespace Document

/-! ## The tables of a document -/

def links (d : Document) : Links where
  size := d.size
  parent? n := (d.parent? n).map Node.id
  children n := (d.children n).map Node.id

/-- The rows of the forest, by numbers. -/
def rows (d : Document) : List (Row NodeId) :=
  (Forest.rows none d.trees).map (Row.map Node.id)

theorem rows_eq_rows_map (d : Document) : d.rows = Forest.rows none (d.trees.map Node.id) :=
  (Forest.rows_map Node.id none d.trees).symm

theorem exists_mem_labels_iff {d : Document} {id : NodeId} :
    (∃ n ∈ d.trees.labels, n.id = id) ↔ id < d.size := by
  rw [← List.mem_map, d.numbered.mem_iff, List.mem_range]

theorem exists_cursor?_iff {d : Document} {id : NodeId} :
    (∃ c, d.cursor? id = some c) ↔ id < d.size := by
  simp only [cursor?_eq_some_iff]
  rw [← List.mem_map, map_id_places, d.numbered.mem_iff, List.mem_range]

theorem cursor?_eq_none_of_size_le {d : Document} {id : NodeId} (h : d.size ≤ id) :
    d.cursor? id = none := by
  rw [Option.eq_none_iff_forall_not_mem]
  intro c hc
  exact absurd (exists_cursor?_iff.mp ⟨c, hc⟩) (Nat.not_lt.mpr h)

theorem countP_has_le_one (d : Document) (id : NodeId) :
    d.trees.labels.countP (Node.has id) ≤ 1 := by
  have hnodup : (d.trees.labels.map Node.id).Nodup := d.numbered.nodup_iff.mpr List.nodup_range
  have hcount := List.nodup_iff_count_le_one.mp hnodup id
  rwa [List.count, List.countP_map] at hcount

/-- The row of a place. -/
theorem row_links_of_mem_places {d : Document} {c : Cursor Node} (hc : c ∈ d.places) :
    d.links.row c.id = ⟨c.id, c.up?.map Cursor.id, c.here.children.tops.map Node.id⟩ := by
  have hcursor : d.cursor? c.id = some c := cursor?_eq_some_iff.mpr ⟨hc, rfl⟩
  simp only [Links.row, links, parent?, children, hcursor, Option.bind_some, Option.map_some,
    Option.getD_some, Option.map_map, Row.mk.injEq, and_true, true_and]
  rfl

theorem rows_eq (d : Document) : d.rows = (d.trees.labels.map Node.id).map d.links.row := by
  rw [rows, ← Forest.map_row_places, ← Forest.map_label_places, List.map_map, List.map_map,
    List.map_map]
  refine List.map_congr_left fun c hc => ?_
  show _ = d.links.row c.id
  rw [row_links_of_mem_places hc]
  simp only [Function.comp_apply, Row.map, Option.map_map]
  rfl

/-- The rows hold what the tables say of the numbers in use. -/
theorem mem_rows_iff {d : Document} {r : Row NodeId} :
    r ∈ d.rows ↔ r.label < d.size ∧ d.links.row r.label = r := by
  rw [rows_eq, List.mem_map]
  constructor
  · rintro ⟨n, hn, rfl⟩
    rw [d.numbered.mem_iff, List.mem_range] at hn
    exact ⟨hn, rfl⟩
  · rintro ⟨hlt, hrow⟩
    refine ⟨r.label, ?_, hrow⟩
    rwa [d.numbered.mem_iff, List.mem_range]

theorem row_links_mem_rows {d : Document} {n : NodeId} (hn : n < d.size) :
    d.links.row n ∈ d.rows :=
  mem_rows_iff.mpr ⟨hn, rfl⟩

theorem links_parent?_of_mem_places {d : Document} {c : Cursor Node} (hc : c ∈ d.places) :
    d.links.parent? c.id = c.up?.map Cursor.id :=
  congrArg Row.parent (row_links_of_mem_places hc)

theorem links_children_of_mem_places {d : Document} {c : Cursor Node} (hc : c ∈ d.places) :
    d.links.children c.id = c.here.children.tops.map Node.id :=
  congrArg Row.children (row_links_of_mem_places hc)

theorem rows_perm (d : Document) : d.rows.Perm ((List.range d.size).map d.links.row) := by
  rw [rows_eq]
  exact d.numbered.map _

theorem row_links_of_size_le {d : Document} {n : NodeId} (h : d.size ≤ n) :
    d.links.row n = ⟨n, none, []⟩ := by
  simp [Links.row, links, parent?, children, cursor?_eq_none_of_size_le h]

theorem links_parent?_of_size_le {d : Document} {n : NodeId} (h : d.size ≤ n) :
    d.links.parent? n = none :=
  congrArg Row.parent (row_links_of_size_le h)

theorem links_children_of_size_le {d : Document} {n : NodeId} (h : d.size ≤ n) :
    d.links.children n = [] :=
  congrArg Row.children (row_links_of_size_le h)

theorem lt_size_of_under {d : Document} {n p : NodeId} (h : d.links.Under n p) : n < d.size := by
  by_contra hn
  rw [Links.Under, links_parent?_of_size_le (Nat.not_lt.mp hn)] at h
  cases h

/-- Tables are those of a document if the rows are. -/
theorem links_eq_of_rows {d : Document} {l : Links} (hsize : d.size = l.size)
    (hrows : ∀ n < l.size, l.row n ∈ d.rows)
    (hout : ∀ n, l.size ≤ n → l.row n = ⟨n, none, []⟩) : d.links = l := by
  have hrow (n : NodeId) : d.links.row n = l.row n := by
    by_cases hn : n < l.size
    · exact (mem_rows_iff.mp (hrows n hn)).2
    · have hle : l.size ≤ n := Nat.not_lt.mp hn
      rw [hout n hle, row_links_of_size_le (hsize ▸ hle)]
  apply Links.ext
  · exact hsize
  · funext n
    exact congrArg Row.parent (hrow n)
  · funext n
    exact congrArg Row.children (hrow n)

/-- An edit that changes every row by itself is this change in the tables. -/
theorem links_eq_of_rows_perm (d : Document) (change : Row NodeId → Row NodeId) {d' : Document}
    {l : Links} (hsize : d'.size = d.size) (hrows : d'.rows.Perm (d.rows.map change))
    (hl : l.size = d.size) (hrow : ∀ n, l.row n = change (d.links.row n))
    (hout : ∀ n, d.size ≤ n → change ⟨n, none, []⟩ = ⟨n, none, []⟩) : d'.links = l := by
  refine links_eq_of_rows (hsize.trans hl.symm) (fun n hn => ?_) fun n hn => ?_
  · rw [hrow, hrows.mem_iff]
    exact List.mem_map_of_mem (row_links_mem_rows (hl ▸ hn))
  · rw [hrow, row_links_of_size_le (hl ▸ hn), hout n (hl ▸ hn)]

/-! ## The tables agree -/

/-- **The two tables agree**: a node is among the children of another one if and only if the other
one is its parent. -/
theorem mem_children_iff {d : Document} {n p : NodeId} :
    n ∈ d.links.children p ↔ d.links.Under n p := by
  constructor
  · intro hn
    have hp : p < d.size := by
      by_contra hp
      rw [links_children_of_size_le (Nat.not_lt.mp hp)] at hn
      cases hn
    have hrow := row_links_mem_rows hp
    rw [rows_eq_rows_map] at hrow
    obtain ⟨s, hs, hlabel, hparent⟩ := Forest.exists_row_of_mem_children hrow hn
    rw [← rows_eq_rows_map] at hs
    have hs' := (mem_rows_iff.mp hs).2
    rw [hlabel] at hs'
    exact (congrArg Row.parent hs').trans hparent
  · intro hp
    have hrow := row_links_mem_rows (lt_size_of_under hp)
    rw [rows_eq_rows_map] at hrow
    rcases Forest.parent_of_mem_rows hrow with ⟨hnone, -⟩ | ⟨s, hs, hparent, hchild⟩
    · cases hp.symm.trans hnone
    · rw [← rows_eq_rows_map] at hs
      obtain rfl := Option.some.inj (hp.symm.trans hparent)
      rw [← (mem_rows_iff.mp hs).2] at hchild
      exact hchild

/-- No node is twice among the children of nodes. -/
theorem nodup_flatMap_children (d : Document) :
    ((List.range d.size).flatMap d.links.children).Nodup := by
  have hlabels : (d.trees.map Node.id).labels.Nodup := by
    rw [Forest.labels_map]
    exact d.numbered.nodup_iff.mpr List.nodup_range
  have hnodup := Forest.nodup_children none hlabels
  rw [← rows_eq_rows_map, (d.rows_perm.flatMap_right _).nodup_iff, List.flatMap_map] at hnodup
  exact hnodup

theorem nodup_children (d : Document) (p : NodeId) : (d.links.children p).Nodup := by
  by_cases hp : p < d.size
  · exact (List.nodup_flatMap.mp d.nodup_flatMap_children).1 p (List.mem_range.mpr hp)
  · rw [links_children_of_size_le (Nat.not_lt.mp hp)]
    exact List.nodup_nil

/-- The place of the root, with nothing above it. -/
theorem exists_root_place (d : Document) : ∃ c ∈ d.places, c.id = 0 ∧ c.above = [] := by
  obtain ⟨root, hfirst, hid⟩ := d.rooted
  cases htrees : d.trees with
  | nil =>
      rw [htrees] at hfirst
      cases hfirst
  | node a children rest =>
      rw [htrees] at hfirst
      obtain rfl := Option.some.inj hfirst
      refine ⟨⟨⟨a, children, .nil, .nil⟩, []⟩, ?_, hid, rfl⟩
      rw [places, htrees]
      exact List.mem_append_left _ List.mem_cons_self

theorem size_pos (d : Document) : 0 < d.size := by
  obtain ⟨c, hc, hid, -⟩ := d.exists_root_place
  exact exists_cursor?_iff.mp ⟨c, cursor?_eq_some_iff.mpr ⟨hc, hid⟩⟩

/-- The root is below nothing. -/
theorem links_parent?_root (d : Document) : d.links.parent? 0 = none := by
  obtain ⟨c, hc, hid, habove⟩ := d.exists_root_place
  have hparent := links_parent?_of_mem_places hc
  rwa [hid, Cursor.up?, habove] at hparent

/-! ## Detaching -/

/-- Only a number that is not in use is not found. -/
theorem size_le_of_cut?_eq_none {d : Document} {n : NodeId}
    (h : Forest.cut? (Node.has n) d.trees = none) : d.size ≤ n := by
  by_contra hlt
  obtain ⟨a, ha, hid⟩ := exists_mem_labels_iff.mpr (Nat.not_le.mp hlt)
  have hnone := Forest.cut?_eq_none_iff.mp h a ha
  simp [Node.has, hid] at hnone

theorem rows_perm_of_cut? {d : Document} {n : NodeId} {t rest : Forest Node}
    (hcut : Forest.cut? (Node.has n) d.trees = some (t, rest)) :
    (d.rows.map (Row.cut (· == n))).Perm
      ((Forest.rows none t ++ Forest.rows none rest).map (Row.map Node.id)) := by
  have hperm := Forest.rows_perm_of_cut? none (d.countP_has_le_one n) hcut
  refine List.Perm.trans (List.Perm.of_eq ?_) (hperm.map (Row.map Node.id))
  rw [rows, List.map_map, List.map_map]
  exact List.map_congr_left fun r _ => (Row.map_cut Node.id (· == n) r).symm

theorem row_detach {d : Document} (n m : NodeId) :
    (d.links.detach n).row m = (d.links.row m).cut (· == n) := by
  have hchildren : (if d.links.parent? n = some m then (d.links.children m).erase n
      else d.links.children m) = (d.links.children m).filter fun a => !(a == n) := by
    split
    · exact (d.nodup_children m).erase_eq_filter n
    · next hm =>
        refine (List.filter_eq_self.mpr fun a ha => ?_).symm
        -- the node is no child, as its parent is another one
        have hne : a ≠ n := by
          rintro rfl
          exact hm (mem_children_iff.mp ha)
        simpa using hne
  simp only [Links.row, Links.detach, hchildren, Row.cut, beq_iff_eq]

/-- **Taking a node out of its place** is taking it from its parent in the tables. -/
theorem links_detach (d : Document) (n : NodeId) : (d.detach n).links = d.links.detach n := by
  unfold detach
  split
  · next hn => rw [hn, Links.detach_of_parent?_eq_none d.links_parent?_root]
  · split
    · next hcut =>
        have hnone := links_parent?_of_size_le (size_le_of_cut?_eq_none hcut)
        rw [Links.detach_of_parent?_eq_none hnone]
    · next t rest hcut =>
        refine links_eq_of_rows_perm d (Row.cut (· == n)) rfl ?_ rfl (row_detach n)
          fun m _ => by simp [Row.cut]
        rw [rows, rearrange, Forest.rows_append]
        exact (List.perm_append_comm.map _).trans (rows_perm_of_cut? hcut).symm

/-! ## Moving -/

/-- Going up within a tree that is cut out leads up in the document too. -/
theorem reflTransGen_under_of_mem_labels {d : Document} {n : NodeId} {t rest : Forest Node}
    (hcut : Forest.cut? (Node.has n) d.trees = some (t, rest)) {a : Node} (ha : a ∈ t.labels) :
    Relation.ReflTransGen d.links.Under a.id n := by
  obtain ⟨root, children, rfl, hroot⟩ := Forest.exists_root_of_cut? hcut
  obtain ⟨top, htop, hup⟩ := Forest.exists_top_of_mem_labels none ha
  obtain rfl : top = root := List.mem_singleton.mp htop
  obtain rfl : top.id = n := by simpa [Node.has] using hroot
  refine hup.lift Node.id fun b c hstep => ?_
  obtain ⟨r, hr, rfl, hparent⟩ := hstep
  -- a row of the tree is one of the document, but that the root has lost its parent
  have hmem : r.map Node.id ∈ d.rows.map (Row.cut (· == top.id)) :=
    (rows_perm_of_cut? hcut).mem_iff.mpr (List.mem_map_of_mem (List.mem_append_left _ hr))
  obtain ⟨s, hs, hrow⟩ := List.mem_map.mp hmem
  have hlabel : s.label = r.label.id := congrArg Row.label hrow
  have hs' : s.parent = some c.id := by
    refine Row.parent_of_cut ((congrArg Row.parent hrow).trans ?_)
    rw [Row.map, hparent, Option.map_some]
  rw [← (mem_rows_iff.mp hs).2, hlabel] at hs'
  exact hs'

theorem row_append {d : Document} (target n m : NodeId) :
    (d.links.append target n).row m
      = (((d.links.row m).cut (· == n)).adopt (· == n) target).put (· == target) [n] := by
  rw [← row_detach]
  simp [Links.row, Links.append, Row.adopt, Row.put]

theorem rows_perm_of_move {d : Document} {n target : NodeId} {t rest trees : Forest Node}
    (hcut : Forest.cut? (Node.has n) d.trees = some (t, rest))
    (hput : Forest.appendUnder? (Node.has target) t rest = some trees)
    (hout : ∀ a ∈ t.labels, ¬ Node.has target a) :
    ((Forest.rows none trees).map (Row.map Node.id)).Perm
      (d.rows.map fun r => ((r.cut (· == n)).adopt (· == n) target).put (· == target) [n]) := by
  obtain ⟨root, children, rfl, hroot⟩ := Forest.exists_root_of_cut? hcut
  obtain ⟨parent, -, hparent, hperm⟩ := Forest.rows_perm_of_move none (d.countP_has_le_one n)
    (d.countP_has_le_one target) hcut hput hout
  obtain rfl : root.id = n := by simpa [Node.has] using hroot
  obtain rfl : parent.id = target := by simpa [Node.has] using hparent
  refine (hperm.map (Row.map Node.id)).trans (List.Perm.of_eq ?_)
  rw [rows, List.map_map, List.map_map]
  refine List.map_congr_left fun r _ => ?_
  exact Row.map_move Node.id (· == root.id) (· == parent.id) parent [root] r

/-- **Putting a node under another one** is appending it in the tables, unless the other one is at
or below the node. -/
theorem links_move {d : Document} {n target : NodeId} (hn : n ≠ 0) (hsize : n < d.size)
    (htarget : target < d.size) (hout : ¬ Relation.ReflTransGen d.links.Under target n) :
    (d.move n target).links = d.links.append target n := by
  unfold move
  rw [dif_neg hn]
  split
  · next hcut => exact absurd hsize (Nat.not_lt.mpr (size_le_of_cut?_eq_none hcut))
  next t rest hcut =>
  have houtside : ∀ a ∈ t.labels, ¬ Node.has target a := by
    intro a ha hhas
    have hid : a.id = target := by simpa [Node.has] using hhas
    exact hout (hid ▸ reflTransGen_under_of_mem_labels hcut ha)
  split
  · next hput =>
      -- the target is neither in the tree nor in the rest, but it is in use
      obtain ⟨a, ha, hid⟩ := exists_mem_labels_iff.mpr htarget
      rw [(Forest.labels_perm_of_cut? hcut).mem_iff, List.mem_append] at ha
      have hnone : ¬ Node.has target a := by
        rcases ha with ha | ha
        · exact houtside a ha
        · exact Forest.appendUnder?_eq_none_iff.mp hput a ha
      simp [Node.has, hid] at hnone
  · next trees hput =>
      refine links_eq_of_rows_perm d _ rfl (rows_perm_of_move hcut hput houtside) rfl
        (row_append target n) fun m hm => ?_
      have hroot : m ≠ n := Nat.ne_of_gt (Nat.lt_of_lt_of_le hsize hm)
      have hparent : m ≠ target := Nat.ne_of_gt (Nat.lt_of_lt_of_le htarget hm)
      simp [Row.cut, Row.adopt, Row.put, hroot, hparent]

/-! ## Making nodes -/

theorem row_absorb {d e : Document} (n : NodeId) :
    (d.links.absorb e.links).row n = if n < d.size then d.links.row n
      else (e.links.row (n - d.size)).map (d.size + ·) := by
  show (⟨n, if n < d.size then _ else _, if n < d.size then _ else _⟩ : Row NodeId) = _
  split
  · rfl
  · next hn =>
      simp only [Row.map, Links.row, Nat.add_sub_of_le (Nat.not_lt.mp hn)]
      rfl

/-- The nodes taken over from another document keep their links. -/
theorem links_absorb (d e : Document) : (d.absorb e).links = d.links.absorb e.links := by
  have hrows : (d.absorb e).rows = d.rows ++ e.rows.map (Row.map (d.size + ·)) := by
    have hshift : ((e.trees.map fun n => { n with id := d.size + n.id }).map Node.id)
        = (e.trees.map Node.id).map (d.size + ·) := by
      rw [Forest.map_map, Forest.map_map]
      rfl
    have hmap : Forest.rows none ((e.trees.map Node.id).map (d.size + ·))
        = e.rows.map (Row.map (d.size + ·)) := by
      rw [rows_eq_rows_map]
      exact Forest.rows_map (d.size + ·) none _
    rw [rows_eq_rows_map, absorb, Forest.map_append, Forest.rows_append, hshift, hmap,
      ← rows_eq_rows_map]
  refine links_eq_of_rows rfl (fun n hn => ?_) fun n hn => ?_
  · rw [row_absorb, hrows, List.mem_append]
    split
    · next hlt => exact Or.inl (row_links_mem_rows hlt)
    · next hle =>
        have hlt : n - d.size < e.size := Nat.sub_lt_left_of_lt_add (Nat.not_lt.mp hle) hn
        exact Or.inr (List.mem_map_of_mem (row_links_mem_rows hlt))
  · have hle : d.size ≤ n := Nat.le_trans (Nat.le_add_right _ _) hn
    have hsub : e.size ≤ n - d.size := Nat.le_sub_of_add_le' hn
    rw [row_absorb, if_neg (Nat.not_lt.mpr hle), row_links_of_size_le hsub]
    simp [Row.map, Nat.add_sub_of_le hle]

theorem links_create (d : Document) (c : Content) : (d.create c).1.links = d.links.create := by
  have hrows : (d.create c).1.rows = d.rows ++ [⟨d.size, none, []⟩] := by
    simp only [rows, create, Forest.rows_append, List.map_append]
    rfl
  refine links_eq_of_rows rfl (fun n hn => ?_) fun n hn => ?_
  · rw [hrows, List.mem_append]
    by_cases hlt : n < d.size
    · exact Or.inl (row_links_mem_rows hlt)
    · have hn' : n = d.size := Nat.le_antisymm (Nat.le_of_lt_succ hn) (Nat.not_lt.mp hlt)
      refine Or.inr (List.mem_singleton.mpr ?_)
      subst hn'
      exact row_links_of_size_le (Nat.le_refl _)
  · exact row_links_of_size_le (Nat.le_of_succ_le hn)

/-- The links say nothing of what the nodes are. -/
theorem links_edit (d : Document) (n : NodeId) (f : Content → Content) :
    (d.edit n f).links = d.links := by
  refine links_eq_of_rows rfl (fun m hm => ?_) fun m hm => row_links_of_size_le hm
  have hid : (Node.id ∘ fun a : Node => if a.has n then { a with content := f a.content } else a)
      = Node.id := by
    funext a
    simp only [Function.comp_apply]
    split <;> rfl
  have hrows : (d.edit n f).rows = d.rows := by
    rw [rows_eq_rows_map, rows_eq_rows_map, edit, Forest.map_map, hid]
  rw [hrows]
  exact row_links_mem_rows hm

end Document

end PageDirectives
