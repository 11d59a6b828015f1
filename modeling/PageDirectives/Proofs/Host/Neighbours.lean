import Mathlib.Data.List.Basic
import Mathlib.Data.List.Nodup
import PageDirectives.Proofs.Document.Reach
import PageDirectives.Proofs.Forest.Siblings
import PageDirectives.Proofs.Page.Elements
import PageDirectives.Proofs.Sketch.Selection

set_option autoImplicit false

/-! # Neighbours

A page asks for the next element by looking along the nodes behind, and for the previous one by
looking along those in front, until there is an element. A sketch keeps no such order; it collects
all elements with the same parent and looks for larger and smaller numbers among them.

Both go along rows (`Host.GoesAlong`): what is next to an element at a position is at the next
position, and what is previous to it at the position before. The rows of a page are the elements
right below its nodes (`Document.goesAlong_elementChildren`), those of a sketch the elements of one
parent (`Sketch.goesAlong_numbers`). As every element stands in a row, the one question undoes the
other (`Host.next?_eq_some_iff`).
-/

namespace PageDirectives

namespace Host

variable {H : Type} [Host H] {h : H} {row row' : List NodeId} {a b : NodeId}

/-- Neighbours are told by the positions in a row. -/
structure GoesAlong (h : H) (row : List NodeId) : Prop where
  next : ∀ {i n}, row[i]? = some n → next? h n = row[i + 1]?
  previous_zero : ∀ {n}, row[0]? = some n → previous? h n = none
  previous_succ : ∀ {i n}, row[i + 1]? = some n → previous? h n = row[i]?

/-- It is enough to know the nearest element on both sides, wherever the row is cut. -/
theorem goesAlong_of_append
    (hrow : ∀ front n back, row = front ++ n :: back →
      next? h n = back.head? ∧ previous? h n = front.getLast?) : GoesAlong h row := by
  have hcut {i : Nat} {n : NodeId} (hi : row[i]? = some n) :
      next? h n = row[i + 1]? ∧ previous? h n = (row.take i).getLast? := by
    obtain ⟨hlt, rfl⟩ := List.getElem?_eq_some_iff.mp hi
    have hsplit : row = row.take i ++ row[i] :: row.drop (i + 1) := by
      rw [← List.drop_eq_getElem_cons hlt, List.take_append_drop]
    obtain ⟨hnext, hprevious⟩ := hrow _ _ _ hsplit
    exact ⟨by rw [hnext, List.head?_drop], hprevious⟩
  refine ⟨fun hi => (hcut hi).1, fun hi => (hcut hi).2, fun {i n} hi => ?_⟩
  rw [(hcut hi).2, List.getLast?_take, if_neg (Nat.succ_ne_zero i), Nat.add_sub_cancel]
  obtain ⟨hlt, -⟩ := List.getElem?_eq_some_iff.mp hi
  rw [List.getElem?_eq_getElem (Nat.lt_of_succ_lt hlt), Option.some_or]

theorem goesAlong_singleton (hnext : next? h a = none) (hprevious : previous? h a = none) :
    GoesAlong h [a] := by
  refine goesAlong_of_append fun front n back hrow => ?_
  rcases List.append_eq_singleton_iff.mp hrow.symm with ⟨rfl, hcons⟩ | ⟨-, hcons⟩
  · obtain ⟨rfl, rfl⟩ := List.cons.inj hcons
    exact ⟨hnext, hprevious⟩
  · cases hcons

/-- **Going forth and going back** undo each other between elements that stand in rows. -/
theorem next?_eq_some_iff (hrow : GoesAlong h row) (hrow' : GoesAlong h row') (ha : a ∈ row)
    (hb : b ∈ row') : next? h a = some b ↔ previous? h b = some a := by
  constructor
  · intro hnext
    obtain ⟨i, hi⟩ := List.getElem?_of_mem ha
    rw [hrow.next hi] at hnext
    rw [hrow.previous_succ hnext, hi]
  · intro hprevious
    obtain ⟨i, hi⟩ := List.getElem?_of_mem hb
    cases i with
    | zero =>
        rw [hrow'.previous_zero hi] at hprevious
        cases hprevious
    | succ i =>
        rw [hrow'.previous_succ hi] at hprevious
        rw [hrow'.next hprevious, hi]

/-- A filter is asked about the neighbour only. -/
theorem nextSibling?_eq_some_iff {filter : Option String} :
    nextSibling? h a filter = some b ↔ next? h a = some b ∧ ∀ s ∈ filter, isMatch h b s := by
  simp [nextSibling?, Option.filter_eq_some_iff, Option.all_eq_true]

theorem previousSibling?_eq_some_iff {filter : Option String} :
    previousSibling? h a filter = some b ↔
      previous? h a = some b ∧ ∀ s ∈ filter, isMatch h b s := by
  simp [previousSibling?, Option.filter_eq_some_iff, Option.all_eq_true]

end Host

/-! ## Documents -/

namespace Document

variable {d : Document} {n q : NodeId}

/-- Whether a number is that of an element, to filter by. -/
def isElementAt (d : Document) (n : NodeId) : Bool := (d.element? n).isSome

theorem isElementAt_of_mem_labels {c : Cursor Node} (hc : c.here.label ∈ d.trees.labels) :
    d.isElementAt c.id = c.isElement := by
  have hcontent : d.content? c.id = some c.content := content?_eq_some_iff.mpr hc
  rw [isElementAt, element?, hcontent]
  rfl

/-- The elements among places are told by their numbers. -/
theorem map_id_filter_isElement {cs : List (Cursor Node)}
    (hcs : ∀ c ∈ cs, c.here.label ∈ d.trees.labels) :
    (cs.filter Cursor.isElement).map Cursor.id = (cs.map Cursor.id).filter d.isElementAt := by
  rw [List.filter_map]
  exact congrArg (List.map Cursor.id)
    (List.filter_congr fun c hc => (isElementAt_of_mem_labels (hcs c hc)).symm)

theorem map_id_find?_isElement {cs : List (Cursor Node)}
    (hcs : ∀ c ∈ cs, c.here.label ∈ d.trees.labels) :
    (cs.find? Cursor.isElement).map Cursor.id = (cs.map Cursor.id).find? d.isElementAt := by
  rw [← List.head?_filter, ← List.head?_filter, ← map_id_filter_isElement hcs, List.head?_map]

theorem nextElement?_of_mem_places {c : Cursor Node} (hc : c ∈ d.places) :
    d.nextElement? c.id = (c.here.right.tops.map Node.id).find? d.isElementAt := by
  have hids : c.after.map Cursor.id = c.here.right.tops.map Node.id := by
    rw [← Forest.map_label_spots, Cursor.after, List.map_map, List.map_map]
    rfl
  rw [nextElement?, cursor?_eq_some_iff.mpr ⟨hc, rfl⟩, Option.bind_some, Cursor.nextElement?,
    map_id_find?_isElement fun c' hc' => Forest.label_mem_of_mem_siblings hc (Or.inl hc'), hids]

theorem previousElement?_of_mem_places {c : Cursor Node} (hc : c ∈ d.places) :
    d.previousElement? c.id = (c.here.left.tops.map Node.id).find? d.isElementAt := by
  have hids : c.before.map Cursor.id = c.here.left.tops.map Node.id := by
    rw [← Cursor.map_label_spotsBefore, Cursor.before, List.map_map, List.map_map]
    rfl
  rw [previousElement?, cursor?_eq_some_iff.mpr ⟨hc, rfl⟩, Option.bind_some,
    Cursor.previousElement?,
    map_id_find?_isElement fun c' hc' => Forest.label_mem_of_mem_siblings hc (Or.inr hc'), hids]

/-- **The neighbours of a node** are the nearest elements on both sides among the children of its
parent; what is no element is passed over. -/
theorem neighbours_of_children_eq {front back : List NodeId}
    (hq : d.links.children q = front ++ n :: back) :
    d.nextElement? n = back.find? d.isElementAt ∧
      d.previousElement? n = front.reverse.find? d.isElementAt := by
  have hchild : n ∈ d.links.children q := hq ▸ List.mem_append_right _ List.mem_cons_self
  have hparent : d.links.Under n q := mem_children_iff.mp hchild
  obtain ⟨c, hc⟩ := exists_cursor?_iff.mpr (lt_size_of_under hparent)
  obtain ⟨hplace, rfl⟩ := cursor?_eq_some_iff.mp hc
  rw [Links.Under, links_parent?_of_mem_places hplace] at hparent
  rcases Forest.siblings_of_mem_places hplace with ⟨hup, -⟩ | ⟨c', hup, hsiblings⟩
  · rw [hup] at hparent
    cases hparent
  · rw [hup] at hparent
    obtain rfl := Option.some.inj hparent
    -- both ways to list the children are cut at the node, which is among them once
    have hnodup := d.nodup_children c'.id
    have hlist := links_children_of_mem_places (Forest.up?_mem_places hplace hup)
    rw [← hsiblings, Cursor.siblings, List.map_append, List.map_cons, List.map_reverse] at hlist
    rw [hq] at hlist hnodup
    have hnotMem := (List.nodup_middle.mp hnodup).notMem
    obtain ⟨rfl, -, rfl⟩ := (List.append_cons_inj_of_notMem
      (fun h => hnotMem (List.mem_append_left _ h))
      (fun h => hnotMem (List.mem_append_right _ h))).mp hlist
    rw [nextElement?_of_mem_places hplace, previousElement?_of_mem_places hplace,
      List.reverse_reverse]
    exact ⟨rfl, rfl⟩

/-- A node without a parent has no neighbours. -/
theorem neighbours_of_parent?_eq_none (h : d.links.parent? n = none) :
    d.nextElement? n = none ∧ d.previousElement? n = none := by
  by_cases hn : n < d.size
  · obtain ⟨c, hc⟩ := exists_cursor?_iff.mpr hn
    obtain ⟨hplace, rfl⟩ := cursor?_eq_some_iff.mp hc
    rw [links_parent?_of_mem_places hplace, Option.map_eq_none_iff] at h
    rcases Forest.siblings_of_mem_places hplace with ⟨-, hsiblings⟩ | ⟨c', hup, -⟩
    · have hlength := congrArg List.length hsiblings
      simp only [Cursor.siblings, List.length_append, List.length_reverse, List.length_cons,
        List.length_nil] at hlength
      have hleft : c.here.left.tops = [] := List.eq_nil_of_length_eq_zero (by omega)
      have hright : c.here.right.tops = [] := List.eq_nil_of_length_eq_zero (by omega)
      rw [nextElement?_of_mem_places hplace, previousElement?_of_mem_places hplace, hleft, hright]
      exact ⟨rfl, rfl⟩
    · rw [h] at hup
      cases hup
  · have hnone := cursor?_eq_none_of_size_le (Nat.not_lt.mp hn)
    rw [nextElement?, previousElement?, hnone]
    exact ⟨rfl, rfl⟩

/-- The elements right below a node are those among its children. -/
theorem elementChildren_eq_filter (d : Document) (q : NodeId) :
    d.elementChildren q = (d.links.children q).filter d.isElementAt := by
  by_cases hq : q < d.size
  · obtain ⟨c, hc⟩ := exists_cursor?_iff.mpr hq
    obtain ⟨hplace, rfl⟩ := cursor?_eq_some_iff.mp hc
    have hdown : c.down.map (·.here.label) = c.here.children.tops := by
      rw [← Forest.map_label_spots .nil, Cursor.down, List.map_map]
      rfl
    have hids : c.down.map Cursor.id = c.here.children.tops.map Node.id := by
      rw [← hdown, List.map_map]
      rfl
    have hrow := List.mem_map_of_mem (f := fun c : Cursor Node =>
      (⟨c.here.label, c.up?.map (·.here.label), c.here.children.tops⟩ : Row Node)) hplace
    rw [places, Forest.map_row_places] at hrow
    have hlabels : ∀ c' ∈ c.down, c'.here.label ∈ d.trees.labels := fun c' hc' =>
      Forest.children_subset_of_mem_rows hrow (hdown ▸ List.mem_map_of_mem hc')
    rw [elementChildren, hc, Option.map_some, Option.getD_some, Cursor.elementChildren,
      map_id_filter_isElement hlabels, hids, links_children_of_mem_places hplace]
  · have hle := Nat.not_lt.mp hq
    rw [elementChildren, cursor?_eq_none_of_size_le hle, links_children_of_size_le hle]
    rfl

/-- The neighbours of an element go along the elements right below its parent. -/
theorem goesAlong_elementChildren {p : Page} (hp : p.document = d) (q : NodeId) :
    Host.GoesAlong p (d.elementChildren q) := by
  subst hp
  refine Host.goesAlong_of_append fun front n back hrow => ?_
  rw [elementChildren_eq_filter, List.filter_eq_append_iff] at hrow
  obtain ⟨front', rest, hq, rfl, hrest⟩ := hrow
  obtain ⟨skipped, back', rfl, hskipped, -, rfl⟩ := List.filter_eq_cons_iff.mp hrest
  rw [← List.append_assoc] at hq
  obtain ⟨hnext, hprevious⟩ := neighbours_of_children_eq hq
  have hnone : skipped.filter p.document.isElementAt = [] := List.filter_eq_nil_iff.mpr hskipped
  refine ⟨hnext.trans List.head?_filter.symm, hprevious.trans ?_⟩
  rw [← List.getLast?_filter, List.filter_append, hnone, List.append_nil]

theorem mem_elementChildren_iff {m : NodeId} :
    m ∈ d.elementChildren q ↔ d.HasElement m ∧ d.links.Under m q := by
  rw [elementChildren_eq_filter, List.mem_filter, mem_children_iff, and_comm]
  rfl

/-- Every element stands in a row, if need be alone. -/
theorem exists_goesAlong {p : Page} (hp : p.document = d) (n : NodeId) (hn : d.HasElement n) :
    ∃ row, n ∈ row ∧ Host.GoesAlong p row := by
  cases hparent : d.links.parent? n with
  | some q => exact ⟨_, mem_elementChildren_iff.mpr ⟨hn, hparent⟩, goesAlong_elementChildren hp q⟩
  | none =>
      subst hp
      obtain ⟨hnext, hprevious⟩ := neighbours_of_parent?_eq_none hparent
      exact ⟨[n], List.mem_singleton_self n, Host.goesAlong_singleton hnext hprevious⟩

/-- Neighbours are below the same node. -/
theorem parent?_eq_of_neighbour {a b : NodeId}
    (h : d.nextElement? a = some b ∨ d.previousElement? a = some b) :
    d.links.parent? a = d.links.parent? b := by
  cases hparent : d.links.parent? a with
  | none =>
      obtain ⟨hnext, hprevious⟩ := neighbours_of_parent?_eq_none hparent
      rw [hnext, hprevious] at h
      rcases h with h | h <;> cases h
  | some q =>
      have hchild : a ∈ d.links.children q := mem_children_iff.mpr hparent
      obtain ⟨front, back, hq⟩ := List.append_of_mem hchild
      obtain ⟨hnext, hprevious⟩ := neighbours_of_children_eq hq
      rw [hnext, hprevious] at h
      have hb : b ∈ d.links.children q := by
        rw [hq, List.mem_append, List.mem_cons]
        rcases h with h | h
        · exact Or.inr (Or.inr (List.mem_of_find?_eq_some h))
        · exact Or.inl (List.mem_reverse.mp (List.mem_of_find?_eq_some h))
      exact (mem_children_iff.mp hb).symm

end Document

/-! ## Sketches -/

namespace Sketch

variable {s : Sketch} {n : NodeId} {q : Option NodeId}

theorem siblings_of_mem_numbers (hn : n ∈ s.numbers (·.parent == q)) :
    s.siblings n = s.numbers (·.parent == q) := by
  obtain ⟨e, he, hparent⟩ := mem_numbers_iff.mp hn
  simp only [siblings, he, eq_of_beq hparent]

/-- The elements of one parent, in the order of their numbers, are neighbours. -/
theorem goesAlong_numbers (s : Sketch) (q : Option NodeId) :
    Host.GoesAlong s (s.numbers (·.parent == q)) := by
  refine Host.goesAlong_of_append fun front n back hrow => ?_
  have hn : n ∈ s.numbers (·.parent == q) := hrow ▸ List.mem_append_right _ List.mem_cons_self
  have hsorted := s.pairwise_numbers (·.parent == q)
  rw [hrow, List.pairwise_append, List.pairwise_cons] at hsorted
  obtain ⟨-, ⟨hback, -⟩, hfront⟩ := hsorted
  have hfront (m : NodeId) (hm : m ∈ front) : m < n := hfront m hm n List.mem_cons_self
  show s.next? n = _ ∧ s.previous? n = _
  rw [next?, previous?, siblings_of_mem_numbers hn, hrow]
  constructor
  · have hnone : front.find? (n < ·) = none := List.find?_eq_none.mpr fun m hm => by
      simpa using Nat.le_of_lt (hfront m hm)
    have hall : back.find? (n < ·) = back.head? := by
      rw [← List.head?_filter, List.filter_eq_self.mpr fun m hm => by simpa using hback m hm]
    rw [List.find?_append, hnone, Option.none_or, List.find?_cons_of_neg (by simp), hall]
  · have hall : front.filter (· < n) = front :=
      List.filter_eq_self.mpr fun m hm => by simpa using hfront m hm
    have hnone : back.filter (· < n) = [] := List.filter_eq_nil_iff.mpr fun m hm => by
      simpa using Nat.le_of_lt (hback m hm)
    rw [List.filter_append, hall, List.filter_cons_of_neg (by simp), hnone, List.append_nil]

/-- Every element stands in the row of its parent. -/
theorem exists_goesAlong (hn : n < s.elements.length) : ∃ row, n ∈ row ∧ Host.GoesAlong s row := by
  refine ⟨_, mem_numbers_iff.mpr ⟨s.elements[n], List.getElem?_eq_getElem hn, ?_⟩,
    s.goesAlong_numbers s.elements[n].parent⟩
  exact beq_self_eq_true _

/-- Neighbours have the same parent, or are both at the top. -/
theorem parent?_eq_of_neighbour {a b : NodeId} (h : s.next? a = some b ∨ s.previous? a = some b) :
    b < s.elements.length ∧ s.parent? a = s.parent? b := by
  have hb : b ∈ s.siblings a := by
    rcases h with h | h
    · exact List.mem_of_find?_eq_some h
    · exact (List.mem_filter.mp (List.mem_of_getLast? h)).1
  unfold siblings at hb
  split at hb
  · cases hb
  · next e he =>
      obtain ⟨e', he', hparent⟩ := mem_numbers_iff.mp hb
      rw [parent?, parent?, he, he']
      exact ⟨(List.getElem?_eq_some_iff.mp he').1, (eq_of_beq hparent).symm⟩

end Sketch

/-! ## Pages and sketches -/

namespace Host

/-- What neighbours are: elements below the same node. Between elements, going forth and going back
undo each other, and a filter lets the neighbour through or nothing. -/
structure HasNeighbours {H : Type} [Host H] (h : H) (IsElement : NodeId → Prop)
    (parent? : NodeId → Option NodeId) : Prop where
  element : ∀ a b, next? h a = some b ∨ previous? h a = some b → IsElement b
  parent : ∀ a b, next? h a = some b ∨ previous? h a = some b → parent? a = parent? b
  inverse : ∀ a b, IsElement a → IsElement b → (next? h a = some b ↔ previous? h b = some a)
  nextSibling : ∀ a b filter, nextSibling? h a filter = some b ↔
    next? h a = some b ∧ ∀ selector ∈ filter, isMatch h b selector
  previousSibling : ∀ a b filter, previousSibling? h a filter = some b ↔
    previous? h a = some b ∧ ∀ selector ∈ filter, isMatch h b selector

/-- It is enough that every element stands in a row. -/
theorem hasNeighbours_of_rows {H : Type} [Host H] {h : H} {IsElement : NodeId → Prop}
    {parent? : NodeId → Option NodeId}
    (helement : ∀ a b, next? h a = some b ∨ previous? h a = some b → IsElement b)
    (hparent : ∀ a b, next? h a = some b ∨ previous? h a = some b → parent? a = parent? b)
    (hrows : ∀ n, IsElement n → ∃ row, n ∈ row ∧ GoesAlong h row) :
    HasNeighbours h IsElement parent? where
  element := helement
  parent := hparent
  inverse a b ha hb := by
    obtain ⟨row, hmem, hrow⟩ := hrows a ha
    obtain ⟨row', hmem', hrow'⟩ := hrows b hb
    exact next?_eq_some_iff hrow hrow' hmem hmem'
  nextSibling _ _ _ := nextSibling?_eq_some_iff
  previousSibling _ _ _ := previousSibling?_eq_some_iff

theorem hasNeighbours_page (p : Page) :
    HasNeighbours p p.document.HasElement p.document.links.parent? :=
  hasNeighbours_of_rows (fun _ _ => Document.hasElement_of_neighbour)
    (fun _ _ => Document.parent?_eq_of_neighbour) (Document.exists_goesAlong rfl)

theorem hasNeighbours_sketch (s : Sketch) :
    HasNeighbours s (· < s.elements.length) s.parent? :=
  hasNeighbours_of_rows (fun _ _ hb => (Sketch.parent?_eq_of_neighbour hb).1)
    (fun _ _ hb => (Sketch.parent?_eq_of_neighbour hb).2) fun _ => Sketch.exists_goesAlong

/-- **Neighbours on a page and in a sketch.** Whatever is done to the document of a page, and
whatever the sketch, neighbours are elements below the same node, the next element undoes the
previous one, and a filter never looks further. The elements right below a node are gone along in
order: what is next to the one at a position is at the position behind, and nothing is next to the
last. On a page these are the children of the node but for what is no element; such children have
the nearest elements on both sides as neighbours. What is below no node, as it has been taken out,
has none. In a sketch the elements of one parent are gone along in the order of their numbers, those
without a parent as well. -/
theorem neighbours_of_run (markup : String) (ops : List Document.Op) (loader : Loader)
    (location : Option String) (requested : List String) (s : Sketch) :
    let d := (Document.parse markup).run ops
    let l := (Document.parse markup).links.run ops
    let p : Page := { document := d, loader, location, requested }
    HasNeighbours p d.HasElement l.parent? ∧
    (∀ q, d.elementChildren q = (l.children q).filter d.isElementAt ∧
      GoesAlong p (d.elementChildren q)) ∧
    (∀ q front n back, l.children q = front ++ n :: back →
      next? p n = back.find? d.isElementAt ∧ previous? p n = front.reverse.find? d.isElementAt) ∧
    (∀ n, l.parent? n = none → next? p n = none ∧ previous? p n = none) ∧
    HasNeighbours s (· < s.elements.length) s.parent? ∧
    ∀ q, GoesAlong s (s.numbers (·.parent == q)) := by
  intro d l p
  have hlinks : d.links = l := Document.links_run (Document.parse markup) ops
  rw [← hlinks]
  exact ⟨hasNeighbours_page p,
    fun q => ⟨d.elementChildren_eq_filter q, Document.goesAlong_elementChildren rfl q⟩,
    fun _ _ _ _ => Document.neighbours_of_children_eq,
    fun _ => Document.neighbours_of_parent?_eq_none, hasNeighbours_sketch s, s.goesAlong_numbers⟩

/-- Two items of a list with a text and a comment in between, and two elements of a sketch. -/
theorem neighbours_of_list :
    let p := Page.parse "<ul>a<li></li>b<!--c--><li></li></ul>"
    let s := (Sketch.empty.add "p").add "p"
    (p.document.HasElement 6 ∧ p.document.HasElement 9 ∧ next? p 6 = some 9 ∧
      previous? p 9 = some 6 ∧ previousSibling? p 9 (some "ul") = none) ∧
    (0 < s.elements.length ∧ 1 < s.elements.length ∧ next? s 0 = some 1 ∧
      previous? s 1 = some 0) := by
  intro p s
  obtain ⟨hpage, -, -, -, hsketch, -⟩ := neighbours_of_run "<ul>a<li></li>b<!--c--><li></li></ul>" []
    Loader.empty none [] s
  have hfirst : (p.document.element? 6).isSome := by decide +kernel
  have hsecond : (p.document.element? 9).isSome := by decide +kernel
  have hnext : next? p 6 = some 9 := by decide +kernel
  have hprevious : previous? p 9 = some 6 := (hpage.inverse 6 9 hfirst hsecond).mp hnext
  have hfilter : previousSibling? p 9 (some "ul") = none := by
    refine Option.eq_none_iff_forall_ne_some.mpr fun b hb => ?_
    obtain ⟨hb, hmatch⟩ := (hpage.previousSibling 9 b (some "ul")).mp hb
    obtain rfl := Option.some.inj (hprevious.symm.trans hb)
    exact absurd (hmatch "ul" rfl) (by decide +kernel)
  have hzero : 0 < s.elements.length := by decide
  have hone : 1 < s.elements.length := by decide
  have hforth : next? s 0 = some 1 := by decide
  exact ⟨⟨hfirst, hsecond, hnext, hprevious, hfilter⟩, hzero, hone, hforth,
    (hsketch.inverse 0 1 hzero hone).mp hforth⟩

end Host

end PageDirectives
