import PageDirectives.Proofs.Document.Fill
import PageDirectives.Proofs.Document.Handles

set_option autoImplicit false

/-! # Markup put under a node

The nodes of a fragment are taken over into a document, and the outermost of them are put under a
node, behind those of its children that stay there (`Document.Grafted`). Everything else in the
document is as before: appending markup keeps all children of the node, and replacing its children
takes all of them away first (`Document.grafted_appendHtml`, `Document.grafted_replaceChildren`).

What is left of the fragment is the element around the outermost nodes and the root above it. They
are not attached, and no operation attaches a node that was there before it
(`Document.isAttached_of_run`).
-/

namespace PageDirectives

namespace Document

variable {d d' : Document} {n t : NodeId}

/-! ## Trees -/

/-- The tree that a node is the top of. -/
def tree? (d : Document) (n : NodeId) : Option (Forest Node) :=
  (d.cursor? n).map fun c => .tree c.here.label c.here.children

theorem label_eq_of_content? {c c' : Cursor Node} (hc : c ∈ d.places) (hc' : c' ∈ d'.places)
    (hid : c'.id = c.id) (hcontent : d'.content? c.id = d.content? c.id) :
    c'.here.label = c.here.label := by
  rw [content?_of_mem_places hc, ← hid, content?_of_mem_places hc'] at hcontent
  exact congrArg₂ Node.mk hid (Option.some.inj hcontent)

/-- Trees of two documents are the same if they have the same tops, and if the documents agree on
what the nodes in them are and what their children are. -/
theorem forest_eq_of_agree {above above' : List (Spot Node)} {left left' f f' : Forest Node}
    (hplaces : ∀ c ∈ Forest.placesFrom above left f, c ∈ d.places)
    (hplaces' : ∀ c ∈ Forest.placesFrom above' left' f', c ∈ d'.places)
    (htops : f'.tops.map Node.id = f.tops.map Node.id)
    (hagree : ∀ c ∈ Forest.placesFrom above left f,
      d'.content? c.id = d.content? c.id ∧ d'.links.children c.id = d.links.children c.id) :
    f' = f := by
  induction f generalizing above above' left left' f' with
  | nil =>
      cases f' with
      | nil => rfl
      | node => cases htops
  | node a children rest ihchildren ihrest =>
      cases f' with
      | nil => cases htops
      | node a' children' rest' =>
          obtain ⟨hid, hnext⟩ := List.cons.inj htops
          rw [Forest.placesFrom, List.forall_mem_cons, List.forall_mem_append]
            at hplaces hplaces' hagree
          obtain ⟨hhere, hbelow, hafter⟩ := hplaces
          obtain ⟨hhere', hbelow', hafter'⟩ := hplaces'
          obtain ⟨⟨hcontent, hlist⟩, hagreebelow, hagreeafter⟩ := hagree
          obtain rfl : a' = a := label_eq_of_content? hhere hhere' hid hcontent
          -- the children have the same numbers, as the tables agree
          have hchildren : children'.tops.map Node.id = children.tops.map Node.id :=
            (links_children_of_mem_places hhere').symm.trans
              (hlist.trans (links_children_of_mem_places hhere))
          rw [ihchildren hbelow hbelow' hchildren hagreebelow,
            ihrest hafter hafter' hnext hagreeafter]

/-- **A tree is the same** if each node in it is what it was and has the children that it had. -/
theorem tree?_eq_of_agree (hn : n < d.size) (hn' : n < d'.size)
    (hagree : ∀ m, Relation.ReflTransGen d.links.Under m n →
      d'.content? m = d.content? m ∧ d'.links.children m = d.links.children m) :
    d'.tree? n = d.tree? n := by
  obtain ⟨c, hcursor⟩ := exists_cursor?_iff.mpr hn
  obtain ⟨c', hcursor'⟩ := exists_cursor?_iff.mpr hn'
  obtain ⟨hc, rfl⟩ := cursor?_eq_some_iff.mp hcursor
  obtain ⟨hc', hid⟩ := cursor?_eq_some_iff.mp hcursor'
  obtain ⟨hcontent, hlist⟩ := hagree c.id .refl
  have hlabel : c'.here.label = c.here.label := label_eq_of_content? hc hc' hid hcontent
  have htops : c'.here.children.tops.map Node.id = c.here.children.tops.map Node.id := by
    rw [← links_children_of_mem_places hc, ← links_children_of_mem_places hc', hid, hlist]
  have hchildren : c'.here.children = c.here.children := by
    refine forest_eq_of_agree (fun m hm => Forest.mem_places_of_mem_below hc hm)
      (fun m hm => Forest.mem_places_of_mem_below hc' hm) htops fun m hm => hagree m.id ?_
    exact ((exists_mem_below_iff hc).mp ⟨m, hm, rfl⟩).to_reflTransGen
  rw [tree?, tree?, hcursor, hcursor', Option.map_some, Option.map_some, hlabel, hchildren]

/-! ## Nodes that are not attached -/

/-- No operation puts a node that was there before it under another one. -/
theorem parent?_perform (op : Op) (hn : n < d.size) :
    (d.perform op).links.parent? n = d.links.parent? n ∨
      (d.perform op).links.parent? n = none := by
  cases op with
  | update m f => exact .inl (congrArg (Links.parent? · n) (links_edit d m _))
  | replaceChildren m markup =>
      rw [perform]
      by_cases hm : m < d.size
      · have hrow := congrArg Row.parent (row_replaceChildren_of_lt markup hm hn)
        rw [show (d.replaceChildren m markup).links.parent? n = _ from hrow]
        cases d.links.parent? n with
        | none => exact .inl rfl
        | some p => by_cases hp : p = m <;> simp [Option.filter, hp]
      · rw [replaceChildren_eq, if_neg hm]
        exact .inl rfl
  | appendHtml m markup =>
      rw [perform]
      by_cases hm : m < d.size
      · exact .inl (congrArg Row.parent (row_appendHtml_of_lt markup hm hn))
      · rw [appendHtml_eq, if_neg hm]
        exact .inl rfl
  | appendElement m name a =>
      rw [links_perform, Links.perform]
      split
      · have hne : n ≠ d.links.size := Nat.ne_of_lt hn
        simp [Links.append, Links.detach, Links.create, hne]
      · exact .inl rfl

theorem isAttached_of_perform (op : Op) (hn : n < d.size) (h : (d.perform op).isAttached n) :
    d.isAttached n := by
  obtain ⟨-, hup⟩ := isAttached_iff.mp h
  refine isAttached_iff.mpr ⟨hn, ?_⟩
  clear h
  induction hup using Relation.ReflTransGen.head_induction_on with
  | refl => exact .refl
  | @head a b hstep _ ih =>
      rcases parent?_perform op hn with hsame | hnone
      · have hold : d.links.Under a b := hsame.symm.trans hstep
        exact .head hold (ih (d.closedBelow_size a b hn hold))
      · cases hnone.symm.trans hstep

/-- **A node that is not attached never is again.** -/
theorem isAttached_of_run (ops : List Op) (hn : n < d.size) (h : (d.run ops).isAttached n) :
    d.isAttached n := by
  induction ops generalizing d with
  | nil => exact h
  | cons op ops ih =>
      exact isAttached_of_perform op hn (ih (Nat.lt_of_lt_of_le hn (d.size_le_perform op)) h)

/-! ## Grafting -/

/-- The element around what was read as a fragment. -/
def wrapper? (fragment : Document) : Option NodeId :=
  ((fragment.children root).find? (·.content.isElement)).map Node.id

theorem outermost_eq (fragment : Document) :
    fragment.outermost = (fragment.wrapper?.map fragment.links.children).getD [] := by
  rw [outermost, wrapper?, Option.map_map]
  rfl

theorem under_root_of_wrapper? {fragment : Document} {w : NodeId}
    (hw : fragment.wrapper? = some w) : fragment.links.Under w root := by
  obtain ⟨a, hfind, rfl⟩ := Option.map_eq_some_iff.mp hw
  have hchild : a.id ∈ fragment.links.children root :=
    List.mem_map_of_mem (List.mem_of_find?_eq_some hfind)
  exact mem_children_iff.mp hchild

/-- The outermost nodes of a fragment have been put under a node, behind some of its children, and
the others have been taken away. -/
structure Grafted (d d' : Document) (target : NodeId) (kept : List NodeId) (fragment : Document) :
    Prop where
  size_eq : d'.size = d.size + fragment.size
  children_target : d'.links.children target = kept ++ fragment.outermost.map (d.size + ·)
  children_eq : ∀ n < d.size, n ≠ target → d'.links.children n = d.links.children n
  content?_eq : ∀ n < d.size, d'.content? n = d.content? n
  parent?_eq : ∀ n < d.size, (n ∈ d.links.children target → n ∈ kept) →
    d'.links.parent? n = d.links.parent? n
  parent?_taken : ∀ n ∈ d.links.children target, n ∉ kept → d'.links.parent? n = none
  content?_add : ∀ i < fragment.size, d'.content? (d.size + i) = fragment.content? i
  parent?_add : ∀ i < fragment.size, d'.links.parent? (d.size + i) =
    if i ∈ fragment.outermost then some target else (fragment.links.parent? i).map (d.size + ·)
  children_add : ∀ i < fragment.size, d'.links.children (d.size + i)
    = ((fragment.links.children i).filter (· ∉ fragment.outermost)).map (d.size + ·)

variable (markup : String)

/-- **Appending markup** keeps all children of the node. -/
theorem grafted_appendHtml (ht : t < d.size) :
    Grafted d (d.appendHtml t markup) t (d.links.children t) (parseFragment markup) where
  size_eq := by rw [size_appendHtml, if_pos ht]
  children_target := by
    have hrow := congrArg Row.children (row_appendHtml_of_lt markup ht ht)
    exact hrow.trans (congrArg _ (if_pos rfl))
  children_eq n hn hne := by
    have hrow := congrArg Row.children (row_appendHtml_of_lt markup ht hn)
    rw [if_neg hne, List.append_nil] at hrow
    exact hrow
  content?_eq n hn := content?_appendHtml_of_lt t markup hn
  parent?_eq n hn _ := congrArg Row.parent (row_appendHtml_of_lt markup ht hn)
  parent?_taken n hn hnot := absurd hn hnot
  content?_add i _ := by rw [content?_appendHtml_add, if_pos ht]
  parent?_add i _ := congrArg Row.parent (row_appendHtml_add markup ht i)
  children_add i _ := congrArg Row.children (row_appendHtml_add markup ht i)

/-- **Replacing the children** of a node is appending to the node once they are taken away. -/
theorem grafted_replaceChildren (ht : t < d.size) :
    Grafted d (d.replaceChildren t markup) t [] (parseFragment markup) := by
  have hfilled := filled_replaceChildren markup ht
  have hcopy := hfilled.copied 0 t rfl
  rw [Nat.zero_mul, Nat.add_zero] at hcopy
  refine { size_eq := size_replaceChildren markup ht
           children_target := hcopy.children_eq
           children_eq := fun n hn hne => hfilled.children_eq n hn (by simpa using hne)
           content?_eq := hfilled.content?_eq
           parent?_eq := fun n hn hnot => ?_
           parent?_taken := fun n hn _ => (hfilled.detached (List.mem_singleton_self t) hn).1
           content?_add := hcopy.content?_add
           parent?_add := hcopy.parent?_add
           children_add := hcopy.children_add }
  rw [hfilled.parent?_eq n hn]
  cases hup : d.links.parent? n with
  | none => rfl
  | some p =>
      have hp : p ≠ t := by
        rintro rfl
        cases hnot (mem_children_iff.mpr hup)
      simp [Option.filter, hp]

namespace Grafted

variable {kept : List NodeId} {fragment : Document}

/-- Trees that do not contain the target are as before, wherever they stand now. -/
theorem tree?_eq (h : Grafted d d' t kept fragment) (hn : n < d.size)
    (hout : ¬ Relation.ReflTransGen d.links.Under t n) : d'.tree? n = d.tree? n := by
  have hn' : n < d'.size := h.size_eq ▸ Nat.lt_add_right _ hn
  refine tree?_eq_of_agree hn hn' fun m hm => ?_
  have hmt : m ≠ t := by
    rintro rfl
    exact hout hm
  have hlt : m < d.size := by
    rcases Relation.ReflTransGen.cases_head hm with rfl | ⟨p, hstep, -⟩
    · exact hn
    · exact lt_size_of_under hstep
  exact ⟨h.content?_eq m hlt, h.children_eq m hlt hmt⟩

theorem tree?_child (h : Grafted d d' t kept fragment) (hn : n ∈ d.links.children t) :
    d'.tree? n = d.tree? n := by
  have hup : d.links.Under n t := mem_children_iff.mp hn
  refine h.tree?_eq (lt_size_of_under hup) fun hback => ?_
  exact not_transGen_under_self t (Relation.TransGen.tail' hback hup)

theorem parent?_synthetic (h : Grafted d d' t kept fragment) :
    d'.links.parent? (d.size + root) = none := by
  have hroot : root ∉ fragment.outermost := by
    rw [outermost_eq]
    cases fragment.wrapper? with
    | none => exact List.not_mem_nil
    | some w =>
        intro hmem
        have hup : fragment.links.Under root w := mem_children_iff.mp hmem
        cases fragment.links_parent?_root.symm.trans hup
  rw [h.parent?_add root fragment.size_pos, if_neg hroot, root, fragment.links_parent?_root]
  rfl

theorem parent?_wrapper (h : Grafted d d' t kept fragment) {w : NodeId}
    (hw : fragment.wrapper? = some w) : d'.links.parent? (d.size + w) = some (d.size + root) := by
  have hup : fragment.links.Under w root := under_root_of_wrapper? hw
  have hwrapper : w ∉ fragment.outermost := by
    rw [outermost_eq, hw]
    exact fun hmem => not_transGen_under_self w (.single (mem_children_iff.mp hmem))
  rw [h.parent?_add w (lt_size_of_under hup), if_neg hwrapper,
    show fragment.links.parent? w = some root from hup]
  rfl

/-- **What is left of the fragment** is not attached. -/
theorem not_isAttached (h : Grafted d d' t kept fragment)
    (hn : n = root ∨ fragment.wrapper? = some n) : ¬ d'.isAttached (d.size + n) := by
  have hne (i : NodeId) : d.size + i ≠ root :=
    Nat.ne_of_gt (Nat.lt_of_lt_of_le d.size_pos (Nat.le_add_right _ _))
  have hsynthetic : ¬ Relation.ReflTransGen d'.links.Under (d.size + root) root := by
    intro hup
    rcases Relation.ReflTransGen.cases_head hup with heq | ⟨p, hstep, -⟩
    · exact hne root heq
    · cases h.parent?_synthetic.symm.trans hstep
  intro hattached
  obtain ⟨-, hup⟩ := isAttached_iff.mp hattached
  rcases hn with rfl | hw
  · exact hsynthetic hup
  · rcases Relation.ReflTransGen.cases_head hup with heq | ⟨p, hstep, hrest⟩
    · exact hne n heq
    · obtain rfl := Option.some.inj ((h.parent?_wrapper hw).symm.trans hstep)
      exact hsynthetic hrest

/-- Nor will it ever be. -/
theorem not_isAttached_run (h : Grafted d d' t kept fragment)
    (hn : n = root ∨ fragment.wrapper? = some n) (more : List Op) :
    ¬ (d'.run more).isAttached (d.size + n) := by
  have hlt : n < fragment.size := by
    rcases hn with rfl | hw
    · exact fragment.size_pos
    · exact lt_size_of_under (under_root_of_wrapper? hw)
  have hsize : d.size + n < d'.size := h.size_eq ▸ Nat.add_lt_add_left hlt _
  exact fun hattached => h.not_isAttached hn (isAttached_of_run more hsize hattached)

end Grafted

/-- **What markup does to a document**: whatever has been done to it, appending markup to a node
puts the nodes that were read behind its children, and replacing its children puts them there
alone; the former children have no parent then, and the trees below them are what they were. Every
other node is what it was, where it was, and has the children that it had. The root of the fragment
and the element around its nodes are not attached and never will be. Nothing happens if the number
is not in use. It is the same by handles. -/
theorem graft_of_run (markup : String) (ops : List Op) (t : NodeId) (html : String) :
    let d := (parse markup).run ops
    let fragment := parseFragment html
    let appended := d.appendHtml t html
    let replaced := d.replaceChildren t html
    let c := (Catalog.parse markup).run ops
    (t < d.size →
      Grafted d appended t (d.links.children t) fragment ∧
      Grafted d replaced t [] fragment ∧
      (∀ n ∈ d.links.children t,
        replaced.links.parent? n = none ∧ replaced.tree? n = d.tree? n) ∧
      ∀ n, n = root ∨ fragment.wrapper? = some n → ∀ more,
        ¬ (appended.run more).isAttached (d.size + n) ∧
        ¬ (replaced.run more).isAttached (d.size + n)) ∧
    (d.size ≤ t → appended = d ∧ replaced = d) ∧
    (c.nodes[t]?.isSome ↔ t < d.size) ∧
    (c.perform (.appendHtml t html)).document = appended ∧
    (c.perform (.replaceChildren t html)).document = replaced := by
  intro d fragment appended replaced c
  obtain ⟨hc, hd⟩ : c.Complete ∧ c.document = d := Catalog.complete_run_parse markup ops
  refine ⟨fun ht => ?_, fun ht => ?_, ?_, ?_, ?_⟩
  · have happended : Grafted d appended t (d.links.children t) fragment :=
      grafted_appendHtml html ht
    have hreplaced : Grafted d replaced t [] fragment := grafted_replaceChildren html ht
    refine ⟨happended, hreplaced, fun n hn => ?_, fun n hn more => ?_⟩
    · exact ⟨hreplaced.parent?_taken n hn List.not_mem_nil, hreplaced.tree?_child hn⟩
    · exact ⟨happended.not_isAttached_run hn more, hreplaced.not_isAttached_run hn more⟩
  · have hnot : ¬ t < d.size := Nat.not_lt.mpr ht
    exact ⟨by rw [show appended = _ from appendHtml_eq d t html, if_neg hnot],
      by rw [show replaced = _ from replaceChildren_eq d t html, if_neg hnot]⟩
  · rw [hc.getElem?_nodes, hd]
    split <;> simp [*]
  · rw [(hc.perform _).2, hd]
    rfl
  · rw [(hc.perform _).2, hd]
    rfl

/-- A panel with a paragraph that is given something more, and something else. -/
theorem graft_of_panel :
    let d := (parse "<div id=panel><p>old</p></div>").run [.update 4 (·.addClass "open")]
    let appended := d.appendHtml 4 "<b>new</b>tail"
    let replaced := d.replaceChildren 4 "<b>new</b>tail"
    4 < d.size ∧ appended.links.children 4 = [5, 10, 12] ∧
      replaced.links.children 4 = [10, 12] ∧ replaced.links.parent? 5 = none ∧
      replaced.tree? 5 = d.tree? 5 ∧ ¬ (replaced.perform (.appendHtml 3 "")).isAttached 9 := by
  intro d appended replaced
  obtain ⟨hgraft, -⟩ := graft_of_run "<div id=panel><p>old</p></div>"
    [.update 4 (·.addClass "open")] 4 "<b>new</b>tail"
  have hlt : 4 < d.size := by decide +kernel
  have hold : d.links.children 4 = [5] := by decide +kernel
  have hsize : d.size = 7 := by decide +kernel
  have hnew : (parseFragment "<b>new</b>tail").outermost = [3, 5] := by decide +kernel
  have hwrapper : (parseFragment "<b>new</b>tail").wrapper? = some 2 := by decide +kernel
  obtain ⟨happended, hreplaced, htaken, hleft⟩ := hgraft hlt
  obtain ⟨hparent, htree⟩ := htaken 5 (by rw [hold]; exact List.mem_singleton_self 5)
  refine ⟨hlt, ?_, ?_, hparent, htree, ?_⟩
  · rw [happended.children_target, hold, hnew, hsize]
    rfl
  · rw [hreplaced.children_target, hnew, hsize]
    rfl
  · have hnever := (hleft 2 (Or.inr hwrapper) [.appendHtml 3 ""]).2
    rwa [hsize] at hnever

end Document

end PageDirectives
