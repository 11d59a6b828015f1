import PageDirectives.Proofs.Document.Reach

set_option autoImplicit false

/-! # Documents with nodes filled anew

The content of nodes is replaced by the same markup, for one node after the other
(`Document.fillAll`). Each of them gets a copy of the fragment of its own, with numbers that were not
in use before (`Document.HoldsCopy`), and its former children lose their parent and nothing else.
Replacing the content of one node does that (`Document.filled_replaceChildren`), and replacing
the content of another one after it leaves it so (`Document.Filled.cons`), also if the other one is
below a former child of the first.
-/

namespace PageDirectives

namespace Row

variable {α : Type}

theorem cut_false (r : Row α) : r.cut (fun _ => false) = r := by
  simp [cut]

theorem cut_cut (p q : α → Bool) (r : Row α) : (r.cut p).cut q = r.cut fun a => p a || q a := by
  by_cases hp : p r.label <;> simp [cut, hp, List.filter_filter, Bool.and_comm]

variable [DecidableEq α]

/-- The row once nodes are taken from their parents and put under another node. -/
def gather (ns : List α) (target : α) (r : Row α) : Row α where
  label := r.label
  parent := if r.label ∈ ns then some target else r.parent
  children := r.children.filter (· ∉ ns) ++ if r.label = target then ns else []

theorem gather_nil (target : α) (r : Row α) : r.gather [] target = r := by
  simp [gather]

/-- Putting one node under another one. -/
theorem put_adopt_cut (n target : α) (r : Row α) :
    ((r.cut (· == n)).adopt (· == n) target).put (· == target) [n] = r.gather [n] target := by
  obtain ⟨label, parent, children⟩ := r
  have hkept : children.filter (fun a => !(a == n)) = children.filter (· ∉ [n]) :=
    List.filter_congr fun a _ => by simp [beq_eq_decide]
  rw [gather, mk.injEq]
  refine ⟨rfl, ?_, ?_⟩
  · by_cases hlabel : label = n <;> simp [cut, adopt, put, hlabel]
  · by_cases hlabel : label = target <;> simp [cut, adopt, put, hlabel, hkept]

/-- Nodes can be put under another node one by one. -/
theorem gather_cons {n : α} {ns : List α} (hn : n ∉ ns) (target : α) (r : Row α) :
    (r.gather [n] target).gather ns target = r.gather (n :: ns) target := by
  have hkept : (r.children.filter (· ∉ [n])).filter (· ∉ ns)
      = r.children.filter (· ∉ n :: ns) := by
    rw [List.filter_filter]
    refine List.filter_congr fun a _ => ?_
    simp [Bool.and_comm]
  -- the one put first is not taken away again
  have hput : (if r.label = target then [n] else []).filter (· ∉ ns)
      = if r.label = target then [n] else [] := by
    split <;> simp [hn]
  rw [gather, gather, gather, mk.injEq]
  refine ⟨rfl, ?_, ?_⟩
  · by_cases hmem : r.label ∈ ns <;> simp [hmem]
  · rw [List.filter_append, hkept, hput, List.append_assoc]
    split <;> rfl

end Row

namespace Document

/-- Replaces the children of nodes by markup, for one node after the other. -/
def fillAll (d : Document) (markup : String) (targets : List NodeId) : Document :=
  targets.foldl (fun d t => d.replaceChildren t markup) d

/-- A copy of a fragment below a node: the nodes of the fragment have their numbers shifted, and the
outermost of them are the children of the node. -/
structure HoldsCopy (d : Document) (target : NodeId) (fragment : Document) (offset : Nat) : Prop where
  children_eq : d.links.children target = fragment.outermost.map (offset + ·)
  content?_add : ∀ i < fragment.size, d.content? (offset + i) = fragment.content? i
  parent?_add : ∀ i < fragment.size, d.links.parent? (offset + i) =
    if i ∈ fragment.outermost then some target else (fragment.links.parent? i).map (offset + ·)
  children_add : ∀ i < fragment.size, d.links.children (offset + i)
    = ((fragment.links.children i).filter (· ∉ fragment.outermost)).map (offset + ·)

/-- What has become of a document in which the content of nodes was replaced by a fragment. -/
structure Filled (d d' : Document) (targets : List NodeId) (fragment : Document) : Prop where
  size_eq : d'.size = d.size + targets.length * fragment.size
  content?_eq : ∀ n < d.size, d'.content? n = d.content? n
  /-- Only the former children of the nodes lose their parent. -/
  parent?_eq : ∀ n < d.size, d'.links.parent? n = (d.links.parent? n).filter (· ∉ targets)
  children_eq : ∀ n < d.size, n ∉ targets → d'.links.children n = d.links.children n
  copied : ∀ j t, targets[j]? = some t → d'.HoldsCopy t fragment (d.size + j * fragment.size)

/-! ## Rows -/

theorem row_detachAll (d : Document) (ns : List Node) (m : NodeId) :
    (d.detachAll ns).links.row m = (d.links.row m).cut ((ns.map Node.id).contains ·) := by
  induction ns generalizing d with
  | nil => exact (Row.cut_false _).symm
  | cons n ns ih =>
      show ((d.detach n.id).detachAll ns).links.row m = _
      rw [ih, links_detach, row_detach, Row.cut_cut]
      rfl

theorem row_append_eq_gather {d : Document} (target n m : NodeId) :
    (d.links.append target n).row m = (d.links.row m).gather [n] target :=
  (row_append target n m).trans (Row.put_adopt_cut n target _)

theorem ClosedBelow.row_moveAll {bound : Nat} {target : NodeId} (htarget : target < bound)
    {ns : List NodeId} (m : NodeId) :
    ∀ {d : Document}, d.ClosedBelow bound → (∀ n ∈ ns, bound ≤ n ∧ n < d.size) → ns.Nodup →
      (d.moveAll target ns).links.row m = (d.links.row m).gather ns target := by
  induction ns with
  | nil => exact fun _ _ _ => (Row.gather_nil target _).symm
  | cons n ns ih =>
      intro d h hns hnodup
      obtain ⟨hn, hsize⟩ := hns n List.mem_cons_self
      have hrest : ∀ m ∈ ns, bound ≤ m ∧ m < (d.move n target).size := by
        intro m hm
        rw [size_move]
        exact hns m (List.mem_cons_of_mem _ hm)
      obtain ⟨hnotMem, hnodup⟩ := List.nodup_cons.mp hnodup
      rw [moveAll_cons, ih (h.move htarget hn hsize) hrest hnodup, h.links_move htarget hn hsize,
        row_append_eq_gather, Row.gather_cons hnotMem]

/-- Taking all children of a node away. -/
theorem row_detachAll_children (d : Document) (t m : NodeId) :
    (d.detachAll (d.children t)).links.row m
      = ⟨m, (d.links.parent? m).filter (· ≠ t), if m = t then [] else d.links.children m⟩ := by
  have hparent : (if (d.links.children t).contains m then none else d.links.parent? m)
      = (d.links.parent? m).filter (· ≠ t) := by
    have hchild : (d.links.children t).contains m ↔ d.links.parent? m = some t := by
      rw [List.contains_iff_mem]
      exact mem_children_iff
    simp only [hchild]
    cases d.links.parent? m with
    | none => rfl
    | some p => by_cases hp : p = t <;> simp [Option.filter, hp]
  have hchildren : (d.links.children m).filter (fun a => !(d.links.children t).contains a)
      = if m = t then [] else d.links.children m := by
    split
    · next hm => simp [hm]
    · next hm =>
        refine List.filter_eq_self.mpr fun a ha => ?_
        -- a node has one parent only
        have hnot : a ∉ d.links.children t := fun ha' =>
          hm (Option.some.inj ((mem_children_iff.mp ha).symm.trans (mem_children_iff.mp ha')))
        simpa using hnot
  rw [row_detachAll, Row.cut, Row.mk.injEq]
  exact ⟨rfl, hparent, hchildren⟩

variable {d : Document} {t : NodeId} (markup : String)

theorem nodup_outermost (fragment : Document) : fragment.outermost.Nodup := by
  rw [outermost]
  cases (fragment.children 0).find? (·.content.isElement) with
  | none => exact List.nodup_nil
  | some w => exact fragment.nodup_children w.id

theorem row_appendHtml (ht : t < d.size) (m : NodeId) :
    (d.appendHtml t markup).links.row m
      = ((d.absorb (parseFragment markup)).links.row m).gather
          ((parseFragment markup).outermost.map (d.size + ·)) t := by
  have hnew : ∀ n ∈ (parseFragment markup).outermost.map (d.size + ·),
      d.size ≤ n ∧ n < (d.absorb (parseFragment markup)).size := by
    intro n hn
    obtain ⟨k, hk, rfl⟩ := List.mem_map.mp hn
    exact ⟨Nat.le_add_right _ _, Nat.add_lt_add_left (lt_size_of_mem_outermost hk) _⟩
  have hnodup : ((parseFragment markup).outermost.map (d.size + ·)).Nodup :=
    (nodup_outermost _).map fun a b => Nat.add_left_cancel
  rw [appendHtml_eq, if_pos ht]
  exact (closedBelow_absorb _ _).row_moveAll ht m hnew hnodup

/-- A node that was there keeps its parent, and gets children only if it is the target. -/
theorem row_appendHtml_of_lt (ht : t < d.size) {m : NodeId} (hm : m < d.size) :
    (d.appendHtml t markup).links.row m = ⟨m, d.links.parent? m, d.links.children m ++
      if m = t then (parseFragment markup).outermost.map (d.size + ·) else []⟩ := by
  have hold (n : NodeId) (hn : n < d.size) :
      n ∉ (parseFragment markup).outermost.map (d.size + ·) := by
    intro hmem
    obtain ⟨k, -, hk⟩ := List.mem_map.mp hmem
    exact absurd hn (Nat.not_lt.mpr (hk ▸ Nat.le_add_right _ _))
  have hkept : (d.links.children m).filter
      (· ∉ (parseFragment markup).outermost.map (d.size + ·)) = d.links.children m :=
    List.filter_eq_self.mpr fun a ha =>
      decide_eq_true (hold a (lt_size_of_under (mem_children_iff.mp ha)))
  rw [row_appendHtml markup ht, links_absorb, row_absorb, if_pos hm, Row.gather, Row.mk.injEq]
  exact ⟨rfl, if_neg (hold m hm), congrArg (· ++ _) hkept⟩

/-- A new node has the links that it has in the fragment, but that the outermost ones have been put
under the target. -/
theorem row_appendHtml_add (ht : t < d.size) (i : Nat) :
    (d.appendHtml t markup).links.row (d.size + i) = ⟨d.size + i,
      if i ∈ (parseFragment markup).outermost then some t
        else ((parseFragment markup).links.parent? i).map (d.size + ·),
      (((parseFragment markup).links.children i).filter (· ∉ (parseFragment markup).outermost)).map
        (d.size + ·)⟩ := by
  have hmem (k : NodeId) : d.size + k ∈ (parseFragment markup).outermost.map (d.size + ·) ↔
      k ∈ (parseFragment markup).outermost :=
    List.mem_map_of_injective fun a b => Nat.add_left_cancel
  have hne : d.size + i ≠ t := Nat.ne_of_gt (Nat.lt_of_lt_of_le ht (Nat.le_add_right _ _))
  rw [row_appendHtml markup ht, links_absorb, row_absorb,
    if_neg (Nat.not_lt.mpr (Nat.le_add_right _ _)), Nat.add_sub_cancel_left]
  simp only [Row.map, Links.row, Row.gather, hmem, hne, if_false, List.append_nil, List.filter_map,
    Function.comp_def]

theorem row_replaceChildren_of_lt (ht : t < d.size) {m : NodeId} (hm : m < d.size) :
    (d.replaceChildren t markup).links.row m = ⟨m, (d.links.parent? m).filter (· ≠ t),
      if m = t then (parseFragment markup).outermost.map (d.size + ·) else d.links.children m⟩ := by
  have hsize := d.size_detachAll (d.children t)
  have happend := row_appendHtml_of_lt markup (hsize.symm ▸ ht) (hsize.symm ▸ hm)
  have hdetach := d.row_detachAll_children t m
  rw [replaceChildren_eq, if_pos ht, happend, hsize]
  rw [Links.row, Row.mk.injEq] at hdetach
  obtain ⟨-, hparent, hchildren⟩ := hdetach
  rw [hparent, hchildren]
  by_cases hmt : m = t <;> simp [hmt]

theorem row_replaceChildren_add (ht : t < d.size) (i : Nat) :
    (d.replaceChildren t markup).links.row (d.size + i) = ⟨d.size + i,
      if i ∈ (parseFragment markup).outermost then some t
        else ((parseFragment markup).links.parent? i).map (d.size + ·),
      (((parseFragment markup).links.children i).filter (· ∉ (parseFragment markup).outermost)).map
        (d.size + ·)⟩ := by
  have hsize := d.size_detachAll (d.children t)
  have happend := row_appendHtml_add markup (hsize.symm ▸ ht) i
  rw [hsize] at happend
  rw [replaceChildren_eq, if_pos ht, happend]

theorem size_replaceChildren (ht : t < d.size) :
    (d.replaceChildren t markup).size = d.size + (parseFragment markup).size := by
  have hsize := d.size_perform (.replaceChildren t markup)
  rwa [growth, if_pos ht] at hsize

theorem content?_replaceChildren_of_lt {m : NodeId} (hm : m < d.size) :
    (d.replaceChildren t markup).content? m = d.content? m := by
  rw [replaceChildren_eq]
  split
  · rw [content?_appendHtml_of_lt t markup (by rwa [size_detachAll]), content?_detachAll]
  · rfl

/-! ## Filling nodes -/

theorem filled_nil (d fragment : Document) : Filled d d [] fragment where
  size_eq := by simp
  content?_eq _ _ := rfl
  parent?_eq n _ := by cases d.links.parent? n <;> simp [Option.filter]
  children_eq _ _ _ := rfl
  copied j t hj := by simp at hj

/-- **Replacing the content of one node** fills it and changes nothing else, but that its former
children have no parent any more. -/
theorem filled_replaceChildren (ht : t < d.size) :
    Filled d (d.replaceChildren t markup) [t] (parseFragment markup) where
  size_eq := by simpa using size_replaceChildren markup ht
  content?_eq n hn := content?_replaceChildren_of_lt markup hn
  parent?_eq n hn := by
    simp only [List.mem_singleton]
    exact congrArg Row.parent (row_replaceChildren_of_lt markup ht hn)
  children_eq n hn hnt := by
    have hne : n ≠ t := fun h => hnt (List.mem_singleton.mpr h)
    have hrow := congrArg Row.children (row_replaceChildren_of_lt markup ht hn)
    exact hrow.trans (if_neg hne)
  copied j s hj := by
    obtain ⟨hlt, rfl⟩ := List.getElem?_eq_some_iff.mp hj
    obtain rfl : j = 0 := Nat.lt_one_iff.mp hlt
    rw [List.getElem_singleton, Nat.zero_mul, Nat.add_zero]
    refine { children_eq := ?_, content?_add := ?_, parent?_add := ?_, children_add := ?_ }
    · have hrow := congrArg Row.children (row_replaceChildren_of_lt markup ht ht)
      exact hrow.trans (if_pos rfl)
    · intro i _
      have hmade := d.content?_perform_add (.replaceChildren t markup) i
      rwa [made, if_pos ht] at hmade
    · exact fun i _ => congrArg Row.parent (row_replaceChildren_add markup ht i)
    · exact fun i _ => congrArg Row.children (row_replaceChildren_add markup ht i)

section Filled

variable {d d' d'' : Document} {t : NodeId} {ts : List NodeId} {fragment : Document}

/-- A copy stays where it is when nodes are filled that were there before it. -/
theorem HoldsCopy.of_filled {offset : Nat} (hcopy : d'.HoldsCopy t fragment offset)
    (h : Filled d' d'' ts fragment) (ht : t ∉ ts) (htlt : t < d'.size)
    (hfit : offset + fragment.size ≤ d'.size) (hts : ∀ s ∈ ts, s < offset) :
    d''.HoldsCopy t fragment offset := by
  have hnew (i : Nat) : offset + i ∉ ts :=
    fun hmem => absurd (hts _ hmem) (Nat.not_lt.mpr (Nat.le_add_right _ _))
  have hlt (i : Nat) (hi : i < fragment.size) : offset + i < d'.size :=
    Nat.lt_of_lt_of_le (Nat.add_lt_add_left hi _) hfit
  refine { children_eq := ?_, content?_add := ?_, parent?_add := ?_, children_add := ?_ }
  · rw [h.children_eq t htlt ht, hcopy.children_eq]
  · intro i hi
    rw [h.content?_eq _ (hlt i hi), hcopy.content?_add i hi]
  · intro i hi
    rw [h.parent?_eq _ (hlt i hi), hcopy.parent?_add i hi]
    split
    · simp [Option.filter, ht]
    · cases fragment.links.parent? i with
      | none => rfl
      | some p => simp [Option.filter, hnew p]
  · intro i hi
    rw [h.children_eq _ (hlt i hi) (hnew i), hcopy.children_add i hi]

/-- **Filling more nodes** leaves a node that is filled as it is. -/
theorem Filled.cons (h : Filled d d' [t] fragment) (h' : Filled d' d'' ts fragment) (ht : t ∉ ts)
    (hlt : t < d.size) (hts : ∀ s ∈ ts, s < d.size) : Filled d d'' (t :: ts) fragment := by
  have hsize : d'.size = d.size + fragment.size := by simpa using h.size_eq
  have hgrown (n : NodeId) (hn : n < d.size) : n < d'.size := hsize ▸ Nat.lt_add_right _ hn
  refine { size_eq := ?_, content?_eq := ?_, parent?_eq := ?_, children_eq := ?_, copied := ?_ }
  · rw [h'.size_eq, hsize, List.length_cons, Nat.succ_mul, Nat.add_assoc,
      Nat.add_comm fragment.size]
  · intro n hn
    rw [h'.content?_eq n (hgrown n hn), h.content?_eq n hn]
  · intro n hn
    rw [h'.parent?_eq n (hgrown n hn), h.parent?_eq n hn]
    cases d.links.parent? n with
    | none => rfl
    | some p => by_cases hp : p = t <;> simp [Option.filter, hp]
  · intro n hn hnot
    obtain ⟨hnt, hnts⟩ := List.ne_and_not_mem_of_not_mem_cons hnot
    rw [h'.children_eq n (hgrown n hn) hnts, h.children_eq n hn (by simpa using hnt)]
  · intro j s hj
    cases j with
    | zero =>
        obtain rfl : t = s := Option.some.inj hj
        have hcopy := h.copied 0 t rfl
        rw [Nat.zero_mul, Nat.add_zero] at hcopy ⊢
        exact hcopy.of_filled h' ht (hgrown t hlt) (Nat.le_of_eq hsize.symm) hts
    | succ j =>
        have hcopy := h'.copied j s hj
        rwa [hsize, Nat.add_assoc, Nat.add_comm fragment.size, ← Nat.succ_mul] at hcopy

/-- The former children of a node that is filled have no parent any more, and stay what they are. -/
theorem Filled.detached (h : Filled d d' ts fragment) (ht : t ∈ ts) {n : NodeId}
    (hn : n ∈ d.links.children t) :
    d'.links.parent? n = none ∧ d'.content? n = d.content? n := by
  have hup : d.links.parent? n = some t := mem_children_iff.mp hn
  have hlt : n < d.size := lt_size_of_under hup
  refine ⟨?_, h.content?_eq n hlt⟩
  rw [h.parent?_eq n hlt, hup]
  simp [Option.filter, ht]

/-- What is not at or below a node that is filled stays what and where it is. -/
theorem Filled.unchanged (h : Filled d d' ts fragment) {n : NodeId} (hn : n < d.size)
    (hout : ∀ t ∈ ts, ¬ Relation.ReflTransGen d.links.Under n t) :
    d'.content? n = d.content? n ∧ d'.links.row n = d.links.row n := by
  have hparent : d'.links.parent? n = d.links.parent? n := by
    rw [h.parent?_eq n hn]
    cases hup : d.links.parent? n with
    | none => rfl
    | some p =>
        have hp : p ∉ ts := fun hp => hout p hp (.single hup)
        simp [Option.filter, hp]
  have hchildren := h.children_eq n hn fun hmem => hout n hmem .refl
  refine ⟨h.content?_eq n hn, ?_⟩
  rw [Links.row, Links.row, hparent, hchildren]

end Filled

/-- **Nodes are filled one after the other**, whichever of them are below others. -/
theorem filled_fillAll {d : Document} (markup : String) {targets : List NodeId}
    (hnodup : targets.Nodup) (hlt : ∀ t ∈ targets, t < d.size) :
    Filled d (d.fillAll markup targets) targets (parseFragment markup) := by
  induction targets generalizing d with
  | nil => exact filled_nil d _
  | cons t ts ih =>
      obtain ⟨ht, hts⟩ := List.forall_mem_cons.mp hlt
      obtain ⟨hnotMem, hnodup⟩ := List.nodup_cons.mp hnodup
      have hgrown : ∀ s ∈ ts, s < (d.replaceChildren t markup).size := fun s hs => by
        rw [size_replaceChildren markup ht]
        exact Nat.lt_add_right _ (hts s hs)
      exact (filled_replaceChildren markup ht).cons (ih hnodup hgrown) hnotMem ht hts

end Document

end PageDirectives
