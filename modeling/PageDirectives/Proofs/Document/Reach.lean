import PageDirectives.Engine.Basic
import PageDirectives.Proofs.Document.Ancestry
import PageDirectives.Proofs.Document.Run
import PageDirectives.Proofs.Host.Pages

set_option autoImplicit false

/-! # The links of a document that is changed

The operations on a document, done on its tables without any check (`Links.perform`): children are
taken from their parent one by one, and the nodes of a fragment are appended one by one, wherever
they stood before. The tables are at all times those of a document, hence of a forest
(`Document.links_of_run`): no operation ever puts a node at or below itself, as it only moves nodes
that it has made, and none that was there before comes to stand below them.
-/

namespace PageDirectives

/-- On a lawful page an event takes a way that ends and passes no node twice. -/
theorem Engine.exists_lineage_of_fire {H : Type} [Host H] [LawfulHost H] (e : Engine H)
    (node : NodeId) (event : String) :
    ∃ path, Host.IsLineage e.host node path ∧ path.Nodup ∧
      e.fire node event = e.visitAll event path :=
  ⟨Host.lineage e.host node, Host.isLineage_lineage e.host node, Host.nodup_lineage e.host node, rfl⟩

namespace Links

def detachAll (l : Links) (ns : List NodeId) : Links := ns.foldl detach l

def appendAll (l : Links) (target : NodeId) (ns : List NodeId) : Links :=
  ns.foldl (fun l n => l.append target n) l

def appendHtml (l : Links) (target : NodeId) (markup : String) : Links :=
  if target < l.size then
    let fragment := Document.parseFragment markup
    (l.absorb fragment.links).appendAll target (fragment.outermost.map (l.size + ·))
  else l

/-- An operation, done on the tables. -/
def perform (l : Links) : Document.Op → Links
  | .update _ _ => l
  | .replaceChildren target markup =>
    if target < l.size then (l.detachAll (l.children target)).appendHtml target markup else l
  | .appendHtml target markup => l.appendHtml target markup
  | .appendElement target _ _ =>
    if target < l.size then l.create.append target l.size else l

def run (l : Links) (ops : List Document.Op) : Links := ops.foldl perform l

end Links

namespace Document

/-! ## What was there stays above what is new -/

/-- The parents of the nodes below `bound` are below `bound`. -/
def ClosedBelow (d : Document) (bound : Nat) : Prop :=
  ∀ n p, n < bound → d.links.Under n p → p < bound

theorem closedBelow_size (d : Document) : d.ClosedBelow d.size := by
  intro n p _ h
  obtain ⟨-, c, -, -, hc⟩ := under_iff.mp h
  exact exists_cursor?_iff.mp ⟨c, hc⟩

namespace ClosedBelow

variable {d : Document} {bound : Nat}

/-- Going up from an old node leads to old nodes only. -/
theorem lt_of_reflTransGen (h : d.ClosedBelow bound) {n p : NodeId} (hn : n < bound)
    (hup : Relation.ReflTransGen d.links.Under n p) : p < bound := by
  induction hup with
  | refl => exact hn
  | tail _ hstep ih => exact h _ _ ih hstep

/-- A new node can be appended to an old one. -/
theorem links_move (h : d.ClosedBelow bound) {n target : NodeId} (htarget : target < bound)
    (hn : bound ≤ n) (hsize : n < d.size) :
    (d.move n target).links = d.links.append target n := by
  have hpos : n ≠ 0 :=
    Nat.ne_of_gt (Nat.lt_of_lt_of_le (Nat.lt_of_le_of_lt (Nat.zero_le target) htarget) hn)
  have hlt : target < d.size := Nat.lt_trans (Nat.lt_of_lt_of_le htarget hn) hsize
  refine Document.links_move hpos hsize hlt fun hup => ?_
  exact absurd (h.lt_of_reflTransGen htarget hup) (Nat.not_lt.mpr hn)

theorem move (h : d.ClosedBelow bound) {n target : NodeId} (htarget : target < bound)
    (hn : bound ≤ n) (hsize : n < d.size) : (d.move n target).ClosedBelow bound := by
  intro m p hm hup
  have hne : m ≠ n := Nat.ne_of_lt (Nat.lt_of_lt_of_le hm hn)
  rw [Links.Under, h.links_move htarget hn hsize] at hup
  -- only the parent of the new node has changed
  simp only [Links.append, Links.detach, hne, if_false] at hup
  exact h m p hm hup

theorem links_moveAll {target : NodeId} (htarget : target < bound) {ns : List NodeId} :
    ∀ {d : Document}, d.ClosedBelow bound → (∀ n ∈ ns, bound ≤ n ∧ n < d.size) →
      (d.moveAll target ns).links = d.links.appendAll target ns := by
  induction ns with
  | nil => exact fun _ _ => rfl
  | cons n ns ih =>
      intro d h hns
      obtain ⟨hn, hsize⟩ := hns n List.mem_cons_self
      have hrest : ∀ m ∈ ns, bound ≤ m ∧ m < (d.move n target).size := by
        intro m hm
        rw [size_move]
        exact hns m (List.mem_cons_of_mem _ hm)
      rw [moveAll_cons, ih (h.move htarget hn hsize) hrest, h.links_move htarget hn hsize]
      rfl

theorem create (h : d.ClosedBelow bound) (c : Content) : (d.create c).1.ClosedBelow bound := by
  intro n p hn hup
  rw [Links.Under, links_create] at hup
  exact h n p hn hup

end ClosedBelow

theorem closedBelow_absorb (d e : Document) : (d.absorb e).ClosedBelow d.size := by
  intro n p hn hup
  have hlt : n < d.links.size := hn
  rw [Links.Under, links_absorb] at hup
  simp only [Links.absorb, hlt, if_true] at hup
  exact d.closedBelow_size n p hn hup

/-! ## Operations -/

theorem links_detachAll (d : Document) (ns : List Node) :
    (d.detachAll ns).links = d.links.detachAll (ns.map Node.id) := by
  induction ns generalizing d with
  | nil => rfl
  | cons n ns ih =>
      show ((d.detach n.id).detachAll ns).links = (d.links.detach n.id).detachAll (ns.map Node.id)
      rw [ih, links_detach]

theorem lt_size_of_mem_outermost {fragment : Document} {n : NodeId}
    (hn : n ∈ fragment.outermost) : n < fragment.size := by
  unfold outermost at hn
  cases hwrapper : (fragment.children 0).find? (·.content.isElement) with
  | none =>
      rw [hwrapper] at hn
      cases hn
  | some w =>
      rw [hwrapper] at hn
      have hchild : n ∈ fragment.links.children w.id := hn
      exact lt_size_of_under (mem_children_iff.mp hchild)

theorem links_appendHtml (d : Document) (n : NodeId) (markup : String) :
    (d.appendHtml n markup).links = d.links.appendHtml n markup := by
  rw [appendHtml_eq, Links.appendHtml]
  show _ = if n < d.size then _ else _
  split
  · next hn =>
      have hnew : ∀ m ∈ (parseFragment markup).outermost.map (d.size + ·),
          d.size ≤ m ∧ m < (d.absorb (parseFragment markup)).size := by
        intro m hm
        obtain ⟨k, hk, rfl⟩ := List.mem_map.mp hm
        exact ⟨Nat.le_add_right _ _, Nat.add_lt_add_left (lt_size_of_mem_outermost hk) _⟩
      rw [ClosedBelow.links_moveAll hn (closedBelow_absorb _ _) hnew, links_absorb]
      rfl
  · rfl

/-- **One operation** does to the tables of a document what it says. -/
theorem links_perform (d : Document) (op : Op) : (d.perform op).links = d.links.perform op := by
  cases op with
  | update n f => exact links_edit _ _ _
  | replaceChildren n markup =>
      rw [perform, replaceChildren_eq, Links.perform]
      show _ = if n < d.size then _ else _
      split
      · rw [links_appendHtml, links_detachAll]
        rfl
      · rfl
  | appendHtml n markup => exact links_appendHtml d n markup
  | appendElement n name a =>
      rw [perform, appendElement_eq, Links.perform]
      show _ = if n < d.size then _ else _
      split
      · next hn =>
          have hclosed := d.closedBelow_size.create
            (.element (Element.withAttributes ⟨{ name }, []⟩ a))
          rw [hclosed.links_move hn (Nat.le_refl _) (Nat.lt_succ_self _), links_create]
          rfl
      · rfl

theorem links_run (d : Document) (ops : List Op) : (d.run ops).links = d.links.run ops := by
  induction ops generalizing d with
  | nil => rfl
  | cons op ops ih =>
      rw [run_cons, ih, links_perform]
      rfl

/-- **A document is a forest, whatever is done to it.** The tables, changed without any check, are
those of the document: they agree on who is below whom, no node is twice among the children of
nodes, and going up never leads back. So what is attached can be found by going up as well as by
going down, the descendants of a node are the elements from which going up leads to it, and on
every page and in every sketch the way of an event ends and passes no element twice. -/
theorem links_of_run (markup : String) (ops : List Op) :
    let d := (parse markup).run ops
    let l := (parse markup).links.run ops
    d.links = l ∧
    (∀ n p, n ∈ l.children p ↔ l.parent? n = some p) ∧
    ((List.range l.size).flatMap l.children).Nodup ∧
    (∀ n, ¬ Relation.TransGen l.Under n n) ∧
    (∀ n, d.isAttached n ↔ n ∈ d.attached.map Cursor.id) ∧
    (∀ n, d.isAttached n ↔ n < d.size ∧ Relation.ReflTransGen l.Under n root) ∧
    (∀ n m, m ∈ d.descendants n ↔ (d.element? m).isSome ∧ Relation.TransGen l.Under m n) ∧
    (∀ n, (d.descendants n).Nodup) ∧
    (∀ (e : Engine Page) (node : NodeId) (event : String), ∃ path,
      Host.IsLineage e.host node path ∧ path.Nodup ∧ e.fire node event = e.visitAll event path) ∧
    ∀ (e : Engine Sketch) (node : NodeId) (event : String), ∃ path,
      Host.IsLineage e.host node path ∧ path.Nodup ∧ e.fire node event = e.visitAll event path := by
  intro d l
  have hlinks : d.links = l := links_run (parse markup) ops
  rw [← hlinks]
  refine ⟨rfl, fun n p => mem_children_iff, d.nodup_flatMap_children, not_transGen_under_self,
    fun n => ?_, fun n => isAttached_iff, fun n m => mem_descendants_iff, d.nodup_descendants,
    Engine.exists_lineage_of_fire, Engine.exists_lineage_of_fire⟩
  rw [isAttached_iff, mem_attached_iff]

end Document

end PageDirectives
