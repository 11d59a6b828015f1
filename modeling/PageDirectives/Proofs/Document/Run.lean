import PageDirectives.Markup.Parser
import PageDirectives.Proofs.Document.Links

set_option autoImplicit false

/-! # Runs of operations on a document

A document is changed by four operations (`Document.Op`), with any number in the place of a node;
an operation on a number that is not in use changes nothing. `Document.run` does one after the
other.

No operation gives up a node or makes another one of it: the nodes in use stay in use, and all that
changes of what they are is the attributes of elements (`Document.map_bare_content?_run`). New nodes
get the numbers that follow, in the order in which they are made (`Document.content?_perform_add`).
-/

namespace PageDirectives

/-- What a node is, without its attributes. -/
def Content.bare (c : Content) : Content := c.onElement fun e => { e with attrs := [] }

theorem Content.bare_onElement (f : Element → Element) (hf : ∀ e, (f e).tag = e.tag) (c : Content) :
    (c.onElement f).bare = c.bare := by
  cases c with
  | element e => simp [bare, onElement, hf]
  | _ => rfl

namespace Document

/-- The operations on a document. -/
inductive Op where
  | update (node : NodeId) (change : Attributes → Attributes)
  | replaceChildren (node : NodeId) (markup : String)
  | appendHtml (node : NodeId) (markup : String)
  | appendElement (node : NodeId) (name : String) (attributes : Attributes)

def perform (d : Document) : Op → Document
  | .update node change => d.update node change
  | .replaceChildren node markup => d.replaceChildren node markup
  | .appendHtml node markup => d.appendHtml node markup
  | .appendElement node name attributes => (d.appendElement node name attributes).1

def run (d : Document) (ops : List Op) : Document := ops.foldl perform d

@[simp] theorem run_nil (d : Document) : d.run [] = d := rfl

@[simp] theorem run_cons (d : Document) (op : Op) (ops : List Op) :
    d.run (op :: ops) = (d.perform op).run ops := rfl

/-- The nodes of a fragment that were read at its top: those below the element that is right below
the root. -/
def outermost (fragment : Document) : List NodeId :=
  let wrapper := (fragment.children 0).find? (·.content.isElement)
  (wrapper.map fun w => (fragment.children w.id).map Node.id).getD []

/-! ## What a node is -/

theorem content?_eq_some_iff {d : Document} {n : NodeId} {c : Content} :
    d.content? n = some c ↔ (⟨n, c⟩ : Node) ∈ d.trees.labels := by
  rw [← Forest.map_label_places, List.mem_map, content?, Option.map_eq_some_iff]
  constructor
  · rintro ⟨cursor, hcursor, rfl⟩
    obtain ⟨hmem, rfl⟩ := cursor?_eq_some_iff.mp hcursor
    exact ⟨cursor, hmem, rfl⟩
  · rintro ⟨cursor, hmem, hlabel⟩
    exact ⟨cursor, cursor?_eq_some_iff.mpr ⟨hmem, congrArg Node.id hlabel⟩,
      congrArg Node.content hlabel⟩

theorem isSome_content?_iff {d : Document} {n : NodeId} : (d.content? n).isSome ↔ n < d.size := by
  rw [content?, Option.isSome_map, Option.isSome_iff_exists]
  exact exists_cursor?_iff

theorem isNone_content?_iff {d : Document} {n : NodeId} : (d.content? n).isNone ↔ d.size ≤ n := by
  rw [← Nat.not_lt, ← isSome_content?_iff]
  cases d.content? n <;> simp

theorem content?_eq_none_of_size_le {d : Document} {n : NodeId} (h : d.size ≤ n) :
    d.content? n = none := by
  rw [content?, cursor?_eq_none_of_size_le h]
  rfl

theorem content?_eq_of_labels {d d' : Document} {n n' : NodeId}
    (h : ∀ c, (⟨n', c⟩ : Node) ∈ d'.trees.labels ↔ (⟨n, c⟩ : Node) ∈ d.trees.labels) :
    d'.content? n' = d.content? n := by
  ext c
  rw [content?_eq_some_iff, content?_eq_some_iff]
  exact h c

theorem content?_rearrange (d : Document) {trees : Forest Node}
    (h : trees.labels.Perm d.trees.labels) (rooted : Node.IsRooted trees) (n : NodeId) :
    (d.rearrange trees h rooted).content? n = d.content? n :=
  content?_eq_of_labels fun _ => h.mem_iff

/-! ## Edits -/

@[simp] theorem size_detach (d : Document) (n : NodeId) : (d.detach n).size = d.size := by
  unfold detach
  split
  · rfl
  · split <;> rfl

@[simp] theorem content?_detach (d : Document) (n m : NodeId) :
    (d.detach n).content? m = d.content? m := by
  unfold detach
  split
  · rfl
  · split
    · rfl
    · exact content?_rearrange d _ _ m

@[simp] theorem size_move (d : Document) (n target : NodeId) : (d.move n target).size = d.size := by
  unfold move
  split
  · rfl
  · split
    · rfl
    · split <;> rfl

@[simp] theorem content?_move (d : Document) (n target m : NodeId) :
    (d.move n target).content? m = d.content? m := by
  unfold move
  split
  · rfl
  · split
    · rfl
    · split
      · rfl
      · exact content?_rearrange d _ _ m

theorem moveAll_cons (d : Document) (target n : NodeId) (ns : List NodeId) :
    d.moveAll target (n :: ns) = (d.move n target).moveAll target ns := rfl

@[simp] theorem size_moveAll (d : Document) (target : NodeId) (ns : List NodeId) :
    (d.moveAll target ns).size = d.size := by
  induction ns generalizing d with
  | nil => rfl
  | cons n ns ih => rw [moveAll_cons, ih, size_move]

@[simp] theorem content?_moveAll (d : Document) (target : NodeId) (ns : List NodeId) (m : NodeId) :
    (d.moveAll target ns).content? m = d.content? m := by
  induction ns generalizing d with
  | nil => rfl
  | cons n ns ih => rw [moveAll_cons, ih, content?_move]

/-- Taking all children of a node away. -/
def detachAll (d : Document) (ns : List Node) : Document := ns.foldl (fun d n => d.detach n.id) d

@[simp] theorem size_detachAll (d : Document) (ns : List Node) :
    (d.detachAll ns).size = d.size := by
  induction ns generalizing d with
  | nil => rfl
  | cons n ns ih => exact (ih (d.detach n.id)).trans (d.size_detach n.id)

@[simp] theorem content?_detachAll (d : Document) (ns : List Node) (m : NodeId) :
    (d.detachAll ns).content? m = d.content? m := by
  induction ns generalizing d with
  | nil => rfl
  | cons n ns ih => exact (ih (d.detach n.id)).trans (d.content?_detach n.id m)

theorem content?_create_of_lt {d : Document} {n : NodeId} (c : Content) (hn : n < d.size) :
    (d.create c).1.content? n = d.content? n := by
  refine content?_eq_of_labels fun c' => ?_
  have hne : n ≠ d.size := Nat.ne_of_lt hn
  simp [create, Forest.labels, hne]

theorem content?_create_size (d : Document) (c : Content) :
    (d.create c).1.content? d.size = some c := by
  rw [content?_eq_some_iff]
  simp [create]

theorem content?_absorb_of_lt {d : Document} (e : Document) {n : NodeId} (hn : n < d.size) :
    (d.absorb e).content? n = d.content? n := by
  refine content?_eq_of_labels fun c => ?_
  simp only [absorb, Forest.labels_append, Forest.labels_map, List.mem_append, List.mem_map,
    or_iff_left_iff_imp, forall_exists_index, and_imp]
  intro m _ hm
  have hid : d.size + m.id = n := congrArg Node.id hm
  exact absurd hn (Nat.not_lt.mpr (hid ▸ Nat.le_add_right _ _))

/-- The nodes that are taken over are what they were. -/
theorem content?_absorb_add (d e : Document) (n : NodeId) :
    (d.absorb e).content? (d.size + n) = e.content? n := by
  refine content?_eq_of_labels fun c => ?_
  simp only [absorb, Forest.labels_append, Forest.labels_map, List.mem_append, List.mem_map]
  constructor
  · rintro (hmem | ⟨m, hmem, hm⟩)
    · have hlt : d.size + n < d.size := exists_mem_labels_iff.mp ⟨_, hmem, rfl⟩
      exact absurd hlt (Nat.not_lt.mpr (Nat.le_add_right _ _))
    · obtain ⟨hid, hcontent⟩ := Node.mk.inj hm
      obtain rfl := Nat.add_left_cancel hid
      rwa [← hcontent]
  · intro hmem
    exact Or.inr ⟨_, hmem, rfl⟩

theorem content?_edit (d : Document) (n : NodeId) (f : Content → Content) (m : NodeId) :
    (d.edit n f).content? m = if m = n then (d.content? m).map f else d.content? m := by
  ext c
  rw [content?_eq_some_iff, edit, Forest.labels_map, List.mem_map]
  by_cases hm : m = n
  · rw [if_pos hm, Option.map_eq_some_iff]
    constructor
    · rintro ⟨a, ha, heq⟩
      by_cases hhas : a.has n
      · rw [if_pos hhas] at heq
        obtain ⟨rfl, rfl⟩ := Node.mk.inj heq
        exact ⟨a.content, content?_eq_some_iff.mpr ha, rfl⟩
      · rw [if_neg hhas] at heq
        exact absurd (by simp [Node.has, heq, hm]) hhas
    · rintro ⟨c', hc', rfl⟩
      refine ⟨⟨m, c'⟩, content?_eq_some_iff.mp hc', ?_⟩
      simp [Node.has, hm]
  · rw [if_neg hm, content?_eq_some_iff]
    constructor
    · rintro ⟨a, ha, heq⟩
      by_cases hhas : a.has n
      · rw [if_pos hhas] at heq
        obtain ⟨rfl, -⟩ := Node.mk.inj heq
        exact absurd (by simpa [Node.has] using hhas) hm
      · rw [if_neg hhas] at heq
        rwa [← heq]
    · intro hmem
      exact ⟨_, hmem, by simp [Node.has, hm]⟩

/-- A change that does nothing to what the node is changes nothing. -/
theorem edit_eq_self {d : Document} {n : NodeId} {f : Content → Content}
    (hf : ∀ c ∈ d.content? n, f c = c) : d.edit n f = d := by
  have htrees : (d.edit n f).trees = d.trees := by
    refine Forest.map_eq_self fun a ha => ?_
    split
    · next hhas =>
        have hid : a.id = n := by simpa [Node.has] using hhas
        rw [hf a.content (content?_eq_some_iff.mpr (hid ▸ ha))]
    · rfl
  obtain ⟨trees, size, numbered, rooted⟩ := d
  rw [edit, Document.mk.injEq]
  exact ⟨htrees, rfl⟩

/-- There is nothing to change at a number that is not in use. -/
theorem edit_of_size_le {d : Document} {n : NodeId} (f : Content → Content) (hn : d.size ≤ n) :
    d.edit n f = d :=
  edit_eq_self fun c hc => by
    rw [content?_eq_none_of_size_le hn] at hc
    cases hc

/-! ## Operations -/

theorem replaceChildren_eq (d : Document) (n : NodeId) (markup : String) :
    d.replaceChildren n markup = if n < d.size
      then (d.detachAll (d.children n)).appendHtml n markup else d := by
  rw [replaceChildren]
  by_cases hn : n < d.size
  · rw [if_pos hn, if_neg (mt isNone_content?_iff.mp (Nat.not_le.mpr hn))]
    rfl
  · rw [if_neg hn, if_pos (isNone_content?_iff.mpr (Nat.not_lt.mp hn))]

theorem appendHtml_eq (d : Document) (n : NodeId) (markup : String) :
    d.appendHtml n markup = if n < d.size
      then (d.absorb (parseFragment markup)).moveAll n
        ((parseFragment markup).outermost.map (d.size + ·)) else d := by
  rw [appendHtml]
  by_cases hn : n < d.size
  · rw [if_pos hn, if_neg (mt isNone_content?_iff.mp (Nat.not_le.mpr hn))]
    refine congrArg (moveAll _ n) ?_
    rw [outermost]
    cases ((parseFragment markup).children 0).find? (·.content.isElement) with
    | none => rfl
    | some w => simp
  · rw [if_neg hn, if_pos (isNone_content?_iff.mpr (Nat.not_lt.mp hn))]

theorem appendElement_eq (d : Document) (n : NodeId) (name : String) (a : Attributes) :
    d.appendElement n name a = if n < d.size
      then ((d.create (.element (Element.withAttributes ⟨{ name }, []⟩ a))).1.move d.size n,
        some d.size)
      else (d, none) := by
  rw [appendElement]
  by_cases hn : n < d.size
  · rw [if_pos hn, if_pos (isSome_content?_iff.mpr hn)]
    rfl
  · rw [if_neg hn, if_neg (mt isSome_content?_iff.mp hn)]

/-- How many nodes an operation makes. -/
def growth (d : Document) : Op → Nat
  | .update _ _ => 0
  | .replaceChildren n markup | .appendHtml n markup =>
    if n < d.size then (parseFragment markup).size else 0
  | .appendElement n _ _ => if n < d.size then 1 else 0

theorem size_appendHtml (d : Document) (n : NodeId) (markup : String) :
    (d.appendHtml n markup).size
      = d.size + if n < d.size then (parseFragment markup).size else 0 := by
  rw [appendHtml_eq]
  split
  · rw [size_moveAll]
    rfl
  · rfl

/-- No operation gives up a node. -/
theorem size_perform (d : Document) (op : Op) : (d.perform op).size = d.size + d.growth op := by
  cases op with
  | update n f => rfl
  | replaceChildren n markup =>
      rw [perform, replaceChildren_eq, growth]
      split
      · next hn => rw [size_appendHtml, size_detachAll, if_pos hn]
      · rfl
  | appendHtml n markup => exact d.size_appendHtml n markup
  | appendElement n name a =>
      rw [perform, appendElement_eq, growth]
      split
      · exact size_move _ _ _
      · rfl

theorem size_le_perform (d : Document) (op : Op) : d.size ≤ (d.perform op).size := by
  rw [size_perform]
  exact Nat.le_add_right _ _

theorem size_le_run (d : Document) (ops : List Op) : d.size ≤ (d.run ops).size := by
  induction ops generalizing d with
  | nil => exact Nat.le_refl _
  | cons op ops ih => exact Nat.le_trans (d.size_le_perform op) (ih (d.perform op))

theorem content?_appendHtml_of_lt {d : Document} {m : NodeId} (n : NodeId) (markup : String)
    (hm : m < d.size) : (d.appendHtml n markup).content? m = d.content? m := by
  rw [appendHtml_eq]
  split
  · rw [content?_moveAll, content?_absorb_of_lt _ hm]
  · rfl

/-- What the nodes are that an operation makes, in the order of making. -/
def made (d : Document) : Op → Nat → Option Content
  | .update _ _, _ => none
  | .replaceChildren n markup, k | .appendHtml n markup, k =>
    if n < d.size then (parseFragment markup).content? k else none
  | .appendElement n name a, k =>
    if n < d.size ∧ k = 0 then some (.element (Element.withAttributes ⟨{ name }, []⟩ a)) else none

theorem content?_appendHtml_add (d : Document) (n : NodeId) (markup : String) (k : Nat) :
    (d.appendHtml n markup).content? (d.size + k)
      = if n < d.size then (parseFragment markup).content? k else none := by
  rw [appendHtml_eq]
  split
  · rw [content?_moveAll, content?_absorb_add]
  · exact content?_eq_none_of_size_le (Nat.le_add_right _ _)

/-- **New nodes get the numbers that follow**, in the order in which they are made. -/
theorem content?_perform_add (d : Document) (op : Op) (k : Nat) :
    (d.perform op).content? (d.size + k) = d.made op k := by
  cases op with
  | update n f => exact content?_eq_none_of_size_le (Nat.le_add_right _ _)
  | replaceChildren n markup =>
      rw [perform, replaceChildren_eq, made]
      split
      · next hn =>
          have hadd := (d.detachAll (d.children n)).content?_appendHtml_add n markup k
          rwa [size_detachAll, if_pos hn] at hadd
      · exact content?_eq_none_of_size_le (Nat.le_add_right _ _)
  | appendHtml n markup => exact d.content?_appendHtml_add n markup k
  | appendElement n name a =>
      rw [perform, appendElement_eq, made]
      by_cases hn : n < d.size
      · rw [if_pos hn, content?_move]
        cases k with
        | zero =>
            rw [if_pos ⟨hn, rfl⟩]
            exact d.content?_create_size _
        | succ k =>
            rw [if_neg (by simp)]
            exact content?_eq_none_of_size_le (Nat.add_le_add_left (Nat.succ_le_succ k.zero_le) _)
      · rw [if_neg hn, if_neg fun h => hn h.1]
        exact content?_eq_none_of_size_le (Nat.le_add_right _ _)

/-- An operation leaves every node what it is, but for the attributes of the element that it
changes. -/
theorem map_bare_content?_perform {d : Document} {n : NodeId} (op : Op) (hn : n < d.size) :
    ((d.perform op).content? n).map Content.bare = (d.content? n).map Content.bare := by
  cases op with
  | update m f =>
      rw [perform, update, content?_edit]
      split
      · rw [Option.map_map]
        refine congrArg (Option.map · (d.content? n)) (funext fun c => ?_)
        exact Content.bare_onElement (fun e => e.withAttributes (f e.attributes)) (fun _ => rfl) c
      · rfl
  | replaceChildren m markup =>
      rw [perform, replaceChildren_eq]
      split
      · rw [content?_appendHtml_of_lt m markup (by rwa [size_detachAll]), content?_detachAll]
      · rfl
  | appendHtml m markup => rw [perform, content?_appendHtml_of_lt m markup hn]
  | appendElement m name a =>
      rw [perform, appendElement_eq]
      split
      · rw [content?_move, content?_create_of_lt _ hn]
      · rfl

/-- **A node stays what it is**: whatever is done to the document, a text is the same text and an
element has the same tag. -/
theorem map_bare_content?_run {d : Document} {n : NodeId} (ops : List Op) (hn : n < d.size) :
    ((d.run ops).content? n).map Content.bare = (d.content? n).map Content.bare := by
  induction ops generalizing d with
  | nil => rfl
  | cons op ops ih =>
      rw [run_cons, ih (Nat.lt_of_lt_of_le hn (d.size_le_perform op)),
        map_bare_content?_perform op hn]

end Document

end PageDirectives
