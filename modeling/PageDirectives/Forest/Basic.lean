set_option autoImplicit false

/-! # Forests

Ordered forests of labelled trees, with the operations from which a document is edited: cutting
a tree out, putting trees under a node, and putting trees in front of one. Each of them acts on
the first node, in preorder, whose label passes a test. What it does to the labels is stated up
to their order, so that an edit neither loses nor doubles a node.
-/

namespace PageDirectives

/-- The empty forest, or a tree with the trees that follow it. -/
inductive Forest (α : Type) where
  | nil
  | node (label : α) (children rest : Forest α)
  deriving Repr

namespace Forest

variable {α β : Type}

/-- A single tree. -/
def tree (a : α) (children : Forest α) : Forest α := node a children nil

def append : Forest α → Forest α → Forest α
  | nil, g => g
  | node a children rest, g => node a children (append rest g)

/-- The labels in preorder. -/
def labels : Forest α → List α
  | nil => []
  | node a children rest => a :: (labels children ++ labels rest)

/-- The labels of the top-level nodes. -/
def tops : Forest α → List α
  | nil => []
  | node a _ rest => a :: tops rest

/-- The label of the first tree. -/
def first? : Forest α → Option α
  | nil => none
  | node a _ _ => some a

def map (f : α → β) : Forest α → Forest β
  | nil => nil
  | node a children rest => node (f a) (map f children) (map f rest)

/-! ## Edits -/

/-- Cuts out the first tree whose root passes: the tree, and what is left. -/
def cut? (p : α → Bool) : Forest α → Option (Forest α × Forest α)
  | nil => none
  | node a children rest =>
    if p a then some (tree a children, rest)
    else
      match cut? p children with
      | some (t, children) => some (t, node a children rest)
      | none => (cut? p rest).map fun (t, rest) => (t, node a children rest)

/-- Puts trees under the first node that passes, after its children. -/
def appendUnder? (p : α → Bool) (g : Forest α) : Forest α → Option (Forest α)
  | nil => none
  | node a children rest =>
    if p a then some (node a (children.append g) rest)
    else
      match appendUnder? p g children with
      | some children => some (node a children rest)
      | none => (appendUnder? p g rest).map (node a children)

/-- Puts trees in front of the first node that passes. -/
def insertBefore? (p : α → Bool) (g : Forest α) : Forest α → Option (Forest α)
  | nil => none
  | node a children rest =>
    if p a then some (g.append (node a children rest))
    else
      match insertBefore? p g children with
      | some children => some (node a children rest)
      | none => (insertBefore? p g rest).map (node a children)

/-! ## The first tree after an edit -/

@[simp] theorem first?_append (f g : Forest α) : (f.append g).first? = f.first?.or g.first? := by
  cases f with
  | nil => simp [append, first?]
  | node a children rest => simp [append, first?]

@[simp] theorem first?_map (h : α → β) (f : Forest α) : (f.map h).first? = f.first?.map h := by
  cases f with
  | nil => rfl
  | node a children rest => rfl

/-- A first tree whose root does not pass stays the first. -/
theorem first?_of_cut? {p : α → Bool} {f t rest : Forest α} {a : α}
    (h : cut? p f = some (t, rest)) (hfirst : f.first? = some a) (ha : p a = false) :
    rest.first? = some a := by
  cases f with
  | nil => cases hfirst
  | node b children more =>
    obtain rfl := Option.some.inj hfirst
    rw [cut?, ha] at h
    simp only [Bool.false_eq_true, if_false] at h
    split at h
    · obtain ⟨-, rfl⟩ := Prod.mk.inj (Option.some.inj h)
      rfl
    · obtain ⟨⟨t', more'⟩, -, heq⟩ := Option.map_eq_some_iff.1 h
      obtain ⟨-, rfl⟩ := Prod.mk.inj heq
      rfl

theorem first?_of_appendUnder? {p : α → Bool} {g f f' : Forest α}
    (h : appendUnder? p g f = some f') : f'.first? = f.first? := by
  cases f with
  | nil => simp [appendUnder?] at h
  | node a children rest =>
    rw [appendUnder?] at h
    split at h
    · obtain rfl := Option.some.inj h
      rfl
    · split at h
      · obtain rfl := Option.some.inj h
        rfl
      · obtain ⟨rest', -, rfl⟩ := Option.map_eq_some_iff.1 h
        rfl

theorem first?_of_insertBefore? {p : α → Bool} {g f f' : Forest α} {a : α}
    (h : insertBefore? p g f = some f') (hfirst : f.first? = some a) (ha : p a = false) :
    f'.first? = some a := by
  cases f with
  | nil => cases hfirst
  | node b children rest =>
    obtain rfl := Option.some.inj hfirst
    rw [insertBefore?, ha] at h
    simp only [Bool.false_eq_true, if_false] at h
    split at h
    · obtain rfl := Option.some.inj h
      rfl
    · obtain ⟨rest', -, rfl⟩ := Option.map_eq_some_iff.1 h
      rfl

/-! ## Labels after an edit -/

@[simp] theorem labels_tree (a : α) (f : Forest α) : (tree a f).labels = a :: f.labels := by
  simp [tree, labels]

@[simp] theorem labels_append (f g : Forest α) :
    (f.append g).labels = f.labels ++ g.labels := by
  induction f with
  | nil => rfl
  | node a children rest _ ih => simp [append, labels, ih]

@[simp] theorem labels_map (h : α → β) (f : Forest α) :
    (f.map h).labels = f.labels.map h := by
  induction f with
  | nil => rfl
  | node a children rest ihc ihr => simp [map, labels, ihc, ihr]

/-- The tree cut out and the rest share the labels between them. -/
theorem labels_perm_of_cut? {p : α → Bool} {f t rest : Forest α}
    (h : cut? p f = some (t, rest)) : f.labels.Perm (t.labels ++ rest.labels) := by
  induction f generalizing t rest with
  | nil => simp [cut?] at h
  | node a children more ihc ihr =>
    rw [cut?] at h
    split at h
    · obtain ⟨rfl, rfl⟩ := Prod.mk.inj (Option.some.inj h)
      simp [labels]
    · split at h
      · next t' children' hc =>
        obtain ⟨rfl, rfl⟩ := Prod.mk.inj (Option.some.inj h)
        simp only [labels]
        have := ((ihc hc).append_right more.labels).cons a
        rw [List.append_assoc] at this
        exact this.trans List.perm_middle.symm
      · obtain ⟨⟨t', more'⟩, hr, heq⟩ := Option.map_eq_some_iff.1 h
        obtain ⟨rfl, rfl⟩ := Prod.mk.inj heq
        simp only [labels]
        have h1 := (ihr hr).append_left children.labels
        have h2 : (children.labels ++ (t'.labels ++ more'.labels)).Perm
            (t'.labels ++ (children.labels ++ more'.labels)) := by
          rw [← List.append_assoc, ← List.append_assoc]
          exact List.perm_append_comm.append_right _
        exact ((h1.trans h2).cons a).trans List.perm_middle.symm

theorem labels_perm_of_appendUnder? {p : α → Bool} {g f f' : Forest α}
    (h : appendUnder? p g f = some f') : f'.labels.Perm (f.labels ++ g.labels) := by
  induction f generalizing f' with
  | nil => simp [appendUnder?] at h
  | node a children rest ihc ihr =>
    have swap (l m n : List α) : (l ++ m ++ n).Perm (l ++ n ++ m) := by
      rw [List.append_assoc, List.append_assoc]
      exact List.perm_append_comm.append_left l
    rw [appendUnder?] at h
    split at h
    · obtain rfl := Option.some.inj h
      simp only [labels, labels_append]
      exact (swap _ _ _).cons a
    · split at h
      · next children' hc =>
        obtain rfl := Option.some.inj h
        simp only [labels]
        exact (((ihc hc).append_right rest.labels).trans (swap _ _ _)).cons a
      · obtain ⟨rest', hr, rfl⟩ := Option.map_eq_some_iff.1 h
        simp only [labels]
        have := ((ihr hr).append_left children.labels).cons a
        rwa [← List.append_assoc] at this

theorem labels_perm_of_insertBefore? {p : α → Bool} {g f f' : Forest α}
    (h : insertBefore? p g f = some f') : f'.labels.Perm (f.labels ++ g.labels) := by
  induction f generalizing f' with
  | nil => simp [insertBefore?] at h
  | node a children rest ihc ihr =>
    rw [insertBefore?] at h
    split at h
    · obtain rfl := Option.some.inj h
      simp only [labels_append]
      exact List.perm_append_comm
    · split at h
      · next children' hc =>
        obtain rfl := Option.some.inj h
        simp only [labels]
        have h1 := (ihc hc).append_right rest.labels
        have h2 : (children.labels ++ g.labels ++ rest.labels).Perm
            (children.labels ++ rest.labels ++ g.labels) := by
          rw [List.append_assoc, List.append_assoc]
          exact List.perm_append_comm.append_left _
        exact (h1.trans h2).cons a
      · obtain ⟨rest', hr, rfl⟩ := Option.map_eq_some_iff.1 h
        simp only [labels]
        have := ((ihr hr).append_left children.labels).cons a
        rwa [← List.append_assoc] at this

end Forest

end PageDirectives
