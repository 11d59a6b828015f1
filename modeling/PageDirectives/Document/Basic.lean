import PageDirectives.Document.Node
import PageDirectives.Forest.Cursor
import PageDirectives.Host

set_option autoImplicit false

/-! # Documents

A document is a forest of numbered nodes. The first tree is the document itself, whose root
has the number 0; the other trees have been taken out of it, or have not been put into it yet.
A node keeps its number for good and is never thrown away: the numbers in the forest are those
below `size`, each once, and every operation keeps that. The root is never moved.
-/

namespace PageDirectives

structure Node where
  id : NodeId
  content : Content
  deriving DecidableEq, Repr

/-- Whether the node has a number. -/
def Node.has (id : NodeId) (n : Node) : Bool := n.id == id

/-- The number 0 in front of all trees. -/
def Node.IsRooted (trees : Forest Node) : Prop := ∃ root, trees.first? = some root ∧ root.id = 0

structure Document where
  trees : Forest Node
  /-- The number of nodes ever made. -/
  size : Nat
  numbered : (trees.labels.map Node.id).Perm (List.range size)
  rooted : Node.IsRooted trees

namespace Node.IsRooted

variable {trees t : Forest Node} {id : NodeId}

theorem append (h : IsRooted trees) (more : Forest Node) : IsRooted (trees.append more) := by
  obtain ⟨root, hfirst, hid⟩ := h
  exact ⟨root, by simp [hfirst], hid⟩

theorem map (h : IsRooted trees) {f : Node → Node} (hf : ∀ n, (f n).id = n.id) :
    IsRooted (trees.map f) := by
  obtain ⟨root, hfirst, hid⟩ := h
  exact ⟨f root, by simp [hfirst], (hf root).trans hid⟩

/-- The root stays in front if another node is cut out. -/
theorem cut? {rest : Forest Node} (h : IsRooted trees) (hid : id ≠ 0)
    (hcut : Forest.cut? (Node.has id) trees = some (t, rest)) : IsRooted rest := by
  obtain ⟨root, hfirst, hroot⟩ := h
  exact ⟨root, Forest.first?_of_cut? hcut hfirst (by simp [Node.has, hroot, Ne.symm hid]), hroot⟩

theorem appendUnder? {trees' : Forest Node} (h : IsRooted trees)
    (hput : Forest.appendUnder? (Node.has id) t trees = some trees') : IsRooted trees' := by
  obtain ⟨root, hfirst, hroot⟩ := h
  exact ⟨root, (Forest.first?_of_appendUnder? hput).trans hfirst, hroot⟩

theorem insertBefore? {trees' : Forest Node} (h : IsRooted trees) (hid : id ≠ 0)
    (hput : Forest.insertBefore? (Node.has id) t trees = some trees') : IsRooted trees' := by
  obtain ⟨root, hfirst, hroot⟩ := h
  exact ⟨root, Forest.first?_of_insertBefore? hput hfirst (by simp [Node.has, hroot, Ne.symm hid]),
    hroot⟩

end Node.IsRooted

namespace Document

/-! ## Making nodes -/

/-- A document that is only a root. -/
def ofRoot (c : Content) : Document where
  trees := .tree ⟨0, c⟩ .nil
  size := 1
  numbered := by simp [Forest.tree, Forest.labels]
  rooted := ⟨⟨0, c⟩, rfl, rfl⟩

/-- Makes a node that is a tree of its own. -/
def create (d : Document) (c : Content) : Document × NodeId :=
  ({ trees := d.trees.append (.tree ⟨d.size, c⟩ .nil)
     size := d.size + 1
     numbered := by
      simp only [Forest.labels_append, Forest.labels_tree, Forest.labels, List.map_append,
        List.map_cons, List.map_nil, List.range_succ]
      exact d.numbered.append_right _
     rooted := d.rooted.append _ }, d.size)

/-- Takes the nodes of another document over, with numbers that follow the own ones. Its trees
become trees of their own. -/
def absorb (d e : Document) : Document where
  trees := d.trees.append (e.trees.map fun n => { n with id := d.size + n.id })
  size := d.size + e.size
  numbered := by
    have h : (e.trees.labels.map fun n => d.size + n.id).Perm
        ((List.range e.size).map (d.size + ·)) := by
      simpa [List.map_map, Function.comp_def] using e.numbered.map (d.size + ·)
    simp only [Forest.labels_append, Forest.labels_map, List.map_append, List.map_map,
      Function.comp_def, List.range_add]
    exact d.numbered.append h
  rooted := d.rooted.append _

/-! ## Questions -/

/-- The cursors of all nodes, tree by tree, in preorder. -/
def places (d : Document) : List (Cursor Node) := d.trees.places

/-- The cursor of a node. -/
def cursor? (d : Document) (id : NodeId) : Option (Cursor Node) :=
  d.places.find? (·.here.label.has id)

def content? (d : Document) (id : NodeId) : Option Content :=
  (d.cursor? id).map (·.here.label.content)

def element? (d : Document) (id : NodeId) : Option Element :=
  (d.content? id).bind Content.element?

/-- The node above. -/
def parent? (d : Document) (id : NodeId) : Option Node :=
  ((d.cursor? id).bind Cursor.up?).map (·.here.label)

/-- The nodes right below, in order. -/
def children (d : Document) (id : NodeId) : List Node :=
  ((d.cursor? id).map (·.here.children.tops)).getD []

/-! ## Edits -/

/-- Changes the content of a node. -/
def edit (d : Document) (id : NodeId) (f : Content → Content) : Document where
  trees := d.trees.map fun n => if n.has id then { n with content := f n.content } else n
  size := d.size
  numbered := by
    have h : (Node.id ∘ fun n : Node => if n.has id then { n with content := f n.content } else n)
        = Node.id := by
      funext n; simp only [Function.comp_apply]; split <;> rfl
    simpa [Forest.labels_map, List.map_map, h] using d.numbered
  rooted := d.rooted.map fun n => by split <;> rfl

/-- A forest with the same nodes in another order, the root in front, makes a document of the same
size. -/
def rearrange (d : Document) (trees : Forest Node) (h : trees.labels.Perm d.trees.labels)
    (rooted : Node.IsRooted trees) : Document :=
  ⟨trees, d.size, (h.map Node.id).trans d.numbered, rooted⟩

/-- Takes a node out of its place; with what is below it, it becomes a tree of its own. The
root stays where it is. -/
def detach (d : Document) (id : NodeId) : Document :=
  if hid : id = 0 then d
  else
    match h : Forest.cut? (Node.has id) d.trees with
    | none => d
    | some (t, rest) =>
      d.rearrange (rest.append t) (by
        rw [Forest.labels_append]
        exact List.perm_append_comm.trans (Forest.labels_perm_of_cut? h).symm)
        ((d.rooted.cut? hid h).append t)

/-- Moves a node under another one, behind its children. Nothing happens if the other one is
below the node itself. -/
def move (d : Document) (id target : NodeId) : Document :=
  if hid : id = 0 then d
  else
    match h : Forest.cut? (Node.has id) d.trees with
    | none => d
    | some (t, rest) =>
      match h' : Forest.appendUnder? (Node.has target) t rest with
      | none => d
      | some trees =>
        d.rearrange trees
          ((Forest.labels_perm_of_appendUnder? h').trans
            (List.perm_append_comm.trans (Forest.labels_perm_of_cut? h).symm))
          ((d.rooted.cut? hid h).appendUnder? h')

/-- Moves a node in front of another one, if that one is below some node and not below the
node itself. -/
def moveBefore (d : Document) (id sibling : NodeId) : Document :=
  if hid : id = 0 ∨ sibling = 0 ∨ (d.parent? sibling).isNone then d
  else
    match h : Forest.cut? (Node.has id) d.trees with
    | none => d
    | some (t, rest) =>
      match h' : Forest.insertBefore? (Node.has sibling) t rest with
      | none => d
      | some trees =>
        d.rearrange trees
          ((Forest.labels_perm_of_insertBefore? h').trans
            (List.perm_append_comm.trans (Forest.labels_perm_of_cut? h).symm))
          ((d.rooted.cut? (not_or.1 hid).1 h).insertBefore? (not_or.1 (not_or.1 hid).2).1 h')

/-- Moves nodes under another one, in order. -/
def moveAll (d : Document) (target : NodeId) (ids : List NodeId) : Document :=
  ids.foldl (fun d id => d.move id target) d

/-- Makes a node under another one, behind its children. -/
def createUnder (d : Document) (target : NodeId) (c : Content) : Document × NodeId :=
  let (d, id) := d.create c
  (d.move id target, id)

/-- Adds text behind the children of a node; it runs on in a text that stands last there. -/
def appendText (d : Document) (target : NodeId) (s : String) : Document :=
  match (d.children target).getLast? with
  | some ⟨last, .text _⟩ => d.edit last (Content.addText s)
  | _ => (d.createUnder target (.text s)).1

/-- Adds text in front of a node; it runs on in a text that stands there. -/
def insertText (d : Document) (sibling : NodeId) (s : String) : Document :=
  match ((d.cursor? sibling).map Cursor.before).getD [] with
  | ⟨⟨⟨previous, .text _⟩, _, _, _⟩, _⟩ :: _ => d.edit previous (Content.addText s)
  | _ =>
    let (d, id) := d.create (.text s)
    d.moveBefore id sibling

end Document

end PageDirectives
