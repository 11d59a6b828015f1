import PageDirectives.Proofs.Document.Run

set_option autoImplicit false

/-! # What all elements of a document are

What holds of all elements of a document (`Document.AllElements`) holds of them wherever they are
moved, and goes on to hold of all if it holds of the elements that are made and of those that are
changed.
-/

namespace PageDirectives

namespace Document

/-- All elements of a document, in their places or cut out, are such. -/
def AllElements (P : Element → Prop) (d : Document) : Prop := ∀ n e, d.element? n = some e → P e

section Moves

variable {P : Element → Prop} {d d' : Document}

theorem AllElements.of_content? (hd : d.AllElements P)
    (h : ∀ n, d'.content? n = d.content? n) : d'.AllElements P := by
  intro n e he
  rw [element?, h n] at he
  exact hd n e he

theorem AllElements.detach (hd : d.AllElements P) (n : NodeId) : (d.detach n).AllElements P :=
  hd.of_content? (d.content?_detach n)

theorem AllElements.move (hd : d.AllElements P) (n target : NodeId) :
    (d.move n target).AllElements P :=
  hd.of_content? (d.content?_move n target)

theorem AllElements.moveAll (hd : d.AllElements P) (target : NodeId) (ns : List NodeId) :
    (d.moveAll target ns).AllElements P :=
  hd.of_content? (d.content?_moveAll target ns)

theorem content?_moveBefore (d : Document) (n sibling m : NodeId) :
    (d.moveBefore n sibling).content? m = d.content? m := by
  unfold moveBefore
  split
  · rfl
  split
  · rfl
  split
  · rfl
  · exact content?_rearrange d _ _ m

theorem AllElements.moveBefore (hd : d.AllElements P) (n sibling : NodeId) :
    (d.moveBefore n sibling).AllElements P :=
  hd.of_content? (d.content?_moveBefore n sibling)

end Moves

section Making

variable {P : Element → Prop} {d e : Document}

theorem AllElements.create (hd : d.AllElements P) {c : Content} (hc : ∀ x ∈ c.element?, P x) :
    (d.create c).1.AllElements P := by
  intro n x hx
  rcases Nat.lt_trichotomy n d.size with hn | rfl | hn
  · rw [element?, content?_create_of_lt c hn] at hx
    exact hd n x hx
  · rw [element?, content?_create_size] at hx
    exact hc x hx
  · rw [element?, content?_eq_none_of_size_le (d := (d.create c).1) hn] at hx
    cases hx

theorem AllElements.createUnder (hd : d.AllElements P) (target : NodeId) {c : Content}
    (hc : ∀ x ∈ c.element?, P x) : (d.createUnder target c).1.AllElements P :=
  (hd.create hc).move _ _

theorem AllElements.absorb (hd : d.AllElements P) (he : e.AllElements P) :
    (d.absorb e).AllElements P := by
  intro n x hx
  rcases Nat.lt_or_ge n d.size with hn | hn
  · rw [element?, content?_absorb_of_lt e hn] at hx
    exact hd n x hx
  · obtain ⟨k, rfl⟩ := Nat.exists_eq_add_of_le hn
    rw [element?, content?_absorb_add] at hx
    exact he k x hx

theorem AllElements.edit (hd : d.AllElements P) (n : NodeId) {f : Content → Content}
    (hf : ∀ c, (∀ x ∈ c.element?, P x) → ∀ x ∈ (f c).element?, P x) :
    (d.edit n f).AllElements P := by
  intro m x hx
  rw [element?, content?_edit] at hx
  split at hx
  · obtain ⟨c', hc', hx⟩ := Option.bind_eq_some_iff.mp hx
    obtain ⟨c, hc, rfl⟩ := Option.map_eq_some_iff.mp hc'
    exact hf c (fun y hy => hd m y (Option.bind_eq_some_iff.mpr ⟨c, hc, hy⟩)) x hx
  · exact hd m x hx

theorem AllElements.onElement (hd : d.AllElements P) (n : NodeId) {f : Element → Element}
    (hf : ∀ x, P x → P (f x)) : (d.edit n (Content.onElement f)).AllElements P := by
  refine hd.edit n fun c hc x hx => ?_
  cases c with
  | element y =>
      obtain rfl := Option.some.inj hx
      exact hf y (hc y rfl)
  | _ => cases hx

theorem AllElements.addText (hd : d.AllElements P) (n : NodeId) (s : String) :
    (d.edit n (Content.addText s)).AllElements P := by
  refine hd.edit n fun c hc x hx => ?_
  cases c with
  | element y => exact hc x hx
  | _ => cases hx

theorem AllElements.appendText (hd : d.AllElements P) (target : NodeId) (s : String) :
    (d.appendText target s).AllElements P := by
  unfold Document.appendText
  split
  · exact hd.addText _ s
  · exact hd.createUnder target (c := .text s) nofun

theorem AllElements.insertText (hd : d.AllElements P) (sibling : NodeId) (s : String) :
    (d.insertText sibling s).AllElements P := by
  unfold Document.insertText
  split
  · exact hd.addText _ s
  · exact (hd.create (c := .text s) nofun).moveBefore _ sibling

end Making

theorem allElements_ofRoot {P : Element → Prop} {c : Content} (hc : ∀ x ∈ c.element?, P x) :
    (ofRoot c).AllElements P := by
  intro n x hx
  obtain ⟨c', hc', helement⟩ := Option.bind_eq_some_iff.mp hx
  have hmem := content?_eq_some_iff.mp hc'
  simp only [ofRoot, Forest.labels_tree, Forest.labels, List.mem_singleton, Node.mk.injEq] at hmem
  obtain ⟨-, rfl⟩ := hmem
  exact hc x helement

end Document

end PageDirectives
