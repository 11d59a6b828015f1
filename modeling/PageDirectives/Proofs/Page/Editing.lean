import PageDirectives.Proofs.Document.Regular
import PageDirectives.Proofs.Page.Evolution

set_option autoImplicit false

/-! # Editing the elements of a page

Most of what actions do is to change the attributes of some elements, each in the same way, and
nothing else (`Page.Edited`). Doing it to one element after the other comes to that
(`Page.edited_foldl`), if none is named twice.

What is on or off for an element, by what its attributes say, is a *switch* (`Attributes.Switch`).
Turning it for some elements turns it for them (`Page.Edited.isOn`). This takes more than that
turning a switch does so for the attributes: they are put in order when they are written back, and
it matters which of several attributes of a name stands first.
-/

namespace PageDirectives

namespace Document

theorem element?_onElement (d : Document) (n : NodeId) (f : Element → Element) (m : NodeId) :
    (d.edit n (Content.onElement f)).element? m
      = if m = n then (d.element? m).map f else d.element? m := by
  rw [element?, content?_edit, element?]
  split
  · rcases d.content? m with _ | c
    · rfl
    · cases c <;> rfl
  · rfl

theorem element?_update (d : Document) (n : NodeId) (f : Attributes → Attributes) (m : NodeId) :
    (d.update n f).element? m = if m = n
      then (d.element? m).map fun e => e.withAttributes (f e.attributes) else d.element? m :=
  d.element?_onElement n _ m

/-- The trees of a document, without the attributes of the elements: what stands where, and the
texts. -/
def outline (d : Document) : Forest Node :=
  d.trees.map fun n => { n with content := n.content.bare }

theorem outline_onElement (d : Document) (n : NodeId) {f : Element → Element}
    (hf : ∀ e, (f e).tag = e.tag) : (d.edit n (Content.onElement f)).outline = d.outline := by
  rw [outline, edit, Forest.map_map, outline]
  refine congrArg (Forest.map · d.trees) (funext fun m => ?_)
  rw [Function.comp_apply]
  split
  · exact congrArg (Node.mk m.id) (Content.bare_onElement f hf m.content)
  · rfl

theorem outline_update (d : Document) (n : NodeId) (f : Attributes → Attributes) :
    (d.update n f).outline = d.outline :=
  d.outline_onElement n fun _ => rfl

end Document

namespace Page

/-- The attributes of some elements have been changed, and nothing else of the page. -/
structure Edited (p p' : Page) (f : Attributes → Attributes) (nodes : List NodeId) : Prop where
  elements : ∀ n, p'.document.element? n = if n ∈ nodes
    then (p.document.element? n).map fun e => e.withAttributes (f e.attributes)
    else p.document.element? n
  outline : p'.document.outline = p.document.outline
  rest : p' = { p with document := p'.document }

variable {p p' : Page} {f g : Attributes → Attributes} {nodes : List NodeId} {n : NodeId}

theorem edited_nil (p : Page) (f : Attributes → Attributes) : p.Edited p f [] :=
  ⟨fun _ => rfl, rfl, rfl⟩

/-- It only matters what a change does to the attributes that the element has. -/
theorem edited_update (hg : ∀ e ∈ p.document.element? n, g e.attributes = f e.attributes) :
    p.Edited (p.update n g) f [n] where
  elements m := by
    have hm := p.document.element?_update n g m
    simp only [List.mem_singleton]
    by_cases hmn : m = n
    · subst hmn
      rw [if_pos rfl] at hm ⊢
      refine hm.trans (Option.map_congr fun e he => ?_)
      rw [hg e he]
    · rw [if_neg hmn] at hm ⊢
      exact hm
  outline := p.document.outline_update n g
  rest := rfl

/-- **One element after the other.** -/
theorem edited_foldl {step : Page → NodeId → Page}
    (hstep : ∀ (p : Page) n, p.Edited (step p n) f [n]) (p : Page) (hnodup : nodes.Nodup) :
    p.Edited (nodes.foldl step p) f nodes := by
  induction nodes generalizing p with
  | nil => exact p.edited_nil f
  | cons n nodes ih =>
      obtain ⟨hn, hnodup⟩ := List.nodup_cons.mp hnodup
      have hfirst := hstep p n
      have hothers := ih (step p n) hnodup
      refine ⟨fun m => ?_, hothers.outline.trans hfirst.outline, ?_⟩
      · rw [List.foldl_cons, hothers.elements m, hfirst.elements m]
        by_cases hm : m = n
        · simp [hm, hn]
        · simp [hm]
      · rw [List.foldl_cons, hothers.rest, hfirst.rest]

/-- **Under each name of an edited element is found what the change makes of its attributes**,
though they are put in order. -/
theorem Edited.exists_attributes? (h : p.Edited p' f nodes) (hn : n ∈ nodes)
    (hf : ∀ a : Attributes, a.IsOrderly → (f a).IsOrderly)
    (hp : p.document.AllElements Element.IsRegular) (helement : p.document.HasElement n) :
    ∃ a a', p.document.attributes? n = some a ∧ p'.document.attributes? n = some a' ∧
      ∀ name, a'.get? name = (f a).get? name := by
  obtain ⟨e, he⟩ := Option.isSome_iff_exists.mp helement
  refine ⟨e.attributes, (e.withAttributes (f e.attributes)).attributes, ?_, ?_,
    (hf _ (hp n e he).isOrderly).get?_withAttributes e⟩
  · rw [Document.attributes?, he, Option.map_some]
  · rw [Document.attributes?, h.elements, if_pos hn, he]
    rfl

theorem Edited.attributes?_of_notMem (h : p.Edited p' f nodes) (hn : n ∉ nodes) :
    p'.document.attributes? n = p.document.attributes? n := by
  rw [Document.attributes?, h.elements, if_neg hn]
  rfl

/-! ## Pages that were read -/

/-- **The attributes of every element are in order**, whatever has become of the page since it was
read. -/
theorem Becomes.isRegular {markup : String} (h : (parse markup).Becomes p) :
    p.document.AllElements Element.IsRegular := by
  obtain ⟨ops, hops⟩ := h
  rw [hops]
  exact Document.isRegular_of_run markup ops

end Page

/-! ## Switches -/

namespace Attributes

/-- Something that is on or off by what attributes say, and how they are changed to turn it. -/
structure Switch where
  isOn : Attributes → Bool
  turn : Bool → Attributes → Attributes

namespace Switch

/-- Turning it turns it. All that matters is what is found under each name, and of several names
that are the same the one that comes first still does when it is turned. -/
structure IsLawful (s : Switch) : Prop where
  isOn_turn : ∀ on a, s.isOn (s.turn on a) = on
  isOn_congr : ∀ {a b : Attributes}, (∀ name, a.get? name = b.get? name) → s.isOn a = s.isOn b
  isOrderly : ∀ on {a : Attributes}, a.IsOrderly → (s.turn on a).IsOrderly

/-- Turns a switch, depending on how it is. -/
def change (s : Switch) (f : Bool → Bool) (a : Attributes) : Attributes := s.turn (f (s.isOn a)) a

end Switch

end Attributes

namespace Page

open Attributes (Switch)

/-- Whether a switch is on for an element. -/
def isOn (p : Page) (s : Switch) (n : NodeId) : Bool := (p.document.attributes? n).any s.isOn

variable {p p' : Page} {s : Switch} {f : Bool → Bool} {nodes : List NodeId} {n : NodeId}

theorem isOn_of_attributes? {a : Attributes} (ha : p.document.attributes? n = some a) (s : Switch) :
    p.isOn s n = s.isOn a := by
  rw [Page.isOn, ha, Option.any_some]

/-- **Turning a switch for some elements turns it for them.** -/
theorem Edited.isOn (h : p.Edited p' (s.change f) nodes) (hs : s.IsLawful)
    (hp : p.document.AllElements Element.IsRegular) (hn : n ∈ nodes)
    (helement : p.document.HasElement n) : p'.isOn s n = f (p.isOn s n) := by
  obtain ⟨a, a', ha, ha', hfound⟩ := h.exists_attributes? hn (fun _ => hs.isOrderly _) hp helement
  calc p'.isOn s n
      = s.isOn (s.change f a) := (isOn_of_attributes? ha' s).trans (hs.isOn_congr hfound)
    _ = f (s.isOn a) := hs.isOn_turn _ a
    _ = f (p.isOn s n) := by rw [isOn_of_attributes? ha]

theorem Edited.isOn_of_notMem {g : Attributes → Attributes} (h : p.Edited p' g nodes)
    (hn : n ∉ nodes) (s : Switch) : p'.isOn s n = p.isOn s n := by
  rw [Page.isOn, h.attributes?_of_notMem hn, Page.isOn]

end Page

end PageDirectives
