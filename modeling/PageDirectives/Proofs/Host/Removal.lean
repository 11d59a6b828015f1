import PageDirectives.Proofs.Attributes.Classes
import PageDirectives.Sketch.Basic

set_option autoImplicit false

/-! # Removing classes

Removing a class from an element takes that class from that element, and no other class from any
(`Host.RemovesClasses`). In a sketch this is always so. On a page a class is a word of an attribute
that is written anew, so that the attributes have to be in order (`Element.IsRegular`), as they are
on every page that was read.
-/

namespace PageDirectives

/-- What removing a class is on pages that are sound. -/
structure Host.RemovesClasses {H : Type} [Host H] (Sound : H → Prop) : Prop where
  sound : ∀ {h}, Sound h → ∀ n c, Sound (removeClass h n c)
  self : ∀ {h}, Sound h → ∀ n c, hasClass (removeClass h n c) n c = false
  other : ∀ {h}, Sound h → ∀ {n c m c'}, ¬ (m = n ∧ c' = c) →
    hasClass (removeClass h n c) m c' = hasClass h m c'

theorem Sketch.removesClasses : Host.RemovesClasses fun _ : Sketch => True where
  sound _ _ _ := trivial
  self {s} _ n c := by
    show ((s.elements.modify n _)[n]?).any _ = false
    rw [List.getElem?_modify]
    cases s.elements[n]? with
    | none => rfl
    | some e => simp
  other {s} _ {n c m c'} hne := by
    show ((s.elements.modify n _)[m]?).any _ = (s.elements[m]?).any _
    rw [List.getElem?_modify]
    cases s.elements[m]? with
    | none => rfl
    | some e =>
        by_cases hm : n = m
        · have hc : c' ≠ c := fun hc => hne ⟨hm.symm, hc⟩
          simp [hm, hc]
        · simp [hm]

namespace Page

variable {p : Page} {n : NodeId} {c : String}

theorem hasClass_eq (p : Page) (n : NodeId) (c : String) :
    Host.hasClass p n c = (p.document.element? n).any (·.attributes.hasClass c) := by
  show (p.document.attributes? n).any (·.hasClass c) = _
  rw [Document.attributes?, Option.any_map]

/-- An element with a class removed has the classes that are left, though its attributes are put in
order. -/
theorem hasClass_removeClass (hp : p.document.AllElements Element.IsRegular) (m : NodeId)
    (c' : String) : Host.hasClass (Host.removeClass p n c) m c' = (p.document.element? m).any
      fun e => (if m = n then e.attributes.removeClass c else e.attributes).hasClass c' := by
  have hasked : Host.hasClass (Host.removeClass p n c) m c'
      = ((p.document.update n (·.removeClass c)).element? m).any (·.attributes.hasClass c') :=
    hasClass_eq (p.update n (·.removeClass c)) m c'
  rw [hasked, p.document.element?_update n (·.removeClass c) m]
  by_cases hm : m = n
  · rw [if_pos hm, Option.any_map]
    cases he : p.document.element? m with
    | none => rfl
    | some e =>
        have horderly : (e.attributes.removeClass c).IsOrderly :=
          (hp m e he).isOrderly.withClass false c
        rw [Option.any_some, Option.any_some, if_pos hm, Attributes.hasClass, Attributes.hasClass,
          Attributes.classes, Attributes.classes,
          horderly.get?_withAttributes]
  · simp only [if_neg hm]

theorem removesClasses :
    Host.RemovesClasses fun p : Page => p.document.AllElements Element.IsRegular where
  sound hp n c := hp.onElement n fun e _ => e.isRegular_withAttributes _
  self {p} hp n c := by
    rw [hasClass_removeClass hp]
    cases p.document.element? n with
    | none => rfl
    | some e => simp [Attributes.hasClass, Attributes.classes_removeClass]
  other {p} hp {n c m c'} hne := by
    rw [hasClass_removeClass hp, hasClass_eq]
    cases p.document.element? m with
    | none => rfl
    | some e =>
        by_cases hm : m = n
        · have hc : c' ≠ c := fun hc => hne ⟨hm, hc⟩
          simp [hm, Attributes.hasClass, Attributes.classes_removeClass, hc]
        · simp [hm]

end Page

end PageDirectives
