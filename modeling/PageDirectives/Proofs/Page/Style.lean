import PageDirectives.Engine.Basic
import PageDirectives.Proofs.Attributes.Style
import PageDirectives.Proofs.Page.Editing

set_option autoImplicit false

/-! # The styles of a page

Setting a style property of an element, hiding an element and binding a directive to elements are
all the same change (`Page.Styled`): in the style texts of these elements a property is set, and no
element changes otherwise. The declarations of the other properties stay in the text, in order, but
what is no declaration is lost, so nothing is lost if and only if all parts of the text are
declarations (`Page.setStyle_of_declarations`). A semicolon in a quoted address ends a part like any
other one (`Page.setStyle_of_dataAddress`).
-/

namespace PageDirectives

/-- The attributes are put in order, and that is all. -/
theorem Element.entries_withAttributes (e : Element) (a : Attributes) :
    (e.withAttributes a).attributes.entries.Perm a.entries := by
  rw [Element.withAttributes, Element.attributes]
  refine ((List.mergeSort_perm _ _).map _).trans (List.Perm.of_eq ?_)
  rw [List.map_map]
  exact List.map_id' _

namespace Page

/-- In the style texts of some elements a property has been set, and no element has changed
otherwise. -/
def Styled (p p' : Page) (property value : String) (nodes : List NodeId) : Prop :=
  ∀ n, p'.document.element? n = if n ∈ nodes
    then (p.document.element? n).map fun e => e.withAttributes (e.attributes.setStyle property value)
    else p.document.element? n

variable {property value : String}

theorem styled_setStyle (p : Page) (n : NodeId) :
    p.Styled (Host.setStyle p n property value) property value [n] :=
  (edited_update fun _ _ => rfl).elements

/-- Binding a directive gives its elements a pointer as cursor. -/
theorem edited_observe (e : Engine Page) (index : Nat) {d : Directive} {event : String}
    (hevent : d.trigger = .event event) (hnodup : d.bound.Nodup) :
    e.host.Edited (e.observe index d).host (·.setStyle "cursor" "pointer") d.bound := by
  rw [Engine.observe, hevent]
  exact edited_foldl (fun _ _ => edited_update fun _ _ => rfl) e.host hnodup

theorem styled_observe (e : Engine Page) (index : Nat) {d : Directive} {event : String}
    (hevent : d.trigger = .event event) (hnodup : d.bound.Nodup) :
    e.host.Styled (e.observe index d).host "cursor" "pointer" d.bound :=
  (edited_observe e index hevent hnodup).elements

/-! ## What is lost -/

section Lost

open Style

/-- **What setting a property does to a style text.** The new text says the declarations of the old
one, with the first of the property changed or a new one behind them, and says nothing else; so the
declarations of all other properties stay, in order. What stands in the old text and is about other
things is all in the new one if and only if every part of the old text is a declaration. Hiding an
element and binding a directive do the same, to the elements that they are done for. -/
theorem setStyle_of_declarations {p v : String} (hp : IsProperty p) (hv : IsValue v) :
    (∀ a : Attributes, let old := (a.get? "style").getD ""
      ∃ new, (a.setStyle p v).get? "style" = some new ∧
        statements new = (Style.set p v (decode old)).map Statement.ofDeclaration ∧
        others p new = others p old ∧
        (((statements old).filter fun st => !st.isAbout p).Sublist (statements new) ↔
          ∀ st ∈ statements old, st.isDeclaration)) ∧
    (∀ (page : Page) (n : NodeId), page.Styled (Host.setStyle page n p v) p v [n]) ∧
    (∀ (page : Page) (n : NodeId), page.Styled (Host.setVisible page n false) "display" "none" [n]) ∧
    (∀ (e : Engine Page) (index : Nat) (d : Directive) (event : String),
      d.trigger = .event event → d.bound.Nodup →
        e.host.Styled (e.observe index d).host "cursor" "pointer" d.bound) ∧
    ∀ (e : Element) (a : Attributes), (e.withAttributes a).attributes.entries.Perm a.entries :=
  ⟨fun a => a.statements_setStyle hp hv, fun page n => page.styled_setStyle n,
    fun page n => page.styled_setStyle n, fun e index _ _ => styled_observe e index,
    Element.entries_withAttributes⟩

/-- A paragraph with a colour is hidden: the colour stays. -/
theorem setStyle_of_colour :
    let a : Attributes := ⟨[("style", "color: red; DISPLAY:block")]⟩
    IsProperty "display" ∧ IsValue "none" ∧
      (a.setStyle "display" "none").get? "style" = some "color: red; display: none;" ∧
      ((statements "color: red; DISPLAY:block").filter fun st => !st.isAbout "display").Sublist
        (statements "color: red; display: none;") := by
  intro a
  have hp : IsProperty "display" := ⟨⟨by decide, by decide⟩, by decide, by decide⟩
  have hv : IsValue "none" := ⟨by decide, by decide⟩
  have hwritten : (a.setStyle "display" "none").get? "style" = some "color: red; display: none;" := by
    decide +kernel
  obtain ⟨new, hnew, -, -, hiff⟩ := (setStyle_of_declarations hp hv).1 a
  obtain rfl := Option.some.inj (hwritten.symm.trans hnew)
  refine ⟨hp, hv, hwritten, hiff.mpr ?_⟩
  decide +kernel

/-- **An address with a semicolon in it is cut off** when a directive is bound to the element: a part
of the old text that is not about the cursor is not in the new one. -/
theorem setStyle_of_dataAddress :
    let old := "background: url(data:image/png;base64,AA==)"
    let new := "background: url(data:image/png; cursor: pointer;"
    let page := Page.parse "<p style='background: url(data:image/png;base64,AA==)'>"
    let bound := ((Engine.new page).readSource "p should hide on click").1.host
    (page.document.attributes? 4).bind (·.get? "style") = some old ∧
      (bound.document.attributes? 4).bind (·.get? "style") = some new ∧
      ¬ ((statements old).filter fun st => !st.isAbout "cursor").Sublist (statements new) := by
  decide +kernel

end Lost

end Page

end PageDirectives
