import PageDirectives.Engine.Basic
import PageDirectives.Proofs.Page.Editing

set_option autoImplicit false

/-! # Showing and hiding

Whether an element is shown is said by two of its attributes, and one of them says other things as
well. Hiding sets the property `display`, showing removes it and the attribute `hidden`, and all
that is found besides is found as before (`Page.setVisible_of_element`), on pages that were read.

Showing removes all declarations of the property, but hiding changes only the first one
(`Page.hide_of_declarations`). So an element that is hidden may still declare something else behind
that (`Page.hide_of_twoDeclarations`).
-/

namespace PageDirectives

namespace Attributes

/-- Whether an element with these attributes is shown. -/
def isShown (a : Attributes) : Bool :=
  (a.get? "hidden").isNone && !(a.style? "display").any (Text.sameFold · "none")

/-- Visibility as a switch. -/
def visibility : Switch := ⟨isShown, Page.withVisible⟩

theorem change_visibility (f : Bool → Bool) (a : Attributes) :
    visibility.change f a = Page.withVisible (f a.isShown) a := rfl

theorem isProperty_display : Style.IsProperty "display" :=
  ⟨⟨by decide, by decide⟩, by decide, by decide⟩

theorem isValue_none : Style.IsValue "none" := ⟨by decide, by decide⟩

variable {a b : Attributes} {visible : Bool} {name : String}

theorem styles_congr (h : b.get? "style" = a.get? "style") : b.styles = a.styles := by
  rw [styles, styles, h]

/-! ## What is found -/

theorem get?_withVisible (a : Attributes) (hstyle : Text.sameFold "style" name = false)
    (hhidden : visible → Text.sameFold "hidden" name = false) :
    (Page.withVisible visible a).get? name = a.get? name := by
  cases visible with
  | true =>
      have hremove := get?_remove_of_ne (hhidden rfl) (a.removeStyle "display")
      exact hremove.trans (get?_of_remove hstyle (a.remove_writeStyles _))
  | false => exact get?_of_remove hstyle (a.remove_writeStyles _)

theorem get?_style_show (a : Attributes) :
    (Page.withVisible true a).get? "style" = (a.removeStyle "display").get? "style" :=
  get?_remove_of_ne (by decide) _

theorem get?_hidden_show (a : Attributes) : (Page.withVisible true a).get? "hidden" = none :=
  get?_remove_self _ _

theorem styles_show (a : Attributes) :
    (Page.withVisible true a).styles = Style.remove "display" a.styles :=
  (styles_congr a.get?_style_show).trans (a.styles_removeStyle "display")

theorem styles_hide (a : Attributes) :
    (Page.withVisible false a).styles = Style.set "display" "none" a.styles :=
  a.styles_setStyle isProperty_display isValue_none

/-- The declarations of other properties stay. -/
theorem remove_styles_withVisible (visible : Bool) (a : Attributes) :
    Style.remove "display" (Page.withVisible visible a).styles
      = Style.remove "display" a.styles := by
  cases visible with
  | true => rw [styles_show, Style.remove_of_find? (Style.find?_remove_self _ _)]
  | false =>
      rw [styles_hide]
      exact Style.filter_set _ _ _

/-! ## The switch -/

theorem isShown_withVisible (visible : Bool) (a : Attributes) :
    (Page.withVisible visible a).isShown = visible := by
  rw [isShown, style?]
  cases visible with
  | true =>
      rw [get?_hidden_show, styles_show, Style.find?_remove_self]
      rfl
  | false =>
      rw [styles_hide, (Style.isSet_set _ _ _).find?_self]
      exact Bool.and_false _

theorem IsOrderly.withVisible (visible : Bool) (h : a.IsOrderly) :
    (Page.withVisible visible a).IsOrderly := by
  cases visible with
  | true => exact (h.writeStyles _).remove _
  | false => exact h.writeStyles _

theorem isLawful_visibility : visibility.IsLawful where
  isOn_turn := isShown_withVisible
  isOn_congr {a b} h := by
    change a.isShown = b.isShown
    rw [isShown, isShown, h "hidden", style?, style?, styles_congr (h "style")]
  isOrderly visible _ h := h.withVisible visible

/-- Attributes that already say what showing or hiding makes them say are not changed by it. -/
theorem withVisible_of_get? (h : ∀ name, b.get? name = (Page.withVisible visible a).get? name) :
    Page.withVisible visible b = b := by
  cases visible with
  | true =>
      have hstyle : b.removeStyle "display" = b :=
        removeStyle_of_get? ((h "style").trans a.get?_style_show)
      have hhidden : b.get? "hidden" = none := (h "hidden").trans a.get?_hidden_show
      rw [Page.withVisible, if_pos rfl, hstyle, remove_of_get? hhidden]
  | false => exact setStyle_of_get? isProperty_display isValue_none (h "style")

end Attributes

/-! ## Elements of a page -/

namespace Page

open Attributes (visibility)

variable {markup : String} {p : Page} {n : NodeId}

theorem edited_setVisible (p : Page) (n : NodeId) (visible : Bool) :
    p.Edited (Host.setVisible p n visible) (Page.withVisible visible) [n] :=
  edited_update fun _ _ => rfl

/-- Showing or hiding an element once more changes nothing. -/
theorem setVisible_setVisible (hp : p.document.AllElements Element.IsRegular) (n : NodeId)
    (visible : Bool) :
    Host.setVisible (Host.setVisible p n visible) n visible = Host.setVisible p n visible := by
  have hedit : (p.document.update n (withVisible visible)).update n (withVisible visible)
      = p.document.update n (withVisible visible) := by
    refine Document.edit_eq_self fun c hc => ?_
    rw [Document.update, Document.content?_edit, if_pos rfl] at hc
    obtain ⟨c, hold, rfl⟩ := Option.map_eq_some_iff.mp hc
    cases c with
    | element e =>
        have he : p.document.element? n = some e := by rw [Document.element?, hold]; rfl
        -- what is found in the attributes that were written back is all that a change looks at
        have hput := ((hp n e he).isOrderly.withVisible visible).get?_withAttributes e
        have hsame := Attributes.withVisible_of_get? hput
        exact congrArg Content.element
          ((congrArg (Element.withAttributes _) hsame).trans (e.withAttributes_attributes _))
    | _ => rfl
  exact congrArg (fun d => { p with document := d }) hedit

/-- **What showing and hiding an element does**, on a page that was read and whatever has become
of it since. The element is shown, or it is not. All its attributes are found with their values,
but for its style, and for `hidden` if it is shown. The declarations of other properties stay, in
order. Other nodes are as visible as before. Once more, and nothing changes. -/
theorem setVisible_of_element (hp : (parse markup).Becomes p) (hn : p.document.HasElement n)
    (visible : Bool) :
    let p' : Page := Host.setVisible p n visible
    Host.isVisible p' n = visible ∧
    (∃ a a', p.document.attributes? n = some a ∧ p'.document.attributes? n = some a' ∧
      (∀ name, Text.sameFold "style" name = false →
        (visible → Text.sameFold "hidden" name = false) → a'.get? name = a.get? name) ∧
      a'.styles.filter (fun d => !Text.sameFold d.1 "display")
        = a.styles.filter fun d => !Text.sameFold d.1 "display") ∧
    (∀ m, m ≠ n → Host.isVisible p' m = Host.isVisible p m) ∧
    Host.setVisible p' n visible = p' := by
  intro p'
  have hedited : p.Edited p' (withVisible visible) [n] := p.edited_setVisible n visible
  have hmem : n ∈ [n] := List.mem_singleton_self n
  obtain ⟨a, a', ha, ha', hfound⟩ :=
    hedited.exists_attributes? hmem (fun _ h => h.withVisible visible) hp.isRegular hn
  refine ⟨?_, ⟨a, a', ha, ha', fun name hstyle hhidden => ?_, ?_⟩, fun m hm => ?_,
    setVisible_setVisible hp.isRegular n visible⟩
  · exact Edited.isOn (f := fun _ => visible) hedited Attributes.isLawful_visibility hp.isRegular
      hmem hn
  · exact (hfound name).trans (a.get?_withVisible hstyle hhidden)
  · rw [Attributes.styles_congr (hfound "style")]
    exact Attributes.remove_styles_withVisible visible a
  · exact hedited.isOn_of_notMem (by simpa using hm) visibility

/-- A paragraph whose style says twice that it is not shown is shown, and keeps its colour. -/
theorem setVisible_of_paragraph :
    let page := parse "<p style='color: red; Display:NONE; display: none'>"
    (parse "<p style='color: red; Display:NONE; display: none'>").Becomes page ∧
      page.document.HasElement 4 ∧ Host.isVisible page 4 = false ∧
      Host.isVisible (Host.setVisible page 4 true) 4 = true ∧
      Host.setVisible (Host.setVisible page 4 true) 4 true = Host.setVisible page 4 true ∧
      ((Host.setVisible page 4 true).document.attributes? 4).bind (·.get? "style")
        = some "color: red;" := by
  intro page
  have hpage : (parse "<p style='color: red; Display:NONE; display: none'>").Becomes page := .refl _
  have helement : page.document.HasElement 4 := by
    unfold Document.HasElement
    decide +kernel
  obtain ⟨hshown, -, -, htwice⟩ := setVisible_of_element hpage helement true
  exact ⟨hpage, helement, by decide +kernel, hshown, htwice, by decide +kernel⟩

/-! ## Hiding what declares more than once -/

/-- **What hiding does to the declarations of `display`**: the first one says `none`, and those
behind it are as they were. So all of them say `none` if and only if those behind the first did so
before, and the last one is not changed if there are several. The engine takes the element for
hidden in any case, as it looks at the first. -/
theorem hide_of_declarations (hp : (parse markup).Becomes p) (hn : p.document.HasElement n) :
    let p' : Page := Host.setVisible p n false
    ∃ a a', p.document.attributes? n = some a ∧ p'.document.attributes? n = some a' ∧
      let old := a.styles.filter fun d => Text.sameFold d.1 "display"
      let new := a'.styles.filter fun d => Text.sameFold d.1 "display"
      new = ("display", "none") :: old.tail ∧
      ((∀ d ∈ new, Text.sameFold d.2 "none") ↔ ∀ d ∈ old.tail, Text.sameFold d.2 "none") ∧
      (old.tail ≠ [] → new.getLast? = old.getLast?) ∧
      Host.isVisible p' n = false := by
  intro p'
  have hedited : p.Edited p' (withVisible false) [n] := p.edited_setVisible n false
  have hmem : n ∈ [n] := List.mem_singleton_self n
  obtain ⟨a, a', ha, ha', hfound⟩ :=
    hedited.exists_attributes? hmem (fun _ h => h.withVisible false) hp.isRegular hn
  refine ⟨a, a', ha, ha', ?_⟩
  intro old new
  have hset : Style.IsSet "display" "none" a.styles a'.styles := by
    rw [Attributes.styles_congr (hfound "style"), Attributes.styles_hide]
    exact Style.isSet_set _ _ _
  have hnew : new = ("display", "none") :: old.tail := by
    have hlower : Text.lower "display" = "display" := by decide
    have hfilter := hset.filter fun d hd => (a.isNeat_of_mem_styles d hd).lower_eq
    rwa [hlower] at hfilter
  refine ⟨hnew, ?_, fun htail => ?_, ?_⟩
  · rw [hnew, List.forall_mem_cons]
    exact and_iff_right (by decide)
  · rw [hnew, List.getLast?_cons_of_ne_nil htail]
    cases hold : old with
    | nil => exact absurd (by rw [hold]; rfl) htail
    | cons d ds =>
        rw [hold] at htail
        exact (List.getLast?_cons_of_ne_nil htail).symm
  · exact Edited.isOn (f := fun _ => false) hedited Attributes.isLawful_visibility hp.isRegular
      hmem hn

/-- A paragraph that is a block, of which a later declaration says that it is hidden. -/
theorem hide_of_block :
    let markup := "<p style='display: block; color: red; DISPLAY: None'>"
    let page := parse markup
    (parse markup).Becomes page ∧ page.document.HasElement 4 ∧
      ∃ a a', page.document.attributes? 4 = some a ∧
        a.styles = [("display", "block"), ("color", "red"), ("display", "None")] ∧
        (Host.setVisible page 4 false).document.attributes? 4 = some a' ∧
        a'.styles.filter (fun d => Text.sameFold d.1 "display")
          = [("display", "none"), ("display", "None")] ∧
        ∀ d ∈ a'.styles.filter (fun d => Text.sameFold d.1 "display"),
          Text.sameFold d.2 "none" := by
  intro markup page
  have hpage : (parse markup).Becomes page := .refl _
  have hold : (page.document.attributes? 4).map Attributes.styles
      = some [("display", "block"), ("color", "red"), ("display", "None")] := by
    decide +kernel
  have helement : page.document.HasElement 4 := by
    have hsome := congrArg Option.isSome hold
    rwa [Option.isSome_map, Document.attributes?, Option.isSome_map] at hsome
  obtain ⟨a, a', ha, ha', hnew, hiff, -⟩ := hide_of_declarations hpage helement
  rw [ha, Option.map_some, Option.some.injEq] at hold
  refine ⟨hpage, helement, a, a', ha, hold, ha', hnew.trans ?_, hiff.mpr ?_⟩
  · rw [hold]
    decide
  · rw [hold]
    decide

/-- **A second declaration is left as it is**: a paragraph that is hidden when the page is loaded
still declares to be a block, behind the declaration that hides it. -/
theorem hide_of_twoDeclarations :
    let page := parse "<p style='display: inline; display: block'>"
    let loaded := ((Engine.new page).readSource "p should hide on load").1.host
    loaded.document.attributes? 4 = (Host.setVisible page 4 false).document.attributes? 4 ∧
      (loaded.document.attributes? 4).map Attributes.styles
        = some [("display", "none"), ("display", "block")] ∧
      ¬ ∀ a ∈ loaded.document.attributes? 4, ∀ d ∈ a.styles,
        Text.sameFold d.1 "display" → Text.sameFold d.2 "none" := by
  intro page loaded
  have hstyles : (loaded.document.attributes? 4).map Attributes.styles
      = some [("display", "none"), ("display", "block")] := by decide +kernel
  refine ⟨by decide +kernel, hstyles, fun hall => ?_⟩
  obtain ⟨a, ha, heq⟩ := Option.map_eq_some_iff.mp hstyles
  have hblock := hall a ha ("display", "block") (by rw [heq]; decide) (by decide)
  exact absurd hblock (by decide)

end Page

end PageDirectives
