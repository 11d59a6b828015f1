import PageDirectives.Proofs.Attributes.Lookup

set_option autoImplicit false

/-! # Declarations that are written back

Every change of a style reads the declarations, changes their list and writes it back. The list
that is read is always one that is read back (`Attributes.styles_writeStyles`), so a change of the
list is what happens to the declarations (`Attributes.declarations_of_edits`). The text depends on
the list alone, so an attribute that says a list already is not changed by writing it
(`Attributes.writeStyles_of_get?`), which makes both changes idempotent.
-/

namespace PageDirectives

namespace Attributes

/-- The text that is written for declarations, if there are any. -/
def styleText? (ds : List (String × String)) : Option String :=
  if ds = [] then none else some (Style.encode ds)

variable {a b : Attributes} {ds : List (String × String)} {p v : String}

/-! ## Writing -/

theorem get?_writeStyles (a : Attributes) (ds : List (String × String)) :
    (a.writeStyles ds).get? "style" = styleText? ds := by
  rw [writeStyles, styleText?]
  split
  · exact a.get?_remove_self "style"
  · exact a.get?_set_self "style" _

/-- Writing declarations that are written already changes nothing. -/
theorem writeStyles_of_get? (h : a.get? "style" = styleText? ds) : a.writeStyles ds = a := by
  rw [styleText?] at h
  rw [writeStyles]
  split at h
  · next hds => rw [if_pos hds, remove_of_get? h]
  · next hds => rw [if_neg hds, set_of_get? h]

/-- Writing declarations does nothing to the other attributes. -/
theorem remove_writeStyles (a : Attributes) (ds : List (String × String)) :
    (a.writeStyles ds).remove "style" = a.remove "style" := by
  rw [writeStyles]
  split
  · exact a.remove_remove "style"
  · exact a.remove_set "style" _

theorem get?_of_remove {name other : String} (h : Text.sameFold name other = false)
    (hremove : b.remove name = a.remove name) : b.get? other = a.get? other := by
  rw [← get?_remove_of_ne h b, hremove, get?_remove_of_ne h a]

/-! ## Reading back -/

theorem isNeat_of_mem_styles (a : Attributes) : ∀ d ∈ a.styles, Style.IsNeat d :=
  fun _ => Style.isNeat_of_mem_decode

theorem styles_of_get? (hds : ∀ d ∈ ds, Style.IsNeat d) (h : a.get? "style" = styleText? ds) :
    a.styles = ds := by
  rw [styles, h, styleText?]
  split
  · next hnil =>
      rw [hnil]
      rfl
  · exact Style.decode_encode hds

/-- **What is written is read back.** -/
theorem styles_writeStyles (a : Attributes) (hds : ∀ d ∈ ds, Style.IsNeat d) :
    (a.writeStyles ds).styles = ds := styles_of_get? hds (a.get?_writeStyles ds)

theorem styles_setStyle (a : Attributes) (hp : Style.IsProperty p) (hv : Style.IsValue v) :
    (a.setStyle p v).styles = Style.set p v a.styles :=
  a.styles_writeStyles (Style.isNeat_of_mem_set hp hv a.isNeat_of_mem_styles)

theorem styles_removeStyle (a : Attributes) (p : String) :
    (a.removeStyle p).styles = Style.remove p a.styles :=
  a.styles_writeStyles fun d hd => a.isNeat_of_mem_styles d (List.mem_filter.mp hd).1

/-! ## Changing twice -/

/-- Attributes that say what setting a property makes of a style are not changed by it. -/
theorem setStyle_of_get? (hp : Style.IsProperty p) (hv : Style.IsValue v)
    (h : b.get? "style" = (a.setStyle p v).get? "style") : b.setStyle p v = b := by
  have hstyles : b.styles = Style.set p v a.styles := by
    rw [← a.styles_setStyle hp hv, styles, styles, h]
  have htwice : Style.set p v b.styles = Style.set p v a.styles := by
    rw [hstyles, Style.set_of_find? (Style.isSet_set p v a.styles).find?_self]
  rw [setStyle, htwice]
  exact writeStyles_of_get? (h.trans (a.get?_writeStyles _))

theorem removeStyle_of_get? (h : b.get? "style" = (a.removeStyle p).get? "style") :
    b.removeStyle p = b := by
  have hstyles : b.styles = Style.remove p a.styles := by
    rw [← a.styles_removeStyle p, styles, styles, h]
  have htwice : Style.remove p b.styles = Style.remove p a.styles := by
    rw [hstyles, Style.remove_of_find? (Style.find?_remove_self p a.styles)]
  rw [removeStyle, htwice]
  exact writeStyles_of_get? (h.trans (a.get?_writeStyles _))

/-- Nothing is left if and only if there is no text. -/
theorem get?_removeStyle_eq_none_iff (a : Attributes) (p : String) :
    (a.removeStyle p).get? "style" = none ↔ (a.removeStyle p).styles = [] := by
  rw [a.styles_removeStyle, removeStyle, get?_writeStyles, styleText?]
  simp

/-! ## What a change does -/

/-- **What is done to the declarations of a style**, whatever its text is. Written back, they are
read again as they were. Setting a property gives its first declaration the value, or adds a
declaration in small letters behind all others. Removing a property removes all its declarations,
and the attribute if there is no other. Either change made once more changes nothing, and no other
attribute is touched: those that are not `style` stay in order, with their values. -/
theorem declarations_of_edits (a : Attributes) :
    (Style.decode (Style.encode a.styles) = a.styles ∧ (a.writeStyles a.styles).styles = a.styles) ∧
    (∀ p v, Style.IsProperty p → Style.IsValue v → let b := a.setStyle p v
      Style.IsSet p v a.styles b.styles ∧ b.style? p = some v ∧ b.setStyle p v = b ∧
        b.remove "style" = a.remove "style" ∧
        ∀ name, Text.sameFold "style" name = false → b.get? name = a.get? name) ∧
    ∀ p, let b := a.removeStyle p
      b.styles = a.styles.filter (fun d => !Text.sameFold d.1 p) ∧ b.style? p = none ∧
        (b.get? "style" = none ↔ b.styles = []) ∧ b.removeStyle p = b ∧
        b.remove "style" = a.remove "style" ∧
        ∀ name, Text.sameFold "style" name = false → b.get? name = a.get? name := by
  refine ⟨⟨Style.decode_encode a.isNeat_of_mem_styles, a.styles_writeStyles a.isNeat_of_mem_styles⟩,
    fun p v hp hv => ?_, fun p => ?_⟩
  · have hset : Style.IsSet p v a.styles (a.setStyle p v).styles := by
      rw [a.styles_setStyle hp hv]
      exact Style.isSet_set p v a.styles
    have hothers : (a.setStyle p v).remove "style" = a.remove "style" := a.remove_writeStyles _
    exact ⟨hset, hset.find?_self, setStyle_of_get? hp hv rfl, hothers,
      fun _ hname => get?_of_remove hname hothers⟩
  · have hothers : (a.removeStyle p).remove "style" = a.remove "style" := a.remove_writeStyles _
    have hnone : (a.removeStyle p).style? p = none := by
      rw [style?, a.styles_removeStyle]
      exact Style.find?_remove_self p a.styles
    exact ⟨a.styles_removeStyle p, hnone, a.get?_removeStyle_eq_none_iff p, removeStyle_of_get? rfl,
      hothers, fun _ hname => get?_of_remove hname hothers⟩

/-- A cursor is set in a style that has one twice and says something else as well. The first one
changes, and what is no declaration is not there any more. -/
theorem declarations_of_cursor :
    let a : Attributes := ⟨[("id", "q"), ("STYLE", " Cursor : help; junk; cursor:;color: red")]⟩
    Style.IsProperty "CURSOR" ∧ Style.IsValue "url(a:b)" ∧
      (a.setStyle "CURSOR" "url(a:b)").styles
        = [("cursor", "url(a:b)"), ("cursor", ""), ("color", "red")] ∧
      (a.setStyle "CURSOR" "url(a:b)").style? "CURSOR" = some "url(a:b)" ∧
      (a.setStyle "CURSOR" "url(a:b)").get? "id" = some "q" := by
  intro a
  have hp : Style.IsProperty "CURSOR" := ⟨⟨by decide, by decide⟩, by decide, by decide⟩
  have hv : Style.IsValue "url(a:b)" := ⟨by decide, by decide⟩
  obtain ⟨-, hset, -⟩ := declarations_of_edits a
  obtain ⟨-, hstyle, -, -, hothers⟩ := hset "CURSOR" "url(a:b)" hp hv
  exact ⟨hp, hv, by decide +kernel, hstyle, hothers "id" (by decide)⟩

end Attributes

end PageDirectives
