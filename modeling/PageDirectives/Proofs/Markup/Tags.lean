import PageDirectives.Markup.Token.Lexer
import PageDirectives.Proofs.Text.Fold

set_option autoImplicit false

/-! # The tags that are read

The names of the attributes of a tag are read in small letters, and of several attributes of one
name only the first is kept (`Markup.AreRead`). Every token that is read is like that, as far as it
is a start tag (`Markup.isRead_read`).
-/

namespace PageDirectives.Markup

/-- What is known of the attributes of a tag: their names are in small letters, and no two of them
are the same. -/
structure AreRead (attrs : List (String × String)) : Prop where
  lower_eq : ∀ a ∈ attrs, Text.lower a.1 = a.1
  nodup : (attrs.map Prod.fst).Nodup

def StartTag.IsRead (t : StartTag) : Prop := AreRead t.attrs

def Token.IsRead : Token → Prop
  | .startTag t => t.IsRead
  | _ => True

theorem areRead_nil : AreRead [] := ⟨List.forall_mem_nil _, List.nodup_nil⟩

/-- An attribute is added if there is none of its name yet. -/
theorem AreRead.add {known : List (String × String)} {a : String × String} (h : AreRead known)
    (ha : Text.lower a.1 = a.1) :
    AreRead (if known.any (·.1 == a.1) then known else known ++ [a]) := by
  split
  · exact h
  · next hnew =>
      refine ⟨fun b hb => ?_, ?_⟩
      · rcases List.mem_append.mp hb with hb | hb
        · exact h.lower_eq b hb
        · obtain rfl := List.mem_singleton.mp hb
          exact ha
      · rw [List.map_append, List.map_singleton, List.nodup_append]
        have hname : a.1 ∉ known.map Prod.fst := by simpa using hnew
        exact ⟨h.nodup, List.nodup_singleton _, fun _ hb _ hc => by
          rw [List.mem_singleton.mp hc]
          exact ne_of_mem_of_not_mem hb hname⟩

/-! ## Names -/

theorem lower_nameOf (s : List Char) : Text.lower (nameOf s) = nameOf s := by
  have hpatch : Chars.lower (patch (Chars.lower s)) = patch (Chars.lower s) := by
    simp only [patch, Chars.lower, List.map_map]
    refine List.map_congr_left fun c _ => ?_
    simp only [Function.comp_apply]
    split
    · rfl
    · exact Char.toLower_toLower_eq_toLower c
  rw [nameOf, Text.lower, String.toList_ofList, hpatch]

theorem lower_of_readAttribute? {s rest : List Char} {a : String × String}
    (h : readAttribute? s = some (a, rest)) : Text.lower a.1 = a.1 := by
  simp only [readAttribute?] at h
  split at h
  · cases h
  · obtain ⟨_, -, heq⟩ := Option.map_eq_some_iff.mp h
    obtain ⟨rfl, -⟩ := Prod.mk.inj heq
    exact lower_nameOf _
  · obtain ⟨rfl, -⟩ := Prod.mk.inj (Option.some.inj h)
    exact lower_nameOf _

theorem AreRead.of_readAttributes? {known : List (String × String)} {s : List Char}
    (hknown : AreRead known) {r : List (String × String) × Bool × List Char}
    (h : readAttributes? known s = some r) : AreRead r.1 := by
  fun_induction readAttributes? known s with
  | case1 => cases h
  | case2 | case3 =>
      obtain rfl := Option.some.inj h
      exact hknown
  | case4 _ _ _ _ _ _ ih => exact ih hknown h
  | case5 | case6 | case8 => cases h
  | case7 _ _ _ _ _ _ _ _ _ _ hread ih =>
      exact ih (hknown.add (lower_of_readAttribute? hread)) h

/-! ## Tokens -/

theorem isRead_readStartTag (s : List Char) : (readStartTag s).1.IsRead := by
  unfold readStartTag readTag
  simp only
  split
  · trivial
  · next hread => exact areRead_nil.of_readAttributes? hread

theorem isRead_readEndTag (s : List Char) : (readEndTag s).1.IsRead := by
  unfold readEndTag readTag
  simp only
  split <;> trivial

theorem isRead_readComment (s : List Char) : (readComment s).1.IsRead := by
  unfold readComment
  split
  · trivial
  · trivial
  · split <;> trivial

theorem isRead_readDeclaration (foreign : Bool) (s : List Char) :
    (readDeclaration foreign s).1.IsRead := by
  unfold readDeclaration
  split
  · exact isRead_readComment _
  split
  · trivial
  split
  · split <;> trivial
  · trivial

theorem isRead_readMarkup (foreign : Bool) (s : List Char) : (readMarkup foreign s).1.IsRead := by
  unfold readMarkup
  split
  · exact isRead_readDeclaration foreign _
  · trivial
  · trivial
  · split
    · exact isRead_readEndTag _
    · trivial
  · exact isRead_readStartTag _

/-- **Names are read in small letters and each once.** -/
theorem isRead_read (foreign : Bool) (l : Lexing) (s : List Char) :
    (Token.read foreign l s).1.IsRead := by
  unfold Token.read
  split
  · trivial
  · exact isRead_readMarkup foreign _
  · trivial

end PageDirectives.Markup
