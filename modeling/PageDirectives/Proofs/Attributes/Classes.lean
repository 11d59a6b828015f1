import PageDirectives.Proofs.Page.Editing
import PageDirectives.Proofs.Text.Words

set_option autoImplicit false

/-! # The classes of an element

The classes of an element are the words of an attribute. Words that are written with a space between
every two are read back (`Text.words_join`), so adding a class adds it at the end of the list, if it
is not there, and removing it takes it out of the list (`Attributes.classes_addClass`,
`Attributes.classes_removeClass`), and that is all (`Attributes.classes_of_edits`). What is not a word
is never a class, as it cannot be read back.
-/

namespace PageDirectives

namespace Attributes

open Text (IsWord)

variable {a b : Attributes} {c : String}

theorem classes_set (a : Attributes) {ws : List String} (hws : ∀ w ∈ ws, IsWord w) :
    (a.set "class" (Text.join " " ws)).classes = ws := by
  rw [classes, get?_set_self, Option.getD_some, Text.words_join hws]

theorem isWord_of_mem_classes (a : Attributes) : ∀ w ∈ a.classes, IsWord w :=
  fun _ => Text.isWord_of_mem_words

/-- A class is added at the end, if it is not there. -/
theorem classes_addClass (a : Attributes) (hc : IsWord c) :
    (a.addClass c).classes = if c ∈ a.classes then a.classes else a.classes ++ [c] := by
  rw [addClass, hasClass]
  by_cases hmem : c ∈ a.classes
  · rw [if_pos hmem, if_pos (List.contains_iff_mem.mpr hmem)]
  · rw [if_neg hmem, if_neg (mt List.contains_iff_mem.mp hmem), classes_set]
    intro w hw
    rcases List.mem_append.mp hw with hw | hw
    · exact a.isWord_of_mem_classes w hw
    · exact List.mem_singleton.mp hw ▸ hc

/-- A class is taken out of the list. -/
theorem classes_removeClass (a : Attributes) (c : String) :
    (a.removeClass c).classes = a.classes.filter (· != c) := by
  rw [removeClass, hasClass]
  split
  · exact a.classes_set fun w hw => a.isWord_of_mem_classes w (List.mem_filter.mp hw).1
  · next hnot =>
      refine (List.filter_eq_self.mpr fun w hw => ?_).symm
      rw [bne_iff_ne]
      rintro rfl
      exact hnot (List.contains_iff_mem.mpr hw)

/-! ## The switch -/

/-- Gives an element a class, or takes it from it. -/
def withClass (present : Bool) (c : String) (a : Attributes) : Attributes :=
  if present then a.addClass c else a.removeClass c

/-- Having a class as a switch. -/
def membership (c : String) : Switch := ⟨(·.hasClass c), fun present => withClass present c⟩

theorem change_membership (c : String) (f : Bool → Bool) (a : Attributes) :
    (membership c).change f a = withClass (f (a.hasClass c)) c a := rfl

theorem hasClass_withClass (hc : IsWord c) (present : Bool) (a : Attributes) :
    (withClass present c a).hasClass c = present := by
  rw [withClass, hasClass]
  cases present with
  | true =>
      rw [if_pos rfl, a.classes_addClass hc, List.contains_iff_mem]
      split
      · assumption
      · exact List.mem_append_right _ (List.mem_singleton_self c)
  | false =>
      rw [if_neg Bool.false_ne_true, classes_removeClass]
      simp

theorem IsOrderly.withClass (h : a.IsOrderly) (present : Bool) (c : String) :
    (withClass present c a).IsOrderly := by
  cases present with
  | true =>
      rw [Attributes.withClass, if_pos rfl, addClass]
      split
      · exact h
      · exact h.set _ _
  | false =>
      rw [Attributes.withClass, if_neg Bool.false_ne_true, removeClass]
      split
      · exact h.set _ _
      · exact h

theorem isLawful_membership (hc : IsWord c) : (membership c).IsLawful where
  isOn_turn := hasClass_withClass hc
  isOn_congr {a b} h := by
    change a.hasClass c = b.hasClass c
    rw [hasClass, hasClass, classes, classes, h "class"]
  isOrderly present _ h := h.withClass present c

/-! ## What a change does -/

theorem hasClass_iff : a.hasClass c ↔ c ∈ a.classes := List.contains_iff_mem

theorem addClass_of_mem (h : c ∈ a.classes) : a.addClass c = a := if_pos (hasClass_iff.mpr h)

theorem removeClass_of_notMem (h : c ∉ a.classes) : a.removeClass c = a :=
  if_neg (mt hasClass_iff.mp h)

/-- Adding or removing a class does nothing to the other attributes. -/
theorem remove_withClass (present : Bool) (c : String) (a : Attributes) :
    (withClass present c a).remove "class" = a.remove "class" := by
  cases present with
  | true =>
      show (a.addClass c).remove "class" = a.remove "class"
      unfold addClass
      split
      · rfl
      · exact a.remove_set "class" _
  | false =>
      show (a.removeClass c).remove "class" = a.remove "class"
      unfold removeClass
      split
      · exact a.remove_set "class" _
      · rfl

/-- Only the class itself comes or goes. -/
theorem mem_classes_withClass_iff (hc : IsWord c) (present : Bool) {d : String} (hd : d ≠ c) :
    d ∈ (withClass present c a).classes ↔ d ∈ a.classes := by
  cases present with
  | true =>
      show d ∈ (a.addClass c).classes ↔ d ∈ a.classes
      rw [a.classes_addClass hc]
      by_cases hmem : c ∈ a.classes
      · rw [if_pos hmem]
      · simp [hmem, hd]
  | false =>
      show d ∈ (a.removeClass c).classes ↔ d ∈ a.classes
      rw [a.classes_removeClass]
      simp [hd]

/-- **What is done to the classes of an element**, whatever the text is in which they stand. A class
that is added stands behind all others, if it was not there; one that is removed stands nowhere any
more. Other classes are there if they were there before. Either change made once more changes
nothing, and to remove what has been added brings the old classes back. No other attribute is
touched: those that are not `class` stay in order, with their values. -/
theorem classes_of_edits (a : Attributes) (hc : IsWord c) :
    let added := a.addClass c
    let removed := a.removeClass c
    added.classes = (if c ∈ a.classes then a.classes else a.classes ++ [c]) ∧
    removed.classes = a.classes.filter (· != c) ∧
    (∀ d, d ≠ c → added.hasClass d = a.hasClass d ∧ removed.hasClass d = a.hasClass d) ∧
    added.addClass c = added ∧ removed.removeClass c = removed ∧
    (c ∉ a.classes → (added.removeClass c).classes = a.classes) ∧
    ∀ b, b = added ∨ b = removed → b.remove "class" = a.remove "class" ∧
      ∀ name, Text.sameFold "class" name = false → b.get? name = a.get? name := by
  intro added removed
  have hadded : added.classes = if c ∈ a.classes then a.classes else a.classes ++ [c] :=
    a.classes_addClass hc
  have hremoved : removed.classes = a.classes.filter (· != c) := a.classes_removeClass c
  have hother (present : Bool) (d : String) (hd : d ≠ c) :
      (withClass present c a).hasClass d = a.hasClass d := by
    rw [Bool.eq_iff_iff, hasClass_iff, hasClass_iff]
    exact mem_classes_withClass_iff hc present hd
  have hthere : c ∈ added.classes := by
    have hon := hasClass_withClass hc true a
    exact hasClass_iff.mp hon
  have hgone : c ∉ removed.classes := by
    rw [hremoved]
    simp
  have hback (hnew : c ∉ a.classes) : (added.removeClass c).classes = a.classes := by
    calc (added.removeClass c).classes
        = (a.classes ++ [c]).filter (· != c) := by
          rw [added.classes_removeClass, hadded, if_neg hnew]
      _ = a.classes.filter (· != c) := by simp
      _ = a.classes := by
          rw [← a.classes_removeClass, removeClass_of_notMem hnew]
  have hframe (present : Bool) : (withClass present c a).remove "class" = a.remove "class" :=
    remove_withClass present c a
  refine ⟨hadded, hremoved, fun d hd => ⟨hother true d hd, hother false d hd⟩,
    addClass_of_mem hthere, removeClass_of_notMem hgone, hback, ?_⟩
  rintro b (rfl | rfl)
  · exact ⟨hframe true, fun name hname => get?_of_remove hname (hframe true)⟩
  · exact ⟨hframe false, fun name hname => get?_of_remove hname (hframe false)⟩

/-- A class is added to two that stand between spaces of several kinds, one of them twice. -/
theorem classes_of_wideSpaces :
    let a : Attributes := ⟨[("id", "q"), ("CLASS", "\u00A0b\u2003a  b\n")]⟩
    IsWord "c" ∧ a.classes = ["b", "a", "b"] ∧ (a.addClass "c").classes = ["b", "a", "b", "c"] ∧
      (a.addClass "c").get? "class" = some "b a b c" ∧
      ((a.addClass "c").removeClass "c").classes = ["b", "a", "b"] ∧
      (a.addClass "c").get? "id" = some "q" := by
  intro a
  have hc : IsWord "c" := ⟨by decide, by simp [isBlank]⟩
  have hold : a.classes = ["b", "a", "b"] := by decide +kernel
  have hnew : "c" ∉ a.classes := by
    rw [hold]
    decide
  obtain ⟨hadded, -, -, -, -, hback, hothers⟩ := classes_of_edits a hc
  rw [if_neg hnew, hold] at hadded
  exact ⟨hc, hold, hadded, by decide +kernel, (hback hnew).trans hold,
    (hothers _ (Or.inl rfl)).2 "id" (by decide)⟩

end Attributes

end PageDirectives
