import PageDirectives.Proofs.Attributes.Classes
import PageDirectives.Proofs.Document.Order
import PageDirectives.Proofs.Page.Arising
import PageDirectives.Proofs.Selector.ClassTest
import PageDirectives.Proofs.Text.Spacing

set_option autoImplicit false

/-! # Classes that selectors see

There are two ways to ask whether an element has a class: by name, and by a selector that is a dot
and the name. Both read the same text (`Page.classText`), but they split it at different white space
(`Page.hasClass_iff`, `Page.isMatch_iff`). They agree if there is no white space in it other than
ASCII white space; in general a class that a selector sees is there, and not the other way round.

When a class is added or removed, the text is put together again, if it has to be changed at all. So
selectors see a class that was added (`Attributes.mem_seen_addClass_iff`), unless it was there
already and they did not see it, and never one that was removed
(`Attributes.not_mem_seen_removeClass`). Other classes they may see only now, if there was other
white space between them.
-/

namespace PageDirectives

namespace Attributes

open Text (IsWord IsAsciiSpaced)

variable {a : Attributes} {c d : String}

/-- The text in which the classes stand. -/
def classText (a : Attributes) : String := (a.get? "class").getD ""

/-- The classes that selectors see. -/
def seen (a : Attributes) : List String := Text.asciiWords a.classText

theorem mem_classes_of_mem_seen (hc : IsWord c) (h : c ∈ a.seen) : c ∈ a.classes :=
  Text.mem_words_of_mem_asciiWords hc h

theorem seen_eq_classes (h : IsAsciiSpaced a.classText) : a.seen = a.classes :=
  Text.asciiWords_eq_words h

theorem isAsciiSpaced_set (a : Attributes) {ws : List String} (hws : ∀ w ∈ ws, IsWord w) :
    IsAsciiSpaced (a.set "class" (Text.join " " ws)).classText := by
  rw [classText, get?_set_self, Option.getD_some]
  exact Text.isAsciiSpaced_join hws

/-- A text that is put together again has spaces only. -/
theorem isAsciiSpaced_of_change (hc : IsWord c) {present : Bool} (h : a.hasClass c ≠ present) :
    IsAsciiSpaced (withClass present c a).classText := by
  cases present with
  | true =>
      show IsAsciiSpaced (a.addClass c).classText
      rw [addClass, if_neg h]
      refine a.isAsciiSpaced_set fun w hw => ?_
      rcases List.mem_append.mp hw with hw | hw
      · exact a.isWord_of_mem_classes w hw
      · exact List.mem_singleton.mp hw ▸ hc
  | false =>
      show IsAsciiSpaced (a.removeClass c).classText
      rw [removeClass, if_pos (by simpa using h)]
      exact a.isAsciiSpaced_set fun w hw => a.isWord_of_mem_classes w (List.mem_filter.mp hw).1

theorem withClass_of_hasClass {present : Bool} (h : a.hasClass c = present) :
    withClass present c a = a := by
  cases present with
  | true => exact addClass_of_mem (hasClass_iff.mp h)
  | false =>
      refine removeClass_of_notMem fun hmem => ?_
      rw [hasClass_iff.mpr hmem] at h
      cases h

theorem isAsciiSpaced_withClass (hc : IsWord c) (present : Bool) (h : IsAsciiSpaced a.classText) :
    IsAsciiSpaced (withClass present c a).classText := by
  by_cases hsame : a.hasClass c = present
  · rw [withClass_of_hasClass hsame]
    exact h
  · exact isAsciiSpaced_of_change hc hsame

/-- **A class that is added is seen**, unless it was there unseen. -/
theorem mem_seen_addClass_iff (hc : IsWord c) :
    c ∈ (a.addClass c).seen ↔ (c ∈ a.classes → c ∈ a.seen) := by
  by_cases hmem : c ∈ a.classes
  · rw [addClass_of_mem hmem]
    simp [hmem]
  · have hchange : a.hasClass c ≠ true := mt hasClass_iff.mp hmem
    have hspaced := isAsciiSpaced_of_change hc hchange
    rw [withClass, if_pos rfl] at hspaced
    rw [seen_eq_classes hspaced, a.classes_addClass hc, if_neg hmem]
    simp [hmem]

/-- **A class that is removed is not seen.** -/
theorem not_mem_seen_removeClass (hc : IsWord c) : c ∉ (a.removeClass c).seen := by
  intro hseen
  have hmem := mem_classes_of_mem_seen hc hseen
  rw [a.classes_removeClass] at hmem
  simp at hmem

/-- **Other classes** are seen as before if the text is left as it is, and if it is put together
again they are seen if they are there. -/
theorem mem_seen_withClass_iff (hc : IsWord c) (present : Bool) (hd : d ≠ c) :
    d ∈ (withClass present c a).seen ↔
      if a.hasClass c = present then d ∈ a.seen else d ∈ a.classes := by
  split
  · next hsame => rw [withClass_of_hasClass hsame]
  · next hchange =>
      rw [seen_eq_classes (isAsciiSpaced_of_change hc hchange)]
      exact mem_classes_withClass_iff hc present hd

end Attributes

/-! ## What selectors see of an element -/

/-- **Selectors see the classes in the text of the attribute**, if it is spelled in small letters. -/
theorem ElementTest.classesOf_eq {e : Element} (he : e.SpellsClass) :
    ElementTest.classesOf e = e.attributes.seen := by
  have hfind : e.attrs.find? (·.name.name == "class")
      = e.attrs.find? fun a => Text.sameFold a.name.name "class" := by
    refine List.find?_congr fun a ha => ?_
    rw [Bool.eq_iff_iff, beq_iff_eq]
    refine ⟨fun h => ?_, he a.name.name ?_⟩
    · rw [h]
      decide
    · rw [Attributes.names, Element.attributes, List.map_map]
      exact List.mem_map_of_mem ha
  have htext : e.attributes.classText
      = ((e.attrs.find? (·.name.name == "class")).map Attr.value).getD "" := by
    rw [Attributes.classText, Attributes.get?, Element.attributes, List.find?_map, Option.map_map,
      hfind]
    rfl
  rw [ElementTest.classesOf, Attributes.seen, htext]
  cases e.attrs.find? (·.name.name == "class") with
  | none => decide
  | some a => rfl

namespace Page

open Text (IsWord IsAsciiSpaced)

/-- A name that is made of letters. -/
structure IsLetters (c : String) : Prop where
  ne_empty : c ≠ ""
  alpha : ∀ d ∈ c.toList, d.isAlpha

theorem IsLetters.isWord {c : String} (hc : IsLetters c) : IsWord c where
  ne_empty := hc.ne_empty
  solid d hd := by
    rw [Bool.eq_false_iff]
    intro hblank
    have hnot := isAlpha_of_isBlank hblank
    rw [hc.alpha d hd] at hnot
    cases hnot

variable {markup : String} {p p' : Page} {c d : String} {n m : NodeId}

/-- The text in which the classes of an element stand. -/
def classText (p : Page) (n : NodeId) : String :=
  ((p.document.attributes? n).map Attributes.classText).getD ""

/-- A dot and letters match an element that passes the test for the class. -/
theorem isMatch_class (p : Page) (n : NodeId) (hc : IsLetters c) :
    p.isMatch n ("." ++ c)
      = (p.document.element? n).any fun e => (ElementTest.classesOf e).contains c := by
  rw [isMatch, Selector.parse?_of_class hc.ne_empty hc.alpha, Option.any_some, Document.element?,
    Document.content?]
  cases p.document.cursor? n with
  | none => rfl
  | some place =>
      have htest (place : Cursor Node) : (ElementTest.hasClass c).accepts place
          = place.element?.any fun e => (ElementTest.classesOf e).contains c := by
        rw [ElementTest.accepts]
        cases place.element? <;> rfl
      have haccepts : (Selector.either (.test (.hasClass c)) .never).accepts place
          = (place.isElement && (ElementTest.hasClass c).accepts place) := by
        simp [Selector.accepts, Selector.acceptsFrom]
      rw [Option.any_some, haccepts, htest]
      show (place.element?.isSome && _) = place.element?.any _
      cases place.element? <;> simp

/-! ## The two ways to ask -/

theorem hasClass_iff : Host.hasClass p n c ↔ c ∈ Text.words (p.classText n) := by
  rw [classText]
  show (p.document.attributes? n).any (·.hasClass c) ↔ _
  cases p.document.attributes? n with
  | none =>
      have hnone : Text.words "" = [] := by decide
      simp [hnone]
  | some a => exact Attributes.hasClass_iff

theorem Arises.isMatch_iff (h : p.Arises markup) (hc : IsLetters c) :
    p.isMatch n ("." ++ c) ↔ c ∈ Text.asciiWords (p.classText n) := by
  rw [p.isMatch_class n hc, classText, Document.attributes?]
  cases he : p.document.element? n with
  | none =>
      have hnone : Text.asciiWords "" = [] := by decide
      simp [hnone]
  | some e =>
      rw [Option.any_some, ElementTest.classesOf_eq (h.spellsClass n e he), List.contains_iff_mem]
      rfl

theorem mem_select_iff {selector : String} :
    n ∈ p.select selector ↔ p.document.isAttached n ∧ p.isMatch n selector := by
  rw [p.select_eq_filter, List.mem_filter, Document.mem_attached_iff, Document.isAttached_iff]

end Page

/-! ## Changes -/

namespace Document

variable (d : Document) (n : NodeId) (f : Attributes → Attributes)

/-- The document order is the same. -/
theorem attached_update :
    (d.update n f).attached.map Cursor.id = d.attached.map Cursor.id := by
  have horder := (d.update n f).preorder_attached
  have hlinks : (d.update n f).links = d.links := links_edit d n _
  rw [hlinks] at horder
  exact horder.unique d.preorder_attached

theorem isAttached_update (m : NodeId) : (d.update n f).isAttached m = d.isAttached m := by
  rw [Bool.eq_iff_iff, isAttached_iff, isAttached_iff, ← mem_attached_iff, ← mem_attached_iff,
    attached_update]

end Document

namespace Page

open Text (IsWord IsAsciiSpaced)

variable {markup : String} {p : Page} {c : String} {n : NodeId}

theorem select_update {f : Attributes → Attributes} {selector : String}
    (h : ∀ m, (p.update n f).isMatch m selector = p.isMatch m selector) :
    (p.update n f).select selector = p.select selector := by
  have horder := p.document.attached_update n f
  calc (p.update n f).select selector
      = ((p.document.update n f).attached.map Cursor.id).filter
          ((p.update n f).isMatch · selector) := (p.update n f).select_eq_filter selector
    _ = (p.document.attached.map Cursor.id).filter (p.isMatch · selector) := by
        rw [horder]
        exact List.filter_congr fun m _ => h m
    _ = p.select selector := (p.select_eq_filter selector).symm

theorem Arises.withClass (h : p.Arises markup) (n : NodeId) (present : Bool) (c : String) :
    (p.update n (Attributes.withClass present c)).Arises markup := by
  cases present with
  | true => exact h.addClass n c
  | false => exact h.removeClass n c

/-- The classes of an element before and after one is added or removed. -/
theorem Arises.exists_classText (h : p.Arises markup) (hn : p.document.HasElement n)
    (present : Bool) (c : String) :
    ∃ a : Attributes, p.classText n = a.classText ∧
      (p.update n (Attributes.withClass present c)).classText n
        = (Attributes.withClass present c a).classText := by
  have hedited : p.Edited (p.update n (Attributes.withClass present c))
      (Attributes.withClass present c) [n] := edited_update fun _ _ => rfl
  obtain ⟨a, a', ha, ha', hfound⟩ := hedited.exists_attributes? (List.mem_singleton_self n)
    (fun _ horderly => horderly.withClass present c) h.becomes.isRegular hn
  refine ⟨a, ?_, ?_⟩
  · rw [classText, ha]
    rfl
  · rw [classText, ha', Attributes.classText, ← hfound "class"]
    rfl

theorem classText_of_ne {m : NodeId} (hm : m ≠ n) (f : Attributes → Attributes) :
    (p.update n f).classText m = p.classText m := by
  have hedited : p.Edited (p.update n f) f [n] := edited_update fun _ _ => rfl
  rw [classText, hedited.attributes?_of_notMem (by simpa using hm), classText]

/-- A node that is no element has no classes. -/
theorem classText_of_not_hasElement (hn : ¬ p.document.HasElement n) : p.classText n = "" := by
  have hnone : p.document.element? n = none := by
    simpa [Document.HasElement] using hn
  rw [classText, Document.attributes?, hnone]
  rfl

theorem hasElement_update_iff (f : Attributes → Attributes) :
    (p.update n f).document.HasElement n ↔ p.document.HasElement n := by
  have hupdate : (p.update n f).document.element? n
      = if n = n then (p.document.element? n).map fun e => e.withAttributes (f e.attributes)
        else p.document.element? n := p.document.element?_update n f n
  rw [Document.HasElement, hupdate, if_pos rfl, Option.isSome_map]
  rfl

theorem mem_select_update_iff {m : NodeId} {f : Attributes → Attributes} {selector : String} :
    m ∈ (p.update n f).select selector
      ↔ p.document.isAttached m ∧ (p.update n f).isMatch m selector := by
  have hattached : (p.update n f).document.isAttached m = p.document.isAttached m :=
    p.document.isAttached_update n f m
  rw [mem_select_iff, hattached]

/-- **A class that has been added is matched**, unless it was there unmatched. -/
theorem Arises.isMatch_addClass_iff (h : p.Arises markup) (hc : IsLetters c)
    (hn : p.document.HasElement n) :
    (p.update n (Attributes.withClass true c)).isMatch n ("." ++ c)
      ↔ (Host.hasClass p n c → p.isMatch n ("." ++ c)) := by
  obtain ⟨a, htext, htext'⟩ := h.exists_classText hn true c
  rw [(h.withClass n true c).isMatch_iff hc, h.isMatch_iff hc, hasClass_iff, htext, htext']
  exact Attributes.mem_seen_addClass_iff hc.isWord

/-- **A class that has been removed is not matched.** -/
theorem Arises.not_isMatch_removeClass (h : p.Arises markup) (hc : IsLetters c) (n : NodeId) :
    ¬ (p.update n (Attributes.withClass false c)).isMatch n ("." ++ c) := by
  rw [(h.withClass n false c).isMatch_iff hc]
  by_cases hn : p.document.HasElement n
  · obtain ⟨a, -, htext'⟩ := h.exists_classText hn false c
    rw [htext']
    exact Attributes.not_mem_seen_removeClass hc.isWord
  · have hnone : Text.asciiWords "" = [] := by decide
    rw [classText_of_not_hasElement (mt (hasElement_update_iff _).mp hn), hnone]
    exact List.not_mem_nil

theorem Arises.isAsciiSpaced_withClass (h : p.Arises markup) (hc : IsWord c) (present : Bool)
    (hspaced : IsAsciiSpaced (p.classText n)) :
    IsAsciiSpaced ((p.update n (Attributes.withClass present c)).classText n) := by
  by_cases hn : p.document.HasElement n
  · obtain ⟨a, htext, htext'⟩ := h.exists_classText hn present c
    rw [htext] at hspaced
    rw [htext']
    exact Attributes.isAsciiSpaced_withClass hc present hspaced
  · rw [classText_of_not_hasElement (mt (hasElement_update_iff _).mp hn)]
    exact fun d hd => absurd hd (by simp)

/-- Other elements are matched as before. -/
theorem Arises.isMatch_withClass_of_ne (h : p.Arises markup) {m : NodeId} (hm : m ≠ n)
    (present : Bool) (c : String) {d : String} (hd : IsLetters d) :
    (p.update n (Attributes.withClass present c)).isMatch m ("." ++ d) = p.isMatch m ("." ++ d) := by
  rw [Bool.eq_iff_iff, (h.withClass n present c).isMatch_iff hd, h.isMatch_iff hd,
    classText_of_ne hm]

/-- **Other classes of the element** are matched as before if nothing had to be done to its text of
classes, and otherwise if it has them. -/
theorem Arises.isMatch_withClass_eq (h : p.Arises markup) (hc : IsWord c) (present : Bool)
    {d : String} (hd : IsLetters d) (hne : d ≠ c) :
    (p.update n (Attributes.withClass present c)).isMatch n ("." ++ d) =
      if Host.hasClass p n c = present then p.isMatch n ("." ++ d) else Host.hasClass p n d := by
  rw [Bool.eq_iff_iff, apply_ite (· = true), (h.withClass n present c).isMatch_iff hd,
    h.isMatch_iff hd, hasClass_iff]
  by_cases helement : p.document.HasElement n
  · obtain ⟨a, htext, htext'⟩ := h.exists_classText helement present c
    have hhas : Host.hasClass p n c = a.hasClass c := by
      rw [Bool.eq_iff_iff, hasClass_iff, htext]
      exact Attributes.hasClass_iff.symm
    rw [hhas, htext, htext']
    exact Attributes.mem_seen_withClass_iff hc present hne
  · have hnone : Text.asciiWords "" = [] ∧ Text.words "" = [] := by decide
    rw [classText_of_not_hasElement helement,
      classText_of_not_hasElement (mt (hasElement_update_iff _).mp helement), hnone.1, hnone.2,
      ite_self]

/-- So they are matched as before if there is no other white space in the text. -/
theorem Arises.isMatch_withClass (h : p.Arises markup) (hc : IsWord c)
    (hspaced : IsAsciiSpaced (p.classText n)) (present : Bool) {d : String} (hd : IsLetters d)
    (hne : d ≠ c) :
    (p.update n (Attributes.withClass present c)).isMatch n ("." ++ d) = p.isMatch n ("." ++ d) := by
  have hsame : Host.hasClass p n d = p.isMatch n ("." ++ d) := by
    rw [Bool.eq_iff_iff, hasClass_iff, h.isMatch_iff hd, Text.asciiWords_eq_words hspaced]
  rw [h.isMatch_withClass_eq hc present hd hne, hsame, ite_self]

/-- **Other selections of classes are the same** after a class has been added or removed, if there
is no other white space among the classes of the element. -/
theorem Arises.select_withClass (h : p.Arises markup) (hc : IsWord c)
    (hspaced : IsAsciiSpaced (p.classText n)) (present : Bool) {d : String} (hd : IsLetters d)
    (hne : d ≠ c) :
    (p.update n (Attributes.withClass present c)).select ("." ++ d) = p.select ("." ++ d) := by
  refine select_update fun m => ?_
  by_cases hm : m = n
  · subst hm
    exact h.isMatch_withClass hc hspaced present hd hne
  · exact h.isMatch_withClass_of_ne hm present c hd

/-- **The two ways to ask for a class**, on every page that has arisen and for every class that is
made of letters. By name, an element has it if it is one of the words of its text of classes; a dot
and the class match it if it is one of the words between ASCII white space. So what is matched has
the class, and if there is no other white space in the text the two are the same.

When the class is added, the element is matched, unless it had the class before and was not matched;
when the class is removed, it is not matched any more. If it is attached, it is selected likewise.
Another class of the element is matched as before if there was nothing to add or to remove, and
otherwise if the element has it. Elements other than this one are matched as before. If there is no
other white space in the text then none comes, and all other classes are matched and selected as
before. -/
theorem classes_of_arises (h : p.Arises markup) (hc : IsLetters c) (n : NodeId) :
    let text := p.classText n
    let added := Host.addClass p n c
    let removed := Host.removeClass p n c
    (Host.hasClass p n c ↔ c ∈ Text.words text) ∧
    (p.isMatch n ("." ++ c) ↔ c ∈ Text.asciiWords text) ∧
    (p.isMatch n ("." ++ c) → Host.hasClass p n c) ∧
    (IsAsciiSpaced text → (Host.hasClass p n c ↔ p.isMatch n ("." ++ c))) ∧
    (p.document.HasElement n →
      (added.isMatch n ("." ++ c) ↔ (Host.hasClass p n c → p.isMatch n ("." ++ c))) ∧
      (n ∈ added.select ("." ++ c) ↔
        p.document.isAttached n ∧ (Host.hasClass p n c → p.isMatch n ("." ++ c)))) ∧
    ¬ removed.isMatch n ("." ++ c) ∧ n ∉ removed.select ("." ++ c) ∧
    (∀ d, IsLetters d → d ≠ c →
      (added.isMatch n ("." ++ d) =
        if Host.hasClass p n c then p.isMatch n ("." ++ d) else Host.hasClass p n d) ∧
      (removed.isMatch n ("." ++ d) =
        if Host.hasClass p n c then Host.hasClass p n d else p.isMatch n ("." ++ d))) ∧
    ∀ q, q = added ∨ q = removed → (IsAsciiSpaced text → IsAsciiSpaced (q.classText n)) ∧
      ∀ d, IsLetters d → (∀ m, m ≠ n → q.isMatch m ("." ++ d) = p.isMatch m ("." ++ d)) ∧
        (d ≠ c → IsAsciiSpaced text → q.isMatch n ("." ++ d) = p.isMatch n ("." ++ d) ∧
          q.select ("." ++ d) = p.select ("." ++ d)) := by
  intro text added removed
  have hadd : added = p.update n (Attributes.withClass true c) := rfl
  have hremove : removed = p.update n (Attributes.withClass false c) := rfl
  have hword : IsWord c := hc.isWord
  have hname : Host.hasClass p n c ↔ c ∈ Text.words text := hasClass_iff
  have hmatch : p.isMatch n ("." ++ c) ↔ c ∈ Text.asciiWords text := h.isMatch_iff hc
  refine ⟨hname, hmatch, ?_, fun hspaced => ?_, fun hn => ?_, ?_, ?_, fun d hd hne => ⟨?_, ?_⟩, ?_⟩
  · rw [hname, hmatch]
    exact Text.mem_words_of_mem_asciiWords hword
  · rw [hname, hmatch, Text.asciiWords_eq_words hspaced]
  · rw [hadd, mem_select_update_iff, h.isMatch_addClass_iff hc hn]
    exact ⟨Iff.rfl, Iff.rfl⟩
  · rw [hremove]
    exact h.not_isMatch_removeClass hc n
  · rw [hremove, mem_select_update_iff]
    exact fun hmem => h.not_isMatch_removeClass hc n hmem.2
  · exact h.isMatch_withClass_eq hword true hd hne
  · rw [hremove, h.isMatch_withClass_eq hword false hd hne]
    cases Host.hasClass p n c with
    | true => rfl
    | false => rfl
  · intro q hq
    have hq : ∃ present, q = p.update n (Attributes.withClass present c) := by
      rcases hq with rfl | rfl
      · exact ⟨true, hadd⟩
      · exact ⟨false, hremove⟩
    obtain ⟨present, rfl⟩ := hq
    refine ⟨h.isAsciiSpaced_withClass hword present, fun d hd => ⟨fun m hm => ?_, ?_⟩⟩
    · exact h.isMatch_withClass_of_ne hm present c hd
    · exact fun hne hspaced => ⟨h.isMatch_withClass hword hspaced present hd hne,
        h.select_withClass hword hspaced present hd hne⟩

/-- A paragraph of two classes is given a third one. -/
theorem classes_of_newsParagraph :
    let p := Page.parse "<p class='news\thot'>"
    let added := Host.addClass p 4 "read"
    p.Arises "<p class='news\thot'>" ∧ IsLetters "read" ∧ p.document.HasElement 4 ∧
      Host.hasClass p 4 "hot" ∧ p.isMatch 4 ".hot" ∧ ¬ Host.hasClass p 4 "read" ∧
      4 ∈ added.select ".read" ∧ added.isMatch 4 ".hot" ∧
      added.select ".hot" = p.select ".hot" := by
  intro p added
  have h : p.Arises "<p class='news\thot'>" := arises_parse _
  have hread : IsLetters "read" := ⟨by decide, List.all_eq_true.mp (by decide)⟩
  have hhot : IsLetters "hot" := ⟨by decide, List.all_eq_true.mp (by decide)⟩
  have helement : (p.document.element? 4).isSome := by decide +kernel
  have htext : p.classText 4 = "news\thot" := by decide +kernel
  have hspaced : IsAsciiSpaced (p.classText 4) := by
    rw [htext]
    have hall : "news\thot".toList.all fun d => !isBlank d || isAsciiBlank d := by decide
    intro d hd hblank
    simpa [hblank] using List.all_eq_true.mp hall d hd
  obtain ⟨hname, -, -, -, hadded, -, -, -, hothers⟩ := classes_of_arises h hread 4
  obtain ⟨hname', -, -, hagree, -⟩ := classes_of_arises h hhot 4
  have hnot : ¬ Host.hasClass p 4 "read" := by
    rw [hname, htext]
    decide +kernel
  have hhas : Host.hasClass p 4 "hot" := by
    rw [hname', htext]
    decide +kernel
  have hattached : p.document.isAttached 4 := by decide +kernel
  have hmatch : p.isMatch 4 ".hot" := (hagree hspaced).mp hhas
  obtain ⟨hsame, hselect⟩ := ((hothers added (Or.inl rfl)).2 "hot" hhot).2 (by decide) hspaced
  refine ⟨h, hread, helement, hhas, hmatch, hnot, ?_, hsame.trans hmatch, hselect⟩
  exact (hadded helement).2.mpr ⟨hattached, fun hhas => absurd hhas hnot⟩

/-- **A class that is there and not matched**: there is a no-break space between two classes. Adding
the class does not help, and adding another one does. -/
theorem classes_of_noBreakSpace :
    let p := Page.parse "<p class='a\u00A0b'>"
    Host.hasClass p 4 "a" ∧ ¬ p.isMatch 4 ".a" ∧ (Host.addClass p 4 "a").select ".a" = [] ∧
      p.select ".a" = [] ∧ (Host.addClass p 4 "c").select ".a" = [4] := by
  decide +kernel

end Page

end PageDirectives
