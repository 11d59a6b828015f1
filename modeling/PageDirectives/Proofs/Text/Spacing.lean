import PageDirectives.Proofs.Text.Words

set_option autoImplicit false

/-! # Two kinds of white space

The words of a text are told apart at white space of any kind, and so are the classes of an element
where they are asked for by name. Selectors tell them apart at ASCII white space only
(`Text.asciiWords`). A word that selectors see is always a word (`Text.mem_words_of_mem_asciiWords`).
The other way round this holds if there is no other white space in the text
(`Text.asciiWords_eq_words`), as in a text that was put together from words
(`Text.isAsciiSpaced_join`).
-/

namespace PageDirectives

namespace Chars

variable {p q : Char → Bool} {s w : List Char}

/-- Where a text is split does not depend on characters that are not in it. -/
theorem splitOnP_congr (h : ∀ c ∈ s, p c = q c) : s.splitOnP p = s.splitOnP q := by
  induction s with
  | nil => simp
  | cons c s ih =>
      obtain ⟨hc, hs⟩ := List.forall_mem_cons.mp h
      rw [List.splitOnP_cons_eq_if_modifyHead, List.splitOnP_cons_eq_if_modifyHead, hc, ih hs]

/-- A part that is left whole when a text is split at more characters is a part then, too: in front
of all others if it was there, and behind the first one if it was there. -/
theorem mem_splitOnP_of_imp_aux (hpq : ∀ c, p c → q c) (s : List Char) :
    ∀ w : List Char, (∀ c ∈ w, q c = false) →
      ((s.splitOnP p).head? = some w → (s.splitOnP q).head? = some w) ∧
      (w ∈ (s.splitOnP p).tail → w ∈ (s.splitOnP q).tail) := by
  induction s with
  | nil => intro w _; simp
  | cons c s ih =>
      intro w hw
      obtain ⟨first, parts, hp⟩ := List.exists_cons_of_ne_nil (List.splitOnP_ne_nil p s)
      obtain ⟨first', parts', hq⟩ := List.exists_cons_of_ne_nil (List.splitOnP_ne_nil q s)
      simp only [hp, hq, List.head?_cons, List.tail_cons, Option.some.injEq] at ih
      rw [List.splitOnP_cons_eq_if_modifyHead, List.splitOnP_cons_eq_if_modifyHead, hp, hq]
      obtain ⟨hfirst, hrest⟩ := ih w hw
      by_cases hc : p c
      · have hc' : q c := hpq c hc
        simp only [hc, hc', if_true, List.head?_cons, List.tail_cons, List.mem_cons]
        refine ⟨id, ?_⟩
        rintro (rfl | hmem)
        · exact Or.inl (hfirst rfl).symm
        · exact Or.inr (hrest hmem)
      · have hc : p c = false := by simpa using hc
        by_cases hc' : q c
        · simp only [hc, hc', if_true, if_false, Bool.false_eq_true, List.modifyHead_cons,
            List.head?_cons, List.tail_cons, List.mem_cons, Option.some.injEq]
          refine ⟨?_, fun hmem => Or.inr (hrest hmem)⟩
          -- the part has a character at which it would have been split
          rintro rfl
          have hnot := hw c List.mem_cons_self
          rw [hc'] at hnot
          cases hnot
        · have hc' : q c = false := by simpa using hc'
          simp only [hc, hc', if_false, Bool.false_eq_true, List.modifyHead_cons,
            List.head?_cons, List.tail_cons, Option.some.injEq]
          refine ⟨?_, hrest⟩
          rintro rfl
          have hfront := (ih first fun d hd => hw d (List.mem_cons_of_mem c hd)).1 rfl
          rw [hfront]

theorem mem_splitOnP_of_imp (hpq : ∀ c, p c → q c) (hw : ∀ c ∈ w, q c = false)
    (hmem : w ∈ s.splitOnP p) : w ∈ s.splitOnP q := by
  obtain ⟨hfirst, hrest⟩ := mem_splitOnP_of_imp_aux hpq s w hw
  obtain ⟨first, parts, hp⟩ := List.exists_cons_of_ne_nil (List.splitOnP_ne_nil p s)
  obtain ⟨first', parts', hq⟩ := List.exists_cons_of_ne_nil (List.splitOnP_ne_nil q s)
  simp only [hp, hq, List.head?_cons, List.tail_cons, Option.some.injEq] at hfirst hrest
  rw [hp] at hmem
  rw [hq]
  rcases List.mem_cons.mp hmem with rfl | hmem
  · rw [hfirst rfl]
    exact List.mem_cons_self
  · exact List.mem_cons_of_mem _ (hrest hmem)

end Chars

namespace Text

/-- The maximal runs without ASCII white space. -/
def asciiWords (s : String) : List String :=
  ((s.toList.splitOnP isAsciiBlank).filter (· != [])).map String.ofList

/-- A text without white space other than ASCII white space. -/
def IsAsciiSpaced (s : String) : Prop := ∀ c ∈ s.toList, PageDirectives.isBlank c → isAsciiBlank c

variable {s w : String} {ws : List String}

/-- **A word that selectors see is a word.** -/
theorem mem_words_of_mem_asciiWords (hw : IsWord w) (hmem : w ∈ asciiWords s) : w ∈ words s := by
  obtain ⟨run, hrun, rfl⟩ := List.mem_map.mp hmem
  obtain ⟨hpart, hne⟩ := List.mem_filter.mp hrun
  have hsolid : ∀ c ∈ run, PageDirectives.isBlank c = false := by
    intro c hc
    exact hw.solid c (by simpa using hc)
  refine List.mem_map_of_mem (List.mem_filter.mpr ⟨?_, ?_⟩)
  · exact Chars.mem_splitOnP_of_imp (fun c => isBlank_of_isAsciiBlank) hsolid hpart
  · simpa using hne

/-- **There is no difference if there is no other white space.** -/
theorem asciiWords_eq_words (h : IsAsciiSpaced s) : asciiWords s = words s := by
  have hsame : ∀ c ∈ s.toList, isAsciiBlank c = PageDirectives.isBlank c := by
    intro c hc
    rw [Bool.eq_iff_iff]
    exact ⟨isBlank_of_isAsciiBlank, h c hc⟩
  rw [asciiWords, Chars.splitOnP_congr hsame, words, Chars.words]
  refine congrArg (List.map String.ofList) (List.filter_congr fun run _ => ?_)
  simp [bne, beq_eq_decide]

theorem isAsciiSpaced_append {t : String} (hs : IsAsciiSpaced s) (ht : IsAsciiSpaced t) :
    IsAsciiSpaced (s ++ t) := by
  intro c hc
  rw [String.toList_append, List.mem_append] at hc
  rcases hc with hc | hc
  · exact hs c hc
  · exact ht c hc

/-- What is put together from words has spaces only. -/
theorem isAsciiSpaced_join (hws : ∀ w ∈ ws, IsWord w) : IsAsciiSpaced (join " " ws) := by
  have hword {w : String} (hw : IsWord w) : IsAsciiSpaced w := by
    intro c hc hblank
    rw [hw.solid c hc] at hblank
    cases hblank
  induction ws with
  | nil => intro c hc; simp [join] at hc
  | cons w ws ih =>
      obtain ⟨hw, hws⟩ := List.forall_mem_cons.mp hws
      cases ws with
      | nil => simpa [join] using hword hw
      | cons v ws =>
          have hspace : IsAsciiSpaced " " := by
            intro c hc _
            obtain rfl : c = ' ' := by simpa using hc
            decide
          have hjoin : join " " (w :: v :: ws) = w ++ " " ++ join " " (v :: ws) := by
            simp [join]
          rw [hjoin]
          exact isAsciiSpaced_append (isAsciiSpaced_append (hword hw) hspace) (ih hws)

end Text

end PageDirectives
