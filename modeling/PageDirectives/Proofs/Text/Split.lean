import Mathlib.Data.List.Infix
import Mathlib.Data.List.TakeWhile
import PageDirectives.Text.Basic

set_option autoImplicit false

/-! # Splitting texts

A text is split at the occurrences of a pattern as they are found from the left, each search
starting behind the occurrence before (`Chars.Splits`, `Chars.splits_iff`). Its words are found
from the left too: behind leading white space stands the first of them, up to the next white
space, and behind it the others (`Chars.words_cases`).
-/

namespace PageDirectives

namespace Chars

/-! ## The first occurrence -/

theorem cut?_eq_none_iff {pat s : List Char} : cut? pat s = none ↔ ¬ pat <:+: s := by
  induction s with
  | nil => simp [cut?]
  | cons c s ih =>
      rw [cut?, List.infix_cons_iff]
      cases hfront : dropFront? pat (c :: s) with
      | some rest =>
          have hpre : pat <+: c :: s := ⟨rest, (dropFront?_eq_some_iff.mp hfront).symm⟩
          simp [hpre]
      | none =>
          have hpre : ¬ pat <+: c :: s := by
            rintro ⟨rest, hrest⟩
            rw [dropFront?_eq_some_iff.mpr hrest.symm] at hfront
            cases hfront
          simp [hpre, ih]

/-- An occurrence of the pattern that starts in front of another one ends before it. -/
theorem isPrefix_iff_of_ne_nil {pat before after : List Char} (hbefore : before ≠ []) :
    pat <+: before ++ pat ++ after ↔ pat <+: before ++ pat.dropLast := by
  have hpre : before ++ pat.dropLast <+: before ++ pat ++ after :=
    ((List.prefix_append_right_inj before).mpr (List.dropLast_prefix pat)).trans
      (List.prefix_append _ _)
  constructor
  · intro h
    have hlen := List.length_pos_iff.mpr hbefore
    refine List.prefix_of_prefix_length_le h hpre ?_
    simp only [List.length_append, List.length_dropLast]
    omega
  · exact fun h => h.trans hpre

/-- **A text is cut at the first occurrence** of the pattern: none starts in front of it. -/
theorem cut?_eq_some_iff {pat s before after : List Char} (hpat : pat ≠ []) :
    cut? pat s = some (before, after) ↔
      s = before ++ pat ++ after ∧ ¬ pat <:+: before ++ pat.dropLast := by
  induction s generalizing before with
  | nil => simp [cut?, hpat]
  | cons c s ih =>
      rw [cut?]
      cases hfront : dropFront? pat (c :: s) with
      | some rest =>
          have hs : c :: s = pat ++ rest := dropFront?_eq_some_iff.mp hfront
          simp only [Option.some.injEq, Prod.mk.injEq]
          constructor
          · rintro ⟨rfl, rfl⟩
            refine ⟨hs, fun hin => ?_⟩
            have hlen := hin.length_le
            have hpos := List.length_pos_iff.mpr hpat
            simp only [List.nil_append, List.length_dropLast] at hlen
            omega
          · rintro ⟨heq, hno⟩
            -- the pattern opens the text, so nothing can stand in front of its first occurrence
            have hbefore : before = [] := by
              by_contra hne
              have hpre : pat <+: before ++ pat ++ after := ⟨rest, (heq.symm.trans hs).symm⟩
              exact hno ((isPrefix_iff_of_ne_nil hne).mp hpre).isInfix
            subst hbefore
            rw [heq, List.nil_append] at hs
            exact ⟨rfl, (List.append_cancel_left hs).symm⟩
      | none =>
          have hpre : ¬ pat <+: c :: s := by
            rintro ⟨rest, hrest⟩
            rw [dropFront?_eq_some_iff.mpr hrest.symm] at hfront
            cases hfront
          simp only [Option.map_eq_some_iff, Prod.mk.injEq, Prod.exists]
          constructor
          · rintro ⟨before', after', hcut, rfl, rfl⟩
            obtain ⟨rfl, hno⟩ := ih.mp hcut
            refine ⟨rfl, fun hin => ?_⟩
            rcases List.infix_cons_iff.mp hin with hhead | htail
            · exact hpre ((isPrefix_iff_of_ne_nil (List.cons_ne_nil c before')).mpr hhead)
            · exact hno htail
          · rintro ⟨heq, hno⟩
            cases before with
            | nil => exact absurd ⟨after, heq.symm⟩ hpre
            | cons b before' =>
                obtain ⟨rfl, rfl⟩ := List.cons.inj heq
                exact ⟨before', after, ih.mpr ⟨rfl, fun hin => hno (List.infix_cons hin)⟩, rfl, rfl⟩

theorem cut?_singleton_eq_some_iff {c : Char} {s before after : List Char} :
    cut? [c] s = some (before, after) ↔ s = before ++ c :: after ∧ c ∉ before := by
  rw [cut?_eq_some_iff (List.cons_ne_nil c []), List.dropLast_singleton, List.append_nil,
    List.singleton_infix_iff, List.append_assoc, List.singleton_append]

theorem cut?_singleton_eq_none_iff {c : Char} {s : List Char} : cut? [c] s = none ↔ c ∉ s := by
  rw [cut?_eq_none_iff, List.singleton_infix_iff]

/-! ## Splitting -/

/-- The parts do not hold the character at which a text is split. -/
theorem notMem_of_mem_splitOn {a : Char} {cs : List Char} :
    ∀ l ∈ cs.splitOn a, a ∉ l := by
  induction cs with
  | nil => simp
  | cons c cs ih =>
      rw [List.splitOn_cons_eq_if_modifyHead]
      split
      · exact List.forall_mem_cons.mpr ⟨List.not_mem_nil, ih⟩
      · next hc =>
          cases hsplit : cs.splitOn a with
          | nil => exact absurd hsplit (List.splitOn_ne_nil _ _)
          | cons l ls =>
              rw [hsplit] at ih
              obtain ⟨hl, hls⟩ := List.forall_mem_cons.mp ih
              have hne : a ≠ c := fun h => hc (beq_iff_eq.mpr h.symm)
              exact List.forall_mem_cons.mpr ⟨List.not_mem_cons_of_ne_of_not_mem hne hl, hls⟩

/-- The parts of a text between the occurrences of a pattern. Occurrences do not overlap: of two
that would, the one further left counts. The empty pattern takes every character apart. -/
inductive Splits (pat : List Char) : List Char → List (List Char) → Prop where
  | last {s : List Char} : ¬ pat <:+: s → Splits pat s [s]
  | next {before after : List Char} {parts : List (List Char)} :
      ¬ pat <:+: before ++ pat.dropLast → Splits pat after parts →
      Splits pat (before ++ pat ++ after) (before :: parts)
  | apart {s : List Char} : pat = [] → Splits pat s ([] :: s.map (fun c => [c]) ++ [[]])

theorem splits_split (pat s : List Char) : Splits pat s (split pat s) := by
  fun_induction split pat s with
  | case1 s hpat => exact .apart hpat
  | case2 s hpat hcut => exact .last (cut?_eq_none_iff.mp hcut)
  | case3 s hpat before after hcut ih =>
      obtain ⟨rfl, hno⟩ := (cut?_eq_some_iff hpat).mp hcut
      exact .next hno ih

/-- **Splitting a text**: there is one way to do it, and `split` finds it. -/
theorem splits_iff {pat s : List Char} {parts : List (List Char)} :
    Splits pat s parts ↔ split pat s = parts := by
  constructor
  · intro h
    induction h with
    | @last s hno =>
        have hpat : pat ≠ [] := fun hnil => hno (hnil ▸ List.nil_infix)
        rw [split, if_neg hpat]
        split
        · rfl
        · next hcut => rw [cut?_eq_none_iff.mpr hno] at hcut; cases hcut
    | @next before after parts hno _ ih =>
        have hpat : pat ≠ [] := fun hnil => hno (hnil ▸ List.nil_infix)
        have hcut : cut? pat (before ++ pat ++ after) = some (before, after) :=
          (cut?_eq_some_iff hpat).mpr ⟨rfl, hno⟩
        rw [split, if_neg hpat]
        split
        · next hnone => rw [hcut] at hnone; cases hnone
        · next hsome =>
            obtain ⟨rfl, rfl⟩ := Prod.mk.inj (Option.some.inj (hcut.symm.trans hsome))
            rw [ih]
    | apart hnil => rw [split, if_pos hnil]
  · rintro rfl
    exact splits_split pat s

/-- Splitting at a pattern of one character. -/
theorem split_singleton (a : Char) (s : List Char) : split [a] s = s.splitOn a := by
  fun_induction split [a] s with
  | case1 s hpat => cases hpat
  | case2 s _ hcut => rw [List.splitOn_eq_singleton (cut?_singleton_eq_none_iff.mp hcut)]
  | case3 s _ before after hcut ih =>
      obtain ⟨rfl, hbefore⟩ := cut?_singleton_eq_some_iff.mp hcut
      rw [List.splitOn_append_cons_self_of_not_mem hbefore, ih]

/-! ## Words -/

theorem words_nil : words [] = [] := by simp [words]

theorem words_cons_of_isBlank {c : Char} (hc : isBlank c) (s : List Char) :
    words (c :: s) = words s := by
  simp [words, List.splitOnP_cons_eq_if_modifyHead, hc]

theorem words_append_of_isBlank {lead : List Char} (hlead : ∀ c ∈ lead, isBlank c)
    (s : List Char) : words (lead ++ s) = words s := by
  induction lead with
  | nil => rfl
  | cons c lead ih =>
      rw [List.cons_append, words_cons_of_isBlank (hlead c (by simp)),
        ih fun d hd => hlead d (by simp [hd])]

/-- A word ends where the text ends or white space begins. -/
theorem words_append_of_not_isBlank {name rest : List Char} (hne : name ≠ [])
    (hname : ∀ c ∈ name, isBlank c = false) (hrest : ∀ c ∈ rest.head?, isBlank c) :
    words (name ++ rest) = name :: words rest := by
  cases rest with
  | nil =>
      have hsplit : (name ++ []).splitOnP isBlank = [name] := by
        rw [List.append_nil]
        exact List.splitOnP_eq_singleton hname
      rw [words_nil, words, hsplit]
      simp [hne]
  | cons c rest =>
      have hc : isBlank c := hrest c rfl
      have hsplit : (name ++ c :: rest).splitOnP isBlank = name :: rest.splitOnP isBlank :=
        List.splitOnP_append_cons_of_forall_mem hname c hc rest
      rw [words_cons_of_isBlank hc, words, hsplit]
      simp [words, hne]

/-- **The first word of a text**, if it has one: it stands behind leading white space and goes
as far as the next. -/
theorem words_cases (s : List Char) :
    ((∀ c ∈ s, isBlank c) ∧ words s = []) ∨
    ∃ lead name rest, s = lead ++ name ++ rest ∧ (∀ c ∈ lead, isBlank c) ∧ name ≠ [] ∧
      (∀ c ∈ name, isBlank c = false) ∧ (∀ c ∈ rest.head?, isBlank c) ∧
      words s = name :: words rest := by
  have hlead : ∀ c ∈ s.takeWhile isBlank, isBlank c := fun c hc => List.mem_takeWhile_imp hc
  have hs : words s = words (trimStart s) := by
    conv => lhs; rw [← List.takeWhile_append_dropWhile (p := isBlank) (l := s)]
    exact words_append_of_isBlank hlead _
  by_cases htrim : trimStart s = []
  · refine Or.inl ⟨fun c hc => ?_, by rw [hs, htrim, words_nil]⟩
    exact List.dropWhile_eq_nil_iff.mp htrim c hc
  -- trimmed text starts with a character that is not blank
  · have hne : (trimStart s).takeWhile (!isBlank ·) ≠ [] := by
      intro hnil
      have hpos : 0 < (trimStart s).length := List.length_pos_iff.mpr htrim
      have hhead : ¬ isBlank ((trimStart s).get ⟨0, hpos⟩) :=
        List.dropWhile_get_zero_not isBlank s hpos
      exact List.takeWhile_eq_nil_iff.mp hnil hpos (by simpa using hhead)
    have hname : ∀ c ∈ (trimStart s).takeWhile (!isBlank ·), isBlank c = false := fun c hc => by
      simpa using List.mem_takeWhile_imp hc
    have hrest : ∀ c ∈ ((trimStart s).dropWhile (!isBlank ·)).head?, isBlank c := fun c hc => by
      have hhead := List.head?_dropWhile_not (!isBlank ·) (trimStart s)
      rw [Option.mem_def.mp hc] at hhead
      simpa using hhead
    refine Or.inr ⟨s.takeWhile isBlank, (trimStart s).takeWhile (!isBlank ·),
      (trimStart s).dropWhile (!isBlank ·), ?_, hlead, hne, hname, hrest, ?_⟩
    · rw [List.append_assoc, List.takeWhile_append_dropWhile]
      exact List.takeWhile_append_dropWhile.symm
    · rw [hs, ← words_append_of_not_isBlank hne hname hrest, List.takeWhile_append_dropWhile]

end Chars

namespace Text

variable {pat : String} {a : Char}

theorem split_of_singleton (hpat : pat.toList = [a]) (s : String) :
    split pat s = (s.toList.splitOn a).map String.ofList := by
  rw [split, hpat, Chars.split_singleton]

/-- Parts that are joined at a character are split there, if it is in none of them. -/
theorem split_join (hpat : pat.toList = [a]) {parts : List String} (hne : parts ≠ [])
    (hparts : ∀ p ∈ parts, a ∉ p.toList) : split pat (join pat parts) = parts := by
  rw [split_of_singleton hpat, join, String.toList_intercalate, hpat,
    List.splitOn_intercalate _ (by simpa using hparts) (by simpa using hne)]
  simp

/-- Every text is joined from parts without the character. -/
theorem exists_join (hpat : pat.toList = [a]) (s : String) :
    ∃ parts : List String, (∀ p ∈ parts, a ∉ p.toList) ∧ join pat parts = s := by
  refine ⟨split pat s, fun p hp => ?_, ?_⟩
  · rw [split_of_singleton hpat] at hp
    obtain ⟨part, hpart, rfl⟩ := List.mem_map.mp hp
    rw [String.toList_ofList]
    exact Chars.notMem_of_mem_splitOn part hpart
  · rw [split_of_singleton hpat, join, ← String.toList_inj, String.toList_intercalate, hpat,
      List.map_map]
    have hid : String.toList ∘ String.ofList = id := funext fun _ => String.toList_ofList
    rw [hid, List.map_id, List.intercalate_splitOn]

end Text

end PageDirectives
