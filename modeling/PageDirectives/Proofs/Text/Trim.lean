import Mathlib.Data.List.DropRight
import Mathlib.Data.List.TakeWhile
import PageDirectives.Text.Basic

set_option autoImplicit false

/-! # Trimmed text

Trimming a text twice is trimming it once. A text is *tight* if there is something in it and white
space at neither end, so that trimming it changes nothing (`Text.IsTight`). Whatever stands between
two tight texts, all of it together is tight (`Text.IsTight.append_append`).
-/

namespace PageDirectives

namespace Chars

theorem trimStart_trimStart (s : List Char) : trimStart (trimStart s) = trimStart s :=
  List.dropWhile_idempotent isBlank s

theorem trimEnd_trimEnd (s : List Char) : trimEnd (trimEnd s) = trimEnd s :=
  List.rdropWhile_idempotent isBlank s

theorem isPrefix_trimEnd (s : List Char) : trimEnd s <+: s := List.rdropWhile_prefix isBlank s

/-- What a text without white space at the front starts with is none either. -/
theorem trimStart_eq_self_of_prefix {s t : List Char} (hpre : s <+: t)
    (ht : trimStart t = t) : trimStart s = s := by
  refine List.dropWhile_eq_self_iff.mpr fun hs => ?_
  have hlen : 0 < t.length := Nat.lt_of_lt_of_le hs hpre.length_le
  rw [hpre.getElem hs]
  exact List.dropWhile_eq_self_iff.mp ht hlen

/-- **Trimming is idempotent.** -/
theorem trim_trim (s : List Char) : trim (trim s) = trim s := by
  unfold trim
  -- trimming the back takes nothing from the front
  have hfront : trimStart (trimEnd (trimStart s)) = trimEnd (trimStart s) :=
    trimStart_eq_self_of_prefix (isPrefix_trimEnd _) (trimStart_trimStart s)
  rw [hfront, trimEnd_trimEnd]

theorem trim_sublist (s : List Char) : (trim s).Sublist s :=
  (isPrefix_trimEnd _).sublist.trans (List.dropWhile_sublist _)

theorem trim_cons_of_isBlank {c : Char} (hc : isBlank c) (s : List Char) : trim (c :: s) = trim s := by
  rw [trim, trimStart, List.dropWhile_cons_of_pos hc]
  rfl

/-- Trimming leaves nothing of white space, and of nothing else. -/
theorem trim_eq_nil_iff {s : List Char} : trim s = [] ↔ ∀ c ∈ s, isBlank c := by
  rw [trim, trimEnd, List.reverse_eq_nil_iff, List.dropWhile_eq_nil_iff]
  constructor
  · intro hback
    refine List.dropWhile_eq_nil_iff.mp (List.eq_nil_iff_length_eq_zero.mpr ?_)
    by_contra hne
    -- what is left at the front does not start with white space
    have hpos : 0 < (trimStart s).length := Nat.pos_of_ne_zero hne
    exact List.dropWhile_get_zero_not isBlank s hpos
      (hback _ (List.mem_reverse.mpr (List.get_mem _ _)))
  · intro hall c hc
    exact hall c ((List.dropWhile_sublist isBlank).subset (List.mem_reverse.mp hc))

theorem trimStart_of_trim {s : List Char} (hs : trim s = s) : trimStart s = s := by
  have hfront : trimStart (trim s) = trim s :=
    trimStart_eq_self_of_prefix (isPrefix_trimEnd _) (trimStart_trimStart s)
  rwa [hs] at hfront

theorem trimEnd_of_trim {s : List Char} (hs : trim s = s) : trimEnd s = s := by
  have hback : trimEnd (trim s) = trim s := trimEnd_trimEnd (trimStart s)
  rwa [hs] at hback

/-- What begins with a text that does not begin with white space does not either. -/
theorem trimStart_append {s : List Char} (hne : s ≠ []) (hs : trimStart s = s) (t : List Char) :
    trimStart (s ++ t) = s ++ t := by
  cases s with
  | nil => exact absurd rfl hne
  | cons c s =>
      have hc : ¬ isBlank c := List.dropWhile_eq_self_iff.mp hs (Nat.succ_pos _)
      exact List.dropWhile_eq_self_iff.mpr fun _ => hc

theorem trimEnd_append {t : List Char} (hne : t ≠ []) (ht : trimEnd t = t) (s : List Char) :
    trimEnd (s ++ t) = s ++ t := by
  have hback : trimStart t.reverse = t.reverse := List.reverse_eq_iff.mp ht
  have hreverse := trimStart_append (mt List.reverse_eq_nil_iff.mp hne) hback s.reverse
  rw [trimEnd, List.reverse_append]
  exact (congrArg List.reverse hreverse).trans (by simp)

theorem trimStart_append_of_isBlank {lead : List Char} (hlead : ∀ c ∈ lead, isBlank c)
    (s : List Char) : trimStart (lead ++ s) = trimStart s :=
  List.dropWhile_append_of_pos hlead

theorem trim_append_of_isBlank {lead : List Char} (hlead : ∀ c ∈ lead, isBlank c) (s : List Char) :
    trim (lead ++ s) = trim s := by
  rw [trim, trimStart_append_of_isBlank hlead]
  rfl

theorem trimEnd_append_of_isBlank {tail : List Char} (htail : ∀ c ∈ tail, isBlank c)
    (s : List Char) : trimEnd (s ++ tail) = trimEnd s := by
  have hback : ∀ c ∈ tail.reverse, isBlank c := fun c hc => htail c (List.mem_reverse.mp hc)
  rw [trimEnd, List.reverse_append]
  exact congrArg List.reverse (trimStart_append_of_isBlank hback s.reverse)

/-- What is trimmed away is white space. -/
theorem exists_append_trim_append (s : List Char) :
    ∃ lead tail, (∀ c ∈ lead, isBlank c) ∧ (∀ c ∈ tail, isBlank c) ∧ s = lead ++ trim s ++ tail := by
  have hback : trimStart s
      = trimEnd (trimStart s) ++ ((trimStart s).reverse.takeWhile isBlank).reverse := by
    rw [trimEnd, ← List.reverse_append, List.takeWhile_append_dropWhile, List.reverse_reverse]
  refine ⟨s.takeWhile isBlank, ((trimStart s).reverse.takeWhile isBlank).reverse,
    fun c hc => List.mem_takeWhile_imp hc,
    fun c hc => List.mem_takeWhile_imp (List.mem_reverse.mp hc), ?_⟩
  rw [List.append_assoc, trim, ← hback, trimStart, List.takeWhile_append_dropWhile]

end Chars

namespace Text

@[simp] theorem trim_trim (s : String) : trim (trim s) = trim s := by
  rw [trim, toList_trim, Chars.trim_trim]
  rfl

theorem trim_eq_empty_iff {s : String} : trim s = "" ↔ isBlank s := by
  rw [← String.toList_eq_nil_iff, toList_trim, Chars.trim_eq_nil_iff, isBlank, List.all_eq_true]

theorem isBlank_append_iff {s t : String} : isBlank (s ++ t) ↔ isBlank s ∧ isBlank t := by
  rw [isBlank, String.toList_append, List.all_append, Bool.and_eq_true]
  rfl

theorem trim_append_of_isBlank {lead : String} (hlead : isBlank lead) (s : String) :
    trim (lead ++ s) = trim s := by
  rw [trim, String.toList_append, Chars.trim_append_of_isBlank (List.all_eq_true.mp hlead)]
  rfl

theorem exists_append_trim_append (s : String) :
    ∃ before after, isBlank before ∧ isBlank after ∧ s = before ++ trim s ++ after := by
  obtain ⟨lead, tail, hlead, htail, heq⟩ := Chars.exists_append_trim_append s.toList
  refine ⟨.ofList lead, .ofList tail, ?_, ?_, ?_⟩
  · rwa [isBlank, String.toList_ofList, List.all_eq_true]
  · rwa [isBlank, String.toList_ofList, List.all_eq_true]
  · rw [← String.toList_inj, heq]
    simp

/-- A text with something in it and white space at neither end. -/
structure IsTight (s : String) : Prop where
  ne_empty : s ≠ ""
  trim_eq : trim s = s

theorem isTight_trim {s : String} (h : trim s ≠ "") : IsTight (trim s) := ⟨h, trim_trim s⟩

namespace IsTight

variable {s t : String}

theorem not_isBlank (hs : IsTight s) : ¬ isBlank s := by
  rw [← trim_eq_empty_iff, hs.trim_eq]
  exact hs.ne_empty

theorem toList_ne_nil (hs : IsTight s) : s.toList ≠ [] :=
  mt String.toList_eq_nil_iff.mp hs.ne_empty

theorem trim_toList (hs : IsTight s) : Chars.trim s.toList = s.toList := by
  rw [← toList_trim, hs.trim_eq]

/-- **Between two tight texts there can be anything.** -/
theorem append_append (hs : IsTight s) (m : String) (ht : IsTight t) : IsTight (s ++ m ++ t) where
  ne_empty h := by
    refine hs.toList_ne_nil ?_
    have hnil := String.toList_eq_nil_iff.mpr h
    simp only [String.toList_append, List.append_eq_nil_iff] at hnil
    exact hnil.1.1
  trim_eq := by
    have hfront := Chars.trimStart_of_trim hs.trim_toList
    have hback := Chars.trimEnd_of_trim ht.trim_toList
    rw [← String.toList_inj, toList_trim, Chars.trim]
    simp only [String.toList_append, List.append_assoc]
    rw [Chars.trimStart_append hs.toList_ne_nil hfront, ← List.append_assoc,
      Chars.trimEnd_append ht.toList_ne_nil hback]

/-- **White space around a tight text** is trimmed away, and nothing else. -/
theorem trim_append_append {lead tail : String} (hlead : isBlank lead) (hs : IsTight s)
    (htail : isBlank tail) : trim (lead ++ s ++ tail) = s := by
  have hfront := Chars.trimStart_of_trim hs.trim_toList
  have hback := Chars.trimEnd_of_trim hs.trim_toList
  rw [← String.toList_inj, toList_trim, Chars.trim]
  simp only [String.toList_append, List.append_assoc]
  rw [Chars.trimStart_append_of_isBlank (List.all_eq_true.mp hlead),
    Chars.trimStart_append hs.toList_ne_nil hfront,
    Chars.trimEnd_append_of_isBlank (List.all_eq_true.mp htail), hback]

end IsTight

end Text

end PageDirectives
