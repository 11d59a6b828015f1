import PageDirectives.Proofs.Text.Split

set_option autoImplicit false

/-! # Occurrences of a phrase

A phrase occurs at a place of a text if the text goes on with it there (`Text.OccursAt`). A text is
cut at the first of these places (`Text.CutAt`), if there is one.

The phrases that separate clauses begin and end with the same character, so that a clause can run
into the phrase behind it: ` on` and ` on ` together hold ` on ` twice. If this character is nowhere
else in the phrase, the clause runs into it no further than by this one character
(`Chars.not_infix_append_dropLast`).
-/

namespace PageDirectives

namespace Chars

/-- A text is cut where the pattern occurs and does not occur before. -/
theorem cut?_eq_some_iff_forall {pat s before after : List Char} :
    cut? pat s = some (before, after) ↔
      s = before ++ pat ++ after ∧ ∀ n < before.length, ¬ pat <+: s.drop n := by
  induction s generalizing before with
  | nil =>
      by_cases hpat : pat = []
      · subst hpat
        simp only [cut?, if_true, Option.some.injEq, Prod.mk.injEq, List.drop_nil,
          List.append_nil, List.nil_eq, List.append_eq_nil_iff]
        constructor
        · rintro ⟨rfl, rfl⟩
          exact ⟨⟨rfl, rfl⟩, fun n hn => absurd hn (Nat.not_lt_zero n)⟩
        · rintro ⟨⟨rfl, rfl⟩, -⟩
          exact ⟨rfl, rfl⟩
      · simp [cut?, hpat]
  | cons c s ih =>
      rw [cut?]
      cases hfront : dropFront? pat (c :: s) with
      | some rest =>
          have hs : c :: s = pat ++ rest := dropFront?_eq_some_iff.mp hfront
          simp only [Option.some.injEq, Prod.mk.injEq]
          constructor
          · rintro ⟨rfl, rfl⟩
            exact ⟨hs, fun n hn => absurd hn (Nat.not_lt_zero n)⟩
          · rintro ⟨heq, hno⟩
            -- the pattern opens the text, so nothing can stand in front of it
            cases before with
            | nil => exact ⟨rfl, List.append_cancel_left (hs.symm.trans heq)⟩
            | cons b before => exact absurd ⟨rest, hs.symm⟩ (hno 0 (Nat.succ_pos _))
      | none =>
          have hpre : ¬ pat <+: c :: s := by
            rintro ⟨rest, hrest⟩
            rw [dropFront?_eq_some_iff.mpr hrest.symm] at hfront
            cases hfront
          simp only [Option.map_eq_some_iff, Prod.mk.injEq, Prod.exists]
          constructor
          · rintro ⟨before', after', hcut, rfl, rfl⟩
            obtain ⟨rfl, hno⟩ := ih.mp hcut
            refine ⟨rfl, fun n hn => ?_⟩
            cases n with
            | zero => exact hpre
            | succ n => exact hno n (Nat.lt_of_succ_lt_succ hn)
          · rintro ⟨heq, hno⟩
            cases before with
            | nil => exact absurd ⟨after, heq.symm⟩ hpre
            | cons b before' =>
                obtain ⟨rfl, rfl⟩ := List.cons.inj heq
                refine ⟨before', after, ih.mpr ⟨rfl, fun n hn => ?_⟩, rfl, rfl⟩
                exact hno (n + 1) (Nat.succ_lt_succ hn)

theorem infix_iff_exists_drop {pat s : List Char} : pat <:+: s ↔ ∃ n, pat <+: s.drop n := by
  constructor
  · rintro ⟨front, rest, rfl⟩
    exact ⟨front.length, by simp⟩
  · rintro ⟨n, hpre⟩
    exact hpre.isInfix.trans (List.drop_suffix n s).isInfix

/-- **How far a text runs into the phrase behind it.** A phrase that has the same character at both
ends and nowhere else occurs in a text with all but its end behind it only if it occurs in the text
with its first character behind it. -/
theorem not_infix_append_dropLast {s mid : List Char} {c : Char} (hc : c ∉ mid)
    (hs : ¬ c :: mid ++ [c] <:+: s ++ [c]) : ¬ c :: mid ++ [c] <:+: s ++ (c :: mid) := by
  rintro ⟨front, rest, heq⟩
  -- what is behind the occurrence is an end of the middle, or reaches into the text
  have hsplit : front ++ (c :: mid) ++ c :: rest = (s ++ [c]) ++ mid := by simpa using heq
  rcases List.append_eq_append_iff.mp hsplit with ⟨more, htext, hrest⟩ | ⟨more, htext, hrest⟩
  · cases more with
    | nil =>
        rw [List.nil_append] at hrest
        exact hc (hrest ▸ List.mem_cons_self)
    | cons d more =>
        obtain ⟨rfl, -⟩ := List.cons.inj hrest
        exact hs ⟨front, more, by simp [htext]⟩
  · exact hc (hrest ▸ List.mem_append_right _ List.mem_cons_self)

/-- A phrase is behind what does not hold its first character. -/
theorem infix_append_iff_of_notMem {c : Char} {pat front s : List Char} (hc : c ∉ front) :
    c :: pat <:+: front ++ s ↔ c :: pat <:+: s := by
  induction front with
  | nil => rw [List.nil_append]
  | cons d front ih =>
      obtain ⟨hne, hfront⟩ := List.ne_and_not_mem_of_not_mem_cons hc
      rw [List.cons_append, List.infix_cons_iff, List.cons_prefix_cons, ih hfront]
      exact or_iff_right fun h => hne h.1

/-- Of a character that is repeated, a phrase takes the last one only, unless it goes on with it. -/
theorem infix_replicate_append_iff {c d : Char} (hne : d ≠ c) {pat s : List Char} (n : Nat) :
    c :: d :: pat <:+: List.replicate (n + 1) c ++ s ↔ c :: d :: pat <:+: c :: s := by
  induction n with
  | zero => rfl
  | succ n ih =>
      rw [List.replicate_succ, List.cons_append, List.infix_cons_iff, ih, List.replicate_succ,
        List.cons_append, List.cons_prefix_cons, List.cons_prefix_cons]
      exact or_iff_right fun h => hne h.2.1

end Chars

namespace Text

/-- Whether a text goes on with a phrase from a place on. -/
def OccursAt (pat s : String) (n : Nat) : Prop := pat.toList <+: s.toList.drop n

/-- What stands in front of the first occurrence of a phrase and what stands behind it. -/
structure CutAt (pat s before after : String) : Prop where
  eq : s = before ++ pat ++ after
  first : ∀ n < before.length, ¬ OccursAt pat s n

theorem cut?_eq_some_iff {pat s before after : String} :
    cut? pat s = some (before, after) ↔ CutAt pat s before after := by
  have hcut : cut? pat s = some (before, after) ↔
      Chars.cut? pat.toList s.toList = some (before.toList, after.toList) := by
    simp only [cut?, Option.map_eq_some_iff, Prod.mk.injEq, Prod.exists]
    constructor
    · rintro ⟨b, a, h, rfl, rfl⟩
      simpa using h
    · intro h
      exact ⟨_, _, h, by simp, by simp⟩
  have heq : s = before ++ pat ++ after ↔
      s.toList = before.toList ++ pat.toList ++ after.toList := by
    rw [← String.toList_inj]
    simp
  rw [hcut, Chars.cut?_eq_some_iff_forall, ← heq, String.length_toList]
  exact ⟨fun h => ⟨h.1, h.2⟩, fun h => ⟨h.eq, h.first⟩⟩

theorem cut?_eq_none_iff {pat s : String} : cut? pat s = none ↔ ∀ n, ¬ OccursAt pat s n := by
  rw [cut?, Option.map_eq_none_iff, Chars.cut?_eq_none_iff, Chars.infix_iff_exists_drop]
  exact not_exists

/-- There is one first occurrence at most. -/
theorem CutAt.unique {pat s before before' after after' : String} (h : CutAt pat s before after)
    (h' : CutAt pat s before' after') : before = before' ∧ after = after' := by
  have heq := (cut?_eq_some_iff.mpr h).symm.trans (cut?_eq_some_iff.mpr h')
  exact Prod.mk.inj (Option.some.inj heq)

theorem CutAt.occursAt {pat s before after : String} (h : CutAt pat s before after) :
    ∃ n, OccursAt pat s n := by
  by_contra hno
  have hnone := cut?_eq_none_iff.mpr (not_exists.mp hno)
  rw [cut?_eq_some_iff.mpr h] at hnone
  cases hnone

theorem contains_iff {pat s : String} : contains pat s ↔ pat.toList <:+: s.toList := by
  rw [contains, Chars.contains, ← not_iff_not, ← Chars.cut?_eq_none_iff]
  simp

theorem dropFront?_eq_some_iff {pat s rest : String} :
    dropFront? pat s = some rest ↔ s = pat ++ rest := by
  rw [dropFront?, Option.map_eq_some_iff, ← String.toList_inj]
  simp only [Chars.dropFront?_eq_some_iff, String.toList_append]
  constructor
  · rintro ⟨cs, h, rfl⟩
    simpa using h
  · intro h
    exact ⟨_, h, by simp⟩

theorem dropFront?_eq_none_iff {pat s : String} :
    dropFront? pat s = none ↔ ¬ OccursAt pat s 0 := by
  rw [OccursAt, List.drop_zero, Option.eq_none_iff_forall_ne_some]
  simp only [ne_eq, dropFront?_eq_some_iff, ← not_exists, not_iff_not]
  constructor
  · rintro ⟨rest, rfl⟩
    exact ⟨rest.toList, by simp⟩
  · rintro ⟨rest, hrest⟩
    exact ⟨.ofList rest, by rw [← String.toList_inj]; simp [hrest]⟩

end Text

end PageDirectives
