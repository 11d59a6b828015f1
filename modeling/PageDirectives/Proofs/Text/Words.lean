import PageDirectives.Proofs.Text.Split
import PageDirectives.Proofs.Text.Trim

set_option autoImplicit false

/-! # Words

A word is a text with something in it and no white space (`Text.IsWord`), so trimming leaves it as it
is. The words of a text are words, and those that are written with a space between every two are read
back (`Text.words_join`).
-/

namespace PageDirectives

theorem Chars.solid_of_mem_words {s name : List Char} (hname : name ∈ words s) :
    name ≠ [] ∧ ∀ c ∈ name, isBlank c = false := by
  -- the words behind the first one are those of a shorter text
  induction hlength : s.length using Nat.strong_induction_on generalizing s with
  | _ n ih =>
      rcases words_cases s with ⟨-, hnone⟩ | ⟨lead, first, rest, hs, -, hne, hsolid, -, hwords⟩
      · rw [hnone] at hname
        cases hname
      · have hlt : rest.length < n := by
          have hpos := List.length_pos_iff.mpr hne
          rw [← hlength, hs, List.length_append, List.length_append]
          omega
        rw [hwords] at hname
        rcases List.mem_cons.mp hname with rfl | hname
        · exact ⟨hne, hsolid⟩
        · exact ih _ hlt hname rfl

namespace Text

/-- A text that is a single word. -/
structure IsWord (w : String) : Prop where
  ne_empty : w ≠ ""
  solid : ∀ c ∈ w.toList, PageDirectives.isBlank c = false

theorem isWord_iff {w : String} :
    IsWord w ↔ w ≠ "" ∧ w.toList.any PageDirectives.isBlank = false := by
  rw [List.any_eq_false]
  constructor
  · rintro ⟨hne, hsolid⟩
    exact ⟨hne, fun c hc => Bool.eq_false_iff.mp (hsolid c hc)⟩
  · rintro ⟨hne, hsolid⟩
    exact ⟨hne, fun c hc => Bool.eq_false_iff.mpr (hsolid c hc)⟩

instance (w : String) : Decidable (IsWord w) := decidable_of_iff _ isWord_iff.symm

/-- There is nothing to trim away from a word. -/
theorem IsWord.isTight {w : String} (hw : IsWord w) : IsTight w where
  ne_empty := hw.ne_empty
  trim_eq := by
    have hback : Chars.trimEnd w.toList = w.toList :=
      List.rdropWhile_eq_self_iff.mpr fun hne => by simp [hw.solid _ (List.getLast_mem hne)]
    have hfront : Chars.trimStart w.toList = w.toList :=
      List.dropWhile_eq_self_iff.mpr fun hpos => by simp [hw.solid _ (List.getElem_mem hpos)]
    rw [← String.toList_inj, toList_trim, Chars.trim, hfront, hback]

theorem isWord_of_mem_words {s w : String} (hw : w ∈ words s) : IsWord w := by
  obtain ⟨name, hname, rfl⟩ := List.mem_map.mp hw
  obtain ⟨hne, hsolid⟩ := Chars.solid_of_mem_words hname
  exact ⟨by rwa [ne_eq, String.ofList_eq_empty_iff], by rwa [String.toList_ofList]⟩

/-- **Words that are written with spaces between them are read back.** -/
theorem words_join {ws : List String} (hws : ∀ w ∈ ws, IsWord w) : words (join " " ws) = ws := by
  induction ws with
  | nil => rfl
  | cons w ws ih =>
      obtain ⟨hw, hws⟩ := List.forall_mem_cons.mp hws
      have hne : w.toList ≠ [] := fun h => hw.ne_empty (String.toList_eq_nil_iff.mp h)
      have hwritten : ∃ rest, (join " " (w :: ws)).toList = w.toList ++ rest ∧
          (∀ c ∈ rest.head?, PageDirectives.isBlank c) ∧
          Chars.words rest = Chars.words (join " " ws).toList := by
        cases ws with
        | nil => exact ⟨[], by simp [join], nofun, rfl⟩
        | cons v ws =>
            refine ⟨' ' :: (join " " (v :: ws)).toList, by simp [join], ?_,
              Chars.words_cons_of_isBlank (by decide) _⟩
            intro c hc
            obtain rfl := Option.some.inj hc
            decide
      obtain ⟨rest, hrest, hblank, hwords⟩ := hwritten
      rw [words, hrest, Chars.words_append_of_not_isBlank hne hw.solid hblank, List.map_cons,
        String.ofList_toList, hwords]
      exact congrArg (w :: ·) (ih hws)

end Text

end PageDirectives
