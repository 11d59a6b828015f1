import Mathlib
import PageDirectives.Proofs.Text.Trim

set_option autoImplicit false

/-! # Small letters

Writing a text in small letters twice is writing it so once, and letters are all that changes: the
white space is where it was (`Chars.trim_lower`), and so is every other character that is no letter
(`Chars.mem_lower_iff`).
-/

namespace PageDirectives

/-- Only letters become letters. -/
theorem toLower_eq_iff {c d : Char} (hd : d.isAlpha = false) : c.toLower = d ↔ c = d := by
  have hself {a : Char} (ha : a.isAlpha = false) : a.toLower = a :=
    Char.toLower_eq_of_not_isUpper fun hupper => by simp [Char.isAlpha, hupper] at ha
  constructor
  · rintro rfl
    rw [Char.isAlpha_toLower_eq_isAlpha] at hd
    exact (hself hd).symm
  · rintro rfl
    exact hself hd

theorem isAlpha_of_isBlank {c : Char} (hc : isBlank c) : c.isAlpha = false := by
  rw [Bool.eq_false_iff]
  intro halpha
  simp only [isBlank, Bool.or_eq_true, Bool.and_eq_true, decide_eq_true_eq, beq_iff_eq] at hc
  simp only [Char.isAlpha, Char.isUpper, Char.isLower, UInt32.le_iff_toNat_le, Char.toNat_val,
    Char.reduceVal, UInt32.reduceToNat, Bool.or_eq_true, Bool.and_eq_true, decide_eq_true_eq,
    ge_iff_le] at halpha
  omega

theorem isBlank_toLower (c : Char) : isBlank c.toLower = isBlank c := by
  rw [Bool.eq_iff_iff]
  constructor
  · intro h
    rwa [← (toLower_eq_iff (isAlpha_of_isBlank h)).mp rfl] at h
  · intro h
    rwa [(toLower_eq_iff (isAlpha_of_isBlank h)).mpr rfl]

namespace Chars

@[simp] theorem lower_lower (s : List Char) : lower (lower s) = lower s := by
  rw [lower, lower, List.map_map]
  exact List.map_congr_left fun c _ => Char.toLower_toLower_eq_toLower c

/-- Characters that are no letters stay. -/
theorem mem_lower_iff {c : Char} (hc : c.isAlpha = false) {s : List Char} :
    c ∈ lower s ↔ c ∈ s := by
  simp only [lower, List.mem_map, toLower_eq_iff hc, exists_eq_right]

theorem trimStart_lower (s : List Char) : trimStart (lower s) = lower (trimStart s) := by
  rw [trimStart, lower, List.dropWhile_map]
  simp only [Function.comp_def, isBlank_toLower]
  rfl

theorem trimEnd_lower (s : List Char) : trimEnd (lower s) = lower (trimEnd s) := by
  have hback := trimStart_lower s.reverse
  rw [trimEnd, trimEnd, lower, lower, List.map_reverse, ← List.map_reverse]
  exact congrArg List.reverse hback

/-- The white space is where it was. -/
theorem trim_lower (s : List Char) : trim (lower s) = lower (trim s) := by
  rw [trim, trimStart_lower, trimEnd_lower, trim]

end Chars

namespace Text

theorem sameFold_iff {s t : String} : sameFold s t ↔ lower s = lower t := beq_iff_eq

@[simp] theorem lower_lower (s : String) : lower (lower s) = lower s := by
  rw [lower, toList_lower, Chars.lower_lower]
  rfl

/-- A tight text in small letters is tight. -/
theorem IsTight.lower {s : String} (hs : IsTight s) : IsTight (lower s) where
  ne_empty h := by
    have hnil := String.toList_eq_nil_iff.mpr h
    rw [toList_lower] at hnil
    exact hs.toList_ne_nil (List.map_eq_nil_iff.mp hnil)
  trim_eq := by
    rw [← String.toList_inj, toList_trim, toList_lower, Chars.trim_lower, hs.trim_toList]

end Text

end PageDirectives
