import PageDirectives.Proofs.Text.Fold

set_option autoImplicit false

/-! # The first bytes of a text

A text has a front of `n` bytes in UTF-8 if one of its characters ends there
(`Text.takeBytes?_eq_some_iff`). Letters take up as many bytes as they do in small letters, so whether
a text in small letters begins with a phrase can be seen from as many of its bytes as the phrase has,
and from more of them (`Text.startsWith_lower_takeBytes?`).

Where a front ends the text can be cut in two (`Text.cutBytes?`), which is possible wherever it is put
together from two texts and nowhere else (`Text.cutBytes?_eq_some_iff`).
-/

namespace PageDirectives

theorem utf8Size_toLower (c : Char) : c.toLower.utf8Size = c.utf8Size := by
  by_cases hc : c.isUpper
  · simp only [Char.isUpper, decide_eq_true_eq] at hc
    have hrange : 65 ≤ c.val.toNat ∧ c.val.toNat ≤ 90 := by
      simpa [UInt32.le_iff_toNat_le] using hc
    have hlower : c.toLower.val.toNat = (c.val.toNat + 32) % 2 ^ 32 := by
      rw [Char.toLower, dif_pos hc]
      exact UInt32.toNat_add _ _
    have hone {d : Char} (hd : d.val.toNat ≤ 127) : d.utf8Size = 1 :=
      Char.utf8Size_eq_one_iff.mpr (UInt32.le_iff_toNat_le.mpr hd)
    rw [hone (by omega), hone (by omega)]
  · rw [Char.toLower_eq_of_not_isUpper hc]

namespace Chars

/-- The first bytes are a front of that size. -/
theorem takeBytes?_eq_some_iff {n : Nat} {s front : List Char} :
    takeBytes? n s = some front ↔ front <+: s ∧ (String.ofList front).utf8ByteSize = n := by
  induction s generalizing n front with
  | nil =>
      rw [List.prefix_nil]
      cases n with
      | zero =>
          rw [takeBytes?, String.utf8ByteSize_eq_zero_iff, String.ofList_eq_empty_iff, and_self,
            Option.some.injEq, eq_comm]
      | succ n =>
          refine iff_of_false nofun ?_
          rintro ⟨rfl, hsize⟩
          cases hsize
  | cons c s ih =>
      cases n with
      | zero =>
          rw [takeBytes?, String.utf8ByteSize_eq_zero_iff, String.ofList_eq_empty_iff,
            Option.some.injEq, eq_comm]
          exact (and_iff_right_of_imp fun h => h ▸ List.nil_prefix).symm
      | succ n =>
          cases front with
          | nil =>
              rw [takeBytes?]
              split <;> simp
          | cons b front =>
              have hsize : (String.ofList (b :: front)).utf8ByteSize
                  = b.utf8Size + (String.ofList front).utf8ByteSize := by
                rw [String.ofList_cons, String.utf8ByteSize_append, String.utf8ByteSize_singleton]
              rw [takeBytes?, hsize, List.cons_prefix_cons]
              split
              · next hfits =>
                  simp only [Option.map_eq_some_iff, List.cons.injEq, ih]
                  constructor
                  · rintro ⟨rest, ⟨hrest, hbytes⟩, rfl, rfl⟩
                    exact ⟨⟨rfl, hrest⟩, by omega⟩
                  · rintro ⟨⟨rfl, hrest⟩, hbytes⟩
                    exact ⟨front, ⟨hrest, by omega⟩, rfl, rfl⟩
              · next hlong =>
                  refine iff_of_false nofun ?_
                  rintro ⟨⟨rfl, -⟩, hbytes⟩
                  omega

end Chars

namespace Text

theorem takeBytes?_eq_some_iff {n : Nat} {s front : String} :
    takeBytes? n s = some front ↔ front.toList <+: s.toList ∧ front.utf8ByteSize = n := by
  rw [takeBytes?, Option.map_eq_some_iff]
  simp only [Chars.takeBytes?_eq_some_iff]
  constructor
  · rintro ⟨cs, hcs, rfl⟩
    rwa [String.toList_ofList]
  · intro h
    exact ⟨front.toList, by rwa [String.ofList_toList], String.ofList_toList⟩

/-- A text cut behind its first `n` bytes, if they are whole characters. -/
def cutBytes? (n : Nat) (s : String) : Option (String × String) :=
  (Chars.takeBytes? n s.toList).map fun front =>
    (.ofList front, .ofList (s.toList.drop front.length))

/-- A text can be cut between any two of its parts. -/
theorem cutBytes?_eq_some_iff {n : Nat} {s front back : String} :
    cutBytes? n s = some (front, back) ↔ s = front ++ back ∧ front.utf8ByteSize = n := by
  rw [cutBytes?, Option.map_eq_some_iff]
  simp only [Chars.takeBytes?_eq_some_iff, Prod.mk.injEq]
  constructor
  · rintro ⟨cs, ⟨hpre, hsize⟩, rfl, rfl⟩
    refine ⟨?_, hsize⟩
    rw [← String.toList_inj, String.toList_append, String.toList_ofList, String.toList_ofList]
    exact (List.prefix_iff_eq_append.mp hpre).symm
  · rintro ⟨rfl, hsize⟩
    refine ⟨front.toList, ⟨?_, by rwa [String.ofList_toList]⟩, String.ofList_toList, ?_⟩
    · rw [String.toList_append]
      exact List.prefix_append _ _
    · rw [String.toList_append, List.drop_left, String.ofList_toList]

theorem utf8ByteSize_lower (s : String) : (lower s).utf8ByteSize = s.utf8ByteSize := by
  have hchars (cs : List Char) :
      (String.ofList (Chars.lower cs)).utf8ByteSize = (String.ofList cs).utf8ByteSize := by
    induction cs with
    | nil => rfl
    | cons c cs ih =>
        rw [Chars.lower, List.map_cons, String.ofList_cons, String.ofList_cons,
          String.utf8ByteSize_append, String.utf8ByteSize_append, String.utf8ByteSize_singleton,
          String.utf8ByteSize_singleton, utf8Size_toLower]
        exact congrArg (c.utf8Size + ·) ih
  rw [lower, hchars, String.ofList_toList]

/-- A text in small letters begins with a phrase if it has a front that is the phrase in some case of
letters. -/
theorem startsWith_lower_iff {pat s : String} :
    startsWith pat (lower s) ↔ ∃ front : String, front.toList <+: s.toList ∧ lower front = pat := by
  rw [startsWith, List.isPrefixOf_iff_prefix, toList_lower, Chars.lower, List.prefix_map_iff]
  constructor
  · rintro ⟨cs, hcs, heq⟩
    refine ⟨.ofList cs, by rwa [String.toList_ofList], ?_⟩
    rw [← String.toList_inj, toList_lower, String.toList_ofList, heq]
    rfl
  · rintro ⟨front, hfront, rfl⟩
    exact ⟨front.toList, hfront, toList_lower front⟩

/-- **How a text begins can be seen from its first bytes**, if they are at least as many as those of
the phrase and are whole characters; otherwise all of the text is looked at. -/
theorem startsWith_lower_takeBytes? {pat : String} {n : Nat} (hpat : pat.utf8ByteSize ≤ n)
    (s : String) :
    startsWith pat (lower ((takeBytes? n s).getD s)) = startsWith pat (lower s) := by
  cases htake : takeBytes? n s with
  | none => rw [Option.getD_none]
  | some bytes =>
      obtain ⟨hbytes, hsize⟩ := takeBytes?_eq_some_iff.mp htake
      rw [Option.getD_some, Bool.eq_iff_iff, startsWith_lower_iff, startsWith_lower_iff]
      refine exists_congr fun front => and_congr_left fun hlower => ?_
      constructor
      · intro hfront
        exact hfront.trans hbytes
      · intro hfront
        rcases List.prefix_or_prefix_of_prefix hfront hbytes with hle | ⟨more, hmore⟩
        · exact hle
        -- the phrase has no more bytes than those that are looked at, so it does not go beyond them
        · have hfrontSize : front = bytes ++ String.ofList more := by
            rw [← String.toList_inj, String.toList_append, String.toList_ofList, hmore]
          have hempty : (String.ofList more).utf8ByteSize = 0 := by
            have hle : front.utf8ByteSize ≤ n := by rwa [← utf8ByteSize_lower, hlower]
            rw [hfrontSize, String.utf8ByteSize_append, hsize] at hle
            omega
          rw [String.utf8ByteSize_eq_zero_iff, String.ofList_eq_empty_iff] at hempty
          rw [← hmore, hempty, List.append_nil]

end Text

end PageDirectives
