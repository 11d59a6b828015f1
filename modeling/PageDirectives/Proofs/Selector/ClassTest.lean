import PageDirectives.Proofs.Text.Fold
import PageDirectives.Selector.Parser

set_option autoImplicit false

/-! # The test for a class

A dot and letters are read as the test for the class of that name (`Selector.parse?_of_class`). This
goes through all that there is to a selector: letters are one token (`Selector.readToken_of_isAlpha`),
a dot and a name are a compound of one test, a compound with nothing behind it is a chain, and a
chain with no comma behind it is a list.
-/

namespace PageDirectives.Selector

/-- A letter is none of the characters that tokens other than names begin with. -/
theorem ne_of_isAlpha {c d : Char} (hc : c.isAlpha) (hd : d.isAlpha = false) : c ≠ d := by
  rintro rfl
  rw [hc] at hd
  cases hd

theorem startsName_of_isAlpha {c : Char} (hc : c.isAlpha) : startsName c := by
  simp [startsName, hc]

theorem isInName_of_isAlpha {c : Char} (hc : c.isAlpha) : isInName c := by
  simp [isInName, startsName_of_isAlpha hc]

theorem isDigit_of_isAlpha {c : Char} (hc : c.isAlpha) : c.isDigit = false := by
  rw [Bool.eq_false_iff]
  intro hdigit
  simp only [Char.isAlpha, Char.isUpper, Char.isLower, Char.isDigit, UInt32.le_iff_toNat_le,
    Char.toNat_val, Char.reduceVal, UInt32.reduceToNat, Bool.or_eq_true, Bool.and_eq_true,
    decide_eq_true_eq, ge_iff_le] at hc hdigit
  omega

theorem isAsciiBlank_of_isAlpha {c : Char} (hc : c.isAlpha) : isAsciiBlank c = false := by
  rw [Bool.eq_false_iff]
  intro hblank
  have hnot := isAlpha_of_isBlank (isBlank_of_isAsciiBlank hblank)
  rw [hc] at hnot
  cases hnot

/-- **Letters are read as a name.** -/
theorem readName_of_isAlpha {s : List Char} (hs : ∀ c ∈ s, c.isAlpha) : readName s = (s, []) := by
  induction s with
  | nil => simp [readName]
  | cons c s ih =>
      obtain ⟨hc, hs⟩ := List.forall_mem_cons.mp hs
      have hbackslash : c ≠ '\\' := ne_of_isAlpha hc (by decide)
      have hnull : c ≠ '\x00' := ne_of_isAlpha hc (by decide)
      rw [readName]
      · simp [isInName_of_isAlpha hc, ih hs, hnull]
      · exact hbackslash

theorem opensName_of_isAlpha {c : Char} (hc : c.isAlpha) (s : List Char) : opensName (c :: s) := by
  have hdash : c ≠ '-' := ne_of_isAlpha hc (by decide)
  have hbackslash : c ≠ '\\' := ne_of_isAlpha hc (by decide)
  unfold opensName
  split
  · next h => exact absurd (List.cons.inj h).1 hdash
  · next h => exact absurd (List.cons.inj h).1 hdash
  · next h => exact absurd (List.cons.inj h).1 hbackslash
  · next h =>
      obtain ⟨rfl, -⟩ := List.cons.inj h
      exact startsName_of_isAlpha hc
  · next h => cases h

theorem opensNumber_of_isAlpha {c : Char} (hc : c.isAlpha) (s : List Char) :
    opensNumber (c :: s) = false := by
  have hplus : c ≠ '+' := ne_of_isAlpha hc (by decide)
  have hdash : c ≠ '-' := ne_of_isAlpha hc (by decide)
  have hdot : c ≠ '.' := ne_of_isAlpha hc (by decide)
  unfold opensNumber
  split
  · next h => exact absurd (List.cons.inj h).1 hplus
  · next h => exact absurd (List.cons.inj h).1 hdash
  · next h => exact absurd (List.cons.inj h).1 hdot
  · next h => exact absurd (List.cons.inj h).1 hplus
  · next h => exact absurd (List.cons.inj h).1 hdash
  · next h =>
      obtain ⟨rfl, -⟩ := List.cons.inj h
      exact isDigit_of_isAlpha hc
  · next h => cases h

theorem readToken_of_isAlpha {c : Char} {s : List Char} (hs : ∀ d ∈ c :: s, d.isAlpha) :
    readToken c s = (some (.name (.ofList (c :: s))), []) := by
  obtain ⟨hc, -⟩ := List.forall_mem_cons.mp hs
  have hne {d : Char} (hd : d.isAlpha = false) : c ≠ d := ne_of_isAlpha hc hd
  have hslash : c ≠ '/' := hne (by decide)
  have hquote : c ≠ '"' := hne (by decide)
  have hmark : c ≠ '\'' := hne (by decide)
  have hsign : c ≠ '#' := hne (by decide)
  have hopen : c ≠ '<' := hne (by decide)
  have hdash : c ≠ '-' := hne (by decide)
  have hnamed : readNamed (c :: s) = (.name (.ofList (c :: s)), []) := by
    rw [readNamed, readName_of_isAlpha hs]
  unfold readToken
  simp [isAsciiBlank_of_isAlpha hc, hslash, hquote, hmark, hsign, opensNumber_of_isAlpha hc,
    opensName_of_isAlpha hc, hnamed, Ne.symm hopen, Ne.symm hdash]

theorem readToken_dot {s : List Char} (hs : s.head?.any Char.isDigit = false) :
    readToken '.' s = (some (.mark '.'), s) := by
  have hnumber : opensNumber ('.' :: s) = false := by
    cases s with
    | nil => rfl
    | cons c s => simpa [opensNumber] using hs
  have hname : opensName ('.' :: s) = false := by
    simp [opensName, startsName]
  unfold readToken
  simp [isAsciiBlank, hnumber, hname]

/-- One token after the other. -/
theorem tokens_cons {c : Char} {s rest : List Char} {t : Option Token}
    (h : readToken c s = (t, rest)) (hrest : rest.length ≤ s.length) :
    tokens (c :: s) = t.toList ++ tokens rest := by
  rw [tokens, h]
  simp [hrest]

theorem tokens_dot_of_isAlpha {c : Char} {s : List Char} (hs : ∀ d ∈ c :: s, d.isAlpha) :
    tokens ('.' :: c :: s) = [.mark '.', .name (.ofList (c :: s))] := by
  have hdot : readToken '.' (c :: s) = (some (.mark '.'), c :: s) := by
    obtain ⟨hc, -⟩ := List.forall_mem_cons.mp hs
    exact readToken_dot (by simp [isDigit_of_isAlpha hc])
  have hname := readToken_of_isAlpha hs
  have hnil : tokens [] = [] := by rw [tokens]
  rw [tokens_cons hdot (Nat.le_refl _), tokens_cons hname (Nat.zero_le _), hnil]
  rfl

theorem readTests_of_class (lists : ListReader) (inHas : Bool) (c : String) :
    readTests lists inHas none [.mark '.', .name c] = some (some (test (.hasClass c)), []) := by
  have hnil (s : Option Selector) : readTests lists inHas s [] = some (s, []) := by
    rw [readTests, readTest]
    all_goals simp
  rw [readTests, readTest]
  simp [hnil]

theorem readCompound_of_class (lists : ListReader) (inHas : Bool) (c : String) :
    readCompound lists inHas [.mark '.', .name c] = some (test (.hasClass c), []) := by
  have hskip : skipBlank [.mark '.', .name c] = [.mark '.', .name c] := by simp [skipBlank]
  have htag : readTagTest [.mark '.', .name c] = some (none, [.mark '.', .name c]) := by
    rw [readTagTest]
    all_goals simp
  rw [readCompound, hskip, htag]
  simp [readTests_of_class]

theorem readChain_nil (lists : ListReader) (inHas : Bool) (left : Selector) :
    readChain lists inHas left [] = some left := by
  have hnone : readRelation [] = none := rfl
  rw [readChain, hnone]
  rfl

theorem readList_of_class (depth : Nat) (c : String) :
    readList (depth + 1) false .strict [.mark '.', .name c]
      = some (either (test (.hasClass c)) never) := by
  have hsplit : splitCommas [] [.mark '.', .name c] = [[.mark '.', .name c]] := by
    simp [splitCommas, Token.closer?]
  have hone (lists : ListReader) :
      readPart lists false .strict [.mark '.', .name c] = some (test (.hasClass c)) := by
    rw [readPart, readOne, if_neg (by decide), readCompound_of_class]
    simp [readChain_nil]
  rw [readList, hsplit]
  simp [hone]

/-- **A dot and letters are the test for a class.** -/
theorem parse?_of_class {c : String} (hne : c ≠ "") (hc : ∀ d ∈ c.toList, d.isAlpha) :
    parse? ("." ++ c) = some (either (test (.hasClass c)) never) := by
  obtain ⟨d, s, hs⟩ := List.exists_cons_of_ne_nil fun h => hne (String.toList_eq_nil_iff.mp h)
  have hwritten : ("." ++ c).toList = '.' :: d :: s := by simp [hs]
  have hname : String.ofList (d :: s) = c := by rw [← hs, String.ofList_toList]
  rw [hs] at hc
  rw [parse?, hwritten, tokens_dot_of_isAlpha hc, hname]
  exact readList_of_class _ c

end PageDirectives.Selector
