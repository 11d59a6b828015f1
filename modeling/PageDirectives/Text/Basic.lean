import PageDirectives.Text.Blank

set_option autoImplicit false

/-! # Text

Trimming, searching and splitting of text. Each operation is defined on lists of characters,
in the namespace `Chars`, where it is reasoned about; the operation of the same name in the
namespace `Text` is its counterpart on strings, related to it by a lemma on `String.toList`.
-/

namespace PageDirectives

namespace Chars

/-! ## Trimming -/

/-- Removes white space at the front. -/
def trimStart (s : List Char) : List Char := s.dropWhile isBlank

/-- Removes white space at the back. -/
def trimEnd (s : List Char) : List Char := (s.reverse.dropWhile isBlank).reverse

/-- Removes white space at both ends. -/
def trim (s : List Char) : List Char := trimEnd (trimStart s)

/-! ## Searching -/

/-- What follows `pat` in a text that starts with it. -/
def dropFront? : List Char → List Char → Option (List Char)
  | [], s => some s
  | _ :: _, [] => none
  | a :: pat, b :: s => if a = b then dropFront? pat s else none

theorem dropFront?_eq_some_iff {pat s rest : List Char} :
    dropFront? pat s = some rest ↔ s = pat ++ rest := by
  induction pat generalizing s with
  | nil => simp [dropFront?]
  | cons a pat ih =>
    cases s with
    | nil => simp [dropFront?]
    | cons b s =>
      by_cases hab : a = b
      · simp [dropFront?, hab, ih]
      · simp [dropFront?, hab, Ne.symm hab]

/-- Cuts a text at the first occurrence of `pat`: what stands before it and what stands after
it. The empty pattern occurs at the start of every text. -/
def cut? (pat : List Char) : List Char → Option (List Char × List Char)
  | [] => if pat = [] then some ([], []) else none
  | c :: s =>
    match dropFront? pat (c :: s) with
    | some after => some ([], after)
    | none => (cut? pat s).map fun p => (c :: p.1, p.2)

/-- The two parts and the pattern between them make up the text. -/
theorem eq_append_of_cut? {pat s before after : List Char}
    (h : cut? pat s = some (before, after)) : s = before ++ pat ++ after := by
  induction s generalizing before after with
  | nil =>
    by_cases hp : pat = []
    · simp [cut?, hp] at h; simp [hp, h]
    · simp [cut?, hp] at h
  | cons c s ih =>
    rw [cut?] at h
    split at h
    · next rest hrest =>
      obtain ⟨rfl, rfl⟩ := Prod.mk.inj (Option.some.inj h)
      simpa using dropFront?_eq_some_iff.1 hrest
    · obtain ⟨p, hp, heq⟩ := Option.map_eq_some_iff.1 h
      obtain ⟨rfl, rfl⟩ := Prod.mk.inj heq
      simp [ih hp]

/-- Whether `pat` occurs in the text. -/
def contains (pat s : List Char) : Bool := (cut? pat s).isSome

/-! ## Splitting -/

/-- Splits a text at the occurrences of `pat`, searched from the left and without overlap.
The empty pattern separates every two characters and also occurs at both ends. -/
def split (pat s : List Char) : List (List Char) :=
  if pat = [] then [] :: (s.map fun c => [c]) ++ [[]]
  else
    match _h : cut? pat s with
    | none => [s]
    | some (before, after) => before :: split pat after
termination_by s.length
decreasing_by
  have := congrArg List.length (eq_append_of_cut? _h)
  have := List.length_pos_iff.2 ‹¬ pat = []›
  simp only [List.length_append] at *
  omega

/-- The maximal runs without white space. -/
def words (s : List Char) : List (List Char) := (s.splitOnP isBlank).filter (· ≠ [])

/-- The lines of a text, without the line feeds that end them. -/
def lines (s : List Char) : List (List Char) := s.splitOn '\n'

/-- The text with the ASCII capitals replaced by small letters. -/
def lower (s : List Char) : List Char := s.map Char.toLower

/-- The characters that make up the first `n` bytes of a text in UTF-8: none if the text is shorter,
or if the last of these bytes is not the last one of its character. -/
def takeBytes? : Nat → List Char → Option (List Char)
  | 0, _ => some []
  | _ + 1, [] => none
  | n + 1, c :: s =>
    if c.utf8Size ≤ n + 1 then (takeBytes? (n + 1 - c.utf8Size) s).map (c :: ·) else none

end Chars

namespace Text

/-- Removes white space at the front. -/
def trimStart (s : String) : String := .ofList (Chars.trimStart s.toList)

/-- Removes white space at both ends. -/
def trim (s : String) : String := .ofList (Chars.trim s.toList)

/-- Cuts a text at the first occurrence of `pat`, which is left out. -/
def cut? (pat s : String) : Option (String × String) :=
  (Chars.cut? pat.toList s.toList).map fun p => (.ofList p.1, .ofList p.2)

/-- Whether `pat` occurs in the text. -/
def contains (pat s : String) : Bool := Chars.contains pat.toList s.toList

/-- What follows `pat` in a text that starts with it. -/
def dropFront? (pat s : String) : Option String :=
  (Chars.dropFront? pat.toList s.toList).map String.ofList

/-- Whether the text starts with `pat`. -/
def startsWith (pat s : String) : Bool := pat.toList.isPrefixOf s.toList

/-- Splits a text at the occurrences of `pat`. -/
def split (pat s : String) : List String :=
  (Chars.split pat.toList s.toList).map String.ofList

/-- The maximal runs without white space. -/
def words (s : String) : List String := (Chars.words s.toList).map String.ofList

/-- The lines of a text. -/
def lines (s : String) : List String := (Chars.lines s.toList).map String.ofList

/-- The text with the ASCII capitals replaced by small letters. -/
def lower (s : String) : String := .ofList (Chars.lower s.toList)

/-- The first `n` bytes of a text, if they are whole characters. -/
def takeBytes? (n : Nat) (s : String) : Option String :=
  (Chars.takeBytes? n s.toList).map String.ofList

/-- The text without white space at the ends is empty. -/
def isBlank (s : String) : Bool := s.toList.all PageDirectives.isBlank

/-- Two texts that differ at most in the case of ASCII letters. -/
def sameFold (s t : String) : Bool := lower s == lower t

/-- The texts in order, with `sep` between every two. -/
def join (sep : String) (parts : List String) : String := sep.intercalate parts

@[simp] theorem toList_trim (s : String) : (trim s).toList = Chars.trim s.toList := by
  simp [trim]

@[simp] theorem toList_lower (s : String) : (lower s).toList = Chars.lower s.toList := by
  simp [lower]

end Text

end PageDirectives
