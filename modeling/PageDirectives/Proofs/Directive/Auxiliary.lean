import PageDirectives.Proofs.Directive.Writing

set_option autoImplicit false

/-! # Spaces around the auxiliary

The auxiliary is taken from the front of what stands behind the verb before that is trimmed. So it is
found only if no more than one space stands between it and the verb, which is the one that belongs to
the verb; behind further spaces it is left to the actions. Spaces behind it are trimmed away with
those around the actions, unless the actions begin with the word of the options phrase: this takes
the last of the spaces in front of it, and nothing is left for the actions.

How a line is read whatever the spaces are is said for the default phrases
(`Clauses.ofLine_of_spaces`).
-/

namespace PageDirectives

namespace Text

/-- A text of spaces. -/
def spaces (n : Nat) : String := .ofList (.replicate n ' ')

@[simp] theorem toList_spaces (n : Nat) : (spaces n).toList = .replicate n ' ' := by simp [spaces]

@[simp] theorem spaces_zero : spaces 0 = "" := rfl

theorem spaces_succ (n : Nat) : spaces (n + 1) = spaces n ++ " " := by
  rw [← String.toList_inj]
  simp [List.replicate_succ']

theorem isBlank_spaces (n : Nat) : isBlank (spaces n) := by
  have hspace : PageDirectives.isBlank ' ' := rfl
  rw [isBlank, toList_spaces, List.all_replicate, hspace]
  exact ite_self _

/-! ## Phrases behind spaces -/

variable {pat front : String} {c d : Char} {rest : List Char}

theorem contains_congr {s t : String} (h : pat.toList <:+: s.toList ↔ pat.toList <:+: t.toList) :
    contains pat s = contains pat t := by
  rw [Bool.eq_iff_iff, contains_iff, contains_iff, h]

theorem contains_append_of_notMem (hpat : pat.toList = c :: rest) (hfront : c ∉ front.toList)
    (s : String) : contains pat (front ++ s) = contains pat s := by
  refine contains_congr ?_
  rw [hpat, String.toList_append]
  exact Chars.infix_append_iff_of_notMem hfront

theorem contains_spaces_append (hpat : pat.toList = ' ' :: d :: rest) (hd : d ≠ ' ') (n : Nat)
    (s : String) : contains pat (spaces (n + 1) ++ s) = contains pat (" " ++ s) := by
  refine contains_congr ?_
  rw [hpat, String.toList_append, String.toList_append, toList_spaces]
  exact Chars.infix_replicate_append_iff hd n

/-- A phrase that occurs behind a space and not without it begins there. -/
theorem exists_eq_append_of_contains (hpat : pat.toList = ' ' :: rest) {s : String}
    (hspace : contains pat (" " ++ s)) (hno : contains pat s = false) :
    ∃ more, s = .ofList rest ++ more := by
  rw [contains_iff, hpat, String.toList_append] at hspace
  rcases List.infix_cons_iff.mp hspace with hprefix | hinfix
  · obtain ⟨more, hmore⟩ := (List.cons_prefix_cons.mp hprefix).2
    exact ⟨.ofList more, by rw [← String.toList_inj]; simpa using hmore.symm⟩
  · have hyes : contains pat s := contains_iff.mpr (hpat ▸ hinfix)
    rw [hno] at hyes
    cases hyes

end Text

namespace Clauses

open Text (spaces)

variable {s a o : String}

/-- A phrase that begins neither with the auxiliary nor with a second space is found behind it if and
only if it is found behind one space. -/
theorem contains_spaces_be {pat : String} {d : Char} {rest : List Char}
    (hpat : pat.toList = ' ' :: d :: rest) (hd : d ≠ ' ') (hb : d ≠ 'b') (m n : Nat) (a : String) :
    Text.contains pat (spaces m ++ "be " ++ spaces n ++ a) = Text.contains pat (" " ++ a) := by
  have hbe : Text.contains pat ("be" ++ (spaces (n + 1) ++ a)) = Text.contains pat (" " ++ a) := by
    rw [Text.contains_append_of_notMem hpat (by decide), Text.contains_spaces_append hpat hd]
  have hline : spaces m ++ "be " ++ spaces n ++ a = spaces m ++ ("be" ++ (spaces (n + 1) ++ a)) := by
    rw [← String.toList_inj]
    simp [List.replicate_succ]
  rw [hline, ← hbe]
  cases m with
  | zero => rw [Text.spaces_zero, String.empty_append]
  | succ m =>
      rw [Text.contains_spaces_append hpat hd]
      refine Text.contains_congr ?_
      have hspace (t : String) : (" " ++ t).toList = ' ' :: t.toList := String.toList_append
      rw [hpat, hspace, List.infix_cons_iff]
      refine or_iff_right fun hprefix => hb ?_
      have hnext := (List.cons_prefix_cons.mp hprefix).2
      rw [String.toList_append] at hnext
      exact (List.cons_prefix_cons.mp hnext).1

/-! ## What is found -/

/-- Without the spaces in front of it, a clause that opens with the auxiliary is tight. -/
theorem trim_be (ha : Text.IsTight a) (m n : Nat) :
    Text.trim (spaces m ++ "be " ++ spaces n ++ a) = "be " ++ spaces n ++ a := by
  have hbe : Text.IsTight "be" := ⟨by decide, by decide⟩
  have h := (hbe.append_append (" " ++ spaces n) ha).trim_append_append (Text.isBlank_spaces m)
    (show Text.isBlank "" from rfl)
  simpa [← String.append_assoc] using h

/-- Right behind the verb the auxiliary is found. -/
theorem strips_be (n : Nat) (a : String) :
    Strips {} (spaces 0 ++ "be " ++ spaces n ++ a) (spaces n ++ a) := by
  refine .auxiliary ?_
  rw [Text.spaces_zero, String.empty_append, String.append_assoc]
  rfl

/-- Behind a space of its own it is not. -/
theorem strips_spaces_be (m n : Nat) (a : String) :
    Strips {} (spaces (m + 1) ++ "be " ++ spaces n ++ a)
      (spaces (m + 1) ++ "be " ++ spaces n ++ a) := by
  refine .none fun hoccurs => ?_
  have hbe : (Text.trimStart (Grammar.auxiliary {})).toList = 'b' :: ['e', ' '] := by decide
  rw [Text.OccursAt, List.drop_zero, hbe] at hoccurs
  simp only [String.toList_append, Text.toList_spaces, List.replicate_succ, List.cons_append]
    at hoccurs
  exact absurd (List.cons_prefix_cons.mp hoccurs).1 (by decide)

/-- The word of the options phrase takes the last space in front of it. -/
theorem cutAt_with {front : String} (hno : Text.contains " with " (front ++ " ") = false) (o : String) :
    Text.CutAt " with " (front ++ " " ++ ("with " ++ o)) front o := by
  have h := Text.CutAt.of_isSpaced isSpaced_with hno o
  have heq : front ++ " with " ++ o = front ++ " " ++ ("with " ++ o) := by
    rw [← String.toList_inj]
    simp
  rwa [heq] at h

/-- What follows the word of the options phrase at the front of tight actions is not blank. -/
theorem trim_ne_empty_of_with (ha : Text.IsTight ("with " ++ o)) : Text.trim o ≠ "" := by
  intro hempty
  have hblank : Text.isBlank (" " ++ o) := by
    rw [Text.trim_eq_empty_iff] at hempty
    rw [Text.isBlank, String.toList_append, List.all_append, Bool.and_eq_true]
    exact ⟨rfl, hempty⟩
  have hwith : Text.IsTight "with" := ⟨by decide, by decide⟩
  have htrim : Text.trim ("with " ++ o) = "with" := by
    have h := hwith.trim_append_append (show Text.isBlank "" from rfl) hblank
    simpa [← String.append_assoc] using h
  have hlength := congrArg String.length (ha.trim_eq.symm.trans htrim)
  rw [String.length_append, show "with ".length = 5 from rfl, show "with".length = 4 from rfl]
    at hlength
  omega

/-! ## How the line is read -/

section Reading

variable (hs : Text.IsTight s) (ha : Text.IsTight a) (hcomment : Text.contains "//" s = false)
  (hverb : Text.contains " should " (s ++ " ") = false)
  (hon : Text.contains " on " (" " ++ a) = false)

include hs ha hcomment hverb hon

/-- How a line with the auxiliary is read, whatever the spaces are. -/
theorem ofLine_of_strips {m n : Nat} {clause actions : String} {options : Option String}
    (hstrips : Strips {} (spaces m ++ "be " ++ spaces n ++ a) clause)
    (hdivides : Divides {} clause actions options) :
    ofLine {} (s ++ " should " ++ spaces m ++ "be " ++ spaces n ++ a)
      = if Text.trim actions = "" then .error .emptyAction
        else .ok ⟨s, Text.trim actions, .predicate ((options.map Text.trim).filter (· ≠ ""))⟩ := by
  have hline : s ++ " should " ++ spaces m ++ "be " ++ spaces n ++ a
      = s ++ " should " ++ (spaces m ++ "be " ++ spaces n ++ a) := by
    simp only [String.append_assoc]
  have htight : Text.trim (s ++ " should " ++ (spaces m ++ "be " ++ spaces n ++ a))
      = s ++ " should " ++ (spaces m ++ "be " ++ spaces n ++ a) := by
    have h := (hs.append_append (" should " ++ spaces m ++ "be " ++ spaces n) ha).trim_eq
    simpa only [String.append_assoc] using h
  have hno : ∀ k, ¬ Text.OccursAt " on " (spaces m ++ "be " ++ spaces n ++ a) k := by
    refine Text.not_occursAt_of_contains ?_
    rw [contains_spaces_be rfl (by decide) (by decide), hon]
  -- there is something behind the auxiliary
  have hbare : Text.trim (spaces m ++ "be " ++ spaces n ++ a) ≠ Text.trim (Grammar.auxiliary {}) := by
    rw [trim_be ha]
    intro hbare
    have hlength := congrArg String.length hbare
    rw [String.length_append, String.length_append, show "be ".length = 3 from rfl,
      show (Text.trim (Grammar.auxiliary {})).length = 2 from by decide] at hlength
    omega
  have hopens := opens_of_isTight hs hcomment hverb (spaces m ++ "be " ++ spaces n ++ a)
  rw [hline]
  split
  · next hempty =>
      refine ofLine_of_refused ?_
      rw [htight]
      exact .noPredicate hopens hno hbare hstrips hdivides hempty
  · next hactions =>
      rw [← htight] at hopens
      have hfits := Form.Fits.predicate hopens hno hbare hstrips hdivides hactions
      rw [ofLine_of_fits hfits, Form.clauses, hs.trim_eq]

/-- Actions in which the options phrase does not occur follow an auxiliary that is found. -/
theorem ofLine_of_be {n : Nat} (hfree : Text.contains " with " (spaces n ++ a) = false) :
    ofLine {} (s ++ " should " ++ spaces 0 ++ "be " ++ spaces n ++ a)
      = .ok ⟨s, a, .predicate none⟩ := by
  have htrim : Text.trim (spaces n ++ a) = a := by
    have h := ha.trim_append_append (Text.isBlank_spaces n) (show Text.isBlank "" from rfl)
    rwa [String.append_empty] at h
  rw [ofLine_of_strips hs ha hcomment hverb hon (strips_be n a)
    (.none (Text.not_occursAt_of_contains hfree)), htrim, if_neg ha.ne_empty]
  rfl

/-- They begin with an auxiliary that is not found. -/
theorem ofLine_of_spaces_be (hfree : Text.contains " with " (" " ++ a) = false) (m n : Nat) :
    ofLine {} (s ++ " should " ++ spaces (m + 1) ++ "be " ++ spaces n ++ a)
      = .ok ⟨s, "be " ++ spaces n ++ a, .predicate none⟩ := by
  have hrest : Text.contains " with " (spaces (m + 1) ++ "be " ++ spaces n ++ a) = false := by
    rw [contains_spaces_be rfl (by decide) (by decide), hfree]
  have hne : "be " ++ spaces n ++ a ≠ "" := by simp [← String.toList_inj]
  rw [ofLine_of_strips hs ha hcomment hverb hon (strips_spaces_be m n a)
    (.none (Text.not_occursAt_of_contains hrest)), trim_be ha, if_neg hne]
  rfl

end Reading

section Options

variable (hs : Text.IsTight s) (ha : Text.IsTight ("with " ++ o))
  (hcomment : Text.contains "//" s = false) (hverb : Text.contains " should " (s ++ " ") = false)
  (hon : Text.contains " on " (" " ++ ("with " ++ o)) = false)

include hs ha hcomment hverb hon

/-- The word of the options phrase follows an auxiliary that is found, and there are no actions. -/
theorem ofLine_of_be_with (n : Nat) :
    ofLine {} (s ++ " should " ++ spaces 0 ++ "be " ++ spaces (n + 1) ++ ("with " ++ o))
      = .error .emptyAction := by
  have hno : Text.contains " with " (spaces n ++ " ") = false := by
    rw [← Text.spaces_succ, ← String.append_empty (s := spaces (n + 1)),
      Text.contains_spaces_append rfl (by decide)]
    rfl
  have hcut := cutAt_with hno o
  rw [← Text.spaces_succ] at hcut
  have htrim : Text.trim (spaces n) = "" := Text.trim_eq_empty_iff.mpr (Text.isBlank_spaces n)
  rw [ofLine_of_strips hs ha hcomment hverb hon (strips_be (n + 1) _) (.options hcut), htrim,
    if_pos rfl]

/-- It follows an auxiliary that is not found, which is left as the actions. -/
theorem ofLine_of_spaces_be_with (m n : Nat) :
    ofLine {} (s ++ " should " ++ spaces (m + 1) ++ "be " ++ spaces n ++ ("with " ++ o))
      = .ok ⟨s, "be", .predicate (some (Text.trim o))⟩ := by
  have hspace : spaces (m + 1) ++ "be" ++ spaces n ++ " " = spaces (m + 1) ++ "be " ++ spaces n := by
    rw [String.append_assoc, ← Text.spaces_succ]
    rw [← String.toList_inj]
    simp [List.replicate_succ]
  have hno : Text.contains " with " (spaces (m + 1) ++ "be" ++ spaces n ++ " ") = false := by
    rw [hspace, ← String.append_empty (s := spaces (m + 1) ++ "be " ++ spaces n),
      contains_spaces_be rfl (by decide) (by decide)]
    rfl
  have hcut := cutAt_with hno o
  rw [hspace] at hcut
  have hbe : Text.IsTight "be" := ⟨by decide, by decide⟩
  have htrim : Text.trim (spaces (m + 1) ++ "be" ++ spaces n) = "be" :=
    hbe.trim_append_append (Text.isBlank_spaces _) (Text.isBlank_spaces _)
  have hoptions : (some (Text.trim o)).filter (· ≠ "") = some (Text.trim o) := by
    rw [Option.filter_some, if_pos (by simpa using trim_ne_empty_of_with ha)]
  rw [ofLine_of_strips hs ha hcomment hverb hon (strips_spaces_be m n _) (.options hcut), htrim,
    if_neg hbe.ne_empty, Option.map_some, hoptions]

end Options

/-- **Spaces around the auxiliary.** A line is written from a selector and actions in which no phrase
occurs, with the auxiliary between them, `m` more spaces in front of it than the verb has, and `n`
more behind it than it has itself. Without any of these the selector and the actions are read as they
are written. Spaces in front of the auxiliary always change what is read: it is the first word of the
actions then, and all of them if the word of the options phrase stands behind it. Spaces behind it
change what is read in this last case only, in which nothing is left for the actions. -/
theorem ofLine_of_spaces (hs : Text.IsTight s) (ha : Text.IsTight a)
    (hcomment : Text.contains "//" s = false) (hverb : Text.contains " should " (s ++ " ") = false)
    (hon : Text.contains " on " (" " ++ a) = false) (hwith : Text.contains " with " a = false)
    (m n : Nat) :
    let line := s ++ " should " ++ spaces m ++ "be " ++ spaces n ++ a
    ofLine {} (s ++ " should be " ++ a) = .ok ⟨s, a, .predicate none⟩ ∧
    (Text.contains " with " (" " ++ a) = false →
      ofLine {} line = .ok ⟨s, if m = 0 then a else "be " ++ spaces n ++ a, .predicate none⟩) ∧
    (∀ o, a = "with " ++ o → ofLine {} line =
      if m ≠ 0 then .ok ⟨s, "be", .predicate (some (Text.trim o))⟩
      else if n ≠ 0 then .error .emptyAction else .ok ⟨s, a, .predicate none⟩) ∧
    (ofLine {} line = ofLine {} (s ++ " should be " ++ a) ↔
      m = 0 ∧ (n = 0 ∨ Text.contains " with " (" " ++ a) = false)) := by
  intro line
  have hnone : Text.contains " with " (spaces 0 ++ a) = false := by
    rw [Text.spaces_zero, String.empty_append]
    exact hwith
  have hplain : ofLine {} (s ++ " should be " ++ a) = .ok ⟨s, a, .predicate none⟩ := by
    have heq : s ++ " should be " ++ a = s ++ " should " ++ spaces 0 ++ "be " ++ spaces 0 ++ a := by
      rw [← String.toList_inj]
      simp
    rw [heq]
    exact ofLine_of_be hs ha hcomment hverb hon hnone
  have hfree (h : Text.contains " with " (" " ++ a) = false) : ofLine {} line
      = .ok ⟨s, if m = 0 then a else "be " ++ spaces n ++ a, .predicate none⟩ := by
    cases m with
    | succ m => exact ofLine_of_spaces_be hs ha hcomment hverb hon h m n
    | zero =>
        refine ofLine_of_be hs ha hcomment hverb hon ?_
        cases n with
        | zero => exact hnone
        | succ n => rw [Text.contains_spaces_append rfl (by decide), h]
  have hoptions (o : String) (ho : a = "with " ++ o) : ofLine {} line
      = if m ≠ 0 then .ok ⟨s, "be", .predicate (some (Text.trim o))⟩
        else if n ≠ 0 then .error .emptyAction else .ok ⟨s, a, .predicate none⟩ := by
    subst ho
    cases m with
    | succ m => exact ofLine_of_spaces_be_with hs ha hcomment hverb hon m n
    | zero =>
        cases n with
        | succ n => exact ofLine_of_be_with hs ha hcomment hverb hon n
        | zero => exact ofLine_of_be hs ha hcomment hverb hon hnone
  -- the actions of the two lines differ in length, or one of them is refused
  refine ⟨hplain, hfree, hoptions, ?_⟩
  rw [hplain]
  cases h : Text.contains " with " (" " ++ a) with
  | false =>
      rw [hfree h]
      by_cases hm : m = 0
      · simp [hm]
      · have hlonger : "be " ++ spaces n ++ a ≠ a := by
          intro heq
          have hlength := congrArg String.length heq
          rw [String.length_append, String.length_append, show "be ".length = 3 from rfl] at hlength
          omega
        simp [hm, hlonger]
  | true =>
      obtain ⟨o, ho⟩ := Text.exists_eq_append_of_contains rfl h hwith
      rw [hoptions o ho]
      by_cases hm : m = 0
      · by_cases hn : n = 0
        · simp [hm, hn]
        · simp [hm, hn]
      · simp [hm]

/-- A space more behind the auxiliary, and one more in front of it as well. -/
theorem ofLine_of_draggable :
    Text.IsTight "#a" ∧ Text.IsTight "draggable" ∧ Text.contains " with " " draggable" = false ∧
      ofLine {} "#a should be  draggable" = .ok ⟨"#a", "draggable", .predicate none⟩ ∧
      ofLine {} "#a should  be  draggable" = .ok ⟨"#a", "be  draggable", .predicate none⟩ := by
  have hs : Text.IsTight "#a" := ⟨by decide, by decide⟩
  have ha : Text.IsTight "draggable" := ⟨by decide, by decide⟩
  have hfree : Text.contains " with " " draggable" = false := by decide
  have hread := ofLine_of_spaces hs ha (by decide) (by decide) (by decide) (by decide)
  exact ⟨hs, ha, hfree, (hread 0 1).2.1 hfree, (hread 1 1).2.1 hfree⟩

/-- **Two spaces in front of the auxiliary** make it the first word of the actions. -/
theorem ofLine_of_twoSpaces :
    Text.IsTight "#a" ∧ Text.IsTight "draggable" ∧ Text.contains "//" "#a" = false ∧
      Text.contains " should " "#a " = false ∧ Text.contains " on " " draggable" = false ∧
      Text.contains " with " "draggable" = false ∧
      ofLine {} "#a should be draggable" = .ok ⟨"#a", "draggable", .predicate none⟩ ∧
      ofLine {} ("#a should " ++ spaces 1 ++ "be " ++ spaces 0 ++ "draggable")
        = .ok ⟨"#a", "be draggable", .predicate none⟩ := by
  refine ⟨⟨by decide, by decide⟩, ⟨by decide, by decide⟩, ?_⟩
  decide

end Clauses

end PageDirectives
