import PageDirectives.Proofs.Directive.Form
import PageDirectives.Proofs.Text.Trim

set_option autoImplicit false

/-! # Writing a directive line

A line that is written from clauses, with the default phrases between them, is read as these clauses
(`Clauses.ofLine_of_clauses`). What has to be asked of the clauses is that a phrase does not occur
earlier than it was written: in the selector with a space behind it, for the verb, and in the actions
with the space of the phrase that follows, or of the one in front of them, for the others.
-/

namespace PageDirectives

namespace Text

/-- A word between two spaces. -/
def IsSpaced (pat : String) : Prop :=
  ∃ word : List Char, pat.toList = ' ' :: word ++ [' '] ∧ ' ' ∉ word

/-- **A text can run into a spaced phrase behind it by one space only.** -/
theorem CutAt.of_isSpaced {pat before : String} (hpat : IsSpaced pat)
    (hno : contains pat (before ++ " ") = false) (after : String) :
    CutAt pat (before ++ pat ++ after) before after := by
  obtain ⟨word, hword, hspace⟩ := hpat
  have hfree : ¬ ' ' :: word ++ [' '] <:+: before.toList ++ [' '] := by
    intro hin
    have hcontains : contains pat (before ++ " ") := contains_iff.mpr (by simpa [hword] using hin)
    rw [hno] at hcontains
    cases hcontains
  rw [← cut?_eq_some_iff, cut?, Option.map_eq_some_iff]
  refine ⟨(before.toList, after.toList), ?_, by simp⟩
  rw [Chars.cut?_eq_some_iff (by simp [hword]), hword]
  refine ⟨by simp [hword], ?_⟩
  rw [show (' ' :: word ++ [' ']).dropLast = ' ' :: word from List.dropLast_concat]
  exact Chars.not_infix_append_dropLast hspace hfree

theorem not_occursAt_of_contains {pat s : String} (hno : contains pat s = false) (n : Nat) :
    ¬ OccursAt pat s n := by
  have hnone : cut? pat s = none := by
    rw [contains, Chars.contains, Option.isSome_eq_false_iff, Option.isNone_iff_eq_none] at hno
    rw [cut?, hno]
    rfl
  exact cut?_eq_none_iff.mp hnone n

end Text

namespace Clauses

/-! ## The default phrases -/

theorem isSpaced_should : Text.IsSpaced " should " := ⟨"should".toList, by decide, by decide⟩

theorem isSpaced_on : Text.IsSpaced " on " := ⟨"on".toList, by decide, by decide⟩

theorem isSpaced_with : Text.IsSpaced " with " := ⟨"with".toList, by decide, by decide⟩

/-- A selector without the comment mark in it does not begin with it, nor does what follows the
selector make one of its end. -/
theorem startsWith_comment_append {s : String} (hne : s ≠ "")
    (hno : Text.contains "//" s = false) (rest : String) :
    Text.startsWith "//" (s ++ " should " ++ rest) = false := by
  have hmark : "//".toList = ['/', '/'] := rfl
  have hfree : ¬ ['/', '/'] <:+: s.toList := by
    rwa [← Bool.not_eq_true, Text.contains_iff, hmark] at hno
  rw [Text.startsWith, Bool.eq_false_iff, ne_eq, List.isPrefixOf_iff_prefix, hmark]
  simp only [String.toList_append]
  cases hs : s.toList with
  | nil => exact absurd (String.toList_eq_nil_iff.mp hs) hne
  | cons c cs =>
      cases cs with
      -- behind a single character comes the space of the verb
      | nil => simp [List.cons_prefix_cons]
      | cons d cs =>
          rintro ⟨tail, htail⟩
          obtain ⟨rfl, hrest⟩ := List.cons.inj htail
          obtain ⟨rfl, -⟩ := List.cons.inj hrest
          exact hfree (hs ▸ ⟨[], cs, rfl⟩)

/-- A selector that neither holds the comment mark nor runs into the verb opens a line. -/
theorem opens_of_isTight {s : String} (hs : Text.IsTight s)
    (hcomment : Text.contains "//" s = false)
    (hverb : Text.contains " should " (s ++ " ") = false) (rest : String) :
    Opens {} (s ++ " should " ++ rest) s rest where
  uncommented := startsWith_comment_append hs.ne_empty hcomment rest
  cut := Text.CutAt.of_isSpaced isSpaced_should hverb rest
  unmarked := by rwa [hs.trim_eq]
  named := by
    rw [hs.trim_eq]
    exact hs.ne_empty

/-- What follows the verb, if the auxiliary is written in front of the actions. -/
theorem contains_be_append {clause : String}
    (hno : Text.contains " on " (" " ++ clause) = false) :
    Text.contains " on " ("be " ++ clause) = false := by
  rw [← Bool.not_eq_true, Text.contains_iff] at hno ⊢
  -- the preposition begins with a space, so it is behind the word
  simpa [List.infix_cons_iff, List.cons_prefix_cons] using hno

theorem ofLine_of_isTight {line : String} {form : Form} (hline : Text.IsTight line)
    (h : form.Fits {} line) : ofLine {} line = .ok form.clauses :=
  ofLine_of_fits (hline.trim_eq.symm ▸ h)

/-- A predicate whose actions follow the auxiliary. -/
theorem fits_of_be {s clause actions : String} {options : Option String} (hs : Text.IsTight s)
    (hcomment : Text.contains "//" s = false) (hverb : Text.contains " should " (s ++ " ") = false)
    (hno : Text.contains " on " (" " ++ clause) = false) (hclause : Text.IsTight clause)
    (hdivides : Divides {} clause actions options) (hactions : Text.IsTight actions) :
    (Form.predicate s ("be " ++ clause) clause actions options).Fits {}
      (s ++ " should " ++ ("be " ++ clause)) := by
  have htight : Text.IsTight ("be " ++ clause) := by
    have hbe : Text.IsTight "be" := ⟨by decide, by decide⟩
    have heq : "be " ++ clause = "be" ++ " " ++ clause := by rw [← String.toList_inj]; simp
    rw [heq]
    exact hbe.append_append " " hclause
  refine .predicate (opens_of_isTight hs hcomment hverb _)
    (Text.not_occursAt_of_contains (contains_be_append hno)) (fun hbare => ?_) (.auxiliary rfl)
    hdivides ?_
  -- there is something behind the auxiliary
  · rw [htight.trim_eq] at hbare
    have hlength := congrArg String.length hbare
    have hbe : (Text.trim (Grammar.auxiliary {})).length = 2 := by decide
    have hthree : "be ".length = 3 := by decide
    rw [hbe, String.length_append, hthree] at hlength
    omega
  · rw [hactions.trim_eq]
    exact hactions.ne_empty

/-- **Reading undoes writing.** A line that is written from clauses with the default phrases is
read as these clauses, whatever they are, if none of them is blank or has white space at an end, the
selector does not hold the comment mark and no phrase occurs before it is written. An interaction
follows its preposition; without one, the auxiliary opens the actions, and options may follow
them. -/
theorem ofLine_of_clauses {s a i o : String} (hs : Text.IsTight s) (ha : Text.IsTight a)
    (hi : Text.IsTight i) (ho : Text.IsTight o) (hcomment : Text.contains "//" s = false)
    (hverb : Text.contains " should " (s ++ " ") = false) :
    (Text.contains " on " (a ++ " ") = false →
      ofLine {} (s ++ " should " ++ a ++ " on " ++ i) = .ok ⟨s, a, .interaction i⟩) ∧
    (Text.contains " on " (" " ++ a) = false → Text.contains " with " a = false →
      ofLine {} (s ++ " should be " ++ a) = .ok ⟨s, a, .predicate none⟩) ∧
    (Text.contains " on " (" " ++ a ++ " with " ++ o) = false →
      Text.contains " with " (a ++ " ") = false →
      ofLine {} (s ++ " should be " ++ a ++ " with " ++ o) = .ok ⟨s, a, .predicate (some o)⟩) := by
  have hbe (clause : String) : s ++ " should be " ++ clause = s ++ " should " ++ ("be " ++ clause) := by
    rw [← String.toList_inj]
    simp
  refine ⟨fun hon => ?_, fun hon hwith => ?_, fun hon hwith => ?_⟩
  · have hline : s ++ " should " ++ a ++ " on " ++ i = s ++ " should " ++ (a ++ " on " ++ i) := by
      simp only [String.append_assoc]
    have htight : Text.IsTight (s ++ " should " ++ a ++ " on " ++ i) := by
      have h := hs.append_append (" should " ++ a ++ " on ") hi
      simpa only [String.append_assoc] using h
    have hfits : (Form.interaction s a i).Fits {} (s ++ " should " ++ a ++ " on " ++ i) := by
      rw [hline]
      refine .interaction (opens_of_isTight hs hcomment hverb _)
        (Text.CutAt.of_isSpaced isSpaced_on hon i) ?_ ?_
      · rw [ha.trim_eq]
        exact ha.ne_empty
      · rw [hi.trim_eq]
        exact hi.ne_empty
    rw [ofLine_of_isTight htight hfits, Form.clauses, hs.trim_eq, ha.trim_eq, hi.trim_eq]
  · have htight : Text.IsTight (s ++ " should be " ++ a) := hs.append_append " should be " ha
    have hdivides : Divides {} a a none := .none (Text.not_occursAt_of_contains hwith)
    have hfits := fits_of_be hs hcomment hverb hon ha hdivides ha
    rw [← hbe] at hfits
    rw [ofLine_of_isTight htight hfits, Form.clauses, hs.trim_eq, ha.trim_eq]
    rfl
  · have hclause : Text.IsTight (a ++ " with " ++ o) := ha.append_append " with " ho
    have htight : Text.IsTight (s ++ " should be " ++ (a ++ " with " ++ o)) :=
      hs.append_append " should be " hclause
    have hdivides : Divides {} (a ++ " with " ++ o) a (some o) :=
      .options (Text.CutAt.of_isSpaced isSpaced_with hwith o)
    have hon' : Text.contains " on " (" " ++ (a ++ " with " ++ o)) = false := by
      simpa only [String.append_assoc] using hon
    have hfits := fits_of_be hs hcomment hverb hon' hclause hdivides ha
    rw [← hbe] at hfits
    have hoptions : (some (Text.trim o)).filter (· ≠ "") = some o := by
      rw [ho.trim_eq, Option.filter_some, if_pos (by simpa using ho.ne_empty)]
    have hread := ofLine_of_isTight htight hfits
    rw [Form.clauses, hs.trim_eq, ha.trim_eq, Option.map_some, hoptions] at hread
    simpa only [String.append_assoc] using hread

/-- A selector that ends with half a comment mark, actions that begin with the word of the
preposition, and an interaction and options that hold the words of phrases. -/
theorem ofLine_of_slash :
    ofLine {} "a / should only show on on" = .ok ⟨"a /", "only show", .interaction "on"⟩ ∧
      ofLine {} "a / should be only show" = .ok ⟨"a /", "only show", .predicate none⟩ ∧
      ofLine {} "a / should be only show with with on"
        = .ok ⟨"a /", "only show", .predicate (some "with on")⟩ := by
  have hs : Text.IsTight "a /" := ⟨by decide, by decide⟩
  have ha : Text.IsTight "only show" := ⟨by decide, by decide⟩
  have hi : Text.IsTight "on" := ⟨by decide, by decide⟩
  have ho : Text.IsTight "with on" := ⟨by decide, by decide⟩
  obtain ⟨hevent, hplain, hoptions⟩ := ofLine_of_clauses hs ha hi ho (by decide) (by decide)
  exact ⟨hevent (by decide), hplain (by decide) (by decide), hoptions (by decide) (by decide)⟩

end Clauses

end PageDirectives
