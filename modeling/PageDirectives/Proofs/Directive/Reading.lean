import PageDirectives.Directive.Basic
import PageDirectives.Proofs.Text.Trim

set_option autoImplicit false

/-! # What a line is read as

A line is read in one of three ways (`Reading.ofLine_cases`): its clauses are rejected, its
selector names nothing, or it is a directive for the elements its selector names. A line whose
clauses are rejected is a problem unless it is blank or commented out, and those lines are the
ones that are passed over in silence.
-/

namespace PageDirectives

/-- The directive made of clauses, for the elements the selector names. -/
def Clauses.directive (c : Clauses) (g : Grammar) (raw : String) (bound : List NodeId) :
    Directive :=
  ⟨raw, c.selector, c.action, (Reading.trigger g c.cue).1, (Reading.trigger g c.cue).2, bound⟩

/-! ## Lines that are passed over -/

/-- Whether a line is commented out: the comment mark opens it, or stands in its selector. -/
def Grammar.commentsOut (g : Grammar) (line : String) : Bool :=
  Text.startsWith g.comment line ||
    match Text.cut? g.verb line with
    | none => false
    | some (before, _) => Text.contains g.comment (Text.trim before)

namespace Clauses

/-- What follows the verb is rejected for want of an interaction only. -/
theorem eq_emptyInteraction_of_afterVerb {g : Grammar} {rest : String} {r : Rejection}
    (h : afterVerb g rest = .error r) : r = .emptyInteraction := by
  unfold afterVerb at h
  split at h
  · cases h
  · dsimp only at h
    split at h <;> cases h
    rfl

/-- **Which lines are passed over**: the blank ones and those that are commented out. -/
theorem ofLine_passes_iff (g : Grammar) (line : String) :
    (ofLine g line = .error .empty ∨ ofLine g line = .error .comment) ↔
      Text.trim line = "" ∨ g.commentsOut (Text.trim line) := by
  simp only [ofLine, Grammar.commentsOut]
  -- the tests come in the order in which a line is taken apart
  by_cases hblank : Text.trim line = ""
  · simp [hblank]
  by_cases hmark : Text.startsWith g.comment (Text.trim line)
  · simp [hblank, hmark]
  cases Text.cut? g.verb (Text.trim line) with
  | none => simp [hblank, hmark]
  | some p =>
      rcases p with ⟨before, rest⟩
      by_cases hinside : Text.contains g.comment (Text.trim before)
      · simp [hblank, hmark, hinside]
      by_cases hselector : Text.trim before = ""
      · rw [hselector] at hinside
        simp [hblank, hmark, hinside, hselector]
      cases hafter : afterVerb g rest with
      | error r =>
          obtain rfl := eq_emptyInteraction_of_afterVerb hafter
          simp [hblank, hmark, hinside, hselector, hafter]
      | ok clause =>
          by_cases haction : Text.trim clause.1 = "" <;>
            simp [hblank, hmark, hinside, hselector, hafter, haction]

end Clauses

namespace Reading

variable {H : Type} [Host H]

/-- **The three ways to read a line.** -/
theorem ofLine_cases (g : Grammar) (h : H) (line : String) :
    (∃ r, Clauses.ofLine g (Text.trim line) = .error r ∧
      ofLine g h line = ofRejection (Text.trim line) r) ∨
    (∃ c, Clauses.ofLine g (Text.trim line) = .ok c ∧ Host.select h c.selector = [] ∧
      ofLine g h line = problem (.noMatch (Text.trim line))) ∨
    (∃ c, Clauses.ofLine g (Text.trim line) = .ok c ∧ Host.select h c.selector ≠ [] ∧
      ofLine g h line
        = directive (c.directive g (Text.trim line) (Host.select h c.selector))) := by
  unfold ofLine
  cases hc : Clauses.ofLine g (Text.trim line) with
  | error r => exact Or.inl ⟨r, rfl, by simp only [hc]⟩
  | ok c =>
      cases hs : Host.select h c.selector with
      | nil => exact Or.inr (Or.inl ⟨c, rfl, hs, by simp only [hc, hs]⟩)
      | cons node nodes =>
          refine Or.inr (Or.inr ⟨c, rfl, by simp [hs], ?_⟩)
          simp only [hc, hs]
          rfl

theorem ofRejection_eq_skip_iff {line : String} {r : Rejection} :
    ofRejection line r = skip ↔ r = .empty ∨ r = .comment := by
  cases r <;> simp [ofRejection]

/-- Blank lines and comments are passed over, and no others. -/
theorem ofLine_eq_skip_iff (g : Grammar) (h : H) (line : String) :
    ofLine g h line = skip ↔ Text.trim line = "" ∨ g.commentsOut (Text.trim line) := by
  have hpass := Clauses.ofLine_passes_iff g (Text.trim line)
  rw [Text.trim_trim] at hpass
  rw [← hpass]
  -- a line that has clauses is never passed over
  rcases ofLine_cases g h line with ⟨r, hr, heq⟩ | ⟨c, hc, -, heq⟩ | ⟨c, hc, -, heq⟩
  · rw [heq, hr, ofRejection_eq_skip_iff]
    simp
  · simp [heq, hc]
  · simp [heq, hc]

/-- The elements of a directive are those its selector names on the page it is read on. -/
theorem bound_of_ofLine {g : Grammar} {h : H} {line : String} {d : Directive}
    (hd : ofLine g h line = directive d) : d.bound = Host.select h d.selector := by
  rcases ofLine_cases g h line with ⟨r, -, heq⟩ | ⟨c, -, -, heq⟩ | ⟨c, -, -, heq⟩
  · rw [hd] at heq
    cases r <;> cases heq
  · rw [hd] at heq
    cases heq
  · rw [hd] at heq
    cases heq
    rfl

theorem directive?_eq_some_iff {r : Reading} {d : Directive} :
    r.directive? = some d ↔ r = directive d := by
  cases r <;> simp [directive?]

end Reading

end PageDirectives
