import PageDirectives.Directive.Clauses
import PageDirectives.Proofs.Text.Occurrence

set_option autoImplicit false

/-! # The forms of a directive line

A line is written in one of two forms,

    selector VERB actions PREPOSITION interaction
    selector VERB [AUXILIARY] actions [OPTIONS options]

in which every phrase stands where it first occurs behind the one before it. What these forms are is
said here without searching for anything (`Clauses.Form.Fits`), and so is what a line lacks that has
neither of them (`Clauses.Refused`).

A line fits one form at most, and `Clauses.ofLine` answers the clauses of this form if there is one
and what is missing if there is none, whatever the phrases are (`Clauses.ofLine_of_form`).
-/

namespace PageDirectives

namespace Clauses

/-! ## The two forms -/

/-- The parts a line is made of, as they are written. -/
inductive Form where
  | interaction (selector actions event : String)
  /-- Behind the verb is `rest`, and without the auxiliary `clause`. -/
  | predicate (selector rest clause actions : String) (options : Option String)

/-- A line that is not commented out and names something in front of the first verb. -/
structure Opens (g : Grammar) (line selector rest : String) : Prop where
  uncommented : Text.startsWith g.comment line = false
  cut : Text.CutAt g.verb line selector rest
  unmarked : Text.contains g.comment (Text.trim selector) = false
  named : Text.trim selector ≠ ""

/-- The clause of a directive without interaction, once the auxiliary is taken from its front. The
verb has already taken the space in front of the auxiliary. -/
inductive Strips (g : Grammar) (rest : String) : String → Prop where
  | auxiliary {clause : String} : rest = Text.trimStart g.auxiliary ++ clause → Strips g rest clause
  | none : ¬ Text.OccursAt (Text.trimStart g.auxiliary) rest 0 → Strips g rest rest

/-- The actions and the options of a directive without interaction. -/
inductive Divides (g : Grammar) (clause : String) : String → Option String → Prop where
  | options {actions options : String} :
      Text.CutAt g.options clause actions options → Divides g clause actions (some options)
  | none : (∀ n, ¬ Text.OccursAt g.options clause n) → Divides g clause clause none

/-- Which lines are written in a form. -/
inductive Form.Fits (g : Grammar) (line : String) : Form → Prop where
  | interaction {selector rest actions event : String} :
      Opens g line selector rest → Text.CutAt g.preposition rest actions event →
      Text.trim actions ≠ "" → Text.trim event ≠ "" →
      Fits g line (.interaction selector actions event)
  | predicate {selector rest clause actions : String} {options : Option String} :
      Opens g line selector rest → (∀ n, ¬ Text.OccursAt g.preposition rest n) →
      Text.trim rest ≠ Text.trim g.auxiliary → Strips g rest clause →
      Divides g clause actions options → Text.trim actions ≠ "" →
      Fits g line (.predicate selector rest clause actions options)

/-- The clauses are the parts without white space around them. Blank options are none. -/
def Form.clauses : Form → Clauses
  | interaction selector actions event =>
    ⟨Text.trim selector, Text.trim actions, .interaction (Text.trim event)⟩
  | predicate selector _ _ actions options =>
    ⟨Text.trim selector, Text.trim actions, .predicate ((options.map Text.trim).filter (· ≠ ""))⟩

/-! ## Lines without clauses -/

/-- What a line lacks. -/
inductive Refused (g : Grammar) (line : String) : Rejection → Prop where
  | empty : line = "" → Refused g line .empty
  | comment : line ≠ "" → Text.startsWith g.comment line = true → Refused g line .comment
  | marked {selector rest : String} : line ≠ "" → Text.startsWith g.comment line = false →
      Text.CutAt g.verb line selector rest →
      Text.contains g.comment (Text.trim selector) = true → Refused g line .comment
  | missingVerb : line ≠ "" → Text.startsWith g.comment line = false →
      (∀ n, ¬ Text.OccursAt g.verb line n) → Refused g line .missingVerb
  | emptySelector {selector rest : String} : line ≠ "" → Text.startsWith g.comment line = false →
      Text.CutAt g.verb line selector rest →
      Text.contains g.comment (Text.trim selector) = false → Text.trim selector = "" →
      Refused g line .emptySelector
  | emptyInteraction {selector rest actions event : String} :
      Opens g line selector rest → Text.CutAt g.preposition rest actions event →
      Text.trim event = "" → Refused g line .emptyInteraction
  | noActions {selector rest actions event : String} :
      Opens g line selector rest → Text.CutAt g.preposition rest actions event →
      Text.trim event ≠ "" → Text.trim actions = "" → Refused g line .emptyAction
  | bare {selector rest : String} :
      Opens g line selector rest → (∀ n, ¬ Text.OccursAt g.preposition rest n) →
      Text.trim rest = Text.trim g.auxiliary → Refused g line .emptyAction
  | noPredicate {selector rest clause actions : String} {options : Option String} :
      Opens g line selector rest → (∀ n, ¬ Text.OccursAt g.preposition rest n) →
      Text.trim rest ≠ Text.trim g.auxiliary → Strips g rest clause →
      Divides g clause actions options → Text.trim actions = "" → Refused g line .emptyAction

/-! ## What is found is what is written -/

variable {g : Grammar} {line selector rest clause actions : String} {options : Option String}

theorem Opens.ne_empty (h : Opens g line selector rest) : line ≠ "" := by
  rintro rfl
  have heq := congrArg String.toList h.cut.eq
  have hselector : selector = "" := by
    simp only [String.toList_empty, String.toList_append, List.nil_eq, List.append_eq_nil_iff,
      String.toList_eq_nil_iff] at heq
    exact heq.1.1
  exact h.named (by rw [hselector]; rfl)

theorem Opens.unique {selector' rest' : String} (h : Opens g line selector rest)
    (h' : Opens g line selector' rest') : selector = selector' ∧ rest = rest' :=
  h.cut.unique h'.cut

/-- How a line that opens with a selector is read on. -/
theorem ofLine_of_opens (h : Opens g (Text.trim line) selector rest) :
    ofLine g line = match afterVerb g rest with
      | .error r => .error r
      | .ok (action, cue) =>
        if Text.trim action = "" then .error .emptyAction
        else .ok ⟨Text.trim selector, Text.trim action, cue⟩ := by
  have hcut := Text.cut?_eq_some_iff.mpr h.cut
  cases hafter : afterVerb g rest with
  | error r =>
      simp only [ofLine, h.ne_empty, if_false, h.uncommented, Bool.false_eq_true, hcut, h.unmarked,
        h.named, hafter]
  | ok clause =>
      obtain ⟨action, cue⟩ := clause
      simp only [ofLine, h.ne_empty, if_false, h.uncommented, Bool.false_eq_true, hcut, h.unmarked,
        h.named, hafter]

/-- A clause is stripped of the auxiliary, unless there is nothing else in it. -/
theorem strips_iff (hbare : Text.trim rest ≠ Text.trim g.auxiliary) :
    Strips g rest clause ↔ dropAuxiliary g rest = clause := by
  rw [dropAuxiliary, if_neg hbare]
  cases hdrop : Text.dropFront? (Text.trimStart g.auxiliary) rest with
  | some clause' =>
      constructor
      · rintro (hrest | hnone)
        · rw [Text.dropFront?_eq_some_iff.mpr hrest] at hdrop
          exact (Option.some.inj hdrop).symm
        · rw [Text.dropFront?_eq_none_iff.mpr hnone] at hdrop
          cases hdrop
      · rintro rfl
        exact .auxiliary (Text.dropFront?_eq_some_iff.mp hdrop)
  | none =>
      constructor
      · rintro (hrest | hnone)
        · rw [Text.dropFront?_eq_some_iff.mpr hrest] at hdrop
          cases hdrop
        · rfl
      · rintro rfl
        exact .none (Text.dropFront?_eq_none_iff.mp hdrop)

theorem exists_divides (g : Grammar) (clause : String) :
    ∃ actions options, Divides g clause actions options := by
  cases hcut : Text.cut? g.options clause with
  | none => exact ⟨clause, none, .none (Text.cut?_eq_none_iff.mp hcut)⟩
  | some p => exact ⟨p.1, some p.2, .options (Text.cut?_eq_some_iff.mp hcut)⟩

theorem Divides.unique {actions' : String} {options' : Option String}
    (h : Divides g clause actions options) (h' : Divides g clause actions' options') :
    actions = actions' ∧ options = options' := by
  cases h with
  | options hcut =>
      cases h' with
      | options hcut' =>
          obtain ⟨rfl, rfl⟩ := hcut.unique hcut'
          exact ⟨rfl, rfl⟩
      | none hno => exact absurd hcut.occursAt (not_exists.mpr hno)
  | none hno =>
      cases h' with
      | options hcut' => exact absurd hcut'.occursAt (not_exists.mpr hno)
      | none _ => exact ⟨rfl, rfl⟩

/-- A directive without interaction is read as its parts say. -/
theorem predicate_of_divides (hbare : Text.trim rest ≠ Text.trim g.auxiliary)
    (hstrips : Strips g rest clause) (hdivides : Divides g clause actions options) :
    predicate g rest = (actions, .predicate ((options.map Text.trim).filter (· ≠ ""))) := by
  simp only [predicate, (strips_iff hbare).mp hstrips]
  cases hdivides with
  | options hcut =>
      simp only [Text.cut?_eq_some_iff.mpr hcut, Option.map_some, Option.filter_some]
      split <;> simp_all
  | none hno =>
      rw [Text.cut?_eq_none_iff.mpr hno]
      rfl

/-- With nothing but the auxiliary there are no actions. -/
theorem predicate_of_bare (hbare : Text.trim rest = Text.trim g.auxiliary) :
    (predicate g rest).1 = "" := by
  simp only [predicate, dropAuxiliary, if_pos hbare]
  cases hcut : Text.cut? g.options "" with
  | none => rfl
  | some p =>
      have heq := congrArg String.toList (Text.cut?_eq_some_iff.mp hcut).eq
      simp only [String.toList_empty, String.toList_append, List.nil_eq, List.append_eq_nil_iff,
        String.toList_eq_nil_iff] at heq
      exact heq.1.1

theorem afterVerb_of_occurs {event : String}
    (hcut : Text.CutAt g.preposition rest actions event) :
    afterVerb g rest = if Text.trim event = "" then .error .emptyInteraction
      else .ok (actions, .interaction (Text.trim event)) := by
  simp only [afterVerb, Text.cut?_eq_some_iff.mpr hcut]

theorem afterVerb_of_not_occurs (hno : ∀ n, ¬ Text.OccursAt g.preposition rest n) :
    afterVerb g rest = .ok (predicate g rest) := by
  simp only [afterVerb, Text.cut?_eq_none_iff.mpr hno]

/-! ## Every line fits a form or is refused -/

theorem ofLine_of_fits {form : Form} (h : form.Fits g (Text.trim line)) :
    ofLine g line = .ok form.clauses := by
  cases h with
  | interaction hopens hcut hactions hevent =>
      rw [ofLine_of_opens hopens, afterVerb_of_occurs hcut, if_neg hevent]
      simp only [hactions, if_false]
      rfl
  | predicate hopens hno hbare hstrips hdivides hactions =>
      rw [ofLine_of_opens hopens, afterVerb_of_not_occurs hno,
        predicate_of_divides hbare hstrips hdivides]
      simp only [hactions, if_false]
      rfl

theorem ofLine_of_refused {r : Rejection} (h : Refused g (Text.trim line) r) :
    ofLine g line = .error r := by
  cases h with
  | empty hempty => rw [ofLine, if_pos hempty]
  | comment hne hmark => simp only [ofLine, hne, if_false, hmark, if_true]
  | marked hne hmark hcut hinside =>
      simp only [ofLine, hne, if_false, hmark, Bool.false_eq_true,
        Text.cut?_eq_some_iff.mpr hcut, hinside, if_true]
  | missingVerb hne hmark hno =>
      simp only [ofLine, hne, if_false, hmark, Bool.false_eq_true, Text.cut?_eq_none_iff.mpr hno]
  | emptySelector hne hmark hcut hinside hselector =>
      rw [hselector] at hinside
      simp only [ofLine, hne, if_false, hmark, Bool.false_eq_true,
        Text.cut?_eq_some_iff.mpr hcut, hselector, hinside, if_true]
  | emptyInteraction hopens hcut hevent =>
      rw [ofLine_of_opens hopens, afterVerb_of_occurs hcut, if_pos hevent]
  | noActions hopens hcut hevent hactions =>
      rw [ofLine_of_opens hopens, afterVerb_of_occurs hcut, if_neg hevent]
      simp only [hactions, if_true]
  | bare hopens hno hbare =>
      rw [ofLine_of_opens hopens, afterVerb_of_not_occurs hno]
      simp only [predicate_of_bare hbare, show Text.trim "" = "" from rfl, if_true]
  | noPredicate hopens hno hbare hstrips hdivides hactions =>
      rw [ofLine_of_opens hopens, afterVerb_of_not_occurs hno,
        predicate_of_divides hbare hstrips hdivides]
      simp only [hactions, if_true]

/-- What follows the verb of a line completes a form, or the line is refused. -/
theorem Opens.fits_or_refused (hopens : Opens g line selector rest) :
    (∃ form : Form, form.Fits g line) ∨ ∃ r, Refused g line r := by
  cases hcut : Text.cut? g.preposition rest with
  | some p =>
      have hcutAt := Text.cut?_eq_some_iff.mp hcut
      by_cases hevent : Text.trim p.2 = ""
      · exact Or.inr ⟨_, .emptyInteraction hopens hcutAt hevent⟩
      by_cases hactions : Text.trim p.1 = ""
      · exact Or.inr ⟨_, .noActions hopens hcutAt hevent hactions⟩
      exact Or.inl ⟨_, .interaction hopens hcutAt hactions hevent⟩
  | none =>
      have hno := Text.cut?_eq_none_iff.mp hcut
      by_cases hbare : Text.trim rest = Text.trim g.auxiliary
      · exact Or.inr ⟨_, .bare hopens hno hbare⟩
      have hstrips := (strips_iff hbare).mpr rfl
      obtain ⟨actions, options, hdivides⟩ := exists_divides g (dropAuxiliary g rest)
      by_cases hactions : Text.trim actions = ""
      · exact Or.inr ⟨_, .noPredicate hopens hno hbare hstrips hdivides hactions⟩
      exact Or.inl ⟨_, .predicate hopens hno hbare hstrips hdivides hactions⟩

theorem fits_or_refused (g : Grammar) (line : String) :
    (∃ form : Form, form.Fits g line) ∨ ∃ r, Refused g line r := by
  by_cases hne : line = ""
  · exact Or.inr ⟨_, .empty hne⟩
  cases hmark : Text.startsWith g.comment line with
  | true => exact Or.inr ⟨_, .comment hne hmark⟩
  | false =>
      cases hcut : Text.cut? g.verb line with
      | none => exact Or.inr ⟨_, .missingVerb hne hmark (Text.cut?_eq_none_iff.mp hcut)⟩
      | some p =>
          have hcutAt := Text.cut?_eq_some_iff.mp hcut
          cases hinside : Text.contains g.comment (Text.trim p.1) with
          | true => exact Or.inr ⟨_, .marked hne hmark hcutAt hinside⟩
          | false =>
              by_cases hselector : Text.trim p.1 = ""
              · exact Or.inr ⟨_, .emptySelector hne hmark hcutAt hinside hselector⟩
              · exact Opens.fits_or_refused ⟨hmark, hcutAt, hinside, hselector⟩

/-- A line is taken apart in one way at most. -/
theorem Form.Fits.unique {form form' : Form} (h : form.Fits g line) (h' : form'.Fits g line) :
    form = form' := by
  cases h with
  | interaction hopens hcut _ _ =>
      cases h' with
      | interaction hopens' hcut' _ _ =>
          obtain ⟨rfl, rfl⟩ := hopens.unique hopens'
          obtain ⟨rfl, rfl⟩ := hcut.unique hcut'
          rfl
      | predicate hopens' hno _ _ _ _ =>
          obtain ⟨rfl, rfl⟩ := hopens.unique hopens'
          exact absurd hcut.occursAt (not_exists.mpr hno)
  | predicate hopens hno hbare hstrips hdivides _ =>
      cases h' with
      | interaction hopens' hcut' _ _ =>
          obtain ⟨rfl, rfl⟩ := hopens.unique hopens'
          exact absurd hcut'.occursAt (not_exists.mpr hno)
      | predicate hopens' _ _ hstrips' hdivides' _ =>
          obtain ⟨rfl, rfl⟩ := hopens.unique hopens'
          obtain rfl := ((strips_iff hbare).mp hstrips).symm.trans ((strips_iff hbare).mp hstrips')
          obtain ⟨rfl, rfl⟩ := hdivides.unique hdivides'
          rfl

/-- **Taking a line apart.** Whatever the phrases are, a line is written in one form at most, and
`ofLine` answers the clauses of this form. A line that is written in neither of them is refused for
what it lacks, and for nothing else. -/
theorem ofLine_of_form (g : Grammar) (line : String) :
    (∀ c, ofLine g line = .ok c ↔ ∃ form : Form, form.Fits g (Text.trim line) ∧ form.clauses = c) ∧
    (∀ form form' : Form, form.Fits g (Text.trim line) → form'.Fits g (Text.trim line) →
      form = form') ∧
    ∀ r, ofLine g line = .error r ↔ Refused g (Text.trim line) r := by
  refine ⟨fun c => ⟨fun hok => ?_, ?_⟩, fun form form' h h' => h.unique h', fun r => ⟨fun herror => ?_,
    ofLine_of_refused⟩⟩
  · rcases fits_or_refused g (Text.trim line) with ⟨form, hfits⟩ | ⟨r, hrefused⟩
    · exact ⟨form, hfits, Except.ok.inj ((ofLine_of_fits hfits).symm.trans hok)⟩
    · cases (ofLine_of_refused hrefused).symm.trans hok
  · rintro ⟨form, hfits, rfl⟩
    exact ofLine_of_fits hfits
  · rcases fits_or_refused g (Text.trim line) with ⟨form, hfits⟩ | ⟨r', hrefused⟩
    · cases (ofLine_of_fits hfits).symm.trans herror
    · obtain rfl := Except.error.inj ((ofLine_of_refused hrefused).symm.trans herror)
      exact hrefused

end Clauses

end PageDirectives
