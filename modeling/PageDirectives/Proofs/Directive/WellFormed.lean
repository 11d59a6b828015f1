import PageDirectives.Proofs.Directive.Form
import PageDirectives.Proofs.Directive.Reading

set_option autoImplicit false

/-! # Well-formed directives

Every directive that a line is read as is complete (`Directive.IsWellFormed`): none of its clauses is
blank or has white space around it, its selector holds no comment mark, it has elements to act on, and
if it waits for an event this is not the interaction that makes a directive run at once.

Each of these facts comes from a stage of its own. The clauses are trimmed and looked at one by one
when the line is taken apart (`Clauses.IsTight`), the elements are asked for after that, and the
interaction is compared with the sentinel at the end.
-/

namespace PageDirectives

/-! ## Clauses -/

/-- What a cue says besides what it is: the interaction, or the options. -/
def Cue.text? : Cue → Option String
  | interaction name => some name
  | predicate options => options

namespace Clauses

variable {g : Grammar} {line : String} {c : Clauses}

/-- Nothing in the clauses is blank or has white space around it, and the selector is free of the
comment mark. -/
structure IsTight (g : Grammar) (c : Clauses) : Prop where
  selector : Text.IsTight c.selector
  unmarked : Text.contains g.comment c.selector = false
  action : Text.IsTight c.action
  cue : ∀ s, c.cue.text? = some s → Text.IsTight s

/-- Clauses come from a form that the line is written in. -/
theorem exists_fits_of_ofLine (h : ofLine g line = .ok c) :
    ∃ form : Form, form.Fits g (Text.trim line) ∧ form.clauses = c := by
  rcases fits_or_refused g (Text.trim line) with ⟨form, hfits⟩ | ⟨r, hrefused⟩
  · exact ⟨form, hfits, Except.ok.inj ((ofLine_of_fits hfits).symm.trans h)⟩
  · cases (ofLine_of_refused hrefused).symm.trans h

theorem Form.Fits.isTight {form : Form} (h : form.Fits g line) : form.clauses.IsTight g := by
  cases h with
  | interaction hopens _ hactions hevent =>
      refine ⟨Text.isTight_trim hopens.named, hopens.unmarked, Text.isTight_trim hactions, ?_⟩
      intro s hs
      obtain rfl := Option.some.inj hs
      exact Text.isTight_trim hevent
  | @predicate _ _ _ _ options hopens _ _ _ _ hactions =>
      refine ⟨Text.isTight_trim hopens.named, hopens.unmarked, Text.isTight_trim hactions, ?_⟩
      intro s hs
      -- blank options have been left out
      obtain ⟨hmap, hne⟩ := Option.filter_eq_some_iff.mp hs
      obtain ⟨text, -, rfl⟩ := Option.map_eq_some_iff.mp hmap
      exact Text.isTight_trim (of_decide_eq_true hne)

theorem isTight_of_ofLine (h : ofLine g line = .ok c) : c.IsTight g := by
  obtain ⟨form, hfits, rfl⟩ := exists_fits_of_ofLine h
  exact hfits.isTight

/-- A line with clauses is not blank. -/
theorem trim_ne_empty_of_ofLine (h : ofLine g line = .ok c) : Text.trim line ≠ "" := by
  intro hblank
  cases (ofLine_of_refused (.empty hblank)).symm.trans h

end Clauses

/-! ## Directives -/

/-- What is known of a directive that is read under a grammar. -/
structure Directive.IsWellFormed (g : Grammar) (d : Directive) : Prop where
  raw : Text.IsTight d.raw
  selector : Text.IsTight d.selector
  unmarked : Text.contains g.comment d.selector = false
  action : Text.IsTight d.action
  /-- There are elements to act on. -/
  bound : d.bound ≠ []
  options : ∀ s, d.options = some s → d.trigger = .predicate ∧ Text.IsTight s
  event : ∀ name, d.trigger = .event name → Text.IsTight name ∧ name ≠ g.loadSentinel

/-- Options come with a cue that is no interaction. -/
theorem Reading.trigger_of_options {g : Grammar} {cue : Cue} {s : String}
    (h : (trigger g cue).2 = some s) : cue.text? = some s ∧ (trigger g cue).1 = .predicate := by
  cases cue with
  | interaction name => cases h
  | predicate options => exact ⟨h, rfl⟩

/-- An event is an interaction other than the sentinel. -/
theorem Reading.trigger_of_event {g : Grammar} {cue : Cue} {name : String}
    (h : (trigger g cue).1 = .event name) : cue.text? = some name ∧ name ≠ g.loadSentinel := by
  cases cue with
  | predicate options => cases h
  | interaction written =>
      by_cases hload : written = g.loadSentinel
      · simp [trigger, hload] at h
      · obtain rfl : written = name := by simpa [trigger, hload] using h
        exact ⟨rfl, hload⟩

theorem Clauses.IsTight.isWellFormed {g : Grammar} {c : Clauses} (hc : c.IsTight g) {raw : String}
    (hraw : Text.IsTight raw) {bound : List NodeId} (hbound : bound ≠ []) :
    (c.directive g raw bound).IsWellFormed g where
  raw := hraw
  selector := hc.selector
  unmarked := hc.unmarked
  action := hc.action
  bound := hbound
  options s hs := by
    obtain ⟨htext, htrigger⟩ := Reading.trigger_of_options hs
    exact ⟨htrigger, hc.cue s htext⟩
  event name hname := by
    obtain ⟨htext, hne⟩ := Reading.trigger_of_event hname
    exact ⟨hc.cue name htext, hne⟩

/-- **What is read as a directive is well-formed.** -/
theorem Reading.isWellFormed_of_ofLine {H : Type} [Host H] {g : Grammar} {h : H} {line : String}
    {d : Directive} (hd : ofLine g h line = directive d) : d.IsWellFormed g := by
  rcases ofLine_cases g h line with ⟨r, -, heq⟩ | ⟨c, -, -, heq⟩ | ⟨c, hc, hselect, heq⟩
  · rw [hd] at heq
    cases r <;> cases heq
  · rw [hd] at heq
    cases heq
  · rw [hd] at heq
    obtain rfl := Reading.directive.inj heq
    have hline := Clauses.trim_ne_empty_of_ofLine hc
    rw [Text.trim_trim] at hline
    exact (Clauses.isTight_of_ofLine hc).isWellFormed (Text.isTight_trim hline) hselect

end PageDirectives
