import Mathlib.Algebra.GroupWithZero.Nat
import Mathlib.Data.List.Basic
import PageDirectives.Proofs.Directive.Layout
import PageDirectives.Proofs.Engine.History
import PageDirectives.Sketch.Basic

set_option autoImplicit false

/-! # Reading many lines

Lines are read in two phases. In the first, each of them is matched against the page as it is:
it is a directive, a problem or passed over, whatever the other lines are. In the second, the
new directives take effect one after the other. What they do does not hang on diagnostics, so a
line that is no directive makes no difference but for the diagnostic it may leave.
-/

namespace PageDirectives

/-! ## What lines are read as -/

/-- A line is one of three things, so the numbers of each add up. -/
theorem Reading.length_add_count (rs : List Reading) :
    (rs.filterMap directive?).length + (rs.filterMap problem?).length + rs.count skip
      = rs.length := by
  induction rs with
  | nil => rfl
  | cons r rs ih =>
      rw [List.length_cons, ← ih]
      cases r with
      | directive d =>
          simp [List.filterMap_cons, directive?, problem?]
          omega
      | problem diagnostic =>
          simp [List.filterMap_cons, directive?, problem?]
          omega
      | skip =>
          simp [List.filterMap_cons, directive?, problem?]
          omega

section Lines

variable {H : Type} [Host H]

/-- Of the lines of a source, the commented ones are passed over. -/
theorem Reading.ofLine_eq_skip_iff_of_mem_sourceLines (g : Grammar) (h : H)
    {blocks : List String} {line : String} (hline : line ∈ sourceLines blocks) :
    ofLine g h line = skip ↔ g.commentsOut line := by
  have hisLine := Source.isLine_of_mem_sourceLines line hline
  rw [ofLine_eq_skip_iff, hisLine.trim_eq]
  simp [hisLine.ne_empty]

theorem Reading.count_skip (g : Grammar) (h : H) (blocks : List String) :
    ((sourceLines blocks).map (ofLine g h)).count skip
      = ((sourceLines blocks).filter g.commentsOut).length := by
  rw [List.count, List.countP_map, ← List.countP_eq_length_filter]
  refine List.countP_congr fun line hline => ?_
  simp [ofLine_eq_skip_iff_of_mem_sourceLines g h hline]

end Lines

/-! ## What taking effect reports -/

/-- The problems that the actions of a moment run into. -/
def Moment.problems {H : Type} (m : Moment H) : List Diagnostic := m.engine.stepProblems m.step

namespace Engine

variable {H : Type} [Host H]

/-- The diagnostics that steps add, in order. -/
def reported (e : Engine H) (steps : List Step) : List Diagnostic :=
  (e.moments steps).flatMap Moment.problems

theorem reported_cons (e : Engine H) (s : Step) (steps : List Step) :
    e.reported (s :: steps) = e.stepProblems s ++ (e.take s).reported steps := rfl

/-- A step adds its problems to the diagnostics and does not look at them. -/
theorem take_withDiagnostics (e : Engine H) (ds : List Diagnostic) (s : Step) :
    take { e with diagnostics := ds } s
      = { e.take s with diagnostics := ds ++ e.stepProblems s } := by
  cases s with
  | arrive node event => simp [take, runDue, stepProblems]
  | dispatch d origin => simp only [take, dispatch_eq]; rfl
  | bind index d event => simp [take, bind, stepProblems]

theorem reported_withDiagnostics (e : Engine H) (ds : List Diagnostic) (steps : List Step) :
    reported { e with diagnostics := ds } steps = e.reported steps := by
  induction steps generalizing e ds with
  | nil => rfl
  | cons s steps ih => rw [reported_cons, reported_cons, take_withDiagnostics, ih]; rfl

/-- **Steps do not look at diagnostics**: they only add to them. -/
theorem takeAll_withDiagnostics (e : Engine H) (ds : List Diagnostic) (steps : List Step) :
    takeAll { e with diagnostics := ds } steps
      = { e.takeAll steps with diagnostics := ds ++ e.reported steps } := by
  induction steps generalizing e ds with
  | nil => simp [reported, moments]
  | cons s steps ih =>
      rw [takeAll_cons, takeAll_cons, take_withDiagnostics, ih, reported_cons, List.append_assoc]

theorem takeAll_diagnostics (e : Engine H) (steps : List Step) :
    (e.takeAll steps).diagnostics = e.diagnostics ++ e.reported steps :=
  congrArg diagnostics (e.takeAll_withDiagnostics e.diagnostics steps)

/-- Readings one after the other: the engine before each of them, with the lines that it reads. -/
def passes (e : Engine H) : List (List String) → List (Engine H × List String)
  | [] => []
  | lines :: more => (e, lines) :: passes (e.readLines lines).1 more

/-- What reading lines comes to: but for the diagnostics of the first phase it hangs on the
directives among the lines alone. -/
theorem readLines_eq_withDiagnostics (e : Engine H) (lines : List String)
    {ds : List Directive} (hds : e.newDirectives lines = ds) :
    (e.readLines lines).1 =
      { takeAll { e with directives := e.directives ++ ds }
          (firstSteps e.directives.length ds) with
        diagnostics := e.diagnostics ++ (e.readings lines).filterMap Reading.problem?
          ++ reported { e with directives := e.directives ++ ds }
              (firstSteps e.directives.length ds) } := by
  subst hds
  rw [readLines_eq]
  exact takeAll_withDiagnostics { e with directives := e.directives ++ e.newDirectives lines } _ _

/-- **What reading a text does.** Every line of the text is matched against the page as it is
before the first of them takes effect, and is a directive, a problem, or passed over because it
is commented out. The directives among the lines, whose number is answered, are put after those
there are. Then they take effect in order: each of them runs once for all of its elements, or
is bound and gives its elements a pointer as cursor, if it waits for an event. The problems with
lines are reported first, and then those that the running directives have. Two texts with the
same directives among their lines differ in nothing but the problems with their lines. -/
theorem readSource_of_lines (e : Engine H) (source : String) :
    let lines := sourceLines [source]
    let new := e.newDirectives lines
    let problems := (e.readings lines).filterMap Reading.problem?
    let steps := firstSteps e.directives.length new
    let after := (e.readSource source).1
    after = (e.takeIn lines).takeAll steps ∧
    (e.readSource source).2 = new.length ∧
    after.directives = e.directives ++ new ∧
    (∀ line ∈ lines,
      Reading.ofLine e.grammar e.host line = .skip ↔ e.grammar.commentsOut line) ∧
    new.length + problems.length + (lines.filter e.grammar.commentsOut).length = lines.length ∧
    (∀ s ∈ steps, (∃ d ∈ new, d.isEventBound = false ∧ s = .dispatch d d.bound) ∨
      ∃ d ∈ new, ∃ i event, d.trigger = .event event ∧ s = .bind i d event ∧
        ∀ e' : Engine H, (e'.take s).host
          = d.bound.foldl (fun h n => Host.setStyle h n "cursor" "pointer") e'.host) ∧
    after.diagnostics = e.diagnostics ++ problems ++ (e.takeIn lines).reported steps ∧
    ∀ source', e.newDirectives (sourceLines [source']) = new →
      (e.readSource source').2 = new.length ∧ (e.readSource source').1 = { after with
        diagnostics := e.diagnostics
          ++ (e.readings (sourceLines [source'])).filterMap Reading.problem?
          ++ (e.takeIn lines).reported steps } := by
  intro lines new problems steps after
  have hafter : after = (e.takeIn lines).takeAll steps := by
    simp only [after, readSource, readLines_eq]
    rfl
  have hanswer (text : String) :
      (e.readSource text).2 = (e.newDirectives (sourceLines [text])).length := by
    rw [readSource, readLines_eq]
  refine ⟨hafter, hanswer source, ?_, fun line hline => ?_, ?_, fun s hs => ?_, ?_,
    fun source' hsame => ⟨(hanswer source').trans (congrArg List.length hsame), ?_⟩⟩
  · rw [hafter, takeAll_directives]
    rfl
  · exact Reading.ofLine_eq_skip_iff_of_mem_sourceLines e.grammar e.host hline
  · have hcount := Reading.length_add_count (e.readings lines)
    rw [readings, Reading.count_skip, List.length_map] at hcount
    exact hcount
  · rcases step_of_mem_firstSteps hs with h | ⟨d, hd, i, event, htrigger, rfl⟩
    · exact Or.inl h
    · exact Or.inr ⟨d, hd, i, event, htrigger, rfl, fun e' => rfl⟩
  · rw [hafter, takeAll_diagnostics]
    rfl
  -- both texts come to the same steps, taken by engines that differ in diagnostics alone
  · have hreported : (e.takeIn lines).reported steps
        = reported { e with directives := e.directives ++ new } steps :=
      reported_withDiagnostics { e with directives := e.directives ++ new } _ steps
    have hthis := e.readLines_eq_withDiagnostics lines (rfl : _ = new)
    have hother := e.readLines_eq_withDiagnostics (sourceLines [source']) hsame
    rw [hreported, readSource, hother]
    simp only [after, readSource, lines] at hthis ⊢
    rw [hthis]

/-- A text with a comment, a line without a verb and a selector that names nothing, and the same
text without them. -/
theorem readSource_of_anchor :
    let e := new (Sketch.empty.add "a")
    let source := "// a\na\nb should hide\na should hide on click\na should show"
    let source' := "a should hide on click\na should show"
    e.newDirectives (sourceLines [source']) = e.newDirectives (sourceLines [source]) ∧
      (e.readSource source').2 = 2 := by
  intro e source source'
  have hsame : e.newDirectives (sourceLines [source']) = e.newDirectives (sourceLines [source]) := by
    decide +kernel
  have hlength : (e.newDirectives (sourceLines [source])).length = 2 := by decide +kernel
  obtain ⟨-, -, -, -, -, -, -, hother⟩ := readSource_of_lines e source
  obtain ⟨hcount, -⟩ := hother source' hsame
  rw [hlength] at hcount
  exact ⟨hsame, hcount⟩

end Engine

end PageDirectives
