import PageDirectives.Command.Program
import PageDirectives.Proofs.Command.Events
import PageDirectives.Proofs.Command.Opening

set_option autoImplicit false

/-! # Running a page

A run reads its events before it does anything else, so that with a malformed one among them it comes
to nothing but the reason (`Command.run_of_isMalformed`). With events that are all well written, the
scripts of the page are read and the events happen, one after the other (`Command.Happens`). Where an
event happens is only settled when its turn comes, and an event without an element changes nothing,
also not for the events behind it (`Command.Happens.skip_iff`).
-/

namespace PageDirectives.Command

open PageEvent (Writes IsMalformed)

/-! ## Events one after the other -/

/-- Events happen one after the other, each on the first element that its selector matches on the
page as it is by then, or not at all if there is no such element. -/
inductive Happens : Engine Page → List PageEvent → Engine Page → Prop where
  | nil {e : Engine Page} : Happens e [] e
  | skip {e e' : Engine Page} {event : PageEvent} {events : List PageEvent} :
      e.host.select event.selector = [] → Happens e events e' → Happens e (event :: events) e'
  | fire {e e' : Engine Page} {event : PageEvent} {events : List PageEvent} {node : NodeId}
      {others : List NodeId} :
      e.host.select event.selector = node :: others →
      Happens (e.fire node event.name).1 events e' → Happens e (event :: events) e'

variable {e e' m : Engine Page} {event : PageEvent} {events before after : List PageEvent}

theorem happens_nil_iff : Happens e [] e' ↔ e' = e := by
  constructor
  · intro h
    cases h
    rfl
  · rintro rfl
    exact .nil

/-- An event that has no element is skipped. -/
theorem happens_cons_iff_of_nil (h : e.host.select event.selector = []) :
    Happens e (event :: events) e' ↔ Happens e events e' := by
  constructor
  · intro hhappens
    cases hhappens with
    | skip _ hrest => exact hrest
    | fire hselect _ => cases h.symm.trans hselect
  · exact .skip h

/-- An event that has elements happens on the first of them. -/
theorem happens_cons_iff_of_cons {node : NodeId} {others : List NodeId}
    (h : e.host.select event.selector = node :: others) :
    Happens e (event :: events) e' ↔ Happens (e.fire node event.name).1 events e' := by
  constructor
  · intro hhappens
    cases hhappens with
    | skip hselect _ => cases h.symm.trans hselect
    | fire hselect hrest =>
        obtain ⟨rfl, -⟩ := List.cons.inj (h.symm.trans hselect)
        exact hrest
  · exact .fire h

/-- **What happens** is what the program lets happen. -/
theorem happens_iff : Happens e events e' ↔ e' = (PageEvent.happenAll e events).1 := by
  induction events generalizing e with
  | nil => exact happens_nil_iff
  | cons event events ih =>
      cases hselect : e.host.select event.selector with
      | nil =>
          rw [happens_cons_iff_of_nil hselect, ih]
          simp only [PageEvent.happenAll, PageEvent.happen, Page.first?, hselect, List.head?_nil]
      | cons node others =>
          rw [happens_cons_iff_of_cons hselect, ih]
          simp only [PageEvent.happenAll, PageEvent.happen, Page.first?, hselect, List.head?_cons]

/-- Events happen on what the ones before have left. -/
theorem Happens.append_iff (h : Happens e before m) :
    Happens e (before ++ after) e' ↔ Happens m after e' := by
  induction h with
  | nil => exact Iff.rfl
  | skip hselect _ ih => rw [List.cons_append, happens_cons_iff_of_nil hselect, ih]
  | fire hselect _ ih => rw [List.cons_append, happens_cons_iff_of_cons hselect, ih]

/-- **An event without an element** can be left out. -/
theorem Happens.skip_iff (hbefore : Happens e before m) (h : m.host.select event.selector = []) :
    Happens e (before ++ event :: after) e' ↔ Happens e (before ++ after) e' := by
  rw [hbefore.append_iff, hbefore.append_iff, happens_cons_iff_of_nil h]

/-! ## Runs -/

variable {read : FileReader} {network : Network} {c : Config} {page spec : String}
  {specs : List String} {output : Option String}

/-- **A malformed event** is all that a run is about, whatever page there is. -/
theorem run_of_isMalformed {before : List String} (hbefore : ∀ s ∈ before, ¬ IsMalformed s)
    (hspec : IsMalformed spec) (after : List String) :
    run read network c page (before ++ spec :: after) output
      = { ending := .fail (.malformedEvent spec) } := by
  unfold run
  rw [PageEvent.parseAll_of_isMalformed hbefore hspec after]
  rfl

/-- How a run ends, with the page as it is then. -/
def endingWith (output : Option String) (p : Page) : Ending :=
  match output with
  | some path => .save path p.toHtml
  | none => .print p.toHtml

theorem run_of_openPage (hevents : List.Forall₂ Writes specs events)
    (h : openPage read network c page = .ok e) (output : Option String) :
    let outcome := run read network c page specs output
    let p := (PageEvent.happenAll e.readScripts.1 events).1.host
    outcome.ending = endingWith output p ∧ outcome.loaded = loadedPaths c p := by
  unfold run
  rw [PageEvent.parseAll_of_forall₂ hevents, h]
  exact ⟨rfl, rfl⟩

theorem run_of_openPage_error {cause : CommandError} (hevents : List.Forall₂ Writes specs events)
    (h : openPage read network c page = .error cause) :
    run read network c page specs output = { ending := .fail cause } := by
  unfold run
  rw [PageEvent.parseAll_of_forall₂ hevents, h]
  rfl

theorem perform_eq_run {s : Surroundings} {i : Invocation}
    (hconfig : Config.load s i.config i.overrides = .ok c) (htask : i.task = .run specs output) :
    i.perform s = run s.read s.network c i.page specs output := by
  rw [Invocation.perform, hconfig, htask]

/-- **A run from the command line**, with settings that can be loaded.

If one of the events is malformed, the first such one is the reason for the run to fail, and there is
nothing but this reason: no directive is counted, no event happens, no file is loaded or saved, and
it makes no difference which page there is.

Otherwise each of them writes an event. The run fails if the page cannot be read. If it can be, its
scripts are read and the events happen in order, each on the first element that its selector matches
by then, which leads to one page only; this is the page that is printed or saved. An event without an
element can be left out without any difference to the others. What stands in front of the last `@`
and behind it is the selector and the name of an event, trimmed, whatever the selector holds. -/
theorem perform_run {s : Surroundings} {i : Invocation}
    (hconfig : Config.load s i.config i.overrides = .ok c) (htask : i.task = .run specs output) :
    ((∃ spec ∈ specs, IsMalformed spec) →
      ∃ before spec after, specs = before ++ spec :: after ∧ (∀ t ∈ before, ¬ IsMalformed t) ∧
        IsMalformed spec ∧
        i.perform s = { ending := .fail (.malformedEvent spec) } ∧
        (∀ saved, (i.perform s).result saved
          = ⟨1, "", Outcome.lines
              ["Error: invalid event '" ++ spec ++ "', expected <selector>@<event>"]⟩) ∧
        ∀ read network page, run read network c page specs output = i.perform s) ∧
    ((∀ spec ∈ specs, ¬ IsMalformed spec) →
      ∃ events, List.Forall₂ Writes specs events ∧
        (∀ fault, s.read i.page = .error fault →
          i.perform s = { ending := .fail (.file fault) }) ∧
        ∀ markup, s.read i.page = .ok markup →
          ∃ e e', openPage s.read s.network c i.page = .ok e ∧
            (∀ other, Happens e.readScripts.1 events other ↔ other = e') ∧
            (i.perform s).ending = endingWith output e'.host ∧
            (i.perform s).loaded = loadedPaths c e'.host) ∧
    (∀ e before m event after e', Happens e before m → m.host.select event.selector = [] →
      (Happens e (before ++ event :: after) e' ↔ Happens e (before ++ after) e')) ∧
    ∀ before after event, '@' ∉ after.toList →
      (Writes (before ++ "@" ++ after) event ↔
        ¬ Text.isBlank before ∧ ¬ Text.isBlank after ∧
          event = ⟨Text.trim before, Text.trim after⟩) := by
  have hrun : i.perform s = run s.read s.network c i.page specs output :=
    perform_eq_run hconfig htask
  refine ⟨?_, fun hwell => ?_, fun e before m event after e' => Happens.skip_iff,
    fun before after event => PageEvent.writes_append_iff⟩
  · intro hmalformed
    obtain ⟨before, spec, after, rfl, hbefore, hspec⟩ :=
      PageEvent.exists_first_isMalformed hmalformed
    have hfails (read : FileReader) (network : Network) (page : String) :
        run read network c page (before ++ spec :: after) output
          = { ending := .fail (.malformedEvent spec) } := run_of_isMalformed hbefore hspec after
    rw [hrun, hfails]
    exact ⟨before, spec, after, rfl, hbefore, hspec, rfl, fun saved => rfl, hfails⟩
  · obtain ⟨events, hevents⟩ := PageEvent.exists_forall₂_writes hwell
    obtain ⟨-, -, hopen⟩ := openPage_of_loadBy hconfig
    obtain ⟨hopens, -⟩ := hopen s.read s.network i.page
    rw [hrun]
    refine ⟨events, hevents, fun fault hfault => ?_, fun markup hmarkup => ?_⟩
    · exact run_of_openPage_error hevents (openPage_of_error hfault)
    · obtain ⟨e, he⟩ := hopens.mpr ⟨markup, hmarkup⟩
      obtain ⟨hending, hloaded⟩ := run_of_openPage hevents he output
      exact ⟨e, _, he, fun other => happens_iff, hending, hloaded⟩

/-- An event that has no element until another one has happened, and a malformed event behind a well
written one. -/
theorem perform_run_of_hidden :
    let markup := "<p>x</p><script type=text/shorthand>p should hide on click\n"
      ++ "p should show on tap</script>"
    let s : Surroundings := { read := fun _ => .ok markup, environment := fun _ => none, cwd := none }
    let c : Config := { baseDir := "" }
    -- only a hidden element has `none` in its style
    let specs := ["[style*=none]@tap", "p @ click", "[style*=none]@tap"]
    let i : Invocation := { page := "index.html", task := .run specs none }
    let slip : Invocation :=
      { page := "index.html", task := .run ["p@click", "p@ "] (some "out.html") }
    Config.load s none {} = .ok c ∧
      (∃ events e e', List.Forall₂ Writes specs events ∧
        openPage s.read s.network c i.page = .ok e ∧ Happens e.readScripts.1 events e' ∧
        e'.host.toHtml = "<html><head></head><body>"
          ++ "<p style=\"cursor: pointer;\">x</p><script type=\"text/shorthand\">"
          ++ "p should hide on click\np should show on tap</script></body></html>") ∧
      slip.perform s = { ending := .fail (.malformedEvent "p@ ") } := by
  intro markup s c specs i slip
  have hload : Config.load s none {} = .ok c := rfl
  obtain ⟨-, hpage, -⟩ := perform_run (i := i) hload rfl
  obtain ⟨hslip, -⟩ := perform_run (i := slip) hload rfl
  have hwell : ∀ spec ∈ specs, ¬ IsMalformed spec := by
    simp only [← PageEvent.parse?_eq_none_iff]
    decide
  refine ⟨hload, ?_, ?_⟩
  · obtain ⟨events, hevents, -, hpage⟩ := hpage hwell
    obtain ⟨e, e', hopen, hhappens, hending, -⟩ := hpage markup rfl
    refine ⟨events, e, e', hevents, hopen, (hhappens e').mpr rfl, ?_⟩
    refine Ending.print.inj (hending.symm.trans ?_)
    decide +kernel
  · have hblank : IsMalformed "p@ " := PageEvent.parse?_eq_none_iff.mp (by decide)
    obtain ⟨before, spec, after, heq, -, hspec, hfails, -⟩ := hslip ⟨_, by simp, hblank⟩
    have hmem : spec ∈ ["p@click", "p@ "] := by
      rw [heq]
      exact List.mem_append_right before List.mem_cons_self
    obtain rfl : spec = "p@ " := by
      rcases List.mem_pair.mp hmem with rfl | rfl
      · exact absurd (PageEvent.parse?_eq_none_iff.mpr hspec) (by decide)
      · rfl
    exact hfails

end PageDirectives.Command
