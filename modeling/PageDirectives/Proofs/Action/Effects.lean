import PageDirectives.Proofs.Action.Latest
import PageDirectives.Proofs.Attributes.Classes
import PageDirectives.Proofs.Page.Visibility

set_option autoImplicit false

/-! # What the actions on visibility and classes do

Three of the built-in actions turn the visibility of their targets and three turn whether they
have a class (`Builtin.ofVisibility`, `Builtin.ofClasses`). The targets are looked up once, before
any of them is changed, and none of them is named twice, so each of them is turned by how it was
before the action, even if that changes which elements the target would select. Nothing else of
the page changes (`Builtin.effects_of_target`).
-/

namespace PageDirectives

namespace Registry

/-- The built-in actions are found under their names. -/
theorem find?_builtin {H : Type} [Host H] {name : String} {action : Action H}
    (h : (name, action) ∈ Builtin.all) : (builtin : Registry H).find? name = some action := by
  obtain ⟨before, after, hall⟩ := List.append_of_mem h
  refine find?_registerAll_iff.mpr ⟨before, after, hall, fun e he hsame => ?_⟩
  have hnames : ((Builtin.all : List (String × Action H)).map Prod.fst).Nodup := by
    simp [Builtin.all]
  rw [hall, List.map_append, List.map_cons] at hnames
  have hfresh : name ∉ after.map Prod.fst :=
    (List.nodup_cons.mp (List.nodup_append.mp hnames).2.1).1
  exact hfresh (List.mem_map.mpr ⟨e, he, hsame⟩)

end Registry

namespace Builtin

open Attributes (visibility membership change_visibility change_membership withClass)

/-- What the actions on visibility make of it. -/
def ofVisibility : List (String × (Bool → Bool)) :=
  [("hide", fun _ => false), ("show", fun _ => true), ("toggle", (!·))]

/-- What the actions on classes make of having the class. -/
def ofClasses : List (String × (Bool → Bool)) :=
  [("addclass", fun _ => true), ("removeclass", fun _ => false), ("toggleclass", (!·))]

/-! ## One element -/

/-- Each action on visibility turns it, for one target after the other. -/
theorem step_of_visibility {name : String} {f : Bool → Bool} (h : (name, f) ∈ ofVisibility) :
    ∃ step : Page → NodeId → Page,
      (name, fun call s => (.ok (), s.changeEach (call.target s.host 0) step)) ∈ all ∧
      ∀ (p : Page) n, p.Edited (step p n) (visibility.change f) [n] := by
  simp only [ofVisibility, List.mem_cons, List.not_mem_nil, or_false, Prod.mk.injEq] at h
  rcases h with ⟨rfl, rfl⟩ | ⟨rfl, rfl⟩ | ⟨rfl, rfl⟩
  · refine ⟨fun p n => Host.setVisible p n false, .head _,
      fun p n => Page.edited_update fun e _ => ?_⟩
    rw [change_visibility]
  · refine ⟨fun p n => Host.setVisible p n true, .tail _ (.head _),
      fun p n => Page.edited_update fun e _ => ?_⟩
    rw [change_visibility]
  · refine ⟨fun p n => Host.setVisible p n (!Host.isVisible p n), .tail _ (.tail _ (.head _)),
      fun p n => Page.edited_update fun e he => ?_⟩
    have ha : p.document.attributes? n = some e.attributes := congrArg (Option.map _) he
    have hshown : Host.isVisible p n = e.attributes.isShown :=
      Page.isOn_of_attributes? ha visibility
    rw [hshown, change_visibility]

/-- Each action on classes turns whether one target after the other has the class. -/
theorem step_of_classes {name : String} {f : Bool → Bool} (h : (name, f) ∈ ofClasses) :
    ∃ step : Page → NodeId → String → Page, (name, eachWithClass step) ∈ all ∧
      ∀ (p : Page) n c, p.Edited (step p n c) ((membership c).change f) [n] := by
  simp only [ofClasses, List.mem_cons, List.not_mem_nil, or_false, Prod.mk.injEq] at h
  rcases h with ⟨rfl, rfl⟩ | ⟨rfl, rfl⟩ | ⟨rfl, rfl⟩
  · refine ⟨Host.addClass, .tail _ (.tail _ (.tail _ (.head _))),
      fun p n c => Page.edited_update fun e _ => ?_⟩
    rw [change_membership, withClass, if_pos rfl]
  · refine ⟨Host.removeClass, .tail _ (.tail _ (.tail _ (.tail _ (.head _)))),
      fun p n c => Page.edited_update fun e _ => ?_⟩
    rw [change_membership, withClass, if_neg Bool.false_ne_true]
  · refine ⟨fun p n c =>
        if Host.hasClass p n c then Host.removeClass p n c else Host.addClass p n c,
      .tail _ (.tail _ (.tail _ (.tail _ (.tail _ (.head _))))), fun p n c => ?_⟩
    have hclass {e : Element} (he : p.document.element? n = some e) :
        Host.hasClass p n c = e.attributes.hasClass c := by
      have ha : p.document.attributes? n = some e.attributes := congrArg (Option.map _) he
      exact Page.isOn_of_attributes? ha (membership c)
    beta_reduce
    split
    · next hhas =>
        refine Page.edited_update fun e he => ?_
        rw [hclass he] at hhas
        rw [change_membership, hhas, withClass, if_neg (by decide)]
    · next hnot =>
        refine Page.edited_update fun e he => ?_
        rw [hclass he, Bool.not_eq_true] at hnot
        rw [change_membership, hnot, withClass, if_pos (by decide)]

/-! ## All targets -/

/-- A word without its quotes is a word, if anything is left of it. -/
theorem isWord_stripQuotes {arg : String} (harg : ∀ c ∈ arg.toList, isBlank c = false)
    (hne : stripQuotes arg ≠ "") : Text.IsWord (stripQuotes arg) where
  ne_empty := hne
  solid c hc := by
    rw [stripQuotes, String.toList_ofList] at hc
    exact harg c (List.mem_filter.mp hc).1

variable {markup : String} {p : Page} {call : Call}

/-- **What the actions on visibility and classes do**, to a page that was read, whatever has
become of it since. They change the attributes of the targets, as these are found before the
action, and nothing else: the other elements have their attributes, and all stands where it stood.
A target is visible or not by the name of the action and by how it was before, and so for having
the class that is the first argument, without its quotes, unless nothing is left of it. If there
is no such argument, the answer says so and nothing changes. -/
theorem effects_of_target (hp : (Page.parse markup).Becomes p) (waiting : List (OneShot Page))
    (horigin : ∀ n ∈ call.origin, p.document.HasElement n)
    (hargs : ∀ arg ∈ call.args, ∀ c ∈ arg.toList, isBlank c = false) :
    let s : Scene Page := ⟨p, waiting⟩
    (∀ name f, (name, f) ∈ ofVisibility → ∃ action p', Registry.builtin.find? name = some action ∧
      action call s = (.ok (), ⟨p', waiting⟩) ∧
      p.Edited p' (visibility.change f) (call.target p 0) ∧
      ∀ n ∈ call.target p 0, Host.isVisible p' n = f (Host.isVisible p n)) ∧
    ∀ name f, (name, f) ∈ ofClasses → ∃ action, Registry.builtin.find? name = some action ∧
      (call.args[0]? = none → action call s = (.error (.missingArgument "className" 0), s)) ∧
      ∀ arg, call.args[0]? = some arg → ∃ p', action call s = (.ok (), ⟨p', waiting⟩) ∧
        let c := stripQuotes arg
        p.Edited p' ((membership c).change f) (call.target p 1) ∧
        (c ≠ "" → ∀ n ∈ call.target p 1, Host.hasClass p' n c = f (Host.hasClass p n c)) := by
  intro s
  have hnodup (position : Nat) : (call.target p position).Nodup := nodup_findTarget p _ _ _
  have helement (position : Nat) : ∀ n ∈ call.target p position, p.document.HasElement n :=
    fun _ hn => Page.hasElement_of_mem_target horigin hn
  refine ⟨fun name f hname => ?_, fun name f hname => ?_⟩
  · obtain ⟨step, hall, hstep⟩ := step_of_visibility hname
    have hedited := Page.edited_foldl hstep p (hnodup 0)
    exact ⟨_, _, Registry.find?_builtin hall, rfl, hedited, fun n hn =>
      hedited.isOn Attributes.isLawful_visibility hp.isRegular hn (helement 0 n hn)⟩
  · obtain ⟨step, hall, hstep⟩ := step_of_classes hname
    refine ⟨_, Registry.find?_builtin hall, fun hnone => ?_, fun arg harg => ?_⟩
    · simp only [eachWithClass, Call.withArgument, argument, hnone]
    · have hedited := Page.edited_foldl (fun p n => hstep p n (stripQuotes arg)) p (hnodup 1)
      refine ⟨_, ?_, hedited, fun hne n hn => ?_⟩
      · simp only [eachWithClass, Call.withArgument, argument, harg]
        rfl
      · have hword := isWord_stripQuotes (hargs arg (List.mem_of_getElem? harg)) hne
        exact hedited.isOn (Attributes.isLawful_membership hword) hp.isRegular hn (helement 1 n hn)

/-- Of two paragraphs that are told apart by a class, each gets what the other had. -/
theorem effects_of_toggleClass :
    let page := Page.parse "<p class=a></p><p></p>"
    let directive : Directive := ⟨"p should toggleclass 'a' p on load", "p", "toggleclass 'a' p",
      .load, none, [4]⟩
    let call : Call := ⟨[4], directive, ["'a'", "p"]⟩
    (Page.parse "<p class=a></p><p></p>").Becomes page ∧
      (∀ n ∈ call.origin, page.document.HasElement n) ∧
      (∀ arg ∈ call.args, ∀ c ∈ arg.toList, isBlank c = false) ∧
      ∃ action p', Registry.builtin.find? "toggleclass" = some action ∧
        action call { host := page } = (.ok (), { host := p' }) ∧
        Host.hasClass p' 4 "a" = false ∧ Host.hasClass p' 5 "a" = true := by
  intro page directive call
  have hpage : (Page.parse "<p class=a></p><p></p>").Becomes page := .refl _
  have horigin : ∀ n ∈ call.origin, page.document.HasElement n := by
    unfold Document.HasElement
    decide +kernel
  have hargs : ∀ arg ∈ call.args, ∀ c ∈ arg.toList, isBlank c = false := by
    have hall : call.args.all (fun arg => arg.toList.all fun c => !isBlank c) := by decide
    simpa only [List.all_eq_true, Bool.not_eq_true'] using hall
  obtain ⟨-, hclasses⟩ := effects_of_target hpage [] horigin hargs
  obtain ⟨action, hfound, -, hturn⟩ := hclasses "toggleclass" (!·) (by simp [ofClasses])
  obtain ⟨p', hrun, -, hhas⟩ := hturn "'a'" rfl
  have htarget : call.target page 1 = [4, 5] := by decide +kernel
  have hname : stripQuotes "'a'" = "a" := by decide
  have hbefore : Host.hasClass page 4 "a" = true ∧ Host.hasClass page 5 "a" = false := by
    decide +kernel
  rw [htarget, hname] at hhas
  refine ⟨hpage, horigin, hargs, action, p', hfound, hrun, ?_, ?_⟩
  · rw [hhas (by decide) 4 (by decide), hbefore.1]
    rfl
  · rw [hhas (by decide) 5 (by decide), hbefore.2]
    rfl

end Builtin

end PageDirectives
