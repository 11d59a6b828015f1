import PageDirectives.Proofs.Document.Fill
import PageDirectives.Proofs.Engine.Orderly

set_option autoImplicit false

/-! # Loading into a page

The action `load` does all of its work or none of it (`Engine.load_of_history`). Filling a node is
refused only if the node is no element. But the targets are elements whenever an engine runs the
action: a directive is bound to what a selection has named, an event runs directives only where they
are bound, and elements stay elements.
-/

namespace PageDirectives

variable {s : Scene Page} {call : Call}

namespace Page

theorem setInnerHtml_of_hasElement {p : Page} {n : NodeId} (markup : String)
    (hn : p.document.HasElement n) :
    Host.setInnerHtml p n markup
      = .ok { p with document := p.document.replaceChildren n markup } := by
  have hsome : ¬ (p.document.element? n).isNone := by
    rw [Option.isNone_iff_eq_none, ← ne_eq, Option.ne_none_iff_isSome]
    exact hn
  exact if_neg hsome

end Page

namespace Builtin

/-- Elements do not refuse to be filled. -/
theorem fill_of_hasElement (content : String) {nodes : List NodeId} {s : Scene Page}
    (hnodes : ∀ n ∈ nodes, s.host.document.HasElement n) :
    fill content nodes s = (.ok (), s.change fun p =>
      { p with document := p.document.fillAll content nodes }) := by
  induction nodes generalizing s with
  | nil => rfl
  | cons node nodes ih =>
      obtain ⟨hnode, hnodes⟩ := List.forall_mem_cons.mp hnodes
      rw [fill, Page.setInnerHtml_of_hasElement content hnode]
      exact ih fun n hn => (hnodes n hn).run [.replaceChildren node content]

/-! ## What a call comes to -/

theorem load_of_no_url (h : call.args[0]? = none) :
    load call s = (.error (.missingArgument "url" 0), s) := by
  simp only [load, Call.withArgument, argument, h]

theorem load_of_no_insertion {url : String} (hurl : call.args[0]? = some url)
    (h : call.args[1]? = none) :
    load call s = (.error (.missingArgument "insertion" 1), s) := by
  simp only [load, Call.withArgument, argument, hurl, h]

theorem load_of_failure {url word : String} {cause : LoadError} (hurl : call.args[0]? = some url)
    (hword : call.args[1]? = some word) (h : s.host.loader (stripQuotes url) = .error cause) :
    load call s = (.error (.load cause),
      { s with host := (Host.fetch s.host (stripQuotes url)).2 }) := by
  have hfetch : (Host.fetch s.host (stripQuotes url)).1 = .error cause := h
  simp only [load, Call.withArgument, argument, hurl, hword, hfetch]

theorem load_of_content {url word content : String} (hurl : call.args[0]? = some url)
    (hword : call.args[1]? = some word) (h : s.host.loader (stripQuotes url) = .ok content)
    (horigin : ∀ n ∈ call.origin, s.host.document.HasElement n) :
    load call s = (.ok (), { s with host :=
      { (Host.fetch s.host (stripQuotes url)).2 with
        document := s.host.document.fillAll content (call.target s.host 2) } }) := by
  have hfetch : (Host.fetch s.host (stripQuotes url)).1 = .ok content := h
  simp only [load, Call.withArgument, argument, hurl, hword, hfetch]
  exact fill_of_hasElement content fun n => Page.hasElement_of_mem_target horigin

/-- Whether a call of `load` on a page has to fail. -/
def LoadFails (p : Page) (args : List String) : Prop :=
  args[0]? = none ∨ args[1]? = none ∨
    ∃ url cause, args[0]? = some url ∧ p.loader (stripQuotes url) = .error cause

/-- **A call of `load`** fails where it has to, and leaves the document as it is; or else it fills
all targets. -/
theorem load_cases (p : Page) (horigin : ∀ n ∈ call.origin, p.document.HasElement n) :
    (LoadFails p call.args ∧ ∃ cause left, load call { host := p } = (.error cause, left) ∧
      (∀ refusal, cause ≠ .dom refusal) ∧ left.host.document = p.document) ∨
    (¬ LoadFails p call.args ∧ ∃ url content left, call.args[0]? = some url ∧
      p.loader (stripQuotes url) = .ok content ∧ load call { host := p } = (.ok (), left) ∧
      left.host.document = p.document.fillAll content (call.target p 2)) := by
  cases hurl : call.args[0]? with
  | none =>
      refine Or.inl ⟨Or.inl hurl, _, _, load_of_no_url hurl, ?_, rfl⟩
      exact fun refusal h => by cases h
  | some url =>
  cases hword : call.args[1]? with
  | none =>
      refine Or.inl ⟨Or.inr (Or.inl hword), _, _, load_of_no_insertion hurl hword, ?_, rfl⟩
      exact fun refusal h => by cases h
  | some word =>
  cases hload : p.loader (stripQuotes url) with
  | error cause =>
      refine Or.inl ⟨Or.inr (Or.inr ⟨url, cause, hurl, hload⟩), _, _,
        load_of_failure hurl hword hload, ?_, rfl⟩
      exact fun refusal h => by cases h
  | ok content =>
      refine Or.inr ⟨?_, url, content, _, rfl, hload, load_of_content hurl hword hload horigin, rfl⟩
      rintro (hnone | hnone | ⟨url', cause, hurl', hcause⟩)
      · cases hurl.symm.trans hnone
      · cases hword.symm.trans hnone
      · obtain rfl := Option.some.inj (hurl.symm.trans hurl')
        cases hload.symm.trans hcause

end Builtin

namespace Engine

/-- **The action `load` does all of its work or none of it.** Take any run in which the page is
changed by operations on its document only, any directive that it runs, and any point of the chain
of its actions. The targets of a call of `load` are elements there, and are for good. The call fails
if and only if the address or the word behind it is missing or the address, without its quotes,
cannot be loaded, but never since the page refuses; and then the document is what it was. Otherwise
every target is filled with a copy of the content of its own, whichever of them are below others. Its
former children stay what they are, without a parent, and nothing changes that is not at or below a
target. The directives and the bindings are the same once the chain has run. -/
theorem load_of_history (page : Page) {ops : List (Op Page)} (hops : ∀ op ∈ ops, op.IsOrderly)
    {m : Moment Page} (hm : m ∈ (new page).history ops) {d : Directive} {origin : List NodeId}
    (hstep : m.step = .dispatch d origin) (k : Nat) (args : List String) :
    let chain := Piece.chain m.engine.grammar.conjunction d.action
    let s := (Piece.runAll m.engine.registry d origin (chain.take k) m.engine.scene).1
    let call : Call := ⟨origin, d, args⟩
    let targets := call.target s.host 2
    let before := s.host.document
    let answer := (s.run Builtin.load call).1
    let after := (s.run Builtin.load call).2.host.document
    (∀ n ∈ targets, before.HasElement n ∧ ∀ more, (before.run more).HasElement n) ∧
    (∀ refusal, answer ≠ .error (.dom refusal)) ∧
    ((∃ cause, answer = .error cause) ↔ args[0]? = none ∨ args[1]? = none ∨
      ∃ url cause, args[0]? = some url ∧ s.host.loader (stripQuotes url) = .error cause) ∧
    ((∃ cause, answer = .error cause) → after = before) ∧
    (answer = .ok () → ∃ url content, args[0]? = some url ∧
      s.host.loader (stripQuotes url) = .ok content ∧
      Document.Filled before after targets (Document.parseFragment content) ∧
      (∀ t ∈ targets, ∀ n ∈ before.links.children t,
        after.links.parent? n = none ∧ after.content? n = before.content? n) ∧
      ∀ n < before.size, (∀ t ∈ targets, ¬ Relation.ReflTransGen before.links.Under n t) →
        after.content? n = before.content? n ∧ after.links.row n = before.links.row n) ∧
    m.after.directives = m.engine.directives ∧ m.after.bindings = m.engine.bindings := by
  intro chain s call targets before answer after
  have horderly := (isOrderly_new page).history hops m hm
  have horigin : ∀ n ∈ origin, m.engine.host.document.HasElement n := by
    have hnodes := horderly.nodes
    rwa [hstep] at hnodes
  have hbecomes : m.engine.host.Becomes s.host :=
    (horderly.engine.registry.runAll d origin (chain.take k) m.engine.scene).host
  have hcall : ∀ n ∈ call.origin, before.HasElement n :=
    fun n hn => hbecomes.hasElement (horigin n hn)
  have htargets : ∀ n ∈ targets, before.HasElement n :=
    fun n hn => Page.hasElement_of_mem_target hcall hn
  have hlists : m.after.directives = m.engine.directives ∧ m.after.bindings = m.engine.bindings := by
    have hnone : m.step.bindings = [] := by rw [hstep]; rfl
    rw [Moment.after, take_directives, take_bindings, hnone, List.append_nil]
    exact ⟨rfl, rfl⟩
  refine ⟨fun n hn => ⟨htargets n hn, (htargets n hn).run⟩, ?_⟩
  rcases Builtin.load_cases s.host hcall with ⟨hfails, cause, left, hload, hdom, hdocument⟩ |
    ⟨hsucceeds, url, content, left, hurl, hcontent, hload, hdocument⟩
  · have hanswer : answer = .error cause := congrArg Prod.fst hload
    have hafter : after = before := by
      show (Builtin.load call { host := s.host }).2.host.document = _
      rw [hload]
      exact hdocument
    rw [hanswer]
    exact ⟨fun refusal h => hdom refusal (Except.error.inj h), iff_of_true ⟨cause, rfl⟩ hfails,
      fun _ => hafter, fun h => (by cases h), hlists⟩
  · have hanswer : answer = .ok () := congrArg Prod.fst hload
    have hafter : after = before.fillAll content targets := by
      show (Builtin.load call { host := s.host }).2.host.document = _
      rw [hload]
      exact hdocument
    have hfilled : Document.Filled before after targets (Document.parseFragment content) := by
      rw [hafter]
      exact Document.filled_fillAll content (nodup_findTarget s.host origin _ args)
        fun t ht => (htargets t ht).lt_size
    have hok : ¬ ∃ cause, answer = .error cause := by
      rw [hanswer]
      exact fun ⟨cause, h⟩ => by cases h
    exact ⟨fun refusal h => hok ⟨_, h⟩, iff_of_false hok hsucceeds, fun h => absurd h hok,
      fun _ => ⟨url, content, hurl, hcontent, hfilled, fun t ht n => hfilled.detached ht,
        fun n => hfilled.unchanged⟩, hlists⟩

/-- A box and a paragraph in it are filled by one call. The paragraph is taken out of the box by
that, and it is filled all the same. -/
theorem load_of_box :
    let page : Page := { Page.parse "<div class=a><p class=a>old</p></div>" with
      loader := .ofEntries [("n.html", "<b>new</b>")] }
    let op : Op Page := .readSource "div should load 'n.html' into .a on load"
    let d : Directive := ⟨"div should load 'n.html' into .a on load", "div",
      "load 'n.html' into .a", .load, none, [4]⟩
    let m : Moment Page := ⟨(new page).prepare op, .dispatch d [4]⟩
    let run := m.engine.scene.run Builtin.load ⟨[4], d, ["'n.html'", "into", ".a"]⟩
    let left := run.2.host.document.links
    m ∈ (new page).history [op] ∧ run.1 = .ok () ∧ page.document.links.children 4 = [5] ∧
      left.children 4 = [10] ∧ left.children 5 = [15] ∧ left.parent? 5 = none := by
  intro page op d m run left
  have hsteps : (new page).steps op = [.dispatch d [4]] := by decide +kernel
  have hm : m ∈ (new page).history [op] := by
    rw [history, hsteps]
    exact List.mem_cons_self
  have hload : page.loader (stripQuotes "'n.html'") = .ok "<b>new</b>" := by rfl
  have hop : ∀ o ∈ [op], o.IsOrderly := List.forall_mem_singleton.mpr trivial
  obtain ⟨-, -, hfails, -, hfills, -⟩ :=
    load_of_history page hop hm rfl 0 ["'n.html'", "into", ".a"]
  have hok : run.1 = .ok () := by
    cases hanswer : run.1 with
    | ok _ => rfl
    | error cause =>
        rcases hfails.mp ⟨cause, hanswer⟩ with h | h | ⟨url, cause, hurl, h⟩
        · cases h
        · cases h
        · obtain rfl := Option.some.inj hurl
          cases hload.symm.trans h
  obtain ⟨url, content, hurl, hcontent, hfilled, hdetached, -⟩ := hfills hok
  obtain rfl := Option.some.inj hurl
  obtain rfl := Except.ok.inj (hload.symm.trans hcontent)
  have htargets : Call.target ⟨[4], d, ["'n.html'", "into", ".a"]⟩ page 2 = [4, 5] := by
    decide +kernel
  have hchildren : page.document.links.children 4 = [5] := by decide +kernel
  have hbox := (hfilled.copied 0 4 (congrArg (·[0]?) htargets)).children_eq
  have hparagraph := (hfilled.copied 1 5 (congrArg (·[1]?) htargets)).children_eq
  have hnone := (hdetached 4 (htargets ▸ List.mem_cons_self) 5 (hchildren ▸ List.mem_cons_self)).1
  refine ⟨hm, hok, hchildren, hbox.trans ?_, hparagraph.trans ?_, hnone⟩
  · decide +kernel
  · decide +kernel

end Engine

end PageDirectives
