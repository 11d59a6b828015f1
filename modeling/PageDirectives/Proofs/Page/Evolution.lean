import PageDirectives.Action.Builtin
import PageDirectives.Action.Extension
import PageDirectives.Proofs.Dispatch.Chain
import PageDirectives.Proofs.Page.Elements

set_option autoImplicit false

/-! # What becomes of a page

A page *becomes* another one if operations on its document make the document of the other
(`Page.Becomes`). Whatever the engine asks of a page comes to that, so nothing that was an element
ceases to be one.

An action is *orderly* if this is all that it does to a page, at once and by the effects it puts
off (`Action.IsOrderly`). The built-in actions are, and what orderly actions do one after the other
is orderly again (`Registry.IsOrderly.runAll`).
-/

namespace PageDirectives

namespace Page

/-- Operations on the document make the one page out of the other; all else on it may change. -/
def Becomes (p p' : Page) : Prop := ∃ ops, p'.document = p.document.run ops

variable {p p' p'' : Page} {n : NodeId}

theorem becomes_of_document_eq (h : p'.document = p.document) : p.Becomes p' := ⟨[], h⟩

theorem Becomes.refl (p : Page) : p.Becomes p := becomes_of_document_eq rfl

theorem Becomes.trans (h : p.Becomes p') (h' : p'.Becomes p'') : p.Becomes p'' := by
  obtain ⟨ops, hops⟩ := h
  obtain ⟨ops', hops'⟩ := h'
  refine ⟨ops ++ ops', ?_⟩
  rw [hops', hops, Document.run, Document.run, Document.run, List.foldl_append]

theorem Becomes.hasElement (h : p.Becomes p') (hn : p.document.HasElement n) :
    p'.document.HasElement n := by
  obtain ⟨ops, hops⟩ := h
  rw [hops]
  exact hn.run ops

theorem becomes_foldl {X : Type} {f : Page → X → Page} {xs : List X}
    (hf : ∀ x ∈ xs, ∀ p : Page, p.Becomes (f p x)) (p : Page) : p.Becomes (xs.foldl f p) := by
  induction xs generalizing p with
  | nil => exact .refl p
  | cons x xs ih =>
      obtain ⟨hx, hxs⟩ := List.forall_mem_cons.mp hf
      exact (hx p).trans (ih hxs _)

/-! ## What the engine asks of a page -/

theorem becomes_update (p : Page) (n : NodeId) (f : Attributes → Attributes) :
    p.Becomes (p.update n f) := ⟨[.update n f], rfl⟩

theorem becomes_appendToHead (p : Page) (name : String) (a : Attributes) :
    p.Becomes (p.appendToHead name a) := ⟨[.appendElement _ name a], rfl⟩

theorem becomes_inject (p : Page) (assets : List Asset) :
    p.Becomes (assets.foldl Asset.inject p) := by
  refine becomes_foldl (fun asset _ p => ?_) p
  cases asset with
  | script url => exact p.becomes_appendToHead "script" _
  | stylesheet url => exact p.becomes_appendToHead "link" _

theorem becomes_of_setInnerHtml {markup : String} (h : Host.setInnerHtml p n markup = .ok p') :
    p.Becomes p' := by
  change p.setInnerHtml n markup = .ok p' at h
  unfold setInnerHtml at h
  split at h
  · cases h
  · obtain rfl := Except.ok.inj h
    exact ⟨[.replaceChildren n markup], rfl⟩

end Page

/-! ## Scenes -/

/-- The page becomes another one, and the listeners that are new wait with effects by which any
page becomes another one. -/
structure Scene.Becomes (s s' : Scene Page) : Prop where
  host : s.host.Becomes s'.host
  waiting : ∀ l ∈ s'.waiting, l ∈ s.waiting ∨ ∀ p : Page, p.Becomes (l.effect p)

namespace Scene.Becomes

variable {s s' s'' : Scene Page}

theorem refl (s : Scene Page) : s.Becomes s := ⟨.refl _, fun _ => Or.inl⟩

theorem trans (h : s.Becomes s') (h' : s'.Becomes s'') : s.Becomes s'' where
  host := h.host.trans h'.host
  waiting l hl := (h'.waiting l hl).elim (h.waiting l) Or.inr

theorem change {f : Page → Page} (hf : ∀ p : Page, p.Becomes (f p)) (s : Scene Page) :
    s.Becomes (s.change f) :=
  ⟨hf s.host, fun _ => Or.inl⟩

theorem changeEach {f : Page → NodeId → Page} (hf : ∀ (p : Page) n, p.Becomes (f p n)) (s : Scene Page)
    (nodes : List NodeId) : s.Becomes (s.changeEach nodes f) :=
  change (Page.becomes_foldl fun n _ p => hf p n) s

theorem foldl {X : Type} {f : Scene Page → X → Scene Page} (hf : ∀ s x, Becomes s (f s x))
    (xs : List X) (s : Scene Page) : s.Becomes (xs.foldl f s) := by
  induction xs generalizing s with
  | nil => exact .refl s
  | cons x xs ih => exact (hf s x).trans (ih _)

theorem once {effect : Page → Page} (heffect : ∀ p : Page, p.Becomes (effect p)) (s : Scene Page)
    (node : NodeId) (events : List String) : s.Becomes (s.once node events effect) where
  host := .refl _
  waiting l hl := by
    rcases List.mem_append.mp hl with hl | hl
    · exact Or.inl hl
    · obtain rfl := List.mem_singleton.mp hl
      exact Or.inr heffect

theorem withArgument {call : Call} {position : Nat} {name : String}
    {next : String → Except ActionError Unit × Scene Page}
    (hnext : ∀ arg, s.Becomes (next arg).2) : s.Becomes (call.withArgument position name s next).2 := by
  unfold Call.withArgument
  split
  · exact .refl s
  · exact hnext _

end Scene.Becomes

/-! ## Actions -/

/-- An action by which pages become other pages, and nothing else. -/
def Action.IsOrderly (action : Action Page) : Prop :=
  ∀ (call : Call) (p : Page), Scene.Becomes { host := p } (action call { host := p }).2

theorem Scene.Becomes.run {action : Action Page} (haction : action.IsOrderly) (call : Call)
    (s : Scene Page) : s.Becomes (s.run action call).2 where
  host := (haction call s.host).host
  waiting l hl := by
    rcases List.mem_append.mp hl with hl | hl
    · exact Or.inl hl
    · exact Or.inr (((haction call s.host).waiting l hl).resolve_left List.not_mem_nil)

namespace Builtin

theorem isOrderly_setVisible (visible : Bool) : Action.IsOrderly (setVisible visible) :=
  fun _ _ => .changeEach (fun p n => p.becomes_update n _) _ _

theorem isOrderly_toggle : Action.IsOrderly toggle :=
  fun _ _ => .changeEach (fun p n => p.becomes_update n _) _ _

theorem isOrderly_eachWithClass {f : Page → NodeId → String → Page}
    (hf : ∀ (p : Page) n c, p.Becomes (f p n c)) : Action.IsOrderly (eachWithClass f) :=
  fun _ _ => .withArgument fun _ => .changeEach (fun p n => hf p n _) _ _

theorem isOrderly_goto : Action.IsOrderly goto :=
  fun _ _ => .withArgument fun arg =>
    .change (f := fun p => Host.navigate p (stripQuotes arg))
      (fun _ => Page.becomes_of_document_eq rfl) _

theorem becomes_fill (content : String) (nodes : List NodeId) (s : Scene Page) :
    s.Becomes (fill content nodes s).2 := by
  induction nodes generalizing s with
  | nil => exact .refl s
  | cons node nodes ih =>
      rw [fill]
      split
      · exact .refl s
      · next p hp =>
          have hchange : s.Becomes { s with host := p } :=
            ⟨Page.becomes_of_setInnerHtml hp, fun _ => Or.inl⟩
          exact hchange.trans (ih _)

theorem isOrderly_load : Action.IsOrderly load := by
  intro call p
  refine .withArgument fun url => .withArgument fun _ => ?_
  have hfetch : Scene.Becomes { host := p } { host := (Host.fetch p (stripQuotes url)).2 } :=
    ⟨Page.becomes_of_document_eq rfl, fun _ => Or.inl⟩
  simp only
  split
  · exact hfetch
  · exact hfetch.trans (becomes_fill _ _ _)

theorem isOrderly_animate : Action.IsOrderly animate := by
  intro call p
  refine .withArgument fun arg => .foldl (fun s n => ?_) _ _
  exact .trans (.change (fun q => q.becomes_update n _) s)
    (.once (fun q => q.becomes_update n _) _ _ _)

theorem isOrderly_of_mem_all {entry : String × Action Page} (h : entry ∈ all) :
    Action.IsOrderly entry.2 := by
  simp only [all, List.mem_cons, List.not_mem_nil, or_false] at h
  rcases h with rfl | rfl | rfl | rfl | rfl | rfl | rfl | rfl
  · exact isOrderly_setVisible false
  · exact isOrderly_setVisible true
  · exact isOrderly_toggle
  · exact isOrderly_eachWithClass fun p n _ => p.becomes_update n _
  · exact isOrderly_eachWithClass fun p n _ => p.becomes_update n _
  · refine isOrderly_eachWithClass fun p n c => ?_
    split
    · exact p.becomes_update n _
    · exact p.becomes_update n _
  · exact isOrderly_goto
  · exact isOrderly_load

end Builtin

/-! ## Registries -/

/-- All actions that are registered are orderly. -/
def Registry.IsOrderly (r : Registry Page) : Prop :=
  ∀ name action, r.find? name = some action → Action.IsOrderly action

namespace Registry

variable {r : Registry Page}

theorem isOrderly_builtin : (builtin : Registry Page).IsOrderly :=
  forall_registerAll (fun _ _ h => by cases h) fun _ => Builtin.isOrderly_of_mem_all

theorem IsOrderly.run (hr : r.IsOrderly) {piece : Piece} {a : Action Page × List String}
    (ha : piece.action? r = some a) (call : Call) (s : Scene Page) :
    s.Becomes (s.run a.1 call).2 := by
  cases piece with
  | blank => cases ha
  | call name args =>
      obtain ⟨action, hfound, rfl⟩ := Option.map_eq_some_iff.mp ha
      exact Scene.Becomes.run (hr name action hfound) call s

/-- **What a chain of orderly actions does is orderly.** -/
theorem IsOrderly.runAll (hr : r.IsOrderly) (d : Directive) (origin : List NodeId)
    (pieces : List Piece) (s : Scene Page) :
    s.Becomes (Piece.runAll r d origin pieces s).1 := by
  induction pieces generalizing s with
  | nil => exact .refl s
  | cons piece pieces ih =>
      rw [Piece.runAll_cons]
      refine .trans ?_ (ih _)
      rw [Piece.run_scene]
      cases haction : piece.action? r with
      | none => exact .refl s
      | some a => exact hr.run haction ⟨origin, d, a.2⟩ s

end Registry

end PageDirectives
