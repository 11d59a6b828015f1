import PageDirectives.Engine.Basic

set_option autoImplicit false

/-! # What a dispatch leaves alone

Actions are not shown the listeners that wait already, so a dispatch does the same whichever they
are: it keeps them in place, in front of those that its actions leave behind. The engine's
`Engine.dispatch` therefore changes three things only (`Engine.dispatch_eq`), and what it puts
into each of them hangs on the page, the registry, the conjunction and the directive alone.
-/

namespace PageDirectives

variable {H : Type}

/-- The scene behind listeners that wait already. -/
def Scene.behind (s : Scene H) (ls : List (OneShot H)) : Scene H :=
  ⟨s.host, ls ++ s.waiting⟩

theorem Scene.run_behind (s : Scene H) (ls : List (OneShot H)) (action : Action H)
    (call : Call) :
    (s.behind ls).run action call = ((s.run action call).1, (s.run action call).2.behind ls) := by
  simp [Scene.run, Scene.behind]

theorem Piece.run_behind (r : Registry H) (d : Directive) (origin : List NodeId) (s : Scene H)
    (ls : List (OneShot H)) (piece : Piece) :
    piece.run r d origin (s.behind ls)
      = ((piece.run r d origin s).1.behind ls, (piece.run r d origin s).2) := by
  cases piece with
  | blank => rfl
  | call name args =>
      cases hfind : r.find? name with
      | none => simp only [Piece.run, hfind]
      | some action =>
          have hrun := s.run_behind ls action ⟨origin, d, args⟩
          rcases hs : s.run action ⟨origin, d, args⟩ with ⟨result, after⟩
          rw [hs] at hrun
          cases result with
          | ok _ => simp only [Piece.run, hfind, hrun, hs]
          | error cause => simp only [Piece.run, hfind, hrun, hs]

/-- Running pieces behind waiting listeners is running them, with the listeners in front. -/
theorem Piece.runAll_behind (r : Registry H) (d : Directive) (origin : List NodeId)
    (ls : List (OneShot H)) (pieces : List Piece) (s : Scene H) :
    runAll r d origin pieces (s.behind ls)
      = ((runAll r d origin pieces s).1.behind ls, (runAll r d origin pieces s).2) := by
  induction pieces generalizing s with
  | nil => rfl
  | cons piece pieces ih =>
      simp only [runAll]
      rw [Piece.run_behind, ih]

theorem dispatch_behind (r : Registry H) (conjunction : String) (d : Directive)
    (origin : List NodeId) (s : Scene H) (ls : List (OneShot H)) :
    dispatch r conjunction d origin (s.behind ls)
      = ((dispatch r conjunction d origin s).1.behind ls,
          (dispatch r conjunction d origin s).2) :=
  Piece.runAll_behind r d origin ls _ s

namespace Engine

/-- What running the actions of a directive on the page comes to: the page and the listeners
they leave, and an outcome for each of them. -/
def effect (e : Engine H) (d : Directive) (origin : List NodeId) :
    Scene H × List (Option Diagnostic) :=
  PageDirectives.dispatch e.registry e.grammar.conjunction d origin { host := e.host }

/-- The listeners that the actions of a directive leave behind. -/
def leftBehind (e : Engine H) (d : Directive) (origin : List NodeId) : List (OneShot H) :=
  (e.effect d origin).1.waiting

/-- The problems that the actions of a directive run into. -/
def problems (e : Engine H) (d : Directive) (origin : List NodeId) : List Diagnostic :=
  (e.effect d origin).2.filterMap id

/-- **What a dispatch does to an engine.** -/
theorem dispatch_eq (e : Engine H) (d : Directive) (origin : List NodeId) :
    e.dispatch d origin =
      { e with
        host := (e.effect d origin).1.host
        waiting := e.waiting ++ e.leftBehind d origin
        diagnostics := e.diagnostics ++ e.problems d origin } := by
  have hscene : e.scene = Scene.behind { host := e.host } e.waiting := by
    simp [scene, Scene.behind]
  unfold Engine.dispatch
  rw [hscene, dispatch_behind]
  rfl

end Engine

end PageDirectives
