import Mathlib.Data.List.Forall2
import PageDirectives.Proofs.Dispatch.Frame
import PageDirectives.Proofs.Text.Split

set_option autoImplicit false

/-! # Running a chain

A piece of a chain is read as its first word and the words behind it (`Piece.Reads`), and run on
a scene it comes to a success or to one problem (`Piece.RunsTo`). Pieces do not hang on each
other but for the scene: each of them runs on what the one before it has left (`Piece.AllRunTo`).
What a chain leaves is therefore what the calls in it leave that reach an action, one after the
other and whatever they answer (`Piece.runAll_scene`), blank and unknown pieces can be left out
(`Piece.runAll_filter`), and a chain can be cut anywhere (`Piece.runAll_append`).
-/

namespace PageDirectives

namespace Piece

/-! ## How a piece is read -/

/-- A text is read as a blank piece if there is nothing but white space in it, and as a call of
its first word otherwise. -/
inductive Reads : String → Piece → Prop where
  | blank {text : String} : Text.isBlank text → Reads text .blank
  | call {text name : String} {lead rest : List Char} :
      text.toList = lead ++ name.toList ++ rest → (∀ c ∈ lead, isBlank c) → name ≠ "" →
      (∀ c ∈ name.toList, isBlank c = false) → (∀ c ∈ rest.head?, isBlank c) →
      Reads text (.call name (Text.words (.ofList rest)))

theorem reads_ofText (text : String) : Reads text (ofText text) := by
  rcases Chars.words_cases text.toList with ⟨hblank, hwords⟩ | ⟨lead, name, rest, htext, hlead,
    hne, hname, hrest, hwords⟩
  · rw [ofText, Text.words, hwords]
    exact .blank (List.all_eq_true.mpr hblank)
  · have hcall : ofText text = call (.ofList name) (Text.words (.ofList rest)) := by
      simp [ofText, Text.words, hwords]
    rw [hcall]
    have htext' : text.toList = lead ++ (String.ofList name).toList ++ rest := by simpa using htext
    refine .call htext' hlead (fun h => hne ?_) (by simpa using hname) hrest
    simpa using congrArg String.toList h

/-! ## What a piece comes to -/

variable {H : Type} {r : Registry H} {d : Directive} {origin : List NodeId}

/-- What a piece comes to on a scene, and the scene it leaves: `none` is a success, and a problem
names the line of the directive. An action that fails has changed the scene all the same. -/
inductive RunsTo (r : Registry H) (d : Directive) (origin : List NodeId) (s : Scene H) :
    Piece → Option Diagnostic → Scene H → Prop where
  | blank : RunsTo r d origin s .blank (some (.blankAction d.raw)) s
  | unknown {name : String} {args : List String} : r.find? name = none →
      RunsTo r d origin s (.call name args) (some (.unknownAction name d.raw)) s
  | success {name : String} {args : List String} {action : Action H} {left : Scene H} :
      r.find? name = some action → s.run action ⟨origin, d, args⟩ = (.ok (), left) →
      RunsTo r d origin s (.call name args) none left
  | failure {name : String} {args : List String} {action : Action H} {left : Scene H}
      {cause : ActionError} :
      r.find? name = some action → s.run action ⟨origin, d, args⟩ = (.error cause, left) →
      RunsTo r d origin s (.call name args) (some (.actionFailed name d.raw cause.message)) left

/-- What pieces come to one after the other, each on the scene that the one before it leaves. -/
inductive AllRunTo (r : Registry H) (d : Directive) (origin : List NodeId) :
    Scene H → List Piece → List (Option Diagnostic) → Scene H → Prop where
  | nil {s : Scene H} : AllRunTo r d origin s [] [] s
  | cons {s left last : Scene H} {piece : Piece} {pieces : List Piece}
      {outcome : Option Diagnostic} {outcomes : List (Option Diagnostic)} :
      RunsTo r d origin s piece outcome left → AllRunTo r d origin left pieces outcomes last →
      AllRunTo r d origin s (piece :: pieces) (outcome :: outcomes) last

/-- The action that a piece calls, with the arguments it is called with. -/
def action? (r : Registry H) : Piece → Option (Action H × List String)
  | blank => none
  | call name args => (r.find? name).map (·, args)

/-- Whether a piece calls an action. -/
def isRunnable (r : Registry H) (piece : Piece) : Bool := (piece.action? r).isSome

theorem runsTo_run (piece : Piece) (s : Scene H) :
    RunsTo r d origin s piece (piece.run r d origin s).2 (piece.run r d origin s).1 := by
  cases piece with
  | blank => exact .blank
  | call name args =>
      cases hfind : r.find? name with
      | none =>
          simp only [run, hfind]
          exact .unknown hfind
      | some action =>
          rcases hrun : s.run action ⟨origin, d, args⟩ with ⟨answer, left⟩
          cases answer with
          | ok _ =>
              simp only [run, hfind, hrun]
              exact .success hfind hrun
          | error cause =>
              simp only [run, hfind, hrun]
              exact .failure hfind hrun

/-- A piece leaves what its action leaves, if it calls one, and the scene as it is otherwise. -/
theorem RunsTo.scene_eq {s left : Scene H} {piece : Piece} {outcome : Option Diagnostic}
    (h : RunsTo r d origin s piece outcome left) :
    left = (piece.action? r).elim s fun a => (s.run a.1 ⟨origin, d, a.2⟩).2 := by
  cases h with
  | blank => rfl
  | unknown hfind => simp [action?, hfind]
  | success hfind hrun => simp [action?, hfind, hrun]
  | failure hfind hrun => simp [action?, hfind, hrun]

theorem run_scene (piece : Piece) (s : Scene H) :
    (piece.run r d origin s).1
      = (piece.action? r).elim s fun a => (s.run a.1 ⟨origin, d, a.2⟩).2 :=
  (runsTo_run piece s).scene_eq

/-! ## What a chain comes to -/

theorem runAll_cons (piece : Piece) (pieces : List Piece) (s : Scene H) :
    runAll r d origin (piece :: pieces) s
      = ((runAll r d origin pieces (piece.run r d origin s).1).1,
          (piece.run r d origin s).2 :: (runAll r d origin pieces (piece.run r d origin s).1).2) :=
  rfl

/-- A chain can be cut anywhere: its end runs on what its beginning has left. -/
theorem runAll_append (pieces more : List Piece) (s : Scene H) :
    runAll r d origin (pieces ++ more) s
      = ((runAll r d origin more (runAll r d origin pieces s).1).1,
          (runAll r d origin pieces s).2
            ++ (runAll r d origin more (runAll r d origin pieces s).1).2) := by
  induction pieces generalizing s with
  | nil => rfl
  | cons piece pieces ih => rw [List.cons_append, runAll_cons, ih, runAll_cons]; rfl

/-- **A piece in a chain** runs on what the pieces in front of it have left. -/
theorem runAll_of_getElem? (r : Registry H) (d : Directive) (origin : List NodeId)
    {pieces : List Piece} {k : Nat} {piece : Piece} (hpiece : pieces[k]? = some piece)
    (s : Scene H) :
    let left := (runAll r d origin (pieces.take k) s).1
    (runAll r d origin (pieces.take (k + 1)) s).1 = (piece.run r d origin left).1 ∧
      (runAll r d origin pieces s).2[k]? = some (piece.run r d origin left).2 := by
  intro left
  obtain ⟨hk, hget⟩ := List.getElem?_eq_some_iff.mp hpiece
  constructor
  · rw [List.take_succ_eq_append_getElem hk, hget, runAll_append]
    rfl
  · have hlength : (runAll r d origin (pieces.take k) s).2.length = k := by
      rw [length_runAll, List.length_take, Nat.min_eq_left (Nat.le_of_lt hk)]
    have hcut : pieces.take k ++ piece :: pieces.drop (k + 1) = pieces := by
      rw [← hget, ← List.drop_eq_getElem_cons hk, List.take_append_drop]
    have hrun : (runAll r d origin (pieces.take k ++ piece :: pieces.drop (k + 1)) s).2 = _ :=
      congrArg Prod.snd (runAll_append _ _ s)
    rw [hcut] at hrun
    rw [hrun, List.getElem?_append_right (Nat.le_of_eq hlength), hlength, Nat.sub_self]
    rfl

theorem allRunTo_runAll (pieces : List Piece) (s : Scene H) :
    AllRunTo r d origin s pieces (runAll r d origin pieces s).2 (runAll r d origin pieces s).1 := by
  induction pieces generalizing s with
  | nil => exact .nil
  | cons piece pieces ih => exact .cons (runsTo_run piece s) (ih _)

/-- **What a chain leaves**: every action that is called runs on what the one before it has
left, whether that one failed or not. -/
theorem runAll_scene (pieces : List Piece) (s : Scene H) :
    (runAll r d origin pieces s).1
      = (pieces.filterMap (action? r)).foldl (fun s a => (s.run a.1 ⟨origin, d, a.2⟩).2) s := by
  induction pieces generalizing s with
  | nil => rfl
  | cons piece pieces ih =>
      rw [runAll_cons, ih, run_scene]
      cases haction : piece.action? r with
      | none => rw [List.filterMap_cons_none haction]; rfl
      | some a => rw [List.filterMap_cons_some haction]; rfl

/-- **Pieces that call no action can be left out**: that changes neither what the chain leaves
nor what the other pieces come to. -/
theorem runAll_filter (pieces : List Piece) (s : Scene H) :
    runAll r d origin (pieces.filter (isRunnable r)) s
      = ((runAll r d origin pieces s).1,
          ((pieces.zip (runAll r d origin pieces s).2).filter (isRunnable r ·.1)).map Prod.snd) := by
  induction pieces generalizing s with
  | nil => rfl
  | cons piece pieces ih =>
      rw [runAll_cons, List.zip_cons_cons]
      cases haction : piece.action? r with
      | none =>
          have hskip : isRunnable r piece = false := by simp [isRunnable, haction]
          -- such a piece leaves the scene as it is
          have hscene : (piece.run r d origin s).1 = s := by rw [run_scene, haction]; rfl
          rw [List.filter_cons_of_neg (by simp [hskip]), List.filter_cons_of_neg (by simp [hskip]),
            hscene, ih]
      | some a =>
          have hkeep : isRunnable r piece = true := by simp [isRunnable, haction]
          rw [List.filter_cons_of_pos hkeep, List.filter_cons_of_pos (by exact hkeep), runAll_cons,
            ih]
          rfl

end Piece

namespace Engine

variable {H : Type}

/-- An outcome is a success or a problem, so the numbers of both add up. -/
theorem count_none_add_length_filterMap (outcomes : List (Option Diagnostic)) :
    outcomes.count none + (outcomes.filterMap id).length = outcomes.length := by
  induction outcomes with
  | nil => rfl
  | cons outcome outcomes ih =>
      cases outcome with
      | none => simp [← ih]; omega
      | some diagnostic => simp [← ih]; omega

/-- **What the actions of a directive come to.** The action clause is split at the conjunction,
and each piece is read as a call of its first word. The pieces run from left to right, and there
is one outcome for each of them: a success, or the problem that is added to the diagnostics. The
scene is left as the registered actions leave it that are called, each of which runs on what the
one before it has left, whether that one failed or not. Without the other pieces these would come
to the same, and wherever the chain is cut, its end runs as a chain of its own on what its
beginning has left. -/
theorem dispatch_of_chain (e : Engine H) (d : Directive) (origin : List NodeId) :
    let texts := Text.split e.grammar.conjunction d.action
    let pieces := Piece.chain e.grammar.conjunction d.action
    let run := Piece.runAll e.registry d origin
    let outcomes := (run pieces e.scene).2
    let after := e.dispatch d origin
    Chars.Splits e.grammar.conjunction.toList d.action.toList (texts.map String.toList) ∧
    List.Forall₂ Piece.Reads texts pieces ∧
    Piece.AllRunTo e.registry d origin e.scene pieces outcomes after.scene ∧
    outcomes.count none + (outcomes.filterMap id).length = pieces.length ∧
    after.diagnostics = e.diagnostics ++ outcomes.filterMap id ∧
    after.scene = (pieces.filterMap (Piece.action? e.registry)).foldl
      (fun s a => (s.run a.1 ⟨origin, d, a.2⟩).2) e.scene ∧
    run (pieces.filter (Piece.isRunnable e.registry)) e.scene = (after.scene,
      ((pieces.zip outcomes).filter (Piece.isRunnable e.registry ·.1)).map Prod.snd) ∧
    ∀ k, let left := (run (pieces.take k) e.scene).1
      after.scene = (run (pieces.drop k) left).1 ∧
        outcomes = (run (pieces.take k) e.scene).2 ++ (run (pieces.drop k) left).2 := by
  intro texts pieces run outcomes after
  have hscene : after.scene = (run pieces e.scene).1 := rfl
  refine ⟨?_, ?_, Piece.allRunTo_runAll pieces e.scene, ?_, rfl, ?_, ?_, fun k => ?_⟩
  · rw [Chars.splits_iff]
    simp [texts, Text.split, Function.comp_def]
  · exact List.forall₂_map_right_iff.mpr
      (List.forall₂_same.mpr fun text _ => Piece.reads_ofText text)
  · rw [count_none_add_length_filterMap]
    exact Piece.length_runAll e.registry d origin pieces e.scene
  · rw [hscene]
    exact Piece.runAll_scene pieces e.scene
  · rw [hscene]
    exact Piece.runAll_filter pieces e.scene
  · have hcut : run (pieces.take k ++ pieces.drop k) e.scene = _ :=
      Piece.runAll_append (pieces.take k) (pieces.drop k) e.scene
    rw [List.take_append_drop] at hcut
    rw [hscene]
    exact ⟨(congrArg Prod.fst hcut :), (congrArg Prod.snd hcut :)⟩

end Engine

end PageDirectives
