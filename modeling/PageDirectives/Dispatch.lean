import PageDirectives.Action.Registry

set_option autoImplicit false

/-! # Dispatch

The action clause of a directive is a chain: the conjunction separates its pieces, and each
piece is the name of an action with its arguments. `dispatch` runs the pieces from left to
right. A piece that is blank, unknown or fails is reported, and the next one runs.
-/

namespace PageDirectives

/-- One link of a chain of actions. -/
inductive Piece where
  | blank
  | call (name : String) (args : List String)
  deriving DecidableEq, Repr

namespace Piece

/-- The first word is the name of an action, the others are its arguments. -/
def ofText (text : String) : Piece :=
  match Text.words text with
  | [] => blank
  | name :: args => call name args

/-- The chain written in an action clause. -/
def chain (conjunction action : String) : List Piece :=
  (Text.split conjunction action).map ofText

variable {H : Type}

/-- Runs one piece. The scene that is left, and the problem if there was one. -/
def run (r : Registry H) (d : Directive) (origin : List NodeId) (s : Scene H) :
    Piece → Scene H × Option Diagnostic
  | blank => (s, some (.blankAction d.raw))
  | call name args =>
    match r.find? name with
    | none => (s, some (.unknownAction name d.raw))
    | some action =>
      match s.run action ⟨origin, d, args⟩ with
      | (.ok (), s) => (s, none)
      | (.error e, s) => (s, some (.actionFailed name d.raw e.message))

/-- Runs pieces from left to right: the scene that is left, and one outcome for each piece. -/
def runAll (r : Registry H) (d : Directive) (origin : List NodeId) :
    List Piece → Scene H → Scene H × List (Option Diagnostic)
  | [], s => (s, [])
  | piece :: pieces, s =>
    let (s, outcome) := piece.run r d origin s
    let (s, outcomes) := runAll r d origin pieces s
    (s, outcome :: outcomes)

end Piece

/-- Runs the chain of a directive for the elements of `origin`. -/
def dispatch {H : Type} (r : Registry H) (conjunction : String) (d : Directive)
    (origin : List NodeId) (s : Scene H) : Scene H × List (Option Diagnostic) :=
  Piece.runAll r d origin (Piece.chain conjunction d.action) s

/-- There is one outcome for each piece of the chain. -/
theorem Piece.length_runAll {H : Type} (r : Registry H) (d : Directive) (origin : List NodeId)
    (pieces : List Piece) (s : Scene H) :
    (runAll r d origin pieces s).2.length = pieces.length := by
  induction pieces generalizing s with
  | nil => rfl
  | cons piece pieces ih => simp [runAll, ih]

end PageDirectives
