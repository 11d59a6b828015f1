import PageDirectives.Grammar
import PageDirectives.Text.Basic

set_option autoImplicit false

/-! # The clauses of a directive line

A directive line is written in one of two forms,

    selector VERB actions PREPOSITION interaction
    selector VERB [AUXILIARY] actions [OPTIONS options]

and `Clauses.ofLine` takes it apart. The verb is searched first and the preposition only after
it, so a preposition in the selector does not count. Every clause is trimmed.
-/

namespace PageDirectives

/-- What makes a directive run: an interaction, or nothing but its being read. -/
inductive Cue where
  | interaction (name : String)
  | predicate (options : Option String)
  deriving DecidableEq, Repr

/-- The clauses of a directive line. -/
structure Clauses where
  selector : String
  action : String
  cue : Cue
  deriving DecidableEq, Repr

/-- Why a line has no clauses. -/
inductive Rejection where
  | empty
  | comment
  | missingVerb
  | emptySelector
  | emptyAction
  | emptyInteraction
  deriving DecidableEq, Repr

namespace Clauses

/-- A directive without interaction, without the auxiliary that may open it. The verb has
already taken the space in front of the auxiliary. -/
def dropAuxiliary (g : Grammar) (clause : String) : String :=
  if Text.trim clause = Text.trim g.auxiliary then ""
  else (Text.dropFront? (Text.trimStart g.auxiliary) clause).getD clause

/-- The actions and the options of a directive without interaction. Blank options count as
none. -/
def predicate (g : Grammar) (clause : String) : String × Cue :=
  let clause := dropAuxiliary g clause
  match Text.cut? g.options clause with
  | none => (clause, .predicate none)
  | some (action, options) =>
    let options := Text.trim options
    (action, .predicate (if options = "" then none else some options))

/-- The actions, untrimmed, and the cue written after the verb. -/
def afterVerb (g : Grammar) (rest : String) : Except Rejection (String × Cue) :=
  match Text.cut? g.preposition rest with
  | none => .ok (predicate g rest)
  | some (action, interaction) =>
    let interaction := Text.trim interaction
    if interaction = "" then .error .emptyInteraction
    else .ok (action, .interaction interaction)

/-- Takes a line apart. A comment may open the line or stand before the verb. -/
def ofLine (g : Grammar) (line : String) : Except Rejection Clauses :=
  let line := Text.trim line
  if line = "" then .error .empty
  else if Text.startsWith g.comment line then .error .comment
  else
    match Text.cut? g.verb line with
    | none => .error .missingVerb
    | some (before, rest) =>
      let selector := Text.trim before
      if Text.contains g.comment selector then .error .comment
      else if selector = "" then .error .emptySelector
      else
        match afterVerb g rest with
        | .error r => .error r
        | .ok (action, cue) =>
          let action := Text.trim action
          if action = "" then .error .emptyAction else .ok ⟨selector, action, cue⟩

end Clauses

end PageDirectives
