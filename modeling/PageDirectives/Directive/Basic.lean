import PageDirectives.Diagnostic
import PageDirectives.Directive.Clauses
import PageDirectives.Host

set_option autoImplicit false

/-! # Directives

A directive is a line whose selector has been matched against a page. The elements it matched
are fixed from then on: `Reading.ofLine` is the only time the selector is asked for.
-/

namespace PageDirectives

/-- When a directive runs. -/
inductive Trigger where
  /-- Whenever the event reaches one of its elements. -/
  | event (name : String)
  /-- Once, as soon as it is read. -/
  | load
  /-- Once, as soon as it is read, and written without an interaction. -/
  | predicate
  deriving DecidableEq, Repr

/-- A directive bound to elements of a page. -/
structure Directive where
  /-- The line as written. -/
  raw : String
  selector : String
  action : String
  trigger : Trigger
  options : Option String
  /-- The elements the selector matched when the line was read. -/
  bound : List NodeId
  deriving DecidableEq, Repr

namespace Directive

/-- The interaction a directive waits for, as written. -/
def interaction (d : Directive) : Option String :=
  match d.trigger with
  | .event name => some name
  | .load => some "load"
  | .predicate => none

/-- Whether a directive waits for an event. -/
def isEventBound (d : Directive) : Bool :=
  match d.trigger with
  | .event _ => true
  | _ => false

end Directive

/-- What a line is read as. -/
inductive Reading where
  | directive (d : Directive)
  | problem (diagnostic : Diagnostic)
  /-- A blank line or a comment. -/
  | skip
  deriving DecidableEq, Repr

namespace Reading

def directive? : Reading → Option Directive
  | directive d => some d
  | _ => none

def problem? : Reading → Option Diagnostic
  | problem diagnostic => some diagnostic
  | _ => none

/-- What a line that has no clauses is read as. -/
def ofRejection (line : String) : Rejection → Reading
  | .empty | .comment => skip
  | .missingVerb => problem (.missingVerb line)
  | .emptySelector => problem (.emptySelector line)
  | .emptyAction => problem (.emptyAction line)
  | .emptyInteraction => problem (.emptyInteraction line)

/-- The trigger and the options of a directive with the given cue. -/
def trigger (g : Grammar) : Cue → Trigger × Option String
  | .interaction name => (if name = g.loadSentinel then .load else .event name, none)
  | .predicate options => (.predicate, options)

/-- Reads a line against a page. -/
def ofLine {H : Type} [Host H] (g : Grammar) (h : H) (line : String) : Reading :=
  let raw := Text.trim line
  match Clauses.ofLine g raw with
  | .error r => ofRejection raw r
  | .ok clauses =>
    match Host.select h clauses.selector with
    | [] => problem (.noMatch raw)
    | node :: nodes =>
      let (trigger, options) := trigger g clauses.cue
      directive ⟨raw, clauses.selector, clauses.action, trigger, options, node :: nodes⟩

end Reading

end PageDirectives
