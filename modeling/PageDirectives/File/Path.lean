import PageDirectives.Text.Basic

set_option autoImplicit false

/-! # Paths

Paths are kept as they were written. A path is a row of steps between slashes; it is absolute
if it starts with a slash. Empty steps count for nothing, and so does a `.` other than the very
first step.
-/

namespace PageDirectives

namespace Path

def isAbsolute (path : String) : Bool := Text.startsWith "/" path

/-- The texts between slashes. -/
def steps (path : String) : List String := (path.toList.splitOn '/').map String.ofList

/-- The path `next`, seen from the path `base`. An absolute path stands for itself. -/
def join (base next : String) : String :=
  if isAbsolute next then next
  else if base = "" ∨ base.toList.getLast? = some '/' then base ++ next
  else base ++ "/" ++ next

/-- Whether a step counts. -/
def counts (isFirst : Bool) (step : String) : Bool := step != "" && (step != "." || isFirst)

/-- Drops the steps at the end that do not count; the steps come last first. -/
def dropEmpty : List String → List String
  | [] => []
  | [s] => if counts true s then [s] else []
  | s :: above => if counts false s then s :: above else dropEmpty above

/-- The path without its last step, if it has one. -/
def parent? (path : String) : Option String :=
  match dropEmpty (steps path).reverse with
  | [] => none
  | _ :: above =>
    match dropEmpty above with
    | [] => some (if isAbsolute path then "/" else "")
    | front => some (Text.join "/" front.reverse)

/-- An absolute path and the paths above it, nearest first, for a path without its root. -/
def above : List String → List String
  | [] => ["/"]
  | name :: names => ("/" ++ Text.join "/" (name :: names).reverse) :: above names

/-- An absolute path and the paths above it, nearest first. -/
def ancestors (path : String) : List String :=
  above ((steps path).filter (· != "")).reverse

end Path

end PageDirectives
