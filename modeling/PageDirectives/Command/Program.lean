import PageDirectives.Command.Check
import PageDirectives.Command.Invocation
import PageDirectives.Command.Run
import PageDirectives.Config.Load

set_option autoImplicit false

/-! # The program

The whole program as a function of its arguments and its surroundings.
-/

namespace PageDirectives.Command

def Invocation.perform (i : Invocation) (s : Surroundings) : Outcome :=
  match Config.load s i.config i.overrides with
  | .error cause => { ending := .fail (.config cause) }
  | .ok c =>
    match i.task with
    | .check inline strict => check s.read s.network c i.page inline strict
    | .run events output => run s.read s.network c i.page events output

/-- What the caller sees if the arguments are misused. -/
def misuse : Result :=
  ⟨2, "", Topic.program.text⟩

end PageDirectives.Command
