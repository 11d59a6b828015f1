set_option autoImplicit false

/-! # Diagnostics

Problems that stop neither the reading of directives nor their actions. Each names the
directive line it was found in.
-/

namespace PageDirectives

inductive Diagnostic where
  /-- The line has no verb. -/
  | missingVerb (line : String)
  /-- Nothing stands before the verb. -/
  | emptySelector (line : String)
  /-- Nothing stands after the verb, or between it and the preposition. -/
  | emptyAction (line : String)
  /-- Nothing stands after the preposition. -/
  | emptyInteraction (line : String)
  /-- The selector matched no element. -/
  | noMatch (line : String)
  /-- One of the chained actions is blank. -/
  | blankAction (line : String)
  /-- No action is registered under this name. -/
  | unknownAction (name line : String)
  /-- The action was run and failed. -/
  | actionFailed (name line message : String)
  deriving DecidableEq, Repr

namespace Diagnostic

/-- The directive line a diagnostic is about. -/
def line : Diagnostic → String
  | missingVerb line | emptySelector line | emptyAction line | emptyInteraction line
  | noMatch line | blankAction line | unknownAction _ line | actionFailed _ line _ => line

def quote (s : String) : String := "\"" ++ s ++ "\""

/-- The text of a diagnostic. -/
def message : Diagnostic → String
  | missingVerb line => "no verb phrase found, directive ignored: " ++ quote line
  | emptySelector line => "empty selector, directive ignored: " ++ quote line
  | emptyAction line => "empty action, directive ignored: " ++ quote line
  | emptyInteraction line => "empty interaction, directive ignored: " ++ quote line
  | noMatch line => "no valid target found, a directive will be ignored: " ++ quote line
  | blankAction line => "blank chained action in " ++ quote line
  | unknownAction name line => "no action found for " ++ quote name ++ " in " ++ quote line
  | actionFailed name line message =>
    "action " ++ quote name ++ " failed in " ++ quote line ++ ": " ++ message

end Diagnostic

end PageDirectives
