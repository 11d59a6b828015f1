import PageDirectives.Command.Usage
import PageDirectives.Config.Basic

set_option autoImplicit false

/-! # Invocations

What the arguments of the program ask for.
-/

namespace PageDirectives.Command

/-- What is to be done with a page. -/
inductive Task where
  /-- List the directives of the page and more of them, and report what is wrong. -/
  | check (inline : List String) (strict : Bool)
  /-- Let events happen on the page, and print it or save it in a file. -/
  | run (events : List String) (output : Option String)
  deriving DecidableEq, Repr

structure Invocation where
  /-- The path of the settings file. -/
  config : Option String := none
  overrides : Config.Overrides := {}
  /-- The path of the page. -/
  page : String
  task : Task
  deriving DecidableEq, Repr

/-- What the arguments ask for, be it only a text. -/
inductive Request where
  | perform (i : Invocation)
  | tell (text : String)
  deriving DecidableEq, Repr

namespace Request

/-- The texts that are told instead of doing anything. -/
def ofStop (topic : Topic) : Stop → Option Request
  | .misuse => none
  | .help => some (.tell topic.text)
  | .version => some (.tell versionText)

/-- The invocation for a task, from what stands before and behind the command. What stands
behind it counts more. -/
def ofGiven (program command : Given) (task : Task) : Option Request :=
  (command.operand? 0).map fun page => .perform {
    config := (command.value? "config").or (program.value? "config")
    overrides := {
      baseDir := (command.value? "base-dir").or (program.value? "base-dir")
      allowHttp := if command.has "no-http" || program.has "no-http" then some false else none }
    page, task }

/-- Reads the arguments of a command. -/
def ofCommand (program : Given) (topic : Topic) (arguments : List String)
    (task : Given → Task) : Option Request :=
  match Given.ofArguments topic.level arguments with
  | .error stop => ofStop topic stop
  | .ok g => ofGiven program g (task g)

/-- Reads the arguments of the program: none if they are misused. -/
def ofArguments (arguments : List String) : Option Request :=
  match Given.ofArguments Topic.program.level arguments with
  | .error stop => ofStop .program stop
  | .ok g =>
    match g.command with
    | some ("help", words) => (Topic.ofWords? words).map fun t => .tell t.text
    | some ("check", arguments) =>
      ofCommand g .check arguments fun g => .check (g.valuesOf "inline") (g.has "strict")
    | some ("run", arguments) =>
      ofCommand g .run arguments fun g => .run (g.valuesOf "fire") (g.value? "output")
    | _ => none

end Request

end PageDirectives.Command
