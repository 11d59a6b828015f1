import PageDirectives.Config.Basic
import PageDirectives.Engine.Basic
import PageDirectives.Page

set_option autoImplicit false

/-! # Outcomes

What a command comes to: the messages it reports and how it ends. Nothing is printed or written
by the command itself. Messages are for the error stream, so that the output stream holds nothing
but the page.
-/

namespace PageDirectives.Command

/-- Why a command fails. -/
inductive CommandError where
  | config (cause : ConfigError)
  /-- The page cannot be read, or its result cannot be written. -/
  | file (cause : FileError)
  | unknownExtension (name : String)
  | malformedEvent (spec : String)
  /-- There are problems with the directives, as many as this. -/
  | diagnostics (count : Nat)
  deriving DecidableEq, Repr

def CommandError.message : CommandError → String
  | .config cause => cause.message
  | .file cause => cause.message
  | .unknownExtension name => "unknown module '" ++ name ++ "'"
  | .malformedEvent spec => "invalid event '" ++ spec ++ "', expected <selector>@<event>"
  | .diagnostics count => toString count ++ " diagnostic(s) reported"

/-- How a command ends. -/
inductive Ending where
  | done
  /-- A text is printed. -/
  | print (text : String)
  /-- A text is saved in a file. -/
  | save (path text : String)
  | fail (cause : CommandError)
  deriving DecidableEq, Repr

structure Outcome where
  messages : List String := []
  ending : Ending
  /-- The paths of the files that the page tried to load. -/
  loaded : List String := []
  deriving DecidableEq, Repr

/-- What the caller of a program gets to see. -/
structure Result where
  status : Nat
  stdout : String
  stderr : String
  deriving DecidableEq, Repr

namespace Outcome

def lines (l : List String) : String := .join (l.map (· ++ "\n"))

/-- The result of a command that has failed after some messages. -/
def failure (messages : List String) (cause : CommandError) : Result :=
  ⟨1, "", lines (messages ++ ["Error: " ++ cause.message])⟩

/-- The result of a command. If it ends with saving a file, `saved` is what came of that. -/
def result (o : Outcome) (saved : Except FileError Unit) : Result :=
  match o.ending with
  | .done => ⟨0, "", lines o.messages⟩
  | .print text => ⟨0, lines [text], lines o.messages⟩
  | .fail cause => failure o.messages cause
  | .save path _ =>
    match saved with
    | .ok () => ⟨0, "", lines (o.messages ++ ["Wrote " ++ path])⟩
    | .error e => failure o.messages (.file e)

end Outcome

/-! ## Opening pages -/

/-- Enables the extension of a name. -/
def enableNamed (e : Engine Page) (name : String) : Except CommandError (Engine Page) :=
  match Extension.ofName? name with
  | some x => .ok (e.enable x)
  | none => .error (.unknownExtension name)

/-- Reads a page and makes an engine for it as the settings say. Extensions are enabled before
any directive is read. -/
def openPage (read : FileReader) (network : Network) (c : Config) (path : String) :
    Except CommandError (Engine Page) := do
  let markup ← (read path).mapError .file
  let loader := Loader.site read c.baseDir (if c.allowHttp then some network else none)
  let engine := { Engine.new { Page.parse markup with loader } with
    grammar := c.grammar, scriptTypes := c.scriptTypes }
  c.enabled.foldlM enableNamed engine

/-- The paths of the files that a page tried to load. -/
def loadedPaths (c : Config) (p : Page) : List String :=
  p.requested.filterMap (Loader.path? c.baseDir)

/-- One message for each diagnostic. -/
def warnings (e : Engine Page) : List String := e.diagnostics.map ("warning: " ++ ·.message)

/-- How many directives there are. -/
def countLine (count : Nat) : String := toString count ++ " directive(s) bound"

end PageDirectives.Command
