import PageDirectives.Command.Outcome

set_option autoImplicit false

/-! # Checking a page

A check reads the directives of a page, and more of them that are given with it, and lists them
all with the problems that came up.
-/

namespace PageDirectives.Command

def describeTrigger : Trigger → String
  | .event name => "on " ++ name
  | .load => "on load"
  | .predicate => "predicate"

/-- How many elements there are. -/
def describeCount (count : Nat) : String :=
  toString count ++ if count = 1 then " element" else " elements"

/-- A directive on one line. -/
def describe (d : Directive) : String :=
  d.selector ++ " -> " ++ d.action ++ " [" ++ describeTrigger d.trigger ++ "] ("
    ++ describeCount d.bound.length ++ ")"
    ++ match d.options with
      | some options => " with " ++ options
      | none => ""

/-- How many listeners a directive has, if it has any. -/
def listenerLine (e : Engine Page) (index : Nat) : Option String :=
  let count := (e.listenersOf index).length
  if count = 0 then none else some (toString count ++ " listener(s)")

/-- All directives with their listeners. -/
def listing (e : Engine Page) : List String :=
  e.directives.zipIdx.flatMap fun (d, index) =>
    ("  " ++ describe d) :: ((listenerLine e index).map ("    " ++ ·)).toList

/-- Reads the directives of the page and then those of the other sources. -/
def readAll (e : Engine Page) (inline : List String) : Engine Page × Nat :=
  inline.foldl (fun (e, count) source =>
    let (e, more) := e.readSource source
    (e, count + more)) e.readScripts

/-- The last line of a check. -/
def summary (count problems : Nat) : String :=
  countLine count ++ if problems = 0 then ", no problems found"
    else ", " ++ toString problems ++ " diagnostic(s)"

/-- The report on a page, once its directives are read. -/
def report (page : String) (strict : Bool) (e : Engine Page) (count : Nat) : Outcome :=
  let problems := e.diagnostics.length
  { messages := page :: (listing e ++ warnings e ++ [summary count problems])
    ending := if strict ∧ problems ≠ 0 then .fail (.diagnostics problems) else .done }

def check (read : FileReader) (network : Network) (c : Config) (page : String)
    (inline : List String) (strict : Bool) : Outcome :=
  match openPage read network c page with
  | .error cause => { ending := .fail cause }
  | .ok e =>
    let (e, count) := readAll e inline
    { report page strict e count with loaded := loadedPaths c e.host }

end PageDirectives.Command
