import PageDirectives.Command.Outcome

set_option autoImplicit false

/-! # Running a page

A run reads the directives of a page, lets events happen on it one after the other, and answers
the page as it is then. All events are read before the page is opened.
-/

namespace PageDirectives.Command

/-- An event on the first element that a selector matches. -/
structure PageEvent where
  selector : String
  name : String
  deriving DecidableEq, Repr

namespace PageEvent

/-- Cuts a text at its last `@`. -/
def cutLast? (s : List Char) : Option (List Char × List Char) :=
  (Chars.cut? ['@'] s.reverse).map fun (after, before) => (before.reverse, after.reverse)

/-- Reads an event. What stands before the last `@` is the selector and what stands behind it
the name, and neither may be blank. -/
def parse? (spec : String) : Option PageEvent :=
  (cutLast? spec.toList).bind fun (before, after) =>
    let selector := Chars.trim before
    let name := Chars.trim after
    if selector = [] ∨ name = [] then none else some ⟨.ofList selector, .ofList name⟩

/-- Reads events and stops at the first one that is malformed. -/
def parseAll (specs : List String) : Except CommandError (List PageEvent) :=
  specs.mapM fun spec =>
    match parse? spec with
    | some event => .ok event
    | none => .error (.malformedEvent spec)

/-- Lets an event happen, if there is an element for it. -/
def happen (e : Engine Page) (event : PageEvent) : Engine Page × String :=
  match e.host.first? event.selector with
  | none => (e, "warning: no element matches " ++ event.selector)
  | some node =>
    let (e, firings) := e.fire node event.name
    (e, event.selector ++ "@" ++ event.name ++ ": " ++ toString firings.length
      ++ " directive(s) dispatched")

/-- Lets events happen in order, each on the page that the ones before have left. -/
def happenAll (e : Engine Page) : List PageEvent → Engine Page × List String
  | [] => (e, [])
  | event :: events =>
    let (e, message) := happen e event
    let (e, messages) := happenAll e events
    (e, message :: messages)

end PageEvent

/-- Where the page was sent, if it was. -/
def locationLine (p : Page) : List String :=
  (p.location.map ("Navigated to " ++ ·)).toList

def run (read : FileReader) (network : Network) (c : Config) (page : String)
    (specs : List String) (output : Option String) : Outcome :=
  let opened := do
    let events ← PageEvent.parseAll specs
    let e ← openPage read network c page
    return (events, e)
  match opened with
  | .error cause => { ending := .fail cause }
  | .ok (events, e) =>
    let (e, count) := e.readScripts
    let (e, messages) := PageEvent.happenAll e events
    let html := e.host.toHtml
    { messages := countLine count :: (messages ++ warnings e ++ locationLine e.host)
      ending := match output with
        | some path => .save path html
        | none => .print html
      loaded := loadedPaths c e.host }

end PageDirectives.Command
