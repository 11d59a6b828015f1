import PageDirectives.Action.Builtin
import PageDirectives.Action.Extension
import PageDirectives.Directive.Source
import PageDirectives.Dispatch

set_option autoImplicit false

/-! # The engine

An engine owns a page and the directives read against it. Reading works in two phases: all
lines are matched against the page as it is, and then the new directives take effect in order.
A directive that waits for an event is bound to its elements, any other one runs at once.

An event bubbles from an element through its ancestors. At each of them the one-shot listeners
run first, and then the directives bound there, in the order in which they were bound.
-/

namespace PageDirectives

/-- A directive, by its number, that waits for an event on a node. -/
structure Binding where
  node : NodeId
  event : String
  directive : Nat
  deriving DecidableEq, Repr

/-- One run of a bound directive: the node the event had reached and the directive. -/
structure Firing where
  node : NodeId
  directive : Nat
  deriving DecidableEq, Repr

/-- The types of script blocks that hold directives by default. -/
def defaultScriptTypes : List String := ["text/ShortHand", "text/ProtoScript"]

structure Engine (H : Type) where
  host : H
  grammar : Grammar := {}
  scriptTypes : List String := defaultScriptTypes
  registry : Registry H
  directives : List Directive := []
  bindings : List Binding := []
  waiting : List (OneShot H) := []
  diagnostics : List Diagnostic := []

namespace Engine

variable {H : Type}

/-- What actions see of the engine. -/
def scene (e : Engine H) : Scene H := ⟨e.host, e.waiting⟩

def setScene (e : Engine H) (s : Scene H) : Engine H :=
  { e with host := s.host, waiting := s.waiting }

def report (e : Engine H) (ds : List Diagnostic) : Engine H :=
  { e with diagnostics := e.diagnostics ++ ds }

/-- Runs the actions of a directive for the elements of `origin`. -/
def dispatch (e : Engine H) (d : Directive) (origin : List NodeId) : Engine H :=
  let (s, outcomes) := PageDirectives.dispatch e.registry e.grammar.conjunction d origin e.scene
  (e.setScene s).report (outcomes.filterMap id)

variable [Host H]

/-- An engine with the built-in actions. -/
def new (host : H) : Engine H := { host, registry := Registry.builtin }

/-- Adds the actions and the assets of an extension. -/
def enable (e : Engine H) (x : Extension H) : Engine H :=
  let (registry, host) := x.install e.registry e.host
  { e with registry, host }

/-! ## Reading directives -/

/-- Binds a directive, which has the number `index`, to its elements, and gives them a pointer
as cursor. -/
def bind (e : Engine H) (index : Nat) (d : Directive) (event : String) : Engine H :=
  { e with
    host := d.bound.foldl (fun h n => Host.setStyle h n "cursor" "pointer") e.host
    bindings := e.bindings ++ d.bound.map fun n => ⟨n, event, index⟩ }

/-- Lets a new directive take effect. -/
def observe (e : Engine H) (index : Nat) (d : Directive) : Engine H :=
  match d.trigger with
  | .event event => e.bind index d event
  | .load | .predicate => e.dispatch d d.bound

/-- Lets new directives, numbered from `index`, take effect in order. -/
def observeAll (e : Engine H) (index : Nat) : List Directive → Engine H
  | [] => e
  | d :: ds => (e.observe index d).observeAll (index + 1) ds

/-- Reads lines. All of them are matched against the page as it is before the first of them
takes effect. The number of directives among them is answered too. -/
def readLines (e : Engine H) (lines : List String) : Engine H × Nat :=
  let readings := lines.map (Reading.ofLine e.grammar e.host)
  let new := readings.filterMap Reading.directive?
  let e' := { e with directives := e.directives ++ new }.report
    (readings.filterMap Reading.problem?)
  (e'.observeAll e.directives.length new, new.length)

/-- Reads a text, one directive on a line. -/
def readSource (e : Engine H) (source : String) : Engine H × Nat :=
  e.readLines (sourceLines [source])

/-- Reads the script blocks of the page that hold directives, one script type after the
other. -/
def readScripts (e : Engine H) : Engine H × Nat :=
  e.readLines (sourceLines (e.scriptTypes.flatMap (Host.scriptBlocks e.host)))

/-! ## Events -/

/-- Runs the one-shot listeners that wait for the event on the node. -/
def runDue (e : Engine H) (node : NodeId) (event : String) : Engine H :=
  let due := e.waiting.filter (·.isDue node event)
  { e with
    host := due.foldl (fun h l => l.effect h) e.host
    waiting := e.waiting.filter (!·.isDue node event) }

/-- The directives bound to the event on the node. -/
def boundTo (e : Engine H) (node : NodeId) (event : String) : List Nat :=
  (e.bindings.filter fun b => b.node == node && b.event == event).map Binding.directive

/-- Runs bound directives, by number, for one node. -/
def dispatchAll (e : Engine H) (node : NodeId) : List Nat → Engine H × List Firing
  | [] => (e, [])
  | index :: indices =>
    match e.directives[index]? with
    | none => e.dispatchAll node indices
    | some d =>
      let (e, firings) := (e.dispatch d [node]).dispatchAll node indices
      (e, ⟨node, index⟩ :: firings)

/-- The event arrives at a node. -/
def visit (e : Engine H) (event : String) (node : NodeId) : Engine H × List Firing :=
  let e := e.runDue node event
  e.dispatchAll node (e.boundTo node event)

/-- The event arrives at nodes one after the other. -/
def visitAll (e : Engine H) (event : String) : List NodeId → Engine H × List Firing
  | [] => (e, [])
  | node :: nodes =>
    let (e, here) := e.visit event node
    let (e, above) := e.visitAll event nodes
    (e, here ++ above)

/-- An event happens on a node and bubbles through the ancestors that the node has when it
starts. The runs of directives are answered in order. -/
def fire (e : Engine H) (node : NodeId) (event : String) : Engine H × List Firing :=
  e.visitAll event (Host.lineage e.host node)

/-! ## Questions -/

/-- The events that directives wait for on a node, once for each binding. -/
def listeners (e : Engine H) (node : NodeId) : List String :=
  (e.bindings.filter (·.node == node)).map Binding.event

/-- The nodes a directive, by its number, is bound to, each with the event. -/
def listenersOf (e : Engine H) (index : Nat) : List (NodeId × String) :=
  (e.bindings.filter (·.directive == index)).map fun b => (b.node, b.event)

/-- The diagnostics so far, and an engine without them. -/
def takeDiagnostics (e : Engine H) : List Diagnostic × Engine H :=
  (e.diagnostics, { e with diagnostics := [] })

end Engine

end PageDirectives
