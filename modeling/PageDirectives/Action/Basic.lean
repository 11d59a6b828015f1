import PageDirectives.Directive.Basic
import PageDirectives.Target

set_option autoImplicit false

/-! # Actions

An action is called with the words written after its name. It sees the page and may change
it, and it may leave a one-shot listener behind, whose effect is put off until an event. A call
that fails keeps the changes it has made.
-/

namespace PageDirectives

/-- An effect that waits for the first of some events on a node. -/
structure OneShot (H : Type) where
  node : NodeId
  events : List String
  effect : H → H

/-- Whether an event on a node is one that the listener waits for. -/
def OneShot.isDue {H : Type} (l : OneShot H) (node : NodeId) (event : String) : Bool :=
  l.node == node && l.events.contains event

/-- What actions work on: the page and the listeners that wait. -/
structure Scene (H : Type) where
  host : H
  waiting : List (OneShot H) := []

namespace Scene

variable {H : Type}

/-- Changes the page. -/
def change (s : Scene H) (f : H → H) : Scene H := { s with host := f s.host }

/-- Changes the page once for each node, in order. -/
def changeEach (s : Scene H) (nodes : List NodeId) (f : H → NodeId → H) : Scene H :=
  s.change fun h => nodes.foldl f h

/-- Puts off an effect until one of the events happens on the node. -/
def once (s : Scene H) (node : NodeId) (events : List String) (effect : H → H) : Scene H :=
  { s with waiting := s.waiting ++ [⟨node, events, effect⟩] }

end Scene

/-- One call of an action. -/
structure Call where
  /-- The elements the call is made for. -/
  origin : List NodeId
  directive : Directive
  /-- The words after the name of the action. -/
  args : List String

/-- An action: what a call answers, and the scene it leaves. -/
abbrev Action (H : Type) := Call → Scene H → Except ActionError Unit × Scene H

/-- Runs an action. It is shown the page but none of the listeners that wait already; those it
leaves behind are put after them. -/
def Scene.run {H : Type} (s : Scene H) (action : Action H) (call : Call) :
    Except ActionError Unit × Scene H :=
  let (result, left) := action call { host := s.host }
  (result, ⟨left.host, s.waiting ++ left.waiting⟩)

/-- The argument at a position; `name` says what it stands for. -/
def argument (args : List String) (position : Nat) (name : String) :
    Except ActionError String :=
  match args[position]? with
  | some arg => .ok arg
  | none => .error (.missingArgument name position)

/-- An argument without its quotes. -/
def stripQuotes (arg : String) : String :=
  .ofList (arg.toList.filter fun c => c != '\'' && c != '"')

namespace Call

variable {H : Type}

/-- The options of the directive that is running. -/
def options (call : Call) : Option String := call.directive.options

/-- Goes on with the argument at a position; fails, with the scene as it is, if there is
none. -/
def withArgument (call : Call) (position : Nat) (name : String) (s : Scene H)
    (next : String → Except ActionError Unit × Scene H) : Except ActionError Unit × Scene H :=
  match argument call.args position name with
  | .error e => (.error e, s)
  | .ok arg => next arg

/-- The elements named by the argument at a position; `self` if there is none. -/
def target [Host H] (call : Call) (h : H) (position : Nat) : List NodeId :=
  findTarget h call.origin (call.args[position]?.getD "self") call.args

end Call

end PageDirectives
