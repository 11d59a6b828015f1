import PageDirectives.Action.Registry

set_option autoImplicit false

/-! # Built-in actions

    hide target            show target            toggle target
    addclass class target  removeclass class target  toggleclass class target
    goto destination       load url word target

A target that is left out is the element the action runs for. Quotes are removed from classes,
destinations and addresses.
-/

namespace PageDirectives

namespace Builtin

variable {H : Type} [Host H]

/-- Makes the elements of the target visible or invisible. -/
def setVisible (visible : Bool) : Action H := fun call s =>
  (.ok (), s.changeEach (call.target s.host 0) fun h n => Host.setVisible h n visible)

/-- Turns visible elements invisible and the other way round. -/
def toggle : Action H := fun call s =>
  (.ok (), s.changeEach (call.target s.host 0) fun h n =>
    Host.setVisible h n (!Host.isVisible h n))

/-- Does something with a class to each element of the target. -/
def eachWithClass (f : H → NodeId → String → H) : Action H := fun call s =>
  call.withArgument 0 "className" s fun arg =>
    (.ok (), s.changeEach (call.target s.host 1) fun h n => f h n (stripQuotes arg))

def addClass : Action H := eachWithClass Host.addClass

def removeClass : Action H := eachWithClass Host.removeClass

def toggleClass : Action H := eachWithClass fun h n c =>
  if Host.hasClass h n c then Host.removeClass h n c else Host.addClass h n c

def goto : Action H := fun call s =>
  call.withArgument 0 "destination" s fun arg =>
    (.ok (), s.change fun h => Host.navigate h (stripQuotes arg))

/-- Replaces the content of the elements, in order, up to the first that refuses. -/
def fill (content : String) : List NodeId → Scene H → Except ActionError Unit × Scene H
  | [], s => (.ok (), s)
  | node :: nodes, s =>
    match Host.setInnerHtml s.host node content with
    | .error e => (.error (.dom e), s)
    | .ok h => fill content nodes { s with host := h }

/-- Fetches a resource and makes it the content of each element of the target. The word
between address and target has to be there and is not looked at. The target is looked up
before the resource is fetched. -/
def load : Action H := fun call s =>
  call.withArgument 0 "url" s fun url =>
    call.withArgument 1 "insertion" s fun _ =>
      let nodes := call.target s.host 2
      let (content, h) := Host.fetch s.host (stripQuotes url)
      let s := { s with host := h }
      match content with
      | .error e => (.error (.load e), s)
      | .ok content => fill content nodes s

/-- The built-in actions under their names. -/
def all : List (String × Action H) :=
  [("hide", setVisible false), ("show", setVisible true), ("toggle", toggle),
   ("addclass", addClass), ("removeclass", removeClass), ("toggleclass", toggleClass),
   ("goto", goto), ("load", load)]

end Builtin

/-- The registry that holds the built-in actions. -/
def Registry.builtin {H : Type} [Host H] : Registry H := Registry.empty.registerAll Builtin.all

end PageDirectives
