import PageDirectives.Action.Registry

set_option autoImplicit false

/-! # Extensions

An extension adds assets to the page and actions to the registry. One of them is known by its name:
`animate`, which gives an element a class until its animation or transition has ended.
-/

namespace PageDirectives

/-- A file, by its address, that a page refers to. -/
inductive Asset where
  | script (url : String)
  | stylesheet (url : String)
  deriving DecidableEq, Repr

/-- A bundle of actions, under their names, and of the page assets that they rely on. -/
structure Extension (H : Type) where
  name : String
  assets : List Asset
  actions : List (String × Action H)

variable {H : Type} [Host H]

/-- Adds an asset to a page. -/
def Asset.inject (h : H) : Asset → H
  | script url => Host.injectScript h url
  | stylesheet url => Host.injectStylesheet h url

/-- The events that end an animation. -/
def endEvents : List String := ["animationend", "transitionend"]

/-- Adds a class to each element of the target and removes it at the first end event. -/
def Builtin.animate : Action H := fun call s =>
  call.withArgument 0 "className" s fun arg =>
    let c := stripQuotes arg
    (.ok (), (call.target s.host 1).foldl (fun s n =>
      (s.change fun h => Host.addClass h n c).once n endEvents fun h =>
        Host.removeClass h n c) s)

namespace Extension

/-- The action `animate`, with the stylesheet it relies on. -/
def animate (stylesheet : String) : Extension H where
  name := "animate"
  assets := [.stylesheet stylesheet]
  actions := [("animate", Builtin.animate)]

@[simp] theorem actions_animate (stylesheet : String) :
    (animate stylesheet : Extension H).actions = [("animate", Builtin.animate)] := rfl

/-- The names under which extensions are known. -/
def available : List String := ["animate"]

/-- The extension of a name, as it is by default. -/
def ofName? (name : String) : Option (Extension H) :=
  if name = "animate" then some (animate "shorthand-animate.css") else none

theorem isSome_ofName?_iff (name : String) :
    (ofName? name : Option (Extension H)).isSome ↔ name ∈ available := by
  by_cases h : name = "animate" <;> simp [ofName?, available, h]

/-- Adds the assets to the page and then the actions to the registry, in order. -/
def install (x : Extension H) (r : Registry H) (h : H) : Registry H × H :=
  (r.registerAll x.actions, x.assets.foldl Asset.inject h)

end Extension

end PageDirectives
