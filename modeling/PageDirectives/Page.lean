import PageDirectives.Loader
import PageDirectives.Markup.Parser
import PageDirectives.Markup.Printer
import PageDirectives.Selector.Parser

set_option autoImplicit false

/-! # Pages

A page is a document that the engine can work on, with a way to load resources. An element is
hidden by its inline style, and going somewhere else is only noted down.
-/

namespace PageDirectives

structure Page where
  document : Document
  loader : Loader := Loader.empty
  /-- Where the page was last sent. -/
  location : Option String := none
  /-- The addresses asked for, in order. -/
  requested : List String := []

namespace Page

/-- Reads a page. -/
def parse (markup : String) : Page := { document := Document.parse markup }

/-! ## Selecting -/

/-- The elements that match, in document order. What is not a selector matches nothing. -/
def select (p : Page) (selector : String) : List NodeId :=
  match Selector.parse? selector with
  | none => []
  | some s => p.document.selectBy s.accepts

def first? (p : Page) (selector : String) : Option NodeId := (p.select selector).head?

def isMatch (p : Page) (node : NodeId) (selector : String) : Bool :=
  (Selector.parse? selector).any fun s => (p.document.cursor? node).any s.accepts

/-! ## Attributes of elements -/

/-- Edits the attributes of an element. -/
def update (p : Page) (node : NodeId) (f : Attributes → Attributes) : Page :=
  { p with document := p.document.update node f }

/-- Whether an element is shown, as far as its own attributes say. -/
def isVisible (p : Page) (node : NodeId) : Bool :=
  (p.document.attributes? node).any fun a =>
    (a.get? "hidden").isNone && !(a.style? "display").any (Text.sameFold · "none")

/-- Shows or hides an element by its attributes. -/
def withVisible (visible : Bool) (a : Attributes) : Attributes :=
  if visible then (a.removeStyle "display").remove "hidden" else a.setStyle "display" "none"

/-! ## Content -/

def setInnerHtml (p : Page) (node : NodeId) (markup : String) : Except DomError Page :=
  if (p.document.element? node).isNone then .error (.notAnElement node)
  else .ok { p with document := p.document.replaceChildren node markup }

/-- The texts of the scripts of a type. -/
def scriptBlocks (p : Page) (type : String) : List String :=
  ((p.select "script").filter fun id =>
    (p.document.attr? id "type").any fun t => Text.sameFold (Text.trim t) type).map
      p.document.textContent

/-- Adds an element to the head, or to the document if it has none. -/
def appendToHead (p : Page) (name : String) (a : Attributes) : Page :=
  let parent := (p.document.findTag? "head").getD Document.root
  { p with document := (p.document.appendElement parent name a).1 }

instance : Host Page where
  depth p := p.document.size
  select := select
  isMatch := isMatch
  parent? p := p.document.parentElement?
  next? p := p.document.nextElement?
  previous? p := p.document.previousElement?
  isVisible := isVisible
  setVisible p node visible := p.update node (withVisible visible)
  hasClass p node c := (p.document.attributes? node).any (·.hasClass c)
  addClass p node c := p.update node (·.addClass c)
  removeClass p node c := p.update node (·.removeClass c)
  setStyle p node property value := p.update node (·.setStyle property value)
  setInnerHtml := setInnerHtml
  navigate p destination := { p with location := some destination }
  scriptBlocks := scriptBlocks
  fetch p url := (p.loader url, { p with requested := p.requested ++ [url] })
  injectScript p url := p.appendToHead "script" ({ : Attributes }.set "src" url)
  injectStylesheet p url :=
    p.appendToHead "link" (({ : Attributes }.set "rel" "stylesheet").set "href" url)

/-- The page as markup. -/
def toHtml (p : Page) : String := p.document.toHtml

end Page

end PageDirectives
