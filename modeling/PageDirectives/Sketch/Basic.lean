import PageDirectives.Host
import PageDirectives.Sketch.Compound

set_option autoImplicit false

/-! # Sketches

A sketch is the simplest page: a list of elements described by compounds, each with at most
one parent, which stands before it in the list. Its selectors are lists of compounds. It keeps
a record of what is done to it.

Elements are numbered by their places in the list. A number with no element behind it is a mistake
of whoever asks, upon which a lookup by place may well stop. Here every question has an answer: that
there is nothing; and a change of such an element changes nothing. What is said of sketches is meant
for the numbers of elements.
-/

namespace PageDirectives

structure SketchElement where
  tag : String
  id : Option String := none
  classes : List String := []
  visible : Bool := true
  styles : List (String × String) := []
  html : String := ""
  parent : Option NodeId := none
  deriving DecidableEq, Repr

/-- The element a compound describes. -/
def Compound.element (c : Compound) (parent : Option NodeId) : SketchElement :=
  { tag := c.tag.getD "div", id := c.id, classes := c.classes, parent }

/-- Whether an element has the tag, the id and all the classes. -/
def Compound.accepts (c : Compound) (e : SketchElement) : Bool :=
  c.tag.all (e.tag == ·) && c.id.all (e.id == some ·) && c.classes.all (e.classes.contains ·)

/-- The value of an inline style property. -/
def SketchElement.style? (e : SketchElement) (property : String) : Option String :=
  (e.styles.find? (·.1 == property)).map Prod.snd

/-- Every parent stands before its children. -/
def SketchElement.Ordered (elements : List SketchElement) : Prop :=
  ∀ (n : NodeId) (e : SketchElement), elements[n]? = some e → ∀ p ∈ e.parent, p < n

structure Sketch where
  elements : List SketchElement := []
  ordered : SketchElement.Ordered elements := by simp [SketchElement.Ordered]
  resources : List (String × String) := []
  scripts : List (String × String) := []
  /-- Where the page was last sent. -/
  location : Option String := none
  /-- The addresses asked for, in order. -/
  fetched : List String := []
  injectedScripts : List String := []
  injectedStylesheets : List String := []
  deriving DecidableEq, Repr

namespace Sketch

/-! ## Making a sketch -/

/-- The sketch of a page without elements. -/
def empty : Sketch := {}

/-- Adds an element at the end; its parent, if it has one, is there already. -/
def push (s : Sketch) (e : SketchElement) (h : ∀ p ∈ e.parent, p < s.elements.length) :
    Sketch :=
  { s with
    elements := s.elements ++ [e]
    ordered := by
      intro n e' he p hp
      rw [List.getElem?_append] at he
      split at he
      · exact s.ordered n e' he p hp
      · next hn =>
        obtain rfl : e' = e := by simpa using (List.mem_of_getElem? he)
        exact Nat.lt_of_lt_of_le (h p hp) (Nat.le_of_not_lt hn) }

/-- Adds a top-level element. -/
def add (s : Sketch) (spec : String) : Sketch :=
  s.push ((Compound.ofText spec).element none) (by simp [Compound.element])

/-- The first element with an id. -/
def findId? (s : Sketch) (id : String) : Option NodeId :=
  s.elements.findIdx? fun e => e.id == some id

/-- Adds an element under the first one with the given id. -/
def addChild? (s : Sketch) (parentId spec : String) : Option Sketch :=
  match h : s.findId? parentId with
  | none => none
  | some parent =>
    some (s.push ((Compound.ofText spec).element (some parent)) (by
      simpa [Compound.element] using (List.findIdx?_eq_some_iff_findIdx_eq.1 h).1))

/-- Adds a resource, in place of an earlier one at the same address. -/
def addResource (s : Sketch) (url content : String) : Sketch :=
  { s with resources := (url, content) :: s.resources }

def addScript (s : Sketch) (type text : String) : Sketch :=
  { s with scripts := s.scripts ++ [(type, text)] }

/-! ## Selecting -/

/-- The compounds of a selector. A part that is blank or holds white space is none. -/
def compounds (selector : String) : List Compound :=
  (((Text.split "," selector).map Text.trim).filter fun part =>
    part != "" && !part.toList.any isBlank).map Compound.ofText

def accepts (selector : String) (e : SketchElement) : Bool :=
  (compounds selector).any (·.accepts e)

/-- The numbers of the elements with a property, in increasing order. -/
def numbers (s : Sketch) (p : SketchElement → Bool) : List NodeId :=
  (List.range s.elements.length).filter fun n => s.elements[n]?.any p

def select (s : Sketch) (selector : String) : List NodeId := s.numbers (accepts selector)

def isMatch (s : Sketch) (node : NodeId) (selector : String) : Bool :=
  s.elements[node]?.any (accepts selector)

/-- The parent of an element; none if there is no such element. -/
def parent? (s : Sketch) (node : NodeId) : Option NodeId := s.elements[node]?.bind (·.parent)

/-- The element itself and the others under the same parent; none if there is no such element. -/
def siblings (s : Sketch) (node : NodeId) : List NodeId :=
  match s.elements[node]? with
  | none => []
  | some e => s.numbers (·.parent == e.parent)

def next? (s : Sketch) (node : NodeId) : Option NodeId := (s.siblings node).find? (node < ·)

def previous? (s : Sketch) (node : NodeId) : Option NodeId :=
  ((s.siblings node).filter (· < node)).getLast?

/-! ## Changing -/

/-- Changes an element, but not its parent; nothing if there is no such element. -/
def modify (s : Sketch) (node : NodeId) (f : SketchElement → SketchElement)
    (h : ∀ e, (f e).parent = e.parent := by simp) : Sketch :=
  { s with
    elements := s.elements.modify node f
    ordered := by
      intro n e he p hp
      obtain ⟨e', he', rfl⟩ := Option.map_eq_some_iff.1 (List.getElem?_modify .. ▸ he)
      exact s.ordered n e' he' p (by split at hp <;> simpa [h] using hp) }

/-- Whether an element has a class; not so if there is no such element. -/
def hasClass (s : Sketch) (node : NodeId) (c : String) : Bool :=
  s.elements[node]?.any (·.classes.contains c)

/-- A sketch as a page. For a number with no element behind it, which an implementation may refuse,
there is no parent, no sibling and no class, the element is not visible, and changes do nothing. -/
instance : Host Sketch where
  depth s := s.elements.length
  select := select
  isMatch := isMatch
  parent? := parent?
  next? := next?
  previous? := previous?
  isVisible s node := s.elements[node]?.any (·.visible)
  setVisible s node visible := s.modify node fun e => { e with visible }
  hasClass := hasClass
  addClass s node c :=
    if s.hasClass node c then s
    else s.modify node fun e => { e with classes := e.classes ++ [c] }
  removeClass s node c := s.modify node fun e => { e with classes := e.classes.filter (· != c) }
  setStyle s node property value :=
    s.modify node fun e =>
      { e with styles := e.styles.filter (·.1 != property) ++ [(property, value)] }
  setInnerHtml s node html := .ok (s.modify node fun e => { e with html })
  navigate s destination := { s with location := some destination }
  scriptBlocks s type := (s.scripts.filter (·.1 == type)).map Prod.snd
  fetch s url :=
    ((s.resources.lookup url).elim (.error (.notFound url)) .ok,
      { s with fetched := s.fetched ++ [url] })
  injectScript s url := { s with injectedScripts := s.injectedScripts ++ [url] }
  injectStylesheet s url := { s with injectedStylesheets := s.injectedStylesheets ++ [url] }

end Sketch

end PageDirectives
