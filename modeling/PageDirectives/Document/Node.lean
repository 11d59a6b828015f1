import PageDirectives.Attributes.Basic

set_option autoImplicit false

/-! # Nodes of a document

What a node of a document is: an element with a tag and attributes, a text, a comment, a
document type, or the root of a document or of a fragment. The attributes of an element are
kept sorted by name.
-/

namespace PageDirectives

/-- The vocabulary an element belongs to. -/
inductive Space where
  | html
  | svg
  | mathml
  deriving DecidableEq, Repr

structure Tag where
  space : Space := .html
  name : String
  deriving DecidableEq, Repr

/-- The vocabulary an attribute belongs to. Almost all attributes are plain. -/
inductive AttrSpace where
  | plain
  | xlink
  | xml
  | xmlns
  deriving DecidableEq, Repr

structure AttrName where
  space : AttrSpace := .plain
  name : String
  deriving DecidableEq, Repr

namespace AttrName

/-- The place of a vocabulary in the order of names. The one attribute that declares a
vocabulary without a prefix stands right behind the plain ones. -/
def rank (n : AttrName) : Nat :=
  match n.space with
  | .plain => 0
  | .xlink => 2
  | .xml => 3
  | .xmlns => if n.name = "xmlns" then 1 else 4

/-- The order of names: by rank, and within one rank by code point. -/
def le (m n : AttrName) : Bool :=
  m.rank < n.rank || (m.rank == n.rank && !decide (n.name < m.name))

/-- The name as it is written in markup. -/
def written (n : AttrName) : String :=
  match n.space with
  | .plain => n.name
  | .xlink => "xlink:" ++ n.name
  | .xml => "xml:" ++ n.name
  | .xmlns => if n.name = "xmlns" then n.name else "xmlns:" ++ n.name

end AttrName

structure Attr where
  name : AttrName
  value : String
  deriving DecidableEq, Repr

structure Element where
  tag : Tag
  attrs : List Attr
  deriving DecidableEq, Repr

namespace Element

/-- An element with its attributes put in order. -/
def ofAttrs (tag : Tag) (attrs : List Attr) : Element :=
  ⟨tag, attrs.mergeSort fun a b => a.name.le b.name⟩

/-- Whether it is the element of a name in the vocabulary of pages. -/
def isHtml (e : Element) (name : String) : Bool := e.tag == ⟨.html, name⟩

/-- The value of a plain attribute. Of several of one name the last one is meant. -/
def attr? (e : Element) (name : String) : Option String :=
  ((e.attrs.filter (·.name == { name := Text.lower name })).getLast?).map Attr.value

/-- The attributes by name, without their vocabularies. -/
def attributes (e : Element) : Attributes := ⟨e.attrs.map fun a => (a.name.name, a.value)⟩

/-- The element with new attributes, all of them plain. -/
def withAttributes (e : Element) (a : Attributes) : Element :=
  .ofAttrs e.tag (a.entries.map fun (name, value) => ⟨{ name }, value⟩)

/-- Adds the attributes whose names the element does not have yet. -/
def addMissing (e : Element) (attrs : List Attr) : Element :=
  .ofAttrs e.tag
    (attrs.foldl (fun known a => if known.any (·.name == a.name) then known else known ++ [a])
      e.attrs)

end Element

inductive Content where
  | document
  | fragment
  | doctype (name : String)
  | text (s : String)
  | comment (s : String)
  | element (e : Element)
  deriving DecidableEq, Repr

namespace Content

def element? : Content → Option Element
  | element e => some e
  | _ => none

def text? : Content → Option String
  | text s => some s
  | _ => none

def isElement (c : Content) : Bool := c.element?.isSome

/-- Adds to the end of a text. -/
def addText (more : String) : Content → Content
  | text s => text (s ++ more)
  | c => c

/-- Changes the element, if it is one. -/
def onElement (f : Element → Element) : Content → Content
  | element e => element (f e)
  | c => c

end Content

end PageDirectives
