import PageDirectives.Document.Basic

set_option autoImplicit false

/-! # Questions about a document

Where elements stand in a document, and what text is below them. The neighbours of an element
are elements: texts and comments between them are passed over. A node that is not an element
has no tag and no attributes, but it may have elements below it.
-/

namespace PageDirectives

namespace Cursor

def content (c : Cursor Node) : Content := c.here.label.content

def id (c : Cursor Node) : NodeId := c.here.label.id

def element? (c : Cursor Node) : Option Element := c.content.element?

def isElement (c : Cursor Node) : Bool := c.content.isElement

/-- The element that the node is right below. -/
def parentElement? (c : Cursor Node) : Option (Cursor Node) := c.up?.filter isElement

/-- The nearest element behind. -/
def nextElement? (c : Cursor Node) : Option (Cursor Node) := c.after.find? isElement

/-- The nearest element in front. -/
def previousElement? (c : Cursor Node) : Option (Cursor Node) := c.before.find? isElement

/-- The elements right below. -/
def elementChildren (c : Cursor Node) : List (Cursor Node) := c.down.filter isElement

/-- The texts at and below a node, put together. -/
def text (c : Cursor Node) : String :=
  String.join ((c :: c.below).filterMap (·.content.text?))

end Cursor

namespace Document

/-- The root of the document. -/
def root : NodeId := 0

/-- The cursors of the nodes that are in the document, in document order. -/
def attached (d : Document) : List (Cursor Node) :=
  match d.cursor? root with
  | none => []
  | some c => c :: c.below

def isAttached (d : Document) (id : NodeId) : Bool :=
  (d.cursor? id).any fun c => c.id == root || c.above.any (·.label.has root)

/-- The elements in the document that pass, in document order. -/
def selectBy (d : Document) (p : Cursor Node → Bool) : List NodeId :=
  (d.attached.filter fun c => c.isElement && p c).map Cursor.id

def tag? (d : Document) (id : NodeId) : Option String := (d.element? id).map (·.tag.name)

/-- The value of an attribute. -/
def attr? (d : Document) (id : NodeId) (name : String) : Option String :=
  (d.element? id).bind (·.attr? name)

def attributes? (d : Document) (id : NodeId) : Option Attributes :=
  (d.element? id).map Element.attributes

/-- The first element of a name, in any case of letters. -/
def findTag? (d : Document) (name : String) : Option NodeId :=
  (d.attached.find? fun c => c.element?.any fun e => Text.sameFold e.tag.name name).map Cursor.id

/-- The elements below a node. -/
def descendants (d : Document) (id : NodeId) : List NodeId :=
  ((d.cursor? id).map fun c => (c.below.filter Cursor.isElement).map Cursor.id).getD []

/-- The elements right below a node. -/
def elementChildren (d : Document) (id : NodeId) : List NodeId :=
  ((d.cursor? id).map fun c => c.elementChildren.map Cursor.id).getD []

def parentElement? (d : Document) (id : NodeId) : Option NodeId :=
  ((d.cursor? id).bind Cursor.parentElement?).map Cursor.id

def nextElement? (d : Document) (id : NodeId) : Option NodeId :=
  ((d.cursor? id).bind Cursor.nextElement?).map Cursor.id

def previousElement? (d : Document) (id : NodeId) : Option NodeId :=
  ((d.cursor? id).bind Cursor.previousElement?).map Cursor.id

/-- The texts at and below a node, put together. -/
def textContent (d : Document) (id : NodeId) : String :=
  ((d.cursor? id).map Cursor.text).getD ""

/-- Edits the attributes of an element. -/
def update (d : Document) (id : NodeId) (f : Attributes → Attributes) : Document :=
  d.edit id (Content.onElement fun e => e.withAttributes (f e.attributes))

/-- Makes an empty element under a node, if there is such a node. -/
def appendElement (d : Document) (parent : NodeId) (name : String) (a : Attributes) :
    Document × Option NodeId :=
  if (d.content? parent).isSome then
    let (d, id) := d.createUnder parent
      (.element (Element.withAttributes ⟨{ name }, []⟩ a))
    (d, some id)
  else (d, none)

end Document

end PageDirectives
