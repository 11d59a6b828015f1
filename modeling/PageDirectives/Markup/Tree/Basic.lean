import PageDirectives.Document.Basic
import PageDirectives.Markup.Token.Basic

set_option autoImplicit false

/-! # Building a tree

A tree is built from tokens. The builder keeps the document so far, the elements that are still
open, the formatting elements that are to be opened again where they were cut off, and the mode
that decides what the next token does. A rule may put off a token: it changes the mode and
sets `again`, and the token is then handled in the new mode.
-/

namespace PageDirectives.Markup

inductive Mode where
  | initial
  | beforeHtml
  | beforeHead
  | inHead
  | afterHead
  | inBody
  | text
  | inTable
  | inTableText
  | inCaption
  | inColumnGroup
  | inTableBody
  | inRow
  | inCell
  | inTemplate
  | afterBody
  | inFrameset
  | afterFrameset
  | afterAfterBody
  | afterAfterFrameset
  deriving DecidableEq, Repr

/-- An element that is open. What is put into it goes under `holder`, which is the element
itself, or the node that holds the content of a template. -/
structure Open where
  id : NodeId
  tag : Tag
  holder : NodeId
  deriving DecidableEq, Repr

namespace Open

def isHtml (o : Open) (name : String) : Bool := o.tag == { name }

/-- Whether it is an element of the page vocabulary with one of the names. -/
def isOneOf (o : Open) (names : List String) : Bool :=
  o.tag.space == .html && names.contains o.tag.name

end Open

/-- A formatting element and the tag that made it. -/
structure Formatting where
  id : NodeId
  tag : StartTag
  deriving DecidableEq, Repr

structure Builder where
  document : Document
  mode : Mode
  /-- Whether the token is to be handled once more. -/
  again : Bool := false
  /-- The mode to go back to after a text. -/
  returnMode : Mode := .inBody
  lexing : Lexing := .markup
  /-- The open elements, innermost first. -/
  stack : List Open := []
  /-- The formatting elements, latest first; `none` is a marker behind which they count no
  longer. -/
  formatting : List (Option Formatting) := []
  templateModes : List Mode := []
  /-- Text in a table, until it is known whether it may stay there. -/
  tableText : List (List Char) := []
  head : Option Open := none
  form : Option NodeId := none
  framesetOk : Bool := true
  /-- Whether a line feed in front of the next token is dropped. -/
  skipLineFeed : Bool := false
  /-- Whether what is put into a table goes in front of it. -/
  fostering : Bool := false
  oldRules : Bool := false
  isFragment : Bool := false

namespace Builder

def setMode (b : Builder) (mode : Mode) : Builder := { b with mode }

/-- Handles the token once more, in another mode. -/
def retry (b : Builder) (mode : Mode) : Builder := { b with mode, again := true }

/-- No frames can replace the body any more. -/
def noFrameset (b : Builder) : Builder := { b with framesetOk := false }

/-! ## Open elements -/

def currentIs (b : Builder) (names : List String) : Bool := b.stack.head?.any (·.isOneOf names)

/-- The outermost open element. -/
def root? (b : Builder) : Option Open := b.stack.getLast?

/-- The body, if it is open. -/
def body? (b : Builder) : Option Open := b.stack.reverse[1]?.filter (·.isHtml "body")

def isOpen (b : Builder) (id : NodeId) : Bool := b.stack.any (·.id == id)

/-- Whether an element of a name is open. -/
def hasOpen (b : Builder) (name : String) : Bool := b.stack.any (·.isHtml name)

def pop (b : Builder) : Builder := { b with stack := b.stack.drop 1 }

/-- Closes elements up to and with the innermost one that passes. -/
def popUntil (b : Builder) (p : Open → Bool) : Builder :=
  { b with stack := (b.stack.dropWhile fun o => !p o).drop 1 }

def popUntilNamed (b : Builder) (name : String) : Builder := b.popUntil (·.isHtml name)

/-- Closes elements until the innermost one has one of the names. -/
def popDownTo (b : Builder) (names : List String) : Builder :=
  { b with stack := b.stack.dropWhile fun o => !o.isOneOf names }

/-- Takes an element out of the open ones, wherever it is. -/
def dropOpen (b : Builder) (id : NodeId) : Builder :=
  { b with stack := b.stack.filter (·.id != id) }

/-! ## Scopes -/

/-- Walks over the open elements, innermost first, up to a boundary, and looks for one that
passes. -/
def inScope (boundary target : Open → Bool) : List Open → Bool
  | [] => false
  | o :: os => target o || (!boundary o && inScope boundary target os)

/-- Elements of the mathematical vocabulary that hold text of the page. -/
def isMathText (t : Tag) : Bool :=
  t.space == .mathml && ["mi", "mo", "mn", "ms", "mtext"].contains t.name

/-- Elements of the drawing vocabulary that hold elements of the page. -/
def isDrawnHtml (t : Tag) : Bool :=
  t.space == .svg && ["foreignObject", "desc", "title"].contains t.name

def isBoundary (more : List String) (o : Open) : Bool :=
  o.isOneOf (["applet", "caption", "html", "table", "td", "th", "marquee", "object", "select",
    "template"] ++ more) || isMathText o.tag || isDrawnHtml o.tag

/-- Whether an element of a name is open within the innermost boundary. -/
def hasInScope (b : Builder) (name : String) : Bool :=
  inScope (isBoundary []) (·.isHtml name) b.stack

def hasInListScope (b : Builder) (name : String) : Bool :=
  inScope (isBoundary ["ol", "ul"]) (·.isHtml name) b.stack

def hasInButtonScope (b : Builder) (name : String) : Bool :=
  inScope (isBoundary ["button"]) (·.isHtml name) b.stack

/-- Whether one of the elements is open within the innermost table. -/
def hasInTableScope (b : Builder) (names : List String) : Bool :=
  inScope (·.isOneOf ["html", "table", "template"]) (·.isOneOf names) b.stack

/-! ## Implied end tags -/

def impliedEnds : List String :=
  ["dd", "dt", "li", "option", "optgroup", "p", "rb", "rp", "rt", "rtc"]

/-- The elements that the end of a template closes without further notice. -/
def impliedEndsOfTemplate : List String :=
  impliedEnds ++ ["caption", "colgroup", "tbody", "td", "tfoot", "th", "thead", "tr"]

/-- Closes the elements whose end tags may be left out. -/
def closeImplied (b : Builder) (names : List String) : Builder :=
  { b with stack := b.stack.dropWhile (·.isOneOf names) }

/-- Closes the elements whose end tags may be left out, except those of one name. -/
def closeImpliedExcept (b : Builder) (name : String) : Builder :=
  b.closeImplied (impliedEnds.filter (· != name))

/-- Closes an element of a name, with what is open inside of it. -/
def close (b : Builder) (name : String) : Builder :=
  (b.closeImpliedExcept name).popUntilNamed name

/-- Closes a paragraph, if one is open. -/
def closeParagraph (b : Builder) : Builder :=
  if b.hasInButtonScope "p" then b.close "p" else b

/-! ## Putting nodes into the document -/

/-- Where a node is put: under a node, or in front of a table, or under the second node if the
table stands nowhere. -/
inductive Place where
  | under (id : NodeId)
  | before (table fallback : NodeId)
  deriving DecidableEq, Repr

/-- The place for a node that may not stand in a table. -/
def fosterPlace : List Open → Place
  | [] => .under 0
  | [o] => .under o.holder
  | o :: above :: os =>
    if o.isHtml "template" then .under o.holder
    else if o.isHtml "table" then .before o.id above.holder
    else fosterPlace (above :: os)

/-- The place for the next node, if it is meant to go into an element. -/
def placeIn (b : Builder) (o : Open) : Place :=
  if b.fostering && o.isOneOf ["table", "tbody", "tfoot", "thead", "tr"] then fosterPlace b.stack
  else .under o.holder

/-- The place for the next node. -/
def place (b : Builder) : Place :=
  match b.stack with
  | [] => .under 0
  | o :: _ => b.placeIn o

def put (b : Builder) (p : Place) (id : NodeId) : Builder :=
  let d := b.document
  { b with
    document := match p with
      | .under target => d.move id target
      | .before table fallback =>
        if (d.parent? table).isSome then d.moveBefore id table else d.move id fallback }

/-- Adds text at a place. -/
def putText (b : Builder) (p : Place) (s : String) : Builder :=
  let d := b.document
  { b with
    document := match p with
      | .under target => d.appendText target s
      | .before table fallback =>
        if (d.parent? table).isSome then d.insertText table s else d.appendText fallback s }

def insertText (b : Builder) (s : List Char) : Builder := b.putText b.place (.ofList s)

def create (b : Builder) (c : Content) : Builder × NodeId :=
  let (document, id) := b.document.create c
  ({ b with document }, id)

def insertComment (b : Builder) (s : String) : Builder :=
  let place := b.place
  let (b, id) := b.create (.comment s)
  b.put place id

/-- Adds a comment under a node. -/
def commentUnder (b : Builder) (target : NodeId) (s : String) : Builder :=
  { b with document := (b.document.createUnder target (.comment s)).1 }

/-- Makes an element. A template gets a node that holds its content. -/
def makeElement (b : Builder) (tag : Tag) (attrs : List Attr) : Builder × Open :=
  let (b, id) := b.create (.element (.ofAttrs tag attrs))
  if tag = { name := "template" } then
    let (document, holder) := b.document.createUnder id .fragment
    ({ b with document }, ⟨id, tag, holder⟩)
  else (b, ⟨id, tag, id⟩)

/-- Puts a new element into the document and opens it. -/
def insertElement (b : Builder) (tag : Tag) (attrs : List Attr) : Builder × Open :=
  let place := b.place
  let (b, o) := b.makeElement tag attrs
  let b := b.put place o.id
  ({ b with stack := o :: b.stack }, o)

def plainAttrs (t : StartTag) : List Attr := t.attrs.map fun (name, value) => ⟨{ name }, value⟩

/-- Puts the element of a tag into the document and opens it. -/
def insertTag (b : Builder) (t : StartTag) : Builder × Open :=
  b.insertElement { name := t.name } (plainAttrs t)

/-- Opens the element of a tag. -/
def openTag (b : Builder) (t : StartTag) : Builder := (b.insertTag t).1

/-- Opens an element that was not written. -/
def openNamed (b : Builder) (name : String) : Builder := b.openTag { name }

/-- Puts an element without content into the document. -/
def insertVoid (b : Builder) (t : StartTag) : Builder := (b.openTag t).pop

/-- Opens an element whose content is text. -/
def openText (b : Builder) (t : StartTag) (lexing : Lexing) : Builder :=
  { b.openTag t with lexing, returnMode := b.mode, mode := .text }

/-- Adds the attributes that an element does not have yet. -/
def addMissing (b : Builder) (id : NodeId) (t : StartTag) : Builder :=
  { b with
    document := b.document.edit id (Content.onElement (·.addMissing (plainAttrs t))) }

/-! ## The mode of the open elements -/

/-- The mode in which the content of the innermost element goes on. -/
def modeOf (b : Builder) : List Open → Mode
  | [] => .inBody
  | o :: os =>
    let outermost := os.isEmpty
    let name := if outermost && b.isFragment then "body" else o.tag.name
    if o.tag.space != .html then modeOf b os
    else if name == "td" || name == "th" then if outermost then .inBody else .inCell
    else if name == "tr" then .inRow
    else if ["tbody", "thead", "tfoot"].contains name then .inTableBody
    else if name == "caption" then .inCaption
    else if name == "colgroup" then .inColumnGroup
    else if name == "table" then .inTable
    else if name == "template" then b.templateModes.head?.getD .inTemplate
    else if name == "head" then if outermost then .inBody else .inHead
    else if name == "body" then .inBody
    else if name == "frameset" then .inFrameset
    else if name == "html" then if b.head.isNone then .beforeHead else .afterHead
    else modeOf b os

/-- The mode in which the builder goes on after elements have been closed. -/
def naturalMode (b : Builder) : Mode := b.modeOf b.stack

end Builder

end PageDirectives.Markup
