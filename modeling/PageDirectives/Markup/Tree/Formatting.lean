import PageDirectives.Markup.Tree.Basic

set_option autoImplicit false

/-! # Formatting elements

A formatting element that is cut off by the end of a paragraph or another block goes on behind
it: it is opened again before the next content. An end tag of a formatting element that has
blocks open inside of it takes the tree apart, so that the blocks stay open and the formatting
ends.
-/

namespace PageDirectives.Markup

namespace Builder

/-! ## The list of formatting elements -/

/-- The formatting elements that count, latest first. -/
def formattingNow (b : Builder) : List Formatting :=
  (b.formatting.takeWhile Option.isSome).filterMap fun entry => entry

def isFormatting (b : Builder) (id : NodeId) : Bool := b.formatting.any (·.any (·.id == id))

def addMarker (b : Builder) : Builder := { b with formatting := none :: b.formatting }

/-- Forgets the formatting elements up to and with the latest marker. -/
def clearToMarker (b : Builder) : Builder :=
  { b with formatting := (b.formatting.dropWhile Option.isSome).drop 1 }

def dropFormatting (b : Builder) (id : NodeId) : Builder :=
  { b with formatting := b.formatting.filter fun entry => !entry.any (·.id == id) }

/-- Puts a formatting element in the place of another one. -/
def replaceFormatting (b : Builder) (id : NodeId) (f : Formatting) : Builder :=
  { b with formatting := b.formatting.map fun entry =>
      if entry.any (·.id == id) then some f else entry }

/-- Whether two tags make the same element, whatever the order of their attributes. -/
def sameTag (s t : StartTag) : Bool :=
  s.name == t.name && s.attrs.length == t.attrs.length && s.attrs.all t.attrs.contains

/-- Opens a formatting element. At most three equal ones are kept in the list: the earliest of
them is forgotten. -/
def openFormatting (b : Builder) (t : StartTag) : Builder :=
  let equal := b.formattingNow.filter fun f => sameTag f.tag t
  let b := match equal.getLast? with
    | some earliest => if 3 ≤ equal.length then b.dropFormatting earliest.id else b
    | none => b
  let (b, o) := b.insertTag t
  { b with formatting := some ⟨o.id, t⟩ :: b.formatting }

/-- Opens formatting elements again, earliest first. -/
def reopen (b : Builder) : List Formatting → Builder
  | [] => b
  | f :: fs =>
    let (b, o) := b.insertTag f.tag
    (b.replaceFormatting f.id ⟨o.id, f.tag⟩).reopen fs

/-- Opens the latest formatting elements again that are not open. -/
def reconstruct (b : Builder) : Builder :=
  b.reopen (b.formattingNow.takeWhile fun f => !b.isOpen f.id).reverse

/-! ## End tags in the body -/

def specialNames : List String := [
  "address", "applet", "area", "article", "aside", "base", "basefont", "bgsound",
  "blockquote", "body", "br", "button", "caption", "center", "col", "colgroup", "dd",
  "details", "dir", "div", "dl", "dt", "embed", "fieldset", "figcaption", "figure", "footer",
  "form", "frame", "frameset", "h1", "h2", "h3", "h4", "h5", "h6", "head", "header", "hgroup",
  "hr", "html", "iframe", "img", "input", "isindex", "li", "link", "listing", "main", "marquee",
  "menu", "meta", "nav", "noembed", "noframes", "noscript", "object", "ol", "p", "param",
  "plaintext", "pre", "script", "section", "select", "source", "style", "summary", "table",
  "tbody", "td", "template", "textarea", "tfoot", "th", "thead", "title", "tr", "track", "ul",
  "wbr", "xmp"]

/-- Elements that an end tag of another name does not close. -/
def isSpecial (o : Open) : Bool := o.isOneOf specialNames

/-- Closes the innermost element of a name, unless a special element is open inside of it. -/
def closeOrdinary (b : Builder) (name : String) : Builder :=
  match b.stack.find? fun o => o.isHtml name || isSpecial o with
  | some o =>
    if o.isHtml name then (b.closeImpliedExcept name).popUntil (·.id == o.id) else b
  | none => b

/-! ## Taking the tree apart -/

/-- The state of the walk from the outermost block inside of a formatting element up to that
element: the chain of nodes made so far has `last` at its top, and the formatting element is
to be entered into the list in front of the entry `bookmark`, if there is one. -/
structure Chain where
  builder : Builder
  last : NodeId
  bookmark : Option NodeId := none

/-- Goes up over one open element. One that is no formatting element any more is closed; one
that is gets a fresh copy, and the chain goes into it. At most three are copied. -/
def Chain.climb (block : NodeId) (c : Chain) (step : Nat) (o : Open) : Chain :=
  let b := c.builder
  match b.formatting.findSome? fun entry => entry.filter (·.id == o.id) with
  | none => { c with builder := b.dropOpen o.id }
  | some f =>
    if 3 < step then { c with builder := (b.dropFormatting o.id).dropOpen o.id }
    else
      let (b, copy) := b.makeElement { name := f.tag.name } (plainAttrs f.tag)
      let b := b.replaceFormatting o.id ⟨copy.id, f.tag⟩
      let b := { b with stack := b.stack.map fun (p : Open) => if p.id == o.id then copy else p }
      { builder := { b with document := b.document.move c.last copy.id }
        last := copy.id
        bookmark := if c.last == block then some copy.id else c.bookmark }

/-- Goes up over open elements, innermost first; `step` counts them. -/
def Chain.climbAll (block : NodeId) (c : Chain) (step : Nat) : List Open → Chain
  | [] => c
  | o :: os => (c.climb block step o).climbAll block (step + 1) os

/-- Enters a formatting element into the list: latest of those up to `bookmark`, or else in the
place of the element it stands for. -/
def enterFormatting (b : Builder) (old : NodeId) (bookmark : Option NodeId) (f : Formatting) :
    Builder :=
  match bookmark with
  | none => b.replaceFormatting old f
  | some mark =>
    let entries := b.formatting.flatMap fun entry =>
      if entry.any (·.id == mark) then [some f, entry] else [entry]
    { b with formatting := entries.filter fun entry => !entry.any (·.id == old) }

/-- Puts an element into the open ones, right inside of another one. -/
def openInside (b : Builder) (outer : NodeId) (o : Open) : Builder :=
  { b with stack := b.stack.flatMap fun (p : Open) => if p.id == outer then [o, p] else [p] }

/-- Moves the blocks inside of a formatting element out of it. `block` is the outermost of
them, `between` are the open elements between the two, innermost first, and `outer` is the
element around the formatting element. -/
def takeApart (b : Builder) (f : Formatting) (block : Open) (between : List Open)
    (outer : Open) : Builder :=
  let c := ({ builder := b, last := block.id : Chain }).climbAll block.id 1 between
  let b := c.builder.put (c.builder.placeIn outer) c.last
  let (b, copy) := b.makeElement { name := f.tag.name } (plainAttrs f.tag)
  let d := b.document
  let d := d.moveAll copy.id ((d.children block.id).map Node.id)
  let b := { b with document := d.move copy.id block.id }
  let b := b.enterFormatting f.id c.bookmark ⟨copy.id, f.tag⟩
  (b.dropOpen f.id).openInside block.id copy

/-- One round of ending a formatting element: whether another round follows. -/
def endFormattingOnce (b : Builder) (name : String) : Builder × Bool :=
  match b.formattingNow.find? (·.tag.name == name) with
  | none => (b.closeOrdinary name, false)
  | some f =>
    if !b.isOpen f.id then (b.dropFormatting f.id, false)
    else if !inScope (isBoundary []) (·.id == f.id) b.stack then (b, false)
    else
      let inside := b.stack.takeWhile (·.id != f.id)
      match inside.reverse.find? isSpecial, b.stack.drop (inside.length + 1) with
      | some block, outer :: _ =>
        (b.takeApart f block ((inside.dropWhile (·.id != block.id)).drop 1) outer, true)
      | _, _ => ((b.popUntil (·.id == f.id)).dropFormatting f.id, false)

/-- At most `n` rounds of ending a formatting element. -/
def endFormattingRounds (b : Builder) (name : String) : Nat → Builder
  | 0 => b
  | n + 1 =>
    match b.endFormattingOnce name with
    | (b, true) => b.endFormattingRounds name n
    | (b, false) => b

/-- Ends the latest formatting element of a name. -/
def endFormatting (b : Builder) (name : String) : Builder :=
  match b.stack with
  | o :: _ =>
    if o.isHtml name && !b.isFormatting o.id then b.pop else b.endFormattingRounds name 8
  | [] => b

/-- Ends a link that is open where another one begins. -/
def endOpenLink (b : Builder) : Builder :=
  match b.formattingNow.find? (·.tag.name == "a") with
  | none => b
  | some f => ((b.endFormatting "a").dropFormatting f.id).dropOpen f.id

end Builder

end PageDirectives.Markup
